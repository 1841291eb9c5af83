import TagSearch.Compiler.Change
import TagSearch.Proofs.Placeholder
import TagSearch.Proofs.Outline
import TagSearch.Proofs.Provenance

/-!
# Placeholders number the parameters

Parameters are numbered as a frame binds them, and their placeholders are put into the text of a
statement afterwards, in other places and in another order of steps.  The statement is that of its
plan nevertheless, whose parameters stand where they are numbered.  Where no name of a schema holds
a dollar sign, the pieces of every plan are legible, so that the placeholders are one for each
parameter, in the order of the parameters.

Main results:

- Theorem `Formula.legible_pieces`: conditions are legible in every formula.
- Theorems `Select.legible_pieces`, `Mutation.legible_pieces` and `Delete.legible_pieces`: so
  are whole plans.
- Theorem `Compiler.placeholders_numbered`: the placeholders of every statement number its
  parameters.
-/

namespace TagSearch

/-! ## Schemas -/

/-- No name of a field, of its relation or of its columns holds a dollar sign. -/
structure Field.HasPlainNames (f : Field) : Prop where
  name : IsPlain f.name
  table : ∀ t ∈ f.table, IsPlain t
  column : ∀ c ∈ f.column, IsPlain c
  key : ∀ k ∈ f.key, IsPlain k

/-- No name and no condition that a schema puts into statements holds a dollar sign. -/
structure Schema.HasPlainNames (s : Schema) : Prop where
  table : IsPlain s.table
  fields : ∀ f ∈ s.fields, f.HasPlainNames
  joins : ∀ j ∈ s.joins, IsPlain j.table ∧ IsPlain j.condition

instance (f : Field) : Decidable f.HasPlainNames :=
  decidable_of_iff
    (IsPlain f.name ∧ (∀ t ∈ f.table, IsPlain t) ∧ (∀ c ∈ f.column, IsPlain c) ∧
      ∀ k ∈ f.key, IsPlain k)
    ⟨fun ⟨name, table, column, key⟩ => ⟨name, table, column, key⟩,
      fun h => ⟨h.name, h.table, h.column, h.key⟩⟩

instance (s : Schema) : Decidable s.HasPlainNames :=
  decidable_of_iff
    (IsPlain s.table ∧ (∀ f ∈ s.fields, f.HasPlainNames) ∧
      ∀ j ∈ s.joins, IsPlain j.table ∧ IsPlain j.condition)
    ⟨fun ⟨table, fields, joins⟩ => ⟨table, fields, joins⟩,
      fun h => ⟨h.table, h.fields, h.joins⟩⟩

theorem Field.HasPlainNames.columnName {f : Field} (h : f.HasPlainNames) :
    IsPlain f.columnName := by
  rw [Field.columnName]
  cases hcolumn : f.column with
  | none => exact h.name
  | some c => exact h.column c hcolumn

namespace Schema.HasPlainNames

variable {s : Schema} {o : Output}

theorem own (h : s.HasPlainNames) {column : String} (hcolumn : IsPlain column) :
    IsPlain (Source.own s.qualifier column).text := by
  rw [qualifier]
  split
  · exact hcolumn
  · rw [Source.text_own]
    exact (h.table.append (by decide)).append hcolumn

/-- What reads a field is plain text. -/
theorem source (h : s.HasPlainNames) {src : Source} (hread : s.Reads src) :
    IsPlain src.text := by
  obtain ⟨f, hf, hsource⟩ := hread
  have hfield := h.fields f hf
  have hcolumn := hfield.columnName
  unfold Schema.source at hsource
  split at hsource
  · next table key htable hkey =>
    cases hsource
    have ht := hfield.table table htable
    have hk := hfield.key key hkey
    rw [Source.text_reference]
    simp only [IsPlain.append_iff, ht, hk, hcolumn, h.table, and_true]
    decide
  · next table htable hkey =>
    have ht := hfield.table table htable
    split at hsource
    · cases hsource
      exact h.own hcolumn
    · split at hsource
      · cases hsource
        rw [Source.text_joined]
        exact (ht.append (by decide)).append hcolumn
      · cases hsource
  · cases hsource
    exact h.own hcolumn

theorem output (h : s.HasPlainNames) (hreturn : s.Returns o) : IsPlain o.text := by
  obtain ⟨f, hf, hsource, halias⟩ := hreturn
  have hsource := h.source ⟨f, hf, hsource⟩
  rw [Output.text]
  split
  · exact hsource
  · next name hname =>
    have hname : IsPlain name := by
      rw [halias name hname]
      exact (h.fields f hf).name
    exact (hsource.append (by decide)).append hname

theorem outputs (h : s.HasPlainNames) {items : List Output} (hreturn : ∀ o ∈ items, s.Returns o) :
    IsPlain (Output.listText items) := by
  refine IsPlain.intercalate (by decide) ?_
  intro text htext
  obtain ⟨o, ho, heq⟩ := List.mem_map.mp htext
  rw [← heq]
  exact h.output (hreturn o ho)

/-- The joins of a statement are plain text. -/
theorem joinList (h : s.HasPlainNames) {joins : List Join} (hjoins : joins ⊆ s.joins) :
    IsPlain (Join.listText joins) := by
  refine IsPlain.join ?_
  intro text htext
  obtain ⟨j, hj, heq⟩ := List.mem_map.mp htext
  obtain ⟨htable, hcondition⟩ := h.joins j (hjoins hj)
  rw [← heq]
  change IsPlain (" LEFT JOIN " ++ j.table ++ " ON " ++ j.condition)
  simp only [IsPlain.append_iff, htable, hcondition, and_true]
  decide

end Schema.HasPlainNames

/-! ## Conditions -/

theorem Comparison.isPlain_sign (c : Comparison) : IsPlain c.sign := by
  cases c <;> decide

namespace Operand

theorem isStop_stepPieces (steps : List Segment) :
    ∀ q ∈ (stepPieces steps).head?, q.isStop = true := by
  intro q hq
  cases steps with
  | nil => cases hq
  | cons s rest =>
    cases rest with
    | nil =>
      cases hq
      decide
    | cons t ts =>
      cases hq
      decide

theorem legible_segment (s : Segment) : Piece.Legible s.pieces := by
  cases s with
  | field name =>
    refine ⟨?_, by decide, trivial⟩
    intro q hq
    cases hq
    decide
  | index i =>
    refine Piece.Legible.text ?_
    have hi := IsPlain.toString_int i
    split
    · exact (IsPlain.append (by decide) hi).append (by decide)
    · exact hi

/-- The names in a path are bound, one placeholder each. -/
theorem legible_stepPieces (steps : List Segment) : Piece.Legible (stepPieces steps) := by
  induction steps with
  | nil => trivial
  | cons s rest ih =>
    cases rest with
    | nil => exact ⟨by decide, legible_segment s⟩
    | cons t ts =>
      exact ⟨by decide, (legible_segment s).append ih (isStop_stepPieces (t :: ts))⟩

theorem legible_pieces {o : Operand} (h : IsPlain o.source.text) : Piece.Legible o.pieces := by
  cases o with
  | plain s => exact .text h
  | textOf s => exact .text (h.append (by decide))
  | below s steps => exact ⟨h, legible_stepPieces steps⟩

end Operand

theorem PatternTest.legible_pieces (test : PatternTest) : Piece.Legible test.pieces := by
  cases test with
  | like p => exact ⟨by decide, .param _⟩
  | expression p => exact ⟨by decide, .param _⟩

theorem PatternTest.isStop_pieces (test : PatternTest) :
    ∀ q ∈ test.pieces.head?, q.isStop = true := by
  intro q hq
  cases test with
  | like p =>
    cases hq
    decide
  | expression p =>
    cases hq
    decide

/-- A condition is legible if its source is plain text. -/
theorem Condition.legible_pieces {c : Condition} (h : IsPlain c.source.text) :
    Piece.Legible c.pieces := by
  cases c with
  | present o => exact (Operand.legible_pieces h).append_text (by decide) (by decide) trivial
  | absent o => exact (Operand.legible_pieces h).append_text (by decide) (by decide) trivial
  | compare o comparison p =>
    refine (Operand.legible_pieces h).append_text ?_ ?_ (.param p)
    · exact .append (.append (by decide) comparison.isPlain_sign) (by decide)
    · cases comparison <;> decide
  | compareNumber o comparison d =>
    refine ⟨by decide, (Operand.legible_pieces h).append_text ?_ ?_ (.param _)⟩
    · exact .append (.append (by decide) comparison.isPlain_sign) (by decide)
    · cases comparison <;> decide
  | fits o test => exact (Operand.legible_pieces h).append test.legible_pieces test.isStop_pieces
  | hasItem s item =>
    have htext : IsPlain (" = ANY(" ++ s.text ++ ")") :=
      .append (.append (by decide) h) (by decide)
    exact (Piece.Legible.param (.text item)).append_text htext
      (Piece.isStop_append (Piece.isStop_append (by decide))) trivial
  | someItem s test =>
    have htext : IsPlain ("EXISTS (SELECT 1 FROM unnest(" ++ s.text ++ ") AS elem WHERE elem") :=
      .append (.append (by decide) h) (by decide)
    exact ⟨htext, test.legible_pieces.append_text (by decide) (by decide) trivial⟩

namespace Formula

/-- Legible parts are legible in parentheses. -/
theorem legible_enclosed {parts : List (List Piece)} {sign : String} (hsign : IsPlain sign)
    (hstop : (Piece.text sign).isStop = true) (h : ∀ part ∈ parts, Piece.Legible part) :
    Piece.Legible (.text "(" :: (Piece.separated sign parts ++ [.text ")"])) :=
  ⟨by decide, (Piece.Legible.separated hsign hstop h).append_text (by decide) (by decide) trivial⟩

mutual

/-- Legible conditions make a legible formula. -/
theorem legible_pieces :
    (f : Formula Condition) → (∀ c ∈ f.atoms, IsPlain c.source.text) → Piece.Legible f.pieces
  | atom c, h => by
    rw [pieces_atom]
    exact Condition.legible_pieces (h c List.mem_cons_self)
  | conj parts, h => by
    rw [pieces_conj]
    exact legible_enclosed (by decide) (by decide) (legible_parts parts h)
  | disj parts, h => by
    rw [pieces_disj]
    exact legible_enclosed (by decide) (by decide) (legible_parts parts h)
  | neg part, h => by
    rw [pieces_neg]
    exact ⟨by decide, by decide,
      (legible_pieces part h).append_text (by decide) (by decide) trivial⟩

theorem legible_parts :
    (parts : List (Formula Condition)) → (∀ c ∈ atomsOfAll parts, IsPlain c.source.text) →
      ∀ part ∈ parts.map pieces, Piece.Legible part
  | [], _, _, hpart => by cases hpart
  | part :: rest, h, other, hother => by
    rw [atomsOfAll] at h
    rcases List.mem_cons.mp hother with rfl | hrest
    · exact legible_pieces part fun c hc => h c (List.mem_append_left _ hc)
    · exact legible_parts rest (fun c hc => h c (List.mem_append_right _ hc)) other hrest

end

end Formula

/-! ## Selections -/

namespace Extent

theorem isPlain_outputText (e : Extent) : IsPlain e.outputText := by
  cases e with
  | page order limit offset => exact (by decide : IsPlain "")
  | groups keys => exact (by decide : IsPlain ", count(*) AS count")

/-- The end of a selection is plain text if what it orders or groups by is. -/
theorem isPlain_text {e : Extent} (h : ∀ s ∈ e.sources, IsPlain s.text) : IsPlain e.text := by
  cases e with
  | page order limit offset =>
    have hkeys : ∀ text ∈ order.map OrderKey.text, IsPlain text := by
      intro text htext
      obtain ⟨k, hk, heq⟩ := List.mem_map.mp htext
      have hsource := h k.source (List.mem_map_of_mem hk)
      rw [← heq, OrderKey.text]
      split
      · exact hsource.append (by decide)
      · exact hsource
    have horder : IsPlain (", ".intercalate (order.map OrderKey.text)) :=
      .intercalate (by decide) hkeys
    have hlimit := IsPlain.toString_nat limit
    have hoffset := IsPlain.toString_nat offset
    rw [text_page]
    split
    · simp only [IsPlain.append_iff, hlimit, hoffset, and_true]
      decide
    · simp only [IsPlain.append_iff, horder, hlimit, hoffset, and_true]
      decide
  | groups keys =>
    refine IsPlain.append (by decide) (IsPlain.intercalate (by decide) ?_)
    intro text htext
    obtain ⟨s, hs, heq⟩ := List.mem_map.mp htext
    rw [← heq]
    exact h s hs

/-- The end of a selection does not lengthen the last placeholder. -/
theorem isStop_text (e : Extent) : (Piece.text e.text).isStop = true := by
  cases e with
  | page order limit offset =>
    rw [text_page]
    split
    · rw [String.empty_append]
      exact Piece.isStop_append (Piece.isStop_append (Piece.isStop_append (by decide)))
    · exact Piece.isStop_append (Piece.isStop_append (Piece.isStop_append
        (Piece.isStop_append (Piece.isStop_append (by decide)))))
  | groups keys => exact Piece.isStop_append (by decide)

end Extent

/-- A selection of plain texts is legible. -/
theorem Select.legible_pieces {s : Select} (htable : IsPlain s.table)
    (houtputs : IsPlain (Output.listText s.outputs)) (hjoins : IsPlain (Join.listText s.joins))
    (hcondition : ∀ f ∈ s.condition, ∀ c ∈ f.atoms, IsPlain c.source.text)
    (hextent : ∀ src ∈ s.extent.sources, IsPlain src.text) : Piece.Legible s.pieces := by
  have hfront : IsPlain ("SELECT " ++ Output.listText s.outputs ++ s.extent.outputText ++
      " FROM " ++ s.table ++ Join.listText s.joins) := by
    simp only [IsPlain.append_iff, houtputs, s.extent.isPlain_outputText, htable, hjoins, and_true]
    decide
  have hconditions : Piece.Legible s.conditionPieces := by
    rw [conditionPieces]
    cases hf : s.condition with
    | none => trivial
    | some f => exact ⟨by decide, f.legible_pieces (hcondition f hf)⟩
  exact ⟨hfront, hconditions.append_text (Extent.isPlain_text hextent) s.extent.isStop_text
    trivial⟩

/-! ## Changes -/

/-- An equation whose column and value are plain text. -/
structure Equation.IsLegible (e : Equation) : Prop where
  column : IsPlain e.column
  value : Piece.Legible e.value.pieces

namespace Equation

variable {equations : List Equation}

theorem IsLegible.pieces {e : Equation} (h : e.IsLegible) : Piece.Legible e.pieces :=
  ⟨h.column.append (by decide), h.value⟩

theorem legible_list {separator : String} (hseparator : IsPlain separator)
    (hstop : (Piece.text separator).isStop = true) (h : ∀ e ∈ equations, e.IsLegible) :
    Piece.Legible (Piece.separated separator (equations.map Equation.pieces)) := by
  refine Piece.Legible.separated hseparator hstop ?_
  intro part hpart
  obtain ⟨e, he, heq⟩ := List.mem_map.mp hpart
  rw [← heq]
  exact (h e he).pieces

theorem legible_values (h : ∀ e ∈ equations, e.IsLegible) :
    Piece.Legible (Piece.separated ", " (equations.map (·.value.pieces))) := by
  refine Piece.Legible.separated (by decide) (by decide) ?_
  intro part hpart
  obtain ⟨e, he, heq⟩ := List.mem_map.mp hpart
  rw [← heq]
  exact (h e he).value

theorem isPlain_columns (h : ∀ e ∈ equations, e.IsLegible) :
    IsPlain (", ".intercalate (equations.map (·.column))) := by
  refine IsPlain.intercalate (by decide) ?_
  intro column hcolumn
  obtain ⟨e, he, heq⟩ := List.mem_map.mp hcolumn
  rw [← heq]
  exact (h e he).column

end Equation

/-- A conflict clause about plain columns is plain text. -/
theorem Conflict.isPlain_text {k : Conflict} (htarget : ∀ column ∈ k.target, IsPlain column)
    (hupdate : ∀ column ∈ k.update, IsPlain column) : IsPlain k.text := by
  have haction : IsPlain k.actionText := by
    change IsPlain (if k.update.isEmpty then " DO NOTHING" else " DO UPDATE SET " ++
      ", ".intercalate (k.update.map fun column => column ++ " = EXCLUDED." ++ column))
    split
    · decide
    · refine IsPlain.append (by decide) (IsPlain.intercalate (by decide) ?_)
      intro text htext
      obtain ⟨column, hcolumn, heq⟩ := List.mem_map.mp htext
      have hplain := hupdate column hcolumn
      rw [← heq]
      exact (hplain.append (by decide)).append hplain
  have hcolumns : IsPlain (", ".intercalate k.target) := .intercalate (by decide) htarget
  change IsPlain (" ON CONFLICT (" ++ ", ".intercalate k.target ++ ")" ++ k.actionText)
  simp only [IsPlain.append_iff, haction, hcolumns, and_true]
  decide

namespace Schema.HasPlainNames

variable {s : Schema}

theorem storedColumn (h : s.HasPlainNames) {f : Field} (hf : f ∈ s.fields) {column : String}
    (hcolumn : s.storedColumn f = .ok column) : IsPlain column := by
  rw [Schema.storedColumn] at hcolumn
  split at hcolumn
  · cases hcolumn
    cases hkey : f.key with
    | none => exact (h.fields f hf).columnName
    | some k => exact (h.fields f hf).key k hkey
  · cases hcolumn

theorem storedValue (h : s.HasPlainNames) {f : Field} (hf : f ∈ s.fields) (p : Param) :
    Piece.Legible (Schema.storedValue f p).pieces := by
  have hcolumn := (h.fields f hf).columnName
  rw [Schema.storedValue]
  split
  · next table key htable hkey =>
    have ht := (h.fields f hf).table table htable
    have hfront : IsPlain ("(SELECT " ++ table ++ "." ++ surrogateKey ++ " FROM " ++ table ++
        " WHERE " ++ table ++ "." ++ f.columnName ++ " = ") := by
      simp only [IsPlain.append_iff, ht, hcolumn, and_true]
      decide
    exact ⟨hfront, (Piece.Legible.param p).append_text (by decide) (by decide) trivial⟩
  · exact .param p

theorem equations (h : s.HasPlainNames) {names : List String} {params : List Param}
    {equations : List Equation} (hequations : s.equations names params = .ok equations) :
    ∀ e ∈ equations, e.IsLegible := by
  intro e he
  obtain ⟨⟨name, p⟩, _, hequation⟩ := exists_of_forall₂ (forall₂_of_mapM_eq_ok hequations) he
  obtain ⟨f, hf, hequation⟩ := exists_of_bind_eq_ok hequation
  obtain ⟨column, hcolumn, hequation⟩ := exists_of_bind_eq_ok hequation
  cases hequation
  have hmem := Schema.mem_of_require hf
  exact ⟨h.storedColumn hmem hcolumn, h.storedValue hmem p⟩

theorem storedColumns (h : s.HasPlainNames) {names columns : List String}
    (hcolumns : s.storedColumns names = .ok columns) : ∀ column ∈ columns, IsPlain column := by
  intro column hmem
  obtain ⟨name, _, hcolumn⟩ := exists_of_forall₂ (forall₂_of_mapM_eq_ok hcolumns) hmem
  obtain ⟨f, hf, hcolumn⟩ := exists_of_bind_eq_ok hcolumn
  exact h.storedColumn (Schema.mem_of_require hf) hcolumn

theorem conflict (h : s.HasPlainNames) {conflict : Option Conflict}
    (hconflict : s.conflict = .ok conflict) : IsPlain (Conflict.text? conflict) := by
  rw [Schema.conflict] at hconflict
  split at hconflict
  · cases hconflict
    exact (by decide : IsPlain "")
  · obtain ⟨target, htarget, hconflict⟩ := exists_of_bind_eq_ok hconflict
    obtain ⟨update, hupdate, hconflict⟩ := exists_of_bind_eq_ok hconflict
    cases hconflict
    exact Conflict.isPlain_text (h.storedColumns htarget) (h.storedColumns hupdate)

end Schema.HasPlainNames

/-- The equations and the columns of a write are plain text. -/
inductive Write.IsLegible : Write → Prop where
  | insert {row : List Equation} {conflict : Option Conflict} (hrow : ∀ e ∈ row, e.IsLegible)
      (hconflict : IsPlain (Conflict.text? conflict)) : IsLegible (.insert row conflict)
  | update {assignments keys : List Equation} (hassignments : ∀ e ∈ assignments, e.IsLegible)
      (hkeys : ∀ e ∈ keys, e.IsLegible) : IsLegible (.update assignments keys)

theorem Write.IsLegible.pieces {w : Write} (h : w.IsLegible) {table : String}
    (htable : IsPlain table) : Piece.Legible (w.pieces table) := by
  cases h with
  | @insert row conflict hrow hconflict =>
    have hcolumns := Equation.isPlain_columns hrow
    have hfront : IsPlain ("INSERT INTO " ++ table ++ " (" ++
        ", ".intercalate (row.map (·.column)) ++ ") VALUES (") := by
      simp only [IsPlain.append_iff, htable, hcolumns, and_true]
      decide
    exact ⟨hfront, (Equation.legible_values hrow).append_text (.append (by decide) hconflict)
      (Piece.isStop_append (by decide)) trivial⟩
  | @update assignments keys hassignments hkeys =>
    have hfront : IsPlain ("UPDATE " ++ table ++ " SET ") :=
      .append (.append (by decide) htable) (by decide)
    have hconditions : Piece.Legible (Equation.conjPieces keys) :=
      Equation.legible_list (by decide) (by decide) hkeys
    exact ⟨hfront, (Equation.legible_list (by decide) (by decide) hassignments).append_text
      (by decide) (by decide) hconditions⟩

/-- A write of plain texts that returns what it wrote is legible. -/
theorem Mutation.legible_pieces {m : Mutation} (htable : IsPlain m.table)
    (hwrite : m.write.IsLegible) (houtputs : IsPlain (Output.listText m.outputs))
    (hjoins : IsPlain (Join.listText m.joins)) : Piece.Legible m.pieces := by
  have hend : IsPlain (" RETURNING *) SELECT " ++ Output.listText m.outputs ++
      " FROM affected AS " ++ m.table ++ Join.listText m.joins) := by
    simp only [IsPlain.append_iff, htable, houtputs, hjoins, and_true]
    decide
  have hstop : (Piece.text (" RETURNING *) SELECT " ++ Output.listText m.outputs ++
      " FROM affected AS " ++ m.table ++ Join.listText m.joins)).isStop = true :=
    Piece.isStop_append (Piece.isStop_append (Piece.isStop_append (Piece.isStop_append
      (by decide))))
  exact ⟨by decide, (hwrite.pieces htable).append_text hend hstop trivial⟩

theorem Delete.legible_pieces {d : Delete} (htable : IsPlain d.table)
    (hkeys : ∀ e ∈ d.keys, e.IsLegible) : Piece.Legible d.pieces := by
  have hfront : IsPlain ("DELETE FROM " ++ d.table ++ " WHERE ") :=
    .append (.append (by decide) htable) (by decide)
  exact ⟨hfront, Equation.legible_list (by decide) (by decide) hkeys⟩

/-! ## Requests -/

namespace Compiler

/-- What a compiler can be asked for. -/
inductive Request where
  | select (query : Query)
  /-- A selection whose search is parsed already. -/
  | selectTree (search : Tree) (query : Query)
  | insert (set : List String) (params : List Param)
  | update (set keys : List String) (params : List Param)
  | patch (values : List (String × FieldValue)) (keys : List String) (keyParams : List Param)
  | delete (keys : List String) (params : List Param)

/-- The statement of a request. -/
def compile (c : Compiler) : Request → Except Error Statement
  | .select q => c.select q
  | .selectTree t q => c.selectTree t q
  | .insert set params => c.insert set params
  | .update set keys params => c.update set keys params
  | .patch values keys keyParams => c.patch values keys keyParams
  | .delete keys params => c.delete keys params

variable {c : Compiler} {st : Statement}

theorem joins_subset (c : Compiler) (sources : List Source) :
    c.joins sources ⊆ c.schema.joins :=
  List.filter_subset_self _

theorem legible_of_pagePlan (h : c.schema.HasPlainNames) {t : Tree} {q : Query} {s : Select}
    (hs : c.pagePlan t q = .ok s) : Piece.Legible s.pieces := by
  obtain ⟨size, items, condition, keys, _, hitems, hcondition, hkeys, hplan⟩ :=
    page_of_pagePlan hs
  subst hplan
  refine Select.legible_pieces h.table (h.outputs (returns_of_outputs hitems))
    (h.joinList (joins_subset c _)) ?_ ?_
  · intro f hf cond hcond
    exact h.source (t.root.reads_of_formula? c.schema hcondition f hf cond hcond)
  · intro src hsrc
    obtain ⟨k, hk, heq⟩ := List.mem_map.mp hsrc
    rw [← heq]
    exact h.source (reads_of_order hkeys k hk)

theorem legible_of_groupPlan (h : c.schema.HasPlainNames) {t : Tree} {names : List String}
    {s : Select} (hs : c.groupPlan t names = .ok s) : Piece.Legible s.pieces := by
  obtain ⟨condition, items, hcondition, hitems, hplan⟩ := groups_of_groupPlan hs
  subst hplan
  refine Select.legible_pieces h.table (h.outputs (returns_of_groupOutputs hitems))
    (h.joinList (joins_subset c _)) ?_ ?_
  · intro f hf cond hcond
    exact h.source (t.root.reads_of_formula? c.schema hcondition f hf cond hcond)
  · intro src hsrc
    obtain ⟨o, ho, heq⟩ := List.mem_map.mp hsrc
    obtain ⟨f, hf, hsource, _⟩ := returns_of_groupOutputs hitems o ho
    rw [← heq]
    exact h.source ⟨f, hf, hsource⟩

theorem isNumbered_selectTree (h : c.schema.HasPlainNames) {t : Tree} {q : Query}
    (hst : c.selectTree t q = .ok st) : st.IsNumbered := by
  obtain ⟨s, hs, hstatement⟩ := plan_of_selectTree hst
  rw [← hstatement]
  refine Statement.placeholders_ofPieces ?_
  obtain ⟨names, _, ⟨_, hpage⟩ | ⟨_, hgroups⟩⟩ := plan_of_selectPlan hs
  · exact legible_of_pagePlan h hpage
  · exact legible_of_groupPlan h hgroups

/-- The statement of a write that returns what it wrote. -/
theorem isNumbered_mutation (h : c.schema.HasPlainNames) {w : Write} (hw : w.IsLegible)
    {m : Mutation} (hm : c.mutation w = .ok m) : m.statement.IsNumbered := by
  obtain ⟨items, hitems, hplan⟩ := items_of_mutation hm
  subst hplan
  exact Statement.placeholders_ofPieces (Mutation.legible_pieces h.table hw
    (h.outputs (returns_of_outputs hitems)) (h.joinList (joins_subset c _)))

theorem isNumbered_insert (h : c.schema.HasPlainNames) {set : List String} {params : List Param}
    (hst : c.insert set params = .ok st) : st.IsNumbered := by
  obtain ⟨m, hm, hstatement⟩ := plan_of_insert hst
  obtain ⟨row, conflict, hrow, hconflict, hm⟩ := row_of_insertPlan hm
  rw [← hstatement]
  exact isNumbered_mutation h (.insert (h.equations hrow) (h.conflict hconflict)) hm

theorem isNumbered_update (h : c.schema.HasPlainNames) {set keys : List String}
    {params : List Param} (hst : c.update set keys params = .ok st) : st.IsNumbered := by
  obtain ⟨m, hm, hstatement⟩ := plan_of_update hst
  obtain ⟨assignments, conditions, hassignments, hconditions, hm⟩ := equations_of_updatePlan hm
  rw [← hstatement]
  exact isNumbered_mutation h (.update (h.equations hassignments) (h.equations hconditions)) hm

theorem isNumbered_delete (h : c.schema.HasPlainNames) {keys : List String}
    {params : List Param} (hst : c.delete keys params = .ok st) : st.IsNumbered := by
  obtain ⟨d, hd, hstatement⟩ := plan_of_delete hst
  cases hempty : keys.isEmpty || params.isEmpty with
  | true =>
    rw [deletePlan, hempty, if_pos rfl] at hd
    cases hd
  | false =>
    rw [deletePlan, hempty, if_neg Bool.false_ne_true] at hd
    obtain ⟨_, _, hd⟩ := exists_of_bind_eq_ok hd
    obtain ⟨equations, hequations, hd⟩ := exists_of_bind_eq_ok hd
    cases hd
    rw [← hstatement]
    exact Statement.placeholders_ofPieces (Delete.legible_pieces h.table (h.equations hequations))

/-- The placeholders of every statement are one for each parameter, numbered in the order of the
parameters, and each of them occurs once, whatever the statement was compiled for. -/
theorem placeholders_numbered (h : c.schema.HasPlainNames) (r : Request)
    (hst : c.compile r = .ok st) :
    st.placeholders = (List.range' 1 st.params.length).map Piece.placeholder ∧
      st.placeholders.Nodup := by
  have hnumbered : st.IsNumbered := by
    cases r with
    | select q =>
      obtain ⟨t, _, hst⟩ := exists_of_bind_eq_ok hst
      exact isNumbered_selectTree h hst
    | selectTree t q => exact isNumbered_selectTree h hst
    | insert set params => exact isNumbered_insert h hst
    | update set keys params => exact isNumbered_update h hst
    | patch values keys keyParams => exact isNumbered_update h hst
    | delete keys params => exact isNumbered_delete h hst
  exact ⟨hnumbered, hnumbered.nodup⟩

/-- A schema with a joined relation, a reference and a document. -/
def tickets : Compiler where
  schema := {
    table := "tickets"
    fields := [{ name := "title", kind := .string, primary := true },
      { name := "data", kind := .json },
      { name := "team", kind := .string, table := some "teams", column := some "name" },
      { name := "owner", kind := .string, table := some "users", column := some "login",
        key := some "owner_id" }]
    joins := [⟨"teams", "teams.id = tickets.team_id", none⟩] }

/-- Names of members are bound in front of the value that they lead to. -/
theorem placeholders_numbered_nested :
    ∃ st, tickets.schema.HasPlainNames ∧
      tickets.compile (.select { search := "not(gte(data.a[-1].b:10)),or(owner:x*,team:ops)" }) =
        .ok st ∧
      st.sql = "SELECT tickets.title, tickets.data, teams.name AS team, (SELECT users.login " ++
        "FROM users WHERE users.id = tickets.owner_id) AS owner FROM tickets " ++
        "LEFT JOIN teams ON teams.id = tickets.team_id WHERE " ++
        "(NOT ((tickets.data->$1::text->(-1)->>$2::text)::numeric >= $3) AND ((SELECT " ++
        "users.login FROM users WHERE users.id = tickets.owner_id) LIKE $4 OR " ++
        "teams.name = $5)) ORDER BY tickets.title LIMIT 101 OFFSET 0" ∧
      st.placeholders = (List.range' 1 st.params.length).map Piece.placeholder ∧
      st.placeholders.Nodup ∧ st.params.length = 5 := by
  have hplain : tickets.schema.HasPlainNames := by decide
  have hcompiled : ((tickets.compile (.select
      { search := "not(gte(data.a[-1].b:10)),or(owner:x*,team:ops)" })).map
        fun st => (st.sql, st.params.length)).toOption =
      some ("SELECT tickets.title, tickets.data, teams.name AS team, (SELECT users.login " ++
        "FROM users WHERE users.id = tickets.owner_id) AS owner FROM tickets " ++
        "LEFT JOIN teams ON teams.id = tickets.team_id WHERE " ++
        "(NOT ((tickets.data->$1::text->(-1)->>$2::text)::numeric >= $3) AND ((SELECT " ++
        "users.login FROM users WHERE users.id = tickets.owner_id) LIKE $4 OR " ++
        "teams.name = $5)) ORDER BY tickets.title LIMIT 101 OFFSET 0", 5) := by
    decide +kernel
  obtain ⟨st, hst, hfields⟩ := exists_of_toOption_map hcompiled
  obtain ⟨hsql, hlength⟩ := Prod.mk.inj hfields
  obtain ⟨hnumbered, hnodup⟩ := placeholders_numbered hplain _ hst
  exact ⟨st, hplain, hst, hsql, hnumbered, hnodup, hlength⟩

end Compiler

end TagSearch
