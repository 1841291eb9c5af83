import Mathlib.Data.List.Nodup
import Mathlib.Data.List.Permutation
import TagSearch.Proofs.Provenance

/-!
# Which fields are returned

A field that is hidden, or gated by an option that is not enabled, is withheld: statements may
test it and do not return it.  Pages of rows and writes return the visible fields and nothing
else.  A count by groups returns whatever fields the request names, and with a field that is
withheld it returns the contents of that field.

Main results:

- Definition `Statement.Selects`: the list of items that a statement returns.
- Theorem `Compiler.name_of_outputs`: the columns of a page or of a write are those of the
  visible fields.
- Theorem `Compiler.columns_of_groupOutputs`: the columns of a count by groups are those that
  were named.
- Theorem `Compiler.withheld_not_returned`: what becomes of a field that is withheld.
-/

namespace TagSearch

/-! ## The items of a statement -/

/-- A statement returns a list of items from a table, or from the rows of a write to it. -/
inductive Statement.Selects (table list : String) : Statement → Prop where
  | read (rest : String) (params : List Param) :
      Selects table list ⟨"SELECT " ++ list ++ " FROM " ++ table ++ rest, params⟩
  | written (write rest : String) (params : List Param) :
      Selects table list ⟨"WITH affected AS (" ++ write ++ " RETURNING *) SELECT " ++ list ++
        " FROM affected AS " ++ table ++ rest, params⟩

theorem Select.selects (s : Select) :
    s.statement.Selects s.table (Output.listText s.outputs ++ s.extent.outputText) := by
  have hsql : s.statement = ⟨"SELECT " ++ (Output.listText s.outputs ++ s.extent.outputText) ++
      " FROM " ++ s.table ++ (Join.listText s.joins ++
        Compiler.whereClause (s.condition.map (Piece.textFrom 1 ·.pieces)) ++ s.extent.text),
      s.statement.params⟩ := by
    rw [← String.append_assoc, ← String.append_assoc, ← String.append_assoc, ← sql_statement]
  rw [hsql]
  exact .read _ _

theorem Mutation.selects (m : Mutation) :
    m.statement.Selects m.table (Output.listText m.outputs) := by
  have hsql : m.statement = ⟨"WITH affected AS (" ++ Piece.textFrom 1 (m.write.pieces m.table) ++
      " RETURNING *) SELECT " ++ Output.listText m.outputs ++ " FROM affected AS " ++ m.table ++
      Join.listText m.joins, m.statement.params⟩ := by
    rw [← sql_statement]
  rw [hsql]
  exact .written _ _ _

/-! ## Fields that are withheld -/

/-- A field that statements may test and do not return. -/
def Field.IsWithheld (options : List String) (f : Field) : Prop :=
  f.hidden = true ∨ enables options f.option = false

/-- An item that returns the field of a given name, under that name if under any. -/
def Schema.IsColumnOf (s : Schema) (name : String) (o : Output) : Prop :=
  ∃ f, s.field? name = some f ∧ s.source f = .ok o.source ∧ ∀ a ∈ o.alias?, a = name

namespace Schema

variable {s : Schema} {f : Field}

/-- A field that is read without an alias is a column of its own name. -/
theorem name_of_output {source : Source} (hs : s.source f = .ok source) :
    (Output.mk source
      (if f.isReference || f.columnName != f.name then some f.name else none)).name = f.name := by
  by_cases hrenamed : (f.isReference || f.columnName != f.name) = true
  · rw [if_pos hrenamed]
    rfl
  · -- the item is read from a column, of whatever relation, that has the name of the field
    rw [if_neg hrenamed]
    simp only [Bool.or_eq_true, bne_iff_ne, ne_eq, not_or, Bool.not_eq_true, not_not] at hrenamed
    obtain ⟨hkey, hcolumn⟩ := hrenamed
    have hkey : f.key = none := Option.isNone_iff_eq_none.mp (Option.isSome_eq_false_iff.mp hkey)
    rw [Schema.source, hkey, hcolumn] at hs
    cases htable : f.table with
    | none =>
      simp only [htable, Except.ok.injEq] at hs
      rw [← hs]
      rfl
    | some table =>
      simp only [htable] at hs
      split at hs
      · rw [← Except.ok.inj hs]
        rfl
      · split at hs
        · rw [← Except.ok.inj hs]
          rfl
        · cases hs

/-- No visible field has the name of a field that is withheld. -/
theorem name_notMem_visible (hnames : (s.fields.map Field.name).Nodup) (hf : f ∈ s.fields)
    {options : List String} (hwithheld : f.IsWithheld options) :
    f.name ∉ (s.visible options).map Field.name := by
  intro hname
  obtain ⟨g, hg, hname⟩ := List.mem_map.mp hname
  obtain ⟨hmem, hhidden, henabled⟩ := mem_visible hg
  -- names are distinct, so a visible field of this name would be the withheld one
  have hsame : g = f := List.inj_on_of_nodup_map hnames hmem hf hname
  subst hsame
  rcases hwithheld with h | h
  · rw [h] at hhidden
    cases hhidden
  · rw [h] at henabled
    cases henabled

end Schema

namespace Compiler

variable {c : Compiler} {items : List Output}

/-- The columns of a page or of a write are those of the visible fields. -/
theorem name_of_outputs (h : c.outputs = .ok items) :
    items.map Output.name = (c.schema.visible c.options).map Field.name := by
  have hnames : List.Forall₂ (fun f o => Field.name f = Output.name o)
      (c.schema.visible c.options) items := by
    refine (items_of_outputs h).imp ?_
    rintro f o ⟨source, hs, houtput⟩
    rw [houtput]
    exact (Schema.name_of_output hs).symm
  have hmaps : List.Forall₂ (· = ·) ((c.schema.visible c.options).map Field.name)
      (items.map Output.name) :=
    List.forall₂_map_left_iff.mpr (List.forall₂_map_right_iff.mpr hnames)
  rw [List.forall₂_eq_eq_eq] at hmaps
  exact hmaps.symm

/-- The columns of a count by groups are those that were named. -/
theorem columns_of_groupOutputs {names : List String} (h : names.mapM c.groupOutput = .ok items) :
    List.Forall₂ c.schema.IsColumnOf names items := by
  refine (forall₂_of_mapM_eq_ok h).imp ?_
  intro name o houtput
  obtain ⟨f, hf, houtput⟩ := exists_of_bind_eq_ok houtput
  obtain ⟨source, hs, houtput⟩ := exists_of_bind_eq_ok houtput
  have hfield := Schema.field?_of_require hf
  have hname := Schema.name_of_field? hfield
  rw [← Except.ok.inj houtput]
  refine ⟨f, hfield, hs, ?_⟩
  intro a ha
  simp only [Option.mem_def, Option.ite_none_left_eq_some] at ha
  rw [← hname]
  exact (Option.some.inj ha.2).symm

/-- A statement returns given items, and none of them has a given name. -/
def Omits (c : Compiler) (name : String) (items : List Output) (st : Statement) : Prop :=
  st.Selects c.schema.table (Output.listText items) ∧ name ∉ items.map Output.name

/-- A statement counts rows by groups, and returns given names. -/
def Groups (c : Compiler) (names : List String) (items : List Output) (st : Statement) : Prop :=
  st.Selects c.schema.table (Output.listText items ++ ", count(*) AS count") ∧
    List.Forall₂ c.schema.IsColumnOf names items

/-- A field that is withheld is not returned by the statement of a write, nor by that of a page of
rows.  A count by groups returns the fields that the request names, whether they are withheld or
not. -/
theorem withheld_not_returned {f : Field} (hnames : (c.schema.fields.map Field.name).Nodup)
    (hf : f ∈ c.schema.fields) (hwithheld : f.IsWithheld c.options) :
    (∀ set params st, c.insert set params = .ok st → ∃ m, c.insertPlan set params = .ok m ∧
        m.statement = st ∧ c.Omits f.name m.outputs st) ∧
      (∀ set keys params st, c.update set keys params = .ok st →
        ∃ m, c.updatePlan set keys params = .ok m ∧ m.statement = st ∧
          c.Omits f.name m.outputs st) ∧
      (∀ values keys params st, c.patch values keys params = .ok st →
        ∃ items, c.Omits f.name items st) ∧
      ∀ t q st, c.selectTree t q = .ok st → ∃ s names, c.selectPlan t q = .ok s ∧
        s.statement = st ∧ Query.names q.summary = .ok names ∧
        (names = [] → c.Omits f.name s.outputs st) ∧
        (names ≠ [] → c.Groups names s.outputs st) := by
  have hvisible : ∀ {items : List Output}, c.outputs = .ok items →
      f.name ∉ items.map Output.name := by
    intro items hitems
    rw [name_of_outputs hitems]
    exact Schema.name_notMem_visible hnames hf hwithheld
  have hwritten : ∀ {write : Write} {m : Mutation}, c.mutation write = .ok m →
      c.Omits f.name m.outputs m.statement := by
    intro write m h
    obtain ⟨items, hitems, hplan⟩ := items_of_mutation h
    have hselects := m.selects
    rw [hplan] at hselects ⊢
    exact ⟨hselects, hvisible hitems⟩
  have hupdate : ∀ set keys params st, c.update set keys params = .ok st →
      ∃ m, c.updatePlan set keys params = .ok m ∧ m.statement = st ∧
        c.Omits f.name m.outputs st := by
    intro set keys params st h
    obtain ⟨m, hm, rfl⟩ := plan_of_update h
    obtain ⟨assignments, conditions, _, _, hmutation⟩ := equations_of_updatePlan hm
    exact ⟨m, hm, rfl, hwritten hmutation⟩
  refine ⟨?_, hupdate, ?_, ?_⟩
  · intro set params st h
    obtain ⟨m, hm, rfl⟩ := plan_of_insert h
    obtain ⟨row, conflict, _, _, hmutation⟩ := row_of_insertPlan hm
    exact ⟨m, hm, rfl, hwritten hmutation⟩
  · intro values keys params st h
    obtain ⟨m, _, _, homits⟩ := hupdate _ _ _ _ h
    exact ⟨m.outputs, homits⟩
  · intro t q st h
    obtain ⟨s, hs, rfl⟩ := plan_of_selectTree h
    have hselects := s.selects
    obtain ⟨names, hsummary, ⟨hempty, hpage⟩ | ⟨hnonempty, hgroups⟩⟩ := plan_of_selectPlan hs
    · obtain ⟨size, items, condition, keys, _, hitems, _, _, hplan⟩ := page_of_pagePlan hpage
      refine ⟨s, names, hs, rfl, hsummary, fun _ => ?_, fun hnonempty => absurd hempty hnonempty⟩
      rw [hplan] at hselects ⊢
      rw [Extent.outputText, String.append_empty] at hselects
      exact ⟨hselects, hvisible hitems⟩
    · obtain ⟨condition, items, _, hitems, hplan⟩ := groups_of_groupPlan hgroups
      refine ⟨s, names, hs, rfl, hsummary, fun hempty => absurd hempty hnonempty, fun _ => ?_⟩
      rw [hplan] at hselects ⊢
      exact ⟨hselects, columns_of_groupOutputs hitems⟩

/-- A relation with a hidden column. -/
def accounts : Compiler where
  schema := {
    table := "accounts"
    fields := [{ name := "name", kind := .string, primary := true },
      { name := "secret", kind := .string, hidden := true }] }

/-- A hidden field that an insert sets and that a search tests. -/
theorem withheld_not_returned_hidden :
    ∃ t written selected m s, accounts.parse "secret:x" = .ok t ∧
      accounts.insert ["secret"] [.text "x"] = .ok written ∧
      written.sql = "WITH affected AS (INSERT INTO accounts (secret) VALUES ($1) RETURNING *) " ++
        "SELECT name FROM affected AS accounts" ∧
      accounts.selectTree t {} = .ok selected ∧
      selected.sql = "SELECT name FROM accounts WHERE secret = $1 ORDER BY name " ++
        "LIMIT 101 OFFSET 0" ∧
      accounts.insertPlan ["secret"] [.text "x"] = .ok m ∧ accounts.selectPlan t {} = .ok s ∧
      accounts.Omits "secret" m.outputs written ∧ accounts.Omits "secret" s.outputs selected := by
  have ht : accounts.parse "secret:x" =
      .ok (.ofMembers [.leaf ⟨.equal, .literal "secret", some (.literal "x")⟩]) := by cbv
  have hinsert : ((accounts.insert ["secret"] [.text "x"]).map Statement.sql).toOption =
      some ("WITH affected AS (INSERT INTO accounts (secret) VALUES ($1) RETURNING *) " ++
        "SELECT name FROM affected AS accounts") := by
    decide +kernel
  have hselect : ((accounts.selectTree
      (.ofMembers [.leaf ⟨.equal, .literal "secret", some (.literal "x")⟩]) {}).map
        Statement.sql).toOption =
      some ("SELECT name FROM accounts WHERE secret = $1 ORDER BY name " ++
        "LIMIT 101 OFFSET 0") := by
    decide +kernel
  obtain ⟨written, hwritten, hsql⟩ := exists_of_toOption_map hinsert
  obtain ⟨selected, hselected, hsql'⟩ := exists_of_toOption_map hselect
  obtain ⟨hinserts, _, _, hselections⟩ := withheld_not_returned (c := accounts)
    (f := { name := "secret", kind := .string, hidden := true }) (by decide) (by decide)
    (.inl rfl)
  obtain ⟨m, hm, _, homits⟩ := hinserts _ _ written hwritten
  obtain ⟨s, names, hs, _, hnames, hpage, _⟩ := hselections _ _ selected hselected
  have hempty : Query.names "" = .ok [] := by cbv
  rw [show ({} : Query).summary = "" from rfl, hempty, Except.ok.injEq] at hnames
  exact ⟨_, written, selected, m, s, ht, hwritten, hsql, hselected, hsql', hm, hs, homits,
    hpage hnames.symm⟩

/-- A count by groups returns a hidden field that is named. -/
theorem withheld_returned_by_groups :
    ∃ st s f, accounts.selectTree .empty { summary := "secret" } = .ok st ∧
      st.sql = "SELECT secret, count(*) AS count FROM accounts GROUP BY secret" ∧
      accounts.selectPlan .empty { summary := "secret" } = .ok s ∧ s.statement = st ∧
      f ∈ accounts.schema.fields ∧ f.IsWithheld accounts.options ∧
      s.outputs.map Output.name = [f.name] := by
  have hnames : Query.names "secret" = .ok ["secret"] := by cbv
  have hplan : accounts.selectPlan .empty { summary := "secret" } =
      .ok ⟨"accounts", [⟨.own none "secret", none⟩], [], none, .groups [.own none "secret"]⟩ := by
    rw [selectPlan, hnames]
    rfl
  have hselect : accounts.selectTree .empty { summary := "secret" } = .ok (Select.statement
      ⟨"accounts", [⟨.own none "secret", none⟩], [], none, .groups [.own none "secret"]⟩) := by
    rw [selectTree_eq, hplan]
    rfl
  exact ⟨_, _, { name := "secret", kind := .string, hidden := true }, hselect, rfl, hplan, rfl,
    by decide, .inl rfl, rfl⟩

end Compiler

end TagSearch
