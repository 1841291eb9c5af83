import TagSearch.Matching.Document
import TagSearch.Proofs.PathGrammar
import TagSearch.Proofs.Provenance
import TagSearch.Proofs.Truth
import TagSearch.Proofs.Verdict

/-!
# Searching rows and matching documents

A search selects rows of the store, and it matches documents.  On a row of texts and on the
document with the same members the two agree, as far as the verdict of the store is known.  They
differ in one way only: where a column holds nothing, the store does not know whether it equals
a text, nor whether it does not, while the document does not match the one and does match the
other.

Main results:

- Definition `RowVerdicts`: the rules of the store for the conditions on a row.
- Definition `Select.Finds`: what the store finds on the text of a statement.
- Theorem `Leaf.IsPlainTest.accepts_of_conditionOn`: a condition of a search, on a row and on a
  document.
- Theorem `Compiler.selection_agrees`: a selection keeps a row exactly when the document
  matches, unless a text is compared with nothing below an odd number of negations.
-/

namespace TagSearch

/-! ## Rows -/

/-- A row of the base relation whose columns hold a text or nothing. -/
abbrev TextRow := String → Option String

/-- What a document has in the place of the content of a column. -/
def columnJson : Option String → Json
  | none => .null
  | some text => .string text

/-- The verdicts of the store on conditions on a row, as far as they test columns.  A test for
presence is never unknown, and whether nothing equals a text is. -/
structure RowVerdicts (row : TextRow) where
  of : Condition → Verdict
  of_present : ∀ qualifier column, of (.present (.plain (.own qualifier column))) =
    .ofBool (row column).isSome
  of_absent : ∀ qualifier column, of (.absent (.plain (.own qualifier column))) =
    .ofBool (row column).isNone
  of_equal : ∀ qualifier column text,
    of (.compare (.plain (.own qualifier column)) .equal (.text text)) =
      match row column with
      | none => .unknown
      | some content => .ofBool (content == text)

/-- The verdicts on a row under which every condition that does not test a column is
unknown. -/
def RowVerdicts.standard (row : TextRow) : RowVerdicts row where
  of
    | .present (.plain (.own _ column)) => .ofBool (row column).isSome
    | .absent (.plain (.own _ column)) => .ofBool (row column).isNone
    | .compare (.plain (.own _ column)) .equal (.text text) =>
      match row column with
      | none => .unknown
      | some content => .ofBool (content == text)
    | _ => .unknown
  of_present _ _ := rfl
  of_absent _ _ := rfl
  of_equal _ _ _ := rfl

/-- The verdict of a selection on a row: that on its condition, as the store reads it.  A
selection without a condition keeps every row. -/
def Select.verdict? (s : Select) (verdict : Condition → Verdict) : Option Verdict :=
  match s.condition with
  | none => some .holds
  | some f => Logic.threeValued.read verdict true [] Logic.threeValued.opened f.symbols

/-- What the store finds on the condition of the statement of a selection.  The condition is what
the search is written as, with the parameters of the statement, and it stands between the joins and
the order or the groups; in its text stand the conditions that are emitted for the conditions of the
search.  A selection without a condition keeps every row. -/
def Select.Finds (s : Select) (schema : Schema) (t : Tree) (verdict : Condition → Verdict)
    (v : Verdict) : Prop :=
  ∃ condition conditions texts tables,
    (t.predicate schema).run {} = .ok (condition, ⟨s.statement.params, tables⟩) ∧
    s.statement.sql = "SELECT " ++ Output.listText s.outputs ++ s.extent.outputText ++ " FROM " ++
      s.table ++ Join.listText s.joins ++ Compiler.whereClause condition ++ s.extent.text ∧
    t.conditions schema = .ok conditions ∧
    (conditions.mapM Condition.write).run {} = .ok (texts, ⟨s.statement.params, tables⟩) ∧
    match condition with
    | none => v = .holds
    | some text => Logic.threeValued.readText (texts.zip (conditions.map verdict)) text = some v

/-- A field of texts that is read from a column of the base relation, and whose name is a
category by itself. -/
structure Field.IsTextColumn (schema : Schema) (f : Field) : Prop where
  kind : f.kind = .string
  source : schema.source f = .ok (.own schema.qualifier f.columnName)
  name_ne : f.name ≠ ""
  name_plain : ∀ c ∈ f.name.toList, Path.isBreak c = false ∧ c ≠ ']'

/-- A document that has the fields of a row as its members. -/
def Schema.Describes (schema : Schema) (row : TextRow) (members : List (String × Json)) : Prop :=
  ∀ f ∈ schema.fields, Json.member? f.name members = some (columnJson (row f.columnName))

/-! ## Names -/

namespace Path

theorem plain_of_all {name : String}
    (h : (name.toList.all fun c => !isBreak c && c != ']') = true) :
    ∀ c ∈ name.toList, isBreak c = false ∧ c ≠ ']' := by
  simpa [List.all_eq_true] using h

theorem parse?_of_plain {name : String} (hne : name ≠ "")
    (hplain : ∀ c ∈ name.toList, isBreak c = false ∧ c ≠ ']') :
    parse? name = some ⟨name, []⟩ := by
  have hname : IsName name.toList := by
    refine ⟨fun hnil => hne (String.toList_eq_nil_iff.mp hnil), fun c hc => ?_⟩
    simpa [isBreak, and_assoc] using hplain c hc
  exact parse?_name_iff.mpr hname

end Path

namespace Schema

variable {schema : Schema} {f : Field}

theorem exists_field? (h : f ∈ schema.fields) :
    ∃ g, schema.field? f.name = some g ∧ g.name = f.name := by
  cases hfield : schema.field? f.name with
  | none =>
    have hnone := List.find?_eq_none.mp hfield f h
    simp at hnone
  | some g => exact ⟨g, rfl, name_of_field? hfield⟩

end Schema

/-! ## Conditions of a search -/

namespace ValueTest

theorem check_present (content : Option String) :
    check .present (some (columnJson content)) = content.isSome := by
  cases content with
  | none => rfl
  | some text => rfl

theorem check_absent (content : Option String) :
    check .absent (some (columnJson content)) = content.isNone := by
  cases content with
  | none => rfl
  | some text => rfl

/-- A column is compared as a text, also when both sides write numbers. -/
theorem check_equals (expected : String) (content : Option String) :
    check (.equals expected) (some (columnJson content)) =
      match content with
      | none => false
      | some text => text == expected := by
  cases content with
  | none => rfl
  | some text =>
    have hpasses : (equals expected).passes (.string text) = (text == expected) := by
      simp only [passes, comparedText, isString, Json.isNull, Bool.false_eq_true, if_false, if_true]
      split <;> rfl
    exact hpasses

end ValueTest

namespace Leaf

variable {schema : Schema} {l : Leaf} {f : Field} {row : TextRow}
  {members : List (String × Json)}

/-- A condition that asks whether a field is present, whether it is absent, or whether it
equals a text. -/
structure IsPlainTest (schema : Schema) (l : Leaf) : Prop where
  comparison : l.comparison = .equal
  category : ∃ f ∈ schema.fields, l.category = .literal f.name
  value : ∀ v, l.value = some v → ∃ text, v = .literal text ∧ hasWildcard text = false

theorem isPlainTest_text {name text : String} (hname : ∃ f ∈ schema.fields, f.name = name)
    (htext : hasWildcard text = false) :
    IsPlainTest schema ⟨.equal, .literal name, some (.literal text)⟩ := by
  obtain ⟨f, hf, hname⟩ := hname
  refine ⟨rfl, ⟨f, hf, congrArg Term.literal hname.symm⟩, ?_⟩
  intro v hv
  exact ⟨text, (Option.some.inj hv).symm, htext⟩

/-- A condition without a value, with one that stands for nothing, or with another text. -/
theorem IsPlainTest.value_cases (h : l.IsPlainTest schema) :
    l.value = none ∨
      ∃ text, l.value = some (.literal text) ∧ hasWildcard text = false ∧
        (isNullText text = true ∨ isNullText text = false) := by
  cases hvalue : l.value with
  | none => exact .inl rfl
  | some v =>
    obtain ⟨text, hv, hwildcard⟩ := h.value v hvalue
    rw [hv]
    exact .inr ⟨text, rfl, hwildcard, (isNullText text).eq_false_or_eq_true⟩

/-- A condition that compares a text with a field that holds nothing in the row. -/
def ComparesNothing (schema : Schema) (row : TextRow) (l : Leaf) : Prop :=
  ∃ f text, l.category = .literal f.name ∧ schema.field? f.name = some f ∧
    row f.columnName = none ∧ l.value = some (.literal text) ∧ isNullText text = false

/-- The condition of a statement that asks the same of a source. -/
def plainCondition (l : Leaf) (s : Source) : Condition :=
  match l.value with
  | none => .present (.plain s)
  | some v =>
    if isNullText v.text then .absent (.plain s)
    else .compare (.plain s) .equal (.text (restore v.text))

theorem IsPlainTest.scalarCondition_eq (h : l.IsPlainTest schema) (hkind : f.kind = .string)
    (s : Source) : l.scalarCondition f s = .ok (l.plainCondition s) := by
  rcases h.value_cases with hvalue | ⟨text, hvalue, hwildcard, hnull | hnull⟩
  · rw [scalarCondition, plainCondition, hvalue]
  · rw [scalarCondition, plainCondition, hvalue]
    simp only [Term.text, hnull, if_true]
  · rw [scalarCondition, plainCondition, hvalue]
    simp [Term.text, hnull, hwildcard, hkind, h.comparison, Value.parse, Except.map,
      Value.toParam]

/-- A column in a document passes the test of a condition exactly when the condition holds on
the row. -/
theorem IsPlainTest.check_eq (h : l.IsPlainTest schema) (V : RowVerdicts row)
    (qualifier : Option String) (column : String) :
    ((ValueTest.ofLeaf l).map fun test => test.check (some (columnJson (row column)))) =
      .ok (V.of (l.plainCondition (.own qualifier column))).keeps := by
  rcases h.value_cases with hvalue | ⟨text, hvalue, hwildcard, hnull | hnull⟩
  · rw [ValueTest.ofLeaf, plainCondition, hvalue, V.of_present, Verdict.keeps_ofBool]
    exact congrArg Except.ok (ValueTest.check_present _)
  · rw [ValueTest.ofLeaf, plainCondition, hvalue]
    simp only [Term.text, hnull, if_true]
    rw [V.of_absent, Verdict.keeps_ofBool]
    exact congrArg Except.ok (ValueTest.check_absent _)
  · rw [ValueTest.ofLeaf, plainCondition, hvalue]
    simp only [Term.text, hnull, hwildcard, h.comparison, Bool.false_eq_true, if_false, ne_eq,
      not_true_eq_false]
    rw [V.of_equal]
    refine congrArg Except.ok ((ValueTest.check_equals _ _).trans ?_)
    cases row column with
    | none => rfl
    | some content => exact (Verdict.keeps_ofBool _).symm

/-- The verdict is unknown only when a text is compared with nothing. -/
theorem IsPlainTest.of_unknown (h : l.IsPlainTest schema) (V : RowVerdicts row)
    {qualifier : Option String} {column : String}
    (hunknown : V.of (l.plainCondition (.own qualifier column)) = .unknown) :
    row column = none ∧ ∃ text, l.value = some (.literal text) ∧ isNullText text = false := by
  rcases h.value_cases with hvalue | ⟨text, hvalue, hwildcard, hnull | hnull⟩
  · rw [plainCondition, hvalue, V.of_present] at hunknown
    exact absurd hunknown (Verdict.ofBool_ne_unknown _)
  · rw [plainCondition, hvalue] at hunknown
    simp only [Term.text, hnull, if_true] at hunknown
    rw [V.of_absent] at hunknown
    exact absurd hunknown (Verdict.ofBool_ne_unknown _)
  · rw [plainCondition, hvalue] at hunknown
    simp only [Term.text, hnull, Bool.false_eq_true, if_false] at hunknown
    rw [V.of_equal] at hunknown
    cases hcontent : row column with
    | none => exact ⟨rfl, text, hvalue, hnull⟩
    | some content =>
      rw [hcontent] at hunknown
      exact absurd hunknown (Verdict.ofBool_ne_unknown _)

/-- The condition on a field of texts is one on its column. -/
theorem conditionOn_of_textColumn (hf : f.IsTextColumn schema)
    (hfield : schema.field? f.name = some f) :
    l.conditionOn schema f.name =
      l.scalarCondition f (.own schema.qualifier f.columnName) := by
  simp only [conditionOn, Path.parse?_of_plain hf.name_ne hf.name_plain, Schema.require, hfield,
    bind, Except.bind, hf.source, fieldCondition, hf.kind]

/-- A document is asked for the member that has the name of the field. -/
theorem accepts_of_textColumn (hf : f.IsTextColumn schema) (hl : l.category = .literal f.name) :
    l.accepts (.object members) =
      (ValueTest.ofLeaf l).map fun test => test.check (Json.member? f.name members) := by
  have hresolve : Path.resolve? ⟨f.name, []⟩ (.object members) = Json.member? f.name members :=
    Path.resolve_of_segments_nil f.name members
  cases htest : ValueTest.ofLeaf l with
  | error e =>
    rw [accepts, htest]
    rfl
  | ok test =>
    simp only [accepts, htest, hl, bind, Except.bind,
      Path.parse?_of_plain hf.name_ne hf.name_plain, hresolve]
    rfl

/-- What a condition of a search comes to on a row and on the document with its fields: the
document matches exactly when the verdict on the row is that the condition holds, and the
verdict is unknown only when a text is compared with nothing. -/
theorem IsPlainTest.accepts_of_conditionOn (h : l.IsPlainTest schema)
    (hfields : ∀ f ∈ schema.fields, f.IsTextColumn schema)
    (hdocument : schema.Describes row members) (V : RowVerdicts row) :
    ∃ name c, l.category = .literal name ∧ l.conditionOn schema name = .ok c ∧
      l.accepts (.object members) = .ok (V.of c).keeps ∧
      (V.of c = .unknown → l.ComparesNothing schema row) := by
  obtain ⟨f₀, hf₀, hl⟩ := h.category
  -- of several fields with one name both sides take the first
  obtain ⟨f, hfield, hname⟩ := Schema.exists_field? hf₀
  rw [← hname] at hl hfield
  have hmem := Schema.mem_of_field? hfield
  have hf := hfields f hmem
  refine ⟨f.name, l.plainCondition (.own schema.qualifier f.columnName), hl, ?_, ?_, ?_⟩
  · rw [conditionOn_of_textColumn hf hfield, h.scalarCondition_eq hf.kind]
  · rw [accepts_of_textColumn hf hl, hdocument f hmem, h.check_eq V]
  · intro hunknown
    obtain ⟨hcontent, text, hvalue, hnull⟩ := h.of_unknown V hunknown
    exact ⟨f, text, hl, hfield, hcontent, hvalue, hnull⟩

/-- A document satisfies a condition exactly when the condition that is emitted for it holds on
the row. -/
theorem IsPlainTest.accepts_eq_holds (h : l.IsPlainTest schema)
    (hfields : ∀ f ∈ schema.fields, f.IsTextColumn schema)
    (hdocument : schema.Describes row members) (V : RowVerdicts row) :
    l.accepts (.object members) = .ok (l.holds schema fun c => (V.of c).keeps) := by
  obtain ⟨name, c, hl, hc, haccepts, _⟩ := h.accepts_of_conditionOn hfields hdocument V
  have hholds : l.holds schema (fun c => (V.of c).keeps) = (V.of c).keeps := by
    rw [holds_of_conditions (conditions_of_literal hl hc)]
    exact Bool.or_false _
  rw [haccepts, hholds]

/-- Only a text that is compared with nothing makes an emitted condition unknown. -/
theorem IsPlainTest.comparesNothing_of_emits (h : l.IsPlainTest schema)
    (hfields : ∀ f ∈ schema.fields, f.IsTextColumn schema)
    (hdocument : schema.Describes row members) (V : RowVerdicts row) {c : Condition}
    (hemits : l.Emits schema c) (hunknown : V.of c = .unknown) :
    l.ComparesNothing schema row := by
  obtain ⟨name, c', hl, hc', _, hnothing⟩ := h.accepts_of_conditionOn hfields hdocument V
  rw [emits_literal hl, hc', Except.ok.injEq] at hemits
  rw [← hemits] at hunknown
  exact hnothing hunknown

end Leaf

/-! ## Searches -/

/-- A document matches a search exactly when the formula of the search holds, if it satisfies
the conditions of the search exactly when those that are emitted for them hold. -/
theorem Tree.accepts_of_compilesTo {t : Tree} {schema : Schema} {document : Json}
    {truth : Condition → Bool} {f : Formula Condition} (hf : t.root.CompilesTo schema f)
    (hleaves : ∀ l ∈ t.root.leaves, l.accepts document = .ok (l.holds schema truth)) :
    t.accepts document = .ok (f.holds truth) := by
  have heval : t.eval (m := Id) (fun l => ExceptT.mk (l.accepts document)) =
      pure (f.holds truth) := by
    rw [← hf.2 truth]
    refine Node.eval_congr t.root ?_
    intro l hl
    rw [hleaves l hl]
    rfl
  rw [accepts, heval]
  rfl

namespace Select

variable {t : Tree} {schema : Schema} {truth : Condition → Verdict} {v : Verdict}

/-- A selection binds the parameters of its condition. -/
theorem params_statement (s : Select) :
    s.statement.params = (Frame.afterFormula {} s.condition).params :=
  congrArg Frame.params (s.after_pieces (Compiler.formulaSources s.condition))

/-- The store finds on the text of a condition what the formula of the search comes to. -/
theorem finds_of_formula? (s : Select) (h : t.formula? schema = .ok s.condition)
    (hvalue : match s.condition with
      | none => v = .holds
      | some f => f.IsReadable ∧ v = f.value Logic.threeValued truth) :
    s.Finds schema t truth v := by
  have hpredicate := t.root.run_predicate schema {}
  rw [← Tree.formula?, h, ok_bind] at hpredicate
  have hframe : Frame.afterFormula {} s.condition =
      ⟨s.statement.params, (Frame.afterFormula {} s.condition).tables⟩ := by
    rw [params_statement]
  have hwritten := Tree.run_conditions {} s.condition
  rw [hframe] at hpredicate hwritten
  refine ⟨_, _, _, _, hpredicate, s.sql_statement, t.root.conditions_of_formula? schema h,
    hwritten, ?_⟩
  cases hcondition : s.condition with
  | none =>
    rw [hcondition] at hvalue
    exact hvalue
  | some f =>
    rw [hcondition] at hvalue
    obtain ⟨hreadable, rfl⟩ := hvalue
    have hatoms : Formula.atomsOfAll (some f).toList = f.atoms := List.append_nil _
    rw [hatoms]
    exact hreadable.readText_eq Logic.threeValued truth {}

end Select

namespace Compiler

variable {c : Compiler} {row : TextRow} {members : List (String × Json)}

/-- Searching rows and matching documents agree, on a row of texts and a document with the same
members, for a search whose conditions ask whether fields are present or absent or equal a
text.  The selection keeps only rows whose documents match, and where its condition fails the
document does not match.  It keeps all rows whose documents match but those on which a text
is compared with nothing below an odd number of negations. -/
theorem selection_agrees {input primary : String} {options : ScanOptions} {t : Tree} {q : Query}
    {st : Statement} (hparse : Tree.parse input primary options = .ok t)
    (hfields : ∀ f ∈ c.schema.fields, f.IsTextColumn c.schema)
    (hleaves : ∀ l ∈ t.root.leaves, l.IsPlainTest c.schema)
    (hdocument : c.schema.Describes row members) (hselect : c.selectTree t q = .ok st)
    (V : RowVerdicts row) :
    ∃ s verdict matched, c.selectPlan t q = .ok s ∧ s.statement = st ∧
      s.verdict? V.of = some verdict ∧ s.Finds c.schema t V.of verdict ∧
      t.accepts (.object members) = .ok matched ∧ verdict.Agrees matched ∧
      ((∀ l, (true, l) ∈ t.root.signed false → ¬ l.ComparesNothing c.schema row) →
        verdict.keeps = matched) := by
  obtain ⟨s, hplan, hstatement⟩ := plan_of_selectTree hselect
  have hcondition := formula?_of_selectPlan hplan
  rcases Tree.formula_ways hparse hcondition with ⟨ht, hnone⟩ | ⟨_, f, hsome, hcompiles⟩
  · -- a search without conditions selects every row, and every document matches it
    subst ht
    refine ⟨s, .holds, true, hplan, hstatement, ?_, ?_, ?_, rfl, fun _ => rfl⟩
    · rw [Select.verdict?, hnone]
    · refine s.finds_of_formula? hcondition ?_
      rw [hnone]
    · rw [Tree.accepts, Tree.eval_empty]
      rfl
  · have hmatched : t.accepts (.object members) = .ok (f.holds fun a => (V.of a).keeps) :=
      Tree.accepts_of_compilesTo hcompiles fun l hl =>
        (hleaves l hl).accepts_eq_holds hfields hdocument V
    have hagrees : (f.value Logic.threeValued V.of).Agrees (f.holds fun a => (V.of a).keeps) :=
      Formula.value_agrees (fun a => (V.of a).agrees_keeps) f
    refine ⟨s, f.value Logic.threeValued V.of, f.holds fun a => (V.of a).keeps, hplan, hstatement,
      ?_, ?_, hmatched, hagrees, ?_⟩
    · rw [Select.verdict?, hsome]
      exact hcompiles.1.read_value Logic.threeValued V.of
    · refine s.finds_of_formula? hcondition ?_
      rw [hsome]
      exact ⟨hcompiles.1, rfl⟩
    · intro hcompared
      -- an unknown condition of the formula has the sign of the condition it was emitted for
      have hsettled : Formula.Settled V.of (f.signed false) := by
        intro a ha hunknown
        rw [hsome] at hcondition
        obtain ⟨l, hl, hemits⟩ := t.root.emits_of_formula? c.schema hcondition f rfl ha
        have hplain := hleaves l (Node.mem_leaves_of_mem_signed hl)
        exact hcompared l hl
          (hplain.comparesNothing_of_emits hfields hdocument V hemits hunknown)
      cases hholds : f.holds fun a => (V.of a).keeps with
      | true =>
        rw [Formula.value_of_settled false f hsettled hholds]
        rfl
      | false =>
        rw [hholds] at hagrees
        exact Verdict.keeps_eq_false_of_agrees hagrees

/-- A relation with two columns of texts. -/
def people : Compiler where
  schema := {
    table := "people"
    fields := [{ name := "name", kind := .string, primary := true },
      { name := "city", kind := .string }] }

theorem people_isTextColumn : ∀ f ∈ people.schema.fields, f.IsTextColumn people.schema := by
  intro f hf
  simp only [people, List.mem_cons, List.not_mem_nil, or_false] at hf
  rcases hf with hf | hf
  · subst hf
    exact ⟨rfl, rfl, by decide, Path.plain_of_all (by decide)⟩
  · subst hf
    exact ⟨rfl, rfl, by decide, Path.plain_of_all (by decide)⟩

theorem people_describes
    (hname : Json.member? "name" members = some (columnJson (row "name")))
    (hcity : Json.member? "city" members = some (columnJson (row "city"))) :
    people.schema.Describes row members := by
  intro f hf
  simp only [people, List.mem_cons, List.not_mem_nil, or_false] at hf
  rcases hf with hf | hf
  · subst hf
    exact hname
  · subst hf
    exact hcity

/-- A text is compared with nothing, but below no negation, and another below a negation, but
with a text. -/
theorem selection_agrees_nested :
    let row : TextRow := fun column => if column = "city" then some "c" else none
    ∃ t st, Tree.parse "or(name:a,not(city:b))" "name" = .ok t ∧
      people.selectTree t {} = .ok st ∧
      st.sql = "SELECT name, city FROM people WHERE (name = $1 OR NOT (city = $2)) " ++
        "ORDER BY name LIMIT 101 OFFSET 0" ∧
      ∀ V : RowVerdicts row, ∃ s verdict matched, people.selectPlan t {} = .ok s ∧
        s.statement = st ∧ s.verdict? V.of = some verdict ∧
        s.Finds people.schema t V.of verdict ∧
        t.accepts (.object [("name", .null), ("city", .string "c")]) = .ok matched ∧
        verdict.Agrees matched ∧ verdict.keeps = matched := by
  intro row
  have hparse : Tree.parse "or(name:a,not(city:b))" "name" = .ok (.ofMembers [
      .group .disj .equal [.leaf ⟨.equal, .literal "name", some (.literal "a")⟩,
        .group .neg .equal [.leaf ⟨.equal, .literal "city", some (.literal "b")⟩]]]) := by cbv
  generalize ht : Tree.ofMembers [
      .group .disj .equal [.leaf ⟨.equal, .literal "name", some (.literal "a")⟩,
        .group .neg .equal [.leaf ⟨.equal, .literal "city", some (.literal "b")⟩]]] = t at hparse
  have hselect : ((people.selectTree t {}).map Statement.sql).toOption =
      some ("SELECT name, city FROM people WHERE (name = $1 OR NOT (city = $2)) " ++
        "ORDER BY name LIMIT 101 OFFSET 0") := by
    subst ht
    decide +kernel
  obtain ⟨st, hselect, hsql⟩ := exists_of_toOption_map hselect
  have hsigned : t.root.signed false =
      [(false, ⟨.equal, .literal "name", some (.literal "a")⟩),
        (true, ⟨.equal, .literal "city", some (.literal "b")⟩)] := by
    subst ht
    rfl
  have hleaves : ∀ l ∈ t.root.leaves, l.IsPlainTest people.schema := by
    rw [Node.leaves, hsigned]
    intro l hl
    simp only [List.map_cons, List.map_nil, List.mem_cons, List.not_mem_nil, or_false] at hl
    rcases hl with hl | hl
    · subst hl
      exact Leaf.isPlainTest_text (by decide) (by decide)
    · subst hl
      exact Leaf.isPlainTest_text (by decide) (by decide)
  have hdocument :
      people.schema.Describes row [("name", .null), ("city", .string "c")] :=
    people_describes rfl rfl
  have hcompared : ∀ l, (true, l) ∈ t.root.signed false →
      ¬ l.ComparesNothing people.schema row := by
    rw [hsigned]
    intro l hl
    simp only [List.mem_cons, Prod.mk.injEq, Bool.true_eq_false, false_and, true_and,
      List.not_mem_nil, or_false, false_or] at hl
    subst hl
    rintro ⟨f, text, hcategory, hfield, hnothing, _, _⟩
    rw [← Term.literal.inj hcategory] at hfield
    cases hfield
    cases hnothing
  refine ⟨t, st, hparse, hselect, hsql, ?_⟩
  intro V
  obtain ⟨s, verdict, matched, hplan, hstatement, hverdict, hfinds, hmatched, hagrees, hkeeps⟩ :=
    selection_agrees hparse people_isTextColumn hleaves hdocument hselect V
  exact ⟨s, verdict, matched, hplan, hstatement, hverdict, hfinds, hmatched, hagrees,
    hkeeps hcompared⟩

/-- Without the reservation the two do not agree.  Below a negation, the store does not know
whether nothing equals a text and leaves the row out, while the document matches. -/
theorem selection_differs_on_nothing :
    ∃ t st, Tree.parse "not(name:a)" "name" = .ok t ∧
      (∀ f ∈ people.schema.fields, f.IsTextColumn people.schema) ∧
      (∀ l ∈ t.root.leaves, l.IsPlainTest people.schema) ∧
      people.schema.Describes (fun _ => none) [("name", .null), ("city", .null)] ∧
      people.selectTree t {} = .ok st ∧
      st.sql = "SELECT name, city FROM people WHERE NOT (name = $1) " ++
        "ORDER BY name LIMIT 101 OFFSET 0" ∧
      t.accepts (.object [("name", .null), ("city", .null)]) = .ok true ∧
      ∀ V : RowVerdicts fun _ => none, ∃ s verdict, people.selectPlan t {} = .ok s ∧
        s.statement = st ∧ s.verdict? V.of = some verdict ∧
        s.Finds people.schema t V.of verdict ∧ verdict.keeps = false := by
  have hparse : Tree.parse "not(name:a)" "name" = .ok (.ofMembers [
      .group .neg .equal [.leaf ⟨.equal, .literal "name", some (.literal "a")⟩]]) := by cbv
  generalize ht : Tree.ofMembers [
      .group .neg .equal [.leaf ⟨.equal, .literal "name", some (.literal "a")⟩]] = t at hparse
  have hformula : t.formula? people.schema =
      .ok (some (.neg (.atom (.compare (.plain (.own none "name")) .equal (.text "a"))))) := by
    subst ht
    cbv
  have hselect : ((people.selectTree t {}).map Statement.sql).toOption =
      some ("SELECT name, city FROM people WHERE NOT (name = $1) " ++
        "ORDER BY name LIMIT 101 OFFSET 0") := by
    subst ht
    decide +kernel
  obtain ⟨st, hselect, hsql⟩ := exists_of_toOption_map hselect
  obtain ⟨s, hplan, hstatement⟩ := plan_of_selectTree hselect
  have hcondition := formula?_of_selectPlan hplan
  rw [hformula, Except.ok.injEq] at hcondition
  refine ⟨t, st, hparse, people_isTextColumn, ?_, people_describes rfl rfl, hselect, hsql, ?_, ?_⟩
  · intro l hl
    have hleaf : l = ⟨.equal, .literal "name", some (.literal "a")⟩ := by
      subst ht
      exact List.mem_singleton.mp hl
    subst hleaf
    exact Leaf.isPlainTest_text (by decide) (by decide)
  · subst ht
    cbv
  · intro V
    let f : Formula Condition :=
      .neg (.atom (.compare (.plain (.own none "name")) .equal (.text "a")))
    have hreadable : f.IsReadable := .neg (.atom _)
    have hunknown : f.value Logic.threeValued V.of = .unknown := by
      rw [Formula.value, Formula.value, V.of_equal]
      rfl
    refine ⟨s, .unknown, hplan, hstatement, ?_, s.finds_of_formula? (hcondition ▸ hformula) ?_,
      rfl⟩
    · rw [Select.verdict?, ← hcondition, ← hunknown]
      exact hreadable.read_value Logic.threeValued V.of
    · rw [← hcondition]
      exact ⟨hreadable, hunknown.symm⟩

end Compiler

end TagSearch
