import TagSearch.Proofs.Emission

/-!
# What a selection reads

Everything that a compiled selection reads is a field of the schema: its conditions, the items
that it returns, and the keys by which it orders or groups the rows.

Main results:

- Theorem `Node.reads_of_formula?`: the conditions of a search read fields of the schema.
- Theorems `Compiler.returns_of_outputs` and `Compiler.returns_of_groupOutputs`: the items of a
  selection return fields of the schema.
- Theorem `Compiler.readFrom_of_order`: the keys of a page are read from the fields of a sort list,
  or from the primary field.
-/

namespace TagSearch

namespace Schema

variable {s : Schema} {name : String} {f : Field}

/-- A source that some field of the schema is read from. -/
def Reads (s : Schema) (source : Source) : Prop :=
  ∃ f ∈ s.fields, s.source f = .ok source

/-- An item that returns a field of the schema, under its own name if under any. -/
def Returns (s : Schema) (o : Output) : Prop :=
  ∃ f ∈ s.fields, s.source f = .ok o.source ∧ ∀ name ∈ o.alias?, name = f.name

/-- Sources that fields are read from, one by one. -/
abbrev ReadFrom (s : Schema) : List Field → List Source → Prop :=
  List.Forall₂ fun f source => s.source f = .ok source

theorem mem_of_field? (h : s.field? name = some f) : f ∈ s.fields :=
  List.mem_of_find?_eq_some h

theorem mem_of_require (h : s.require name = .ok f) : f ∈ s.fields :=
  mem_of_field? (field?_of_require h)

/-- What reads one named field each reads the fields of the names. -/
theorem readFrom_of_named {α β : Type} {names : List α} {items : List β}
    {field? : α → Option Field} {sourceOf : β → Source}
    (h : List.Forall₂ (fun name item =>
      ∃ f, field? name = some f ∧ s.source f = .ok (sourceOf item)) names items) :
    s.ReadFrom (names.flatMap fun name => (field? name).toList) (items.map sourceOf) := by
  rw [List.map_eq_flatMap]
  refine List.rel_flatMap h ?_
  rintro name item ⟨f, hf, hs⟩
  simp only [hf]
  exact .cons hs .nil

end Schema

/-! ## Conditions -/

namespace Leaf

variable {l : Leaf} {schema : Schema} {c : Condition} {s : Source}

/-- What is built from the answer of a step reads one source whatever the answer is. -/
theorem source_of_map {α : Type} {x : Except Error α} {build : α → Condition}
    (h : x.map build = .ok c) (hbuild : ∀ a, (build a).source = s) : c.source = s := by
  obtain ⟨a, _, hc⟩ := exists_of_map_eq_ok h
  rw [← hc]
  exact hbuild a

theorem source_fieldText (f : Field) (s : Source) : (fieldText f s).source = s := by
  unfold fieldText
  split
  · rfl
  · rfl

theorem source_of_textCondition {o : Operand} (h : l.textCondition o = .ok c) :
    c.source = o.source := by
  unfold textCondition at h
  repeat' split at h
  all_goals first
    | exact source_of_map h fun _ => rfl
    | (cases h; done)
    | (cases h; rfl)

theorem source_of_arrayCondition {f : Field} (h : l.arrayCondition f s = .ok c) :
    c.source = s := by
  unfold arrayCondition at h
  repeat' split at h
  all_goals first
    | exact source_of_map h fun _ => rfl
    | (cases h; done)
    | (cases h; rfl)

theorem source_of_scalarCondition {f : Field} (h : l.scalarCondition f s = .ok c) :
    c.source = s := by
  unfold scalarCondition at h
  repeat' split at h
  all_goals first
    | exact source_of_map h fun _ => rfl
    | exact source_of_map h fun _ => source_fieldText f s
    | (cases h; done)
    | (cases h; rfl)
    | (cases h; exact source_fieldText f s)

/-- A condition on a field reads the source of the field. -/
theorem source_of_fieldCondition {f : Field} {category : String} {steps : List Segment}
    (h : l.fieldCondition f s category steps = .ok c) : c.source = s := by
  unfold fieldCondition at h
  split at h
  · exact source_of_textCondition h
  · exact source_of_textCondition h
  · cases h
  · exact source_of_arrayCondition h
  · exact source_of_scalarCondition h

theorem reads_of_conditionOn {category : String} (h : l.conditionOn schema category = .ok c) :
    schema.Reads c.source := by
  obtain ⟨path, f, s, _, hf, hs, hc⟩ := path_of_conditionOn h
  rw [source_of_fieldCondition hc]
  exact ⟨f, Schema.mem_of_field? hf, hs⟩

end Leaf

/-- The conditions of the formula of a node read fields of the schema. -/
theorem Node.reads_of_formula? (schema : Schema) (n : Node) {o : Option (Formula Condition)}
    (h : n.formula? schema = .ok o) : ∀ f ∈ o, ∀ c ∈ f.atoms, schema.Reads c.source := by
  intro f hf c hc
  rw [Option.mem_def.mp hf] at h
  obtain ⟨l, _, hemits⟩ := exists_leaf_of_formula? h hc
  obtain ⟨category, hcondition⟩ := hemits.conditionOn
  exact Leaf.reads_of_conditionOn hcondition

/-! ## Items -/

namespace Compiler

variable {c : Compiler} {items : List Output}

/-- The items of a statement that returns rows, field by field. -/
theorem items_of_outputs (h : c.outputs = .ok items) :
    List.Forall₂ (fun f o => ∃ source, c.schema.source f = .ok source ∧
      o = ⟨source, if f.isReference || f.columnName != f.name then some f.name else none⟩)
      (c.schema.visible c.options) items := by
  obtain ⟨items', hitems, h⟩ := exists_of_bind_eq_ok h
  have hitems' : items' = items := by
    cases hempty : items'.isEmpty with
    | true =>
      rw [hempty, if_pos rfl] at h
      cases h
    | false =>
      rw [hempty, if_neg Bool.false_ne_true] at h
      exact Except.ok.inj h
  subst hitems'
  refine (forall₂_of_mapM_eq_ok hitems).imp ?_
  intro f o houtput
  obtain ⟨s, hs, houtput⟩ := exists_of_bind_eq_ok houtput
  exact ⟨s, hs, (Except.ok.inj houtput).symm⟩

theorem readFrom_of_outputs (h : c.outputs = .ok items) :
    c.schema.ReadFrom (c.schema.visible c.options) (items.map (·.source)) := by
  refine List.forall₂_map_right_iff.mpr ((items_of_outputs h).imp ?_)
  rintro f o ⟨source, hs, rfl⟩
  exact hs

/-- The visible items return fields of the schema. -/
theorem returns_of_outputs (h : c.outputs = .ok items) : ∀ o ∈ items, c.schema.Returns o := by
  intro o ho
  obtain ⟨f, hf, s, hs, houtput⟩ := exists_of_forall₂ (items_of_outputs h) ho
  subst houtput
  refine ⟨f, (Schema.mem_visible hf).1, hs, ?_⟩
  intro name hname
  simp only [Option.mem_def, Option.ite_none_right_eq_some] at hname
  exact (Option.some.inj hname.2).symm

/-- The items of a count by groups return fields of the schema. -/
theorem returns_of_groupOutputs {names : List String}
    (h : names.mapM c.groupOutput = .ok items) : ∀ o ∈ items, c.schema.Returns o := by
  intro o ho
  obtain ⟨name, _, houtput⟩ := exists_of_forall₂ (forall₂_of_mapM_eq_ok h) ho
  obtain ⟨f, hf, houtput⟩ := exists_of_bind_eq_ok houtput
  obtain ⟨s, hs, houtput⟩ := exists_of_bind_eq_ok houtput
  cases houtput
  refine ⟨f, Schema.mem_of_require hf, hs, ?_⟩
  intro name' hname
  simp only [Option.mem_def, Option.ite_none_left_eq_some] at hname
  exact (Option.some.inj hname.2).symm

/-! ## Keys -/

/-- The names in a list, as far as it is one. -/
def listed (list : String) : List String :=
  match Query.names list with
  | .ok names => names
  | .error _ => []

/-- The field name in an item of a sort list, and whether a minus sign before it turns the order
round. -/
def sortItem (item : String) : String × Bool :=
  match item.toList with
  | '-' :: rest => (String.ofList rest, true)
  | _ => (item, false)

/-- The fields that rows are ordered by: those of a sort list, or the primary field if there is
one. -/
def sortFields (c : Compiler) : List String → List Field
  | [] => (c.schema.field? c.primary).toList
  | items => items.flatMap fun item => (c.schema.field? (sortItem item).1).toList

/-- An item of a sort list orders by the field that it names. -/
theorem field_of_orderKey {item : String} {key : OrderKey} (h : c.orderKey item = .ok key) :
    ∃ f, c.schema.field? (sortItem item).1 = some f ∧ c.schema.source f = .ok key.source := by
  rw [orderKey] at h
  split at h
  next name descending hitem =>
    have hname : sortItem item = (name, descending) := hitem
    obtain ⟨f, hf, h⟩ := exists_of_bind_eq_ok h
    obtain ⟨source, hs, h⟩ := exists_of_bind_eq_ok h
    cases h
    rw [hname]
    exact ⟨f, Schema.field?_of_require hf, hs⟩

theorem readFrom_of_order {sort : String} {keys : List OrderKey} (h : c.order sort = .ok keys) :
    c.schema.ReadFrom (c.sortFields (listed sort)) (keys.map (·.source)) := by
  obtain ⟨names, hnames, h⟩ := exists_of_bind_eq_ok h
  rw [listed, hnames]
  cases names with
  | nil =>
    have hstandard : c.standardOrder = .ok keys := h
    rw [standardOrder] at hstandard
    simp only [sortFields]
    cases hprimary : c.schema.field? c.primary with
    | none =>
      rw [hprimary] at hstandard
      cases hstandard
      exact .nil
    | some f =>
      rw [hprimary] at hstandard
      obtain ⟨source, hs, rfl⟩ := exists_of_map_eq_ok hstandard
      exact .cons hs .nil
  | cons name rest =>
    apply Schema.readFrom_of_named
    refine (forall₂_of_mapM_eq_ok h).imp ?_
    exact fun item key hkey => field_of_orderKey hkey

theorem mem_of_mem_sortFields {names : List String} {f : Field} (h : f ∈ c.sortFields names) :
    f ∈ c.schema.fields := by
  cases names with
  | nil => exact Schema.mem_of_field? (Option.mem_toList.mp h)
  | cons name rest =>
    obtain ⟨item, _, hf⟩ := List.mem_flatMap.mp h
    exact Schema.mem_of_field? (Option.mem_toList.mp hf)

/-- The keys of a page read fields of the schema. -/
theorem reads_of_order {sort : String} {keys : List OrderKey} (h : c.order sort = .ok keys) :
    ∀ k ∈ keys, c.schema.Reads k.source := by
  intro k hk
  obtain ⟨f, hf, hs⟩ := exists_of_forall₂ (readFrom_of_order h) (List.mem_map_of_mem hk)
  exact ⟨f, mem_of_mem_sortFields hf, hs⟩

end Compiler

end TagSearch
