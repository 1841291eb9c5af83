import TagSearch.Proofs.Framing

/-!
# How a search compiles

What the parts of a search were found to be, if it compiles.

Main results:

- Theorem `Leaf.path_of_conditionOn`: the category is a path from a field of the schema.
- Theorem `Leaf.parts_of_formula`: a pattern stands for the conditions on the fields that it
  matches.
- Theorems `Node.member_of_formula?` and `Node.formulas_of_formula?`: the formula of a group
  is made of those of its members.
- Theorems `Compiler.page_of_pagePlan` and `Compiler.groups_of_groupPlan`: what the plan of a
  request is made of.
- Theorem `Compiler.plan_of_selectPlan`: which of the two a request asks for.
- Theorem `Compiler.formula?_of_selectPlan`: the condition of a plan is that of the search.
- Theorems `Compiler.row_of_insertPlan` and `Compiler.equations_of_updatePlan`: what writes are
  made of.
-/

namespace TagSearch

/-- A field that has to be there is the first of its name. -/
theorem Schema.field?_of_require {s : Schema} {name : String} {f : Field}
    (h : s.require name = .ok f) : s.field? name = some f := by
  rw [require] at h
  cases hfield : s.field? name with
  | none =>
    rw [hfield] at h
    cases h
  | some f' =>
    rw [hfield] at h
    rw [Except.ok.inj h]

theorem Schema.require_eq_ok_iff {s : Schema} {name : String} {f : Field} :
    s.require name = .ok f ↔ s.field? name = some f := by
  refine ⟨Schema.field?_of_require, fun h => ?_⟩
  rw [require, h]

namespace Leaf

variable {l : Leaf} {schema : Schema} {f : Formula Condition}

/-- What a category names, if a condition on it compiles. -/
theorem path_of_conditionOn {category : String} {c : Condition}
    (hc : l.conditionOn schema category = .ok c) :
    ∃ path f s, Path.parse? category = some path ∧ schema.field? path.field = some f ∧
      schema.source f = .ok s ∧ l.fieldCondition f s category path.segments = .ok c := by
  rw [conditionOn] at hc
  cases hpath : Path.parse? category with
  | none =>
    rw [hpath] at hc
    cases hc
  | some path =>
    rw [hpath] at hc
    obtain ⟨f, hf, hc⟩ := exists_of_bind_eq_ok hc
    obtain ⟨s, hs, hc⟩ := exists_of_bind_eq_ok hc
    exact ⟨path, f, s, rfl, Schema.field?_of_require hf, hs, hc⟩

theorem condition_of_formula {name : String} (hl : l.category = .literal name)
    (hf : l.formula schema = .ok f) :
    ∃ c, l.conditionOn schema name = .ok c ∧ f = .atom c := by
  simp only [formula, hl] at hf
  obtain ⟨c, hc, hatom⟩ := exists_of_map_eq_ok hf
  exact ⟨c, hc, hatom.symm⟩

/-- The formulas of conditions on fields. -/
abbrev FieldFormulas (l : Leaf) (schema : Schema) :
    List Field → List (Formula Condition) → Prop :=
  List.Forall₂ fun f part => ∃ c, l.conditionOn schema f.name = .ok c ∧ part = .atom c

theorem parts_of_formula {p : String} (hl : l.category = .pattern p)
    (hf : l.formula schema = .ok f) :
    ∃ r parts, compilePattern p = .ok r ∧
      l.FieldFormulas schema (schema.fields.filter fun f => r.isMatch f.name) parts ∧
      Formula.any? parts = some f := by
  simp only [formula, hl] at hf
  obtain ⟨r, hr, hf⟩ := exists_of_bind_eq_ok hf
  obtain ⟨parts, hparts, hf⟩ := exists_of_bind_eq_ok hf
  have hformulas : l.FieldFormulas schema (schema.fields.filter fun f => r.isMatch f.name)
      parts := by
    refine (forall₂_of_mapM_eq_ok hparts).imp ?_
    intro field part hpart
    obtain ⟨c, hc, hatom⟩ := exists_of_map_eq_ok hpart
    exact ⟨c, hc, hatom.symm⟩
  cases hany : Formula.any? parts with
  | none =>
    rw [hany] at hf
    cases hf
  | some f' =>
    rw [hany] at hf
    rw [Except.ok.inj hf] at hany
    exact ⟨r, parts, hr, hformulas, hany⟩

end Leaf

namespace Node

variable {schema : Schema} {comparison : Comparison} {members : List Node}
  {o : Option (Formula Condition)}

/-- A negation that compiles has one member. -/
theorem member_of_formula? (h : (group .neg comparison members).formula? schema = .ok o) :
    ∃ n inner, members = [n] ∧ n.formula? schema = .ok inner ∧ o = inner.map .neg := by
  match members with
  | [] => cases h
  | [n] =>
    rw [formula?] at h
    obtain ⟨inner, hinner, h⟩ := exists_of_bind_eq_ok h
    exact ⟨n, inner, rfl, hinner, (Except.ok.inj h).symm⟩
  | _ :: _ :: _ => cases h

/-- The formula of another group is made of those of its members. -/
theorem formulas_of_formula? {op : Operator} (hneg : op ≠ .neg)
    (h : (group op comparison members).formula? schema = .ok o) :
    ∃ fs, formulas schema members = .ok fs ∧
      o = if op = .disj then Formula.any? fs else Formula.all? fs := by
  cases op with
  | neg => exact absurd rfl hneg
  | disj =>
    rw [formula?] at h
    obtain ⟨fs, hfs, h⟩ := exists_of_bind_eq_ok h
    exact ⟨fs, hfs, (Except.ok.inj h).symm⟩
  | conj =>
    simp only [formula?] at h
    obtain ⟨fs, hfs, h⟩ := exists_of_bind_eq_ok h
    exact ⟨fs, hfs, (Except.ok.inj h).symm⟩
  | compare c =>
    simp only [formula?] at h
    obtain ⟨fs, hfs, h⟩ := exists_of_bind_eq_ok h
    exact ⟨fs, hfs, (Except.ok.inj h).symm⟩

end Node

namespace Compiler

variable {c : Compiler} {t : Tree} {q : Query} {s : Select}

/-- What a page of rows is made of. -/
theorem page_of_pagePlan (h : c.pagePlan t q = .ok s) :
    ∃ size items condition keys, c.pageSize q.size = .ok size ∧ c.outputs = .ok items ∧
      t.formula? c.schema = .ok condition ∧ c.order q.sort = .ok keys ∧
      s = ⟨c.schema.table, items,
        c.joins (items.map (·.source) ++ formulaSources condition ++ keys.map (·.source)),
        condition, .page keys (rowLimit size) q.skip⟩ := by
  obtain ⟨size, hsize, h⟩ := exists_of_bind_eq_ok h
  by_cases hskip : maxRowCount < q.skip
  · rw [if_pos hskip] at h
    cases h
  · rw [if_neg hskip] at h
    obtain ⟨items, hitems, h⟩ := exists_of_bind_eq_ok h
    obtain ⟨condition, hcondition, h⟩ := exists_of_bind_eq_ok h
    obtain ⟨keys, hkeys, h⟩ := exists_of_bind_eq_ok h
    exact ⟨size, items, condition, keys, hsize, hitems, hcondition, hkeys,
      (Except.ok.inj h).symm⟩

/-- What a count of rows by groups is made of. -/
theorem groups_of_groupPlan {names : List String} (h : c.groupPlan t names = .ok s) :
    ∃ condition items, t.formula? c.schema = .ok condition ∧
      names.mapM c.groupOutput = .ok items ∧
      s = ⟨c.schema.table, items,
        c.joins (formulaSources condition ++ items.map (·.source)), condition,
        .groups (items.map (·.source))⟩ := by
  obtain ⟨condition, hcondition, h⟩ := exists_of_bind_eq_ok h
  obtain ⟨items, hitems, h⟩ := exists_of_bind_eq_ok h
  exact ⟨condition, items, hcondition, hitems, (Except.ok.inj h).symm⟩

/-- A request without names to group by asks for a page of rows, and another for a count by
groups. -/
theorem plan_of_selectPlan (h : c.selectPlan t q = .ok s) :
    ∃ names, Query.names q.summary = .ok names ∧
      ((names = [] ∧ c.pagePlan t q = .ok s) ∨ (names ≠ [] ∧ c.groupPlan t names = .ok s)) := by
  obtain ⟨names, hnames, h⟩ := exists_of_bind_eq_ok h
  refine ⟨names, hnames, ?_⟩
  cases names with
  | nil => exact .inl ⟨rfl, h⟩
  | cons name rest => exact .inr ⟨List.cons_ne_nil name rest, h⟩

/-- The condition of a selection is the formula of the search. -/
theorem formula?_of_selectPlan (h : c.selectPlan t q = .ok s) :
    t.formula? c.schema = .ok s.condition := by
  obtain ⟨names, _, ⟨_, hpage⟩ | ⟨_, hgroups⟩⟩ := plan_of_selectPlan h
  · obtain ⟨size, items, condition, keys, _, _, hcondition, _, hplan⟩ := page_of_pagePlan hpage
    rw [hplan, hcondition]
  · obtain ⟨condition, items, hcondition, _, hplan⟩ := groups_of_groupPlan hgroups
    rw [hplan, hcondition]

/-- What a write that returns the rows it wrote is made of. -/
theorem items_of_mutation {write : Write} {m : Mutation} (h : c.mutation write = .ok m) :
    ∃ items, c.outputs = .ok items ∧
      m = ⟨c.schema.table, write, items, c.joins (items.map (·.source))⟩ := by
  obtain ⟨items, hitems, h⟩ := exists_of_bind_eq_ok h
  exact ⟨items, hitems, (Except.ok.inj h).symm⟩

/-- What an insert writes. -/
theorem row_of_insertPlan {set : List String} {params : List Param} {m : Mutation}
    (h : c.insertPlan set params = .ok m) :
    ∃ row conflict, c.schema.equations set params = .ok row ∧
      c.schema.conflict = .ok conflict ∧ c.mutation (.insert row conflict) = .ok m := by
  obtain ⟨_, _, h⟩ := exists_of_bind_eq_ok h
  by_cases hset : set.isEmpty = true
  · rw [if_pos hset] at h
    cases h
  · rw [if_neg hset] at h
    obtain ⟨row, hrow, h⟩ := exists_of_bind_eq_ok h
    obtain ⟨conflict, hconflict, h⟩ := exists_of_bind_eq_ok h
    exact ⟨row, conflict, hrow, hconflict, h⟩

/-- What an update writes, and to which rows. -/
theorem equations_of_updatePlan {set keys : List String} {params : List Param} {m : Mutation}
    (h : c.updatePlan set keys params = .ok m) :
    ∃ assignments conditions, c.schema.equations set params = .ok assignments ∧
      c.schema.equations keys (params.drop set.length) = .ok conditions ∧
      c.mutation (.update assignments conditions) = .ok m := by
  obtain ⟨_, _, h⟩ := exists_of_bind_eq_ok h
  by_cases hset : set.isEmpty = true
  · rw [if_pos hset] at h
    cases h
  · rw [if_neg hset] at h
    by_cases hkeys : keys.isEmpty = true
    · rw [if_pos hkeys] at h
      cases h
    · rw [if_neg hkeys] at h
      obtain ⟨assignments, hassignments, h⟩ := exists_of_bind_eq_ok h
      obtain ⟨conditions, hconditions, h⟩ := exists_of_bind_eq_ok h
      exact ⟨assignments, conditions, hassignments, hconditions, h⟩

end Compiler

end TagSearch
