import TagSearch.Proofs.Compilation

/-!
# What the conditions of a statement stand for

A condition occurs in a search below some number of negations, and so does a condition in the
formula of a statement.  Every condition of a compiled formula was emitted for a condition of
the search that occurs there with the same sign.

Main results:

- Definitions `Node.signed` and `Formula.signed`: the occurrences of conditions, each with
  whether an odd number of negations stands around it.
- Theorem `Node.emits_of_formula?`: what the conditions of the formula of a node stand for.
- Theorem `Node.eval_congr`: the truth value of a node depends on its conditions only.
-/

namespace TagSearch

/-! ## Occurrences of conditions -/

namespace Node

mutual

/-- The conditions of a node from left to right, each with whether an odd number of negations
stands around it.  The flag tells the same of the node itself. -/
def signed (negated : Bool) : Node → List (Bool × Leaf)
  | leaf l => [(negated, l)]
  | group .neg _ members => signedAll (!negated) members
  | group _ _ members => signedAll negated members

/-- The conditions of several nodes, with their signs. -/
def signedAll (negated : Bool) : List Node → List (Bool × Leaf)
  | [] => []
  | n :: rest => signed negated n ++ signedAll negated rest

end

/-- The conditions of a node from left to right. -/
def leaves (n : Node) : List Leaf :=
  (n.signed false).map Prod.snd

theorem signed_group {op : Operator} (hneg : op ≠ .neg) (negated : Bool) (comparison : Comparison)
    (members : List Node) :
    (group op comparison members).signed negated = signedAll negated members := by
  cases op with
  | neg => exact absurd rfl hneg
  | conj => simp [signed]
  | disj => simp [signed]
  | compare c => simp [signed]

mutual

/-- The conditions are the same whatever the sign of the node is. -/
theorem signed_snd (negated : Bool) : (n : Node) → (n.signed negated).map Prod.snd = n.leaves
  | leaf l => rfl
  | group op comparison members => by
    rw [leaves]
    by_cases hneg : op = .neg
    · subst hneg
      rw [signed, signed, signedAll_snd (!negated) members, signedAll_snd (!false) members]
    · rw [signed_group hneg, signed_group hneg, signedAll_snd negated members,
        signedAll_snd false members]

theorem signedAll_snd (negated : Bool) :
    (ms : List Node) → (signedAll negated ms).map Prod.snd = ms.flatMap leaves
  | [] => rfl
  | n :: rest => by
    rw [signedAll, List.map_append, signed_snd negated n, signedAll_snd negated rest,
      List.flatMap_cons]

end

/-- The conditions of the members of a group are those of the group. -/
theorem leaves_group (op : Operator) (comparison : Comparison) (members : List Node) :
    (group op comparison members).leaves = members.flatMap leaves := by
  rw [leaves]
  by_cases hneg : op = .neg
  · subst hneg
    rw [signed, signedAll_snd]
  · rw [signed_group hneg, signedAll_snd]

theorem mem_leaves_of_mem_signed {n : Node} {negated sign : Bool} {l : Leaf}
    (h : (sign, l) ∈ n.signed negated) : l ∈ n.leaves := by
  rw [← signed_snd negated n]
  exact List.mem_map_of_mem h

end Node

namespace Formula

variable {α : Type} {parts : List (Formula α)} {f : Formula α} {negated sign : Bool} {a : α}

mutual

/-- The conditions of a formula from left to right, each with whether an odd number of
negations stands around it.  The flag tells the same of the formula itself. -/
def signed (negated : Bool) : Formula α → List (Bool × α)
  | atom a => [(negated, a)]
  | conj parts => signedAll negated parts
  | disj parts => signedAll negated parts
  | neg part => signed (!negated) part

/-- The conditions of several formulas, with their signs. -/
def signedAll (negated : Bool) : List (Formula α) → List (Bool × α)
  | [] => []
  | part :: rest => signed negated part ++ signedAll negated rest

end

mutual

theorem signed_snd (negated : Bool) :
    (f : Formula α) → (f.signed negated).map Prod.snd = f.atoms
  | atom _ => rfl
  | conj parts => signedAll_snd negated parts
  | disj parts => signedAll_snd negated parts
  | neg part => signed_snd (!negated) part

theorem signedAll_snd (negated : Bool) :
    (parts : List (Formula α)) → (signedAll negated parts).map Prod.snd = atomsOfAll parts
  | [] => rfl
  | part :: rest => by
    rw [signedAll, List.map_append, signed_snd negated part, signedAll_snd negated rest,
      atomsOfAll]

end

theorem exists_signed_of_mem_atoms (ha : a ∈ f.atoms) (negated : Bool) :
    ∃ sign, (sign, a) ∈ f.signed negated := by
  rw [← signed_snd negated f, List.mem_map] at ha
  obtain ⟨x, hx, rfl⟩ := ha
  exact ⟨x.1, hx⟩

theorem mem_signedAll (h : (sign, a) ∈ signedAll negated parts) :
    ∃ part ∈ parts, (sign, a) ∈ part.signed negated := by
  induction parts with
  | nil => cases h
  | cons p ps ih =>
    rw [signedAll] at h
    rcases List.mem_append.mp h with h | h
    · exact ⟨p, List.mem_cons_self, h⟩
    · obtain ⟨part, hpart, h⟩ := ih h
      exact ⟨part, List.mem_cons_of_mem p hpart, h⟩

theorem mem_signed_of_all? (h : all? parts = some f) (ha : (sign, a) ∈ f.signed negated) :
    ∃ part ∈ parts, (sign, a) ∈ part.signed negated := by
  unfold all? at h
  split at h
  · cases h
  · cases h
    exact ⟨f, List.mem_singleton_self f, ha⟩
  · cases h
    exact mem_signedAll ha

theorem mem_signed_of_any? (h : any? parts = some f) (ha : (sign, a) ∈ f.signed negated) :
    ∃ part ∈ parts, (sign, a) ∈ part.signed negated := by
  unfold any? at h
  split at h
  · cases h
  · cases h
    exact ⟨f, List.mem_singleton_self f, ha⟩
  · cases h
    exact mem_signedAll ha

end Formula

/-! ## Conditions that are emitted -/

namespace Leaf

variable {l : Leaf} {schema : Schema} {f : Formula Condition} {c : Condition}
  {negated sign : Bool}

/-- A condition that is emitted for a condition of a search: on what its category names, or on
a field that its category may match. -/
def Emits (l : Leaf) (schema : Schema) (c : Condition) : Prop :=
  match l.category with
  | .literal name => l.conditionOn schema name = .ok c
  | .pattern _ => ∃ field ∈ schema.fields, l.conditionOn schema field.name = .ok c

theorem emits_literal {name : String} (hl : l.category = .literal name) :
    l.Emits schema c ↔ l.conditionOn schema name = .ok c := by
  rw [Emits, hl]

/-- Whatever is emitted is a condition on something. -/
theorem Emits.conditionOn (h : l.Emits schema c) :
    ∃ category, l.conditionOn schema category = .ok c := by
  cases hcategory : l.category with
  | literal name => exact ⟨name, (emits_literal hcategory).mp h⟩
  | pattern p =>
    rw [Emits, hcategory] at h
    obtain ⟨field, _, h⟩ := h
    exact ⟨field.name, h⟩

/-- The conditions of the formula of a condition of a search are emitted for it. -/
theorem emits_of_formula (h : l.formula schema = .ok f) (hc : (sign, c) ∈ f.signed negated) :
    sign = negated ∧ l.Emits schema c := by
  cases hcategory : l.category with
  | literal name =>
    obtain ⟨c', hc', hf⟩ := condition_of_formula hcategory h
    rw [hf, Formula.signed, List.mem_singleton, Prod.mk.injEq] at hc
    obtain ⟨hsign, hc⟩ := hc
    subst hc
    exact ⟨hsign, (emits_literal hcategory).mpr hc'⟩
  | pattern p =>
    obtain ⟨r, parts, _, hparts, hany⟩ := parts_of_formula hcategory h
    obtain ⟨part, hpart, hmem⟩ := Formula.mem_signed_of_any? hany hc
    obtain ⟨field, hfield, c', hc', hatom⟩ := exists_of_forall₂ hparts hpart
    rw [hatom, Formula.signed, List.mem_singleton, Prod.mk.injEq] at hmem
    obtain ⟨hsign, hc⟩ := hmem
    subst hc
    rw [Emits, hcategory]
    exact ⟨hsign, field, (List.mem_filter.mp hfield).1, hc'⟩

end Leaf

namespace Node

variable {schema : Schema} {negated sign : Bool} {c : Condition}

mutual

/-- Every condition of the formula of a node was emitted for a condition of the node that
occurs with the same sign. -/
theorem emits_of_formula? (schema : Schema) :
    (n : Node) → ∀ {negated sign : Bool} {o : Option (Formula Condition)} {c : Condition},
      n.formula? schema = .ok o → ∀ f ∈ o, (sign, c) ∈ f.signed negated →
        ∃ l, (sign, l) ∈ n.signed negated ∧ l.Emits schema c
  | leaf l, negated, sign, o, c, h => by
    rw [formula?] at h
    obtain ⟨f, hf, ho⟩ := exists_of_map_eq_ok h
    rw [← ho]
    intro f' hf' hc
    cases hf'
    obtain ⟨hsign, hemits⟩ := Leaf.emits_of_formula hf hc
    refine ⟨l, ?_, hemits⟩
    rw [hsign, signed]
    exact List.mem_singleton_self _
  | group op comparison members, negated, sign, o, c, h => by
    -- only a negation turns the sign; the other groups differ in how they join their parts
    by_cases hneg : op = .neg
    · subst hneg
      obtain ⟨n, inner, hmember, hinner, ho⟩ := member_of_formula? h
      subst hmember
      intro f hf hc
      rw [ho, Option.mem_def, Option.map_eq_some_iff] at hf
      obtain ⟨g, hg, hf⟩ := hf
      rw [← hf, Formula.signed] at hc
      obtain ⟨l, hl, hemits⟩ := emits_of_formula? schema n hinner g hg hc
      refine ⟨l, ?_, hemits⟩
      rw [signed, signedAll, signedAll, List.append_nil]
      exact hl
    · obtain ⟨fs, hfs, ho⟩ := formulas_of_formula? hneg h
      intro f hf hc
      rw [ho, Option.mem_def] at hf
      rw [signed_group hneg]
      split at hf
      · obtain ⟨part, hpart, hmem⟩ := Formula.mem_signed_of_any? hf hc
        exact emits_of_formulas schema members hfs part hpart hmem
      · obtain ⟨part, hpart, hmem⟩ := Formula.mem_signed_of_all? hf hc
        exact emits_of_formulas schema members hfs part hpart hmem

theorem emits_of_formulas (schema : Schema) :
    (ms : List Node) → ∀ {negated sign : Bool} {fs : List (Formula Condition)} {c : Condition},
      formulas schema ms = .ok fs → ∀ f ∈ fs, (sign, c) ∈ f.signed negated →
        ∃ l, (sign, l) ∈ signedAll negated ms ∧ l.Emits schema c
  | [], negated, sign, fs, c, h => by
    cases h
    intro f hf
    cases hf
  | n :: rest, negated, sign, fs, c, h => by
    rw [formulas] at h
    obtain ⟨o, ho, h⟩ := exists_of_bind_eq_ok h
    obtain ⟨tail, htail, h⟩ := exists_of_bind_eq_ok h
    cases h
    intro f hf hc
    rw [signedAll]
    rcases List.mem_append.mp hf with hf | hf
    · obtain ⟨l, hl, hemits⟩ := emits_of_formula? schema n ho f (Option.mem_toList.mp hf) hc
      exact ⟨l, List.mem_append_left _ hl, hemits⟩
    · obtain ⟨l, hl, hemits⟩ := emits_of_formulas schema rest htail f hf hc
      exact ⟨l, List.mem_append_right _ hl, hemits⟩

end

/-- Every condition of the formula of a node was emitted for one of its conditions. -/
theorem exists_leaf_of_formula? {n : Node} {f : Formula Condition}
    (h : n.formula? schema = .ok (some f)) (hc : c ∈ f.atoms) :
    ∃ l ∈ n.leaves, l.Emits schema c := by
  obtain ⟨sign, hsigned⟩ := Formula.exists_signed_of_mem_atoms hc false
  obtain ⟨l, hl, hemits⟩ := n.emits_of_formula? schema h f rfl hsigned
  exact ⟨l, mem_leaves_of_mem_signed hl, hemits⟩

/-! ## Evaluation -/

variable {m : Type → Type} [Monad m] {test test' : Leaf → ExceptT Error m Bool}

mutual

/-- The truth value of a node depends on its conditions only. -/
theorem eval_congr : (n : Node) → (∀ l ∈ n.leaves, test l = test' l) →
    n.eval test = n.eval test'
  | leaf l, h => h l (List.mem_singleton_self l)
  | group op comparison members, h => by
    have hmembers : ∀ l ∈ members.flatMap leaves, test l = test' l := by
      rwa [leaves_group] at h
    cases op with
    | conj =>
      simp only [eval]
      exact evalAll_congr members hmembers
    | disj =>
      simp only [eval]
      exact evalAny_congr members hmembers
    | compare c =>
      simp only [eval]
      exact evalAll_congr members hmembers
    | neg =>
      match members, hmembers with
      | [], _ => rfl
      | [n], hmembers =>
        rw [eval, eval, eval_congr n fun l hl => hmembers l (by simpa using hl)]
      | _ :: _ :: _, _ => rfl

theorem evalAll_congr : (ms : List Node) → (∀ l ∈ ms.flatMap leaves, test l = test' l) →
    evalAll test ms = evalAll test' ms
  | [], _ => rfl
  | n :: rest, h => by
    rw [List.flatMap_cons] at h
    rw [evalAll, evalAll, eval_congr n fun l hl => h l (List.mem_append_left _ hl),
      evalAll_congr rest fun l hl => h l (List.mem_append_right _ hl)]

theorem evalAny_congr : (ms : List Node) → (∀ l ∈ ms.flatMap leaves, test l = test' l) →
    evalAny test ms = evalAny test' ms
  | [], _ => rfl
  | n :: rest, h => by
    rw [List.flatMap_cons] at h
    rw [evalAny, evalAny, eval_congr n fun l hl => h l (List.mem_append_left _ hl),
      evalAny_congr rest fun l hl => h l (List.mem_append_right _ hl)]

end

end Node

end TagSearch
