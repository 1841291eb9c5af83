import TagSearch.Command.Check
import TagSearch.Proofs.Grammar
import TagSearch.Proofs.JsonText
import TagSearch.Proofs.RoundTrip

/-!
# Trees described by JSON

A JSON value describes a node by an object that names its operator and its comparison, and its
category, its value and its members as far as it has them, in ascending order of the names and with
nothing besides.  A tree is described by an object with its root.

A check of the syntax reads such a description from the JSON text of the tree.  It finds every
search well formed that parses, except those in which more than sixty-one groups stand in each
other: there the reader of the text gives up.

Main results:

- Definition `Tree.ofJson?`: the tree that a JSON value describes.
- Theorem `Tree.ofJson?_eq_some_iff`: exactly one value describes a tree.
- Theorem `Tree.nesting_toJson_le_iff`: how deeply groups can stand in each other.
- Theorem `Check.run_syntaxOnly`: what a check of the syntax answers.
- Theorem `Check.run_tooDeep`: a search that parses is not found well formed.
-/

namespace TagSearch

/-! ## What a value describes -/

namespace Comparison

/-- The comparison that a word names. -/
def ofKeyword? (word : String) : Option Comparison :=
  (Operator.ofKeyword? word).bind Operator.comparison?

theorem ofKeyword?_keyword (c : Comparison) : ofKeyword? c.keyword = some c := by
  have hop : Operator.ofKeyword? c.keyword = some (.compare c) :=
    Operator.ofKeyword?_keyword (.compare c)
  rw [ofKeyword?, hop]
  rfl

theorem eq_keyword_of_ofKeyword? {word : String} {c : Comparison}
    (h : ofKeyword? word = some c) : word = c.keyword := by
  obtain ⟨op, hop, hc⟩ := Option.bind_eq_some_iff.mp h
  rw [Operator.eq_keyword_of_ofKeyword? hop]
  cases op with
  | compare d => rw [← Option.some.inj hc, Operator.keyword]
  | conj => cases hc
  | disj => cases hc
  | neg => cases hc

end Comparison

namespace Term

/-- The term that a value describes. -/
def ofJson? : Json → Option Term
  | .object [("text", .string text), ("type", .string "literal")] => some (.literal text)
  | .object [("text", .string text), ("type", .string "pattern")] => some (.pattern text)
  | _ => none

end Term

namespace Node

mutual

/-- The node that a value describes. -/
def ofJson? : Json → Option Node
  | .object [("category", category), ("comp", .string comparison), ("op", .string "match")] => do
    some (.leaf ⟨← Comparison.ofKeyword? comparison, ← Term.ofJson? category, none⟩)
  | .object [("category", category), ("comp", .string comparison), ("op", .string "match"),
      ("value", value)] => do
    some (.leaf ⟨← Comparison.ofKeyword? comparison, ← Term.ofJson? category,
      some (← Term.ofJson? value)⟩)
  | .object [("comp", .string comparison), ("op", .string op)] => do
    some (.group (← Operator.ofKeyword? op) (← Comparison.ofKeyword? comparison) [])
  | .object [("children", .array (first :: others)), ("comp", .string comparison),
      ("op", .string op)] => do
    some (.group (← Operator.ofKeyword? op) (← Comparison.ofKeyword? comparison)
      ((← ofJson? first) :: (← ofJsonAll? others)))
  | _ => none

/-- The nodes that the values of a list describe. -/
def ofJsonAll? : List Json → Option (List Node)
  | [] => some []
  | v :: rest => do some ((← ofJson? v) :: (← ofJsonAll? rest))

end

end Node

/-- The tree that a value describes. -/
def Tree.ofJson? : Json → Option Tree
  | .object [("root", root)] => (Node.ofJson? root).map Tree.mk
  | _ => none

/-! ## The one value that describes a tree -/

/-! The JSON form of each kind of term and node, its members in ascending order of their names. -/

theorem Term.normalize_literal (s : String) :
    (literal s).toJson.normalize = .object [("text", .string s), ("type", .string "literal")] :=
  rfl

theorem Term.normalize_pattern (s : String) :
    (pattern s).toJson.normalize = .object [("text", .string s), ("type", .string "pattern")] :=
  rfl

namespace Node

theorem normalize_absent (comparison : Comparison) (category : Term) :
    (leaf ⟨comparison, category, none⟩).toJson.normalize =
      .object [("category", category.toJson.normalize), ("comp", .string comparison.keyword),
        ("op", .string "match")] :=
  rfl

theorem normalize_present (comparison : Comparison) (category value : Term) :
    (leaf ⟨comparison, category, some value⟩).toJson.normalize =
      .object [("category", category.toJson.normalize), ("comp", .string comparison.keyword),
        ("op", .string "match"), ("value", value.toJson.normalize)] :=
  rfl

theorem normalize_emptyGroup (op : Operator) (comparison : Comparison) :
    (group op comparison []).toJson.normalize =
      .object [("comp", .string comparison.keyword), ("op", .string op.keyword)] :=
  rfl

theorem normalize_group (op : Operator) (comparison : Comparison) (m : Node) (ms : List Node) :
    (group op comparison (m :: ms)).toJson.normalize =
      .object [("children", .array (m.toJson.normalize :: Json.normalizeItems (toJsonAll ms))),
        ("comp", .string comparison.keyword), ("op", .string op.keyword)] :=
  rfl

end Node

/-- A term is described by its JSON form, and by no other value. -/
theorem Term.ofJson?_eq_some_iff {j : Json} {t : Term} :
    ofJson? j = some t ↔ j = t.toJson.normalize := by
  constructor
  · intro h
    unfold ofJson? at h
    split at h
    · rw [← Option.some.inj h, normalize_literal]
    · rw [← Option.some.inj h, normalize_pattern]
    · cases h
  · rintro rfl
    cases t with
    | literal s => rw [normalize_literal, ofJson?]
    | pattern s => rw [normalize_pattern, ofJson?]

namespace Node

mutual

theorem ofJson?_normalize : (n : Node) → ofJson? n.toJson.normalize = some n
  | .leaf ⟨comparison, category, none⟩ => by
    simp [normalize_absent, ofJson?, Comparison.ofKeyword?_keyword,
      Term.ofJson?_eq_some_iff.mpr rfl]
  | .leaf ⟨comparison, category, some value⟩ => by
    simp [normalize_present, ofJson?, Comparison.ofKeyword?_keyword,
      Term.ofJson?_eq_some_iff.mpr rfl]
  | .group op comparison [] => by
    simp [normalize_emptyGroup, ofJson?, Comparison.ofKeyword?_keyword,
      Operator.ofKeyword?_keyword]
  | .group op comparison (m :: ms) => by
    simp [normalize_group, ofJson?, Comparison.ofKeyword?_keyword, Operator.ofKeyword?_keyword,
      ofJson?_normalize m, ofJsonAll?_normalizeItems ms]

theorem ofJsonAll?_normalizeItems :
    (ns : List Node) → ofJsonAll? (Json.normalizeItems (toJsonAll ns)) = some ns
  | [] => rfl
  | n :: ns => by
    simp [toJsonAll, Json.normalizeItems, ofJsonAll?, ofJson?_normalize n,
      ofJsonAll?_normalizeItems ns]

end

mutual

theorem normalize_of_ofJson? (j : Json) (n : Node) (h : ofJson? j = some n) :
    j = n.toJson.normalize := by
  unfold ofJson? at h
  split at h
  · simp only [Option.bind_eq_bind, Option.bind_eq_some_iff, Option.some.injEq] at h
    obtain ⟨comparison, hcomparison, category, hcategory, rfl⟩ := h
    rw [normalize_absent, Comparison.eq_keyword_of_ofKeyword? hcomparison,
      Term.ofJson?_eq_some_iff.mp hcategory]
  · simp only [Option.bind_eq_bind, Option.bind_eq_some_iff, Option.some.injEq] at h
    obtain ⟨comparison, hcomparison, category, hcategory, value, hvalue, rfl⟩ := h
    rw [normalize_present, Comparison.eq_keyword_of_ofKeyword? hcomparison,
      Term.ofJson?_eq_some_iff.mp hcategory, Term.ofJson?_eq_some_iff.mp hvalue]
  · simp only [Option.bind_eq_bind, Option.bind_eq_some_iff, Option.some.injEq] at h
    obtain ⟨op, hop, comparison, hcomparison, rfl⟩ := h
    rw [normalize_emptyGroup, Comparison.eq_keyword_of_ofKeyword? hcomparison,
      Operator.eq_keyword_of_ofKeyword? hop]
  · next first others _ _ =>
    simp only [Option.bind_eq_bind, Option.bind_eq_some_iff, Option.some.injEq] at h
    obtain ⟨op, hop, comparison, hcomparison, m, hm, ms, hms, rfl⟩ := h
    rw [normalize_group, Comparison.eq_keyword_of_ofKeyword? hcomparison,
      Operator.eq_keyword_of_ofKeyword? hop, ← normalize_of_ofJson? first m hm,
      ← normalizeItems_of_ofJsonAll? others ms hms]
  · cases h

theorem normalizeItems_of_ofJsonAll? (js : List Json) (ns : List Node)
    (h : ofJsonAll? js = some ns) : js = Json.normalizeItems (toJsonAll ns) := by
  cases js with
  | nil =>
    cases h
    rfl
  | cons v rest =>
    simp only [ofJsonAll?, Option.bind_eq_bind, Option.bind_eq_some_iff, Option.some.injEq] at h
    obtain ⟨n, hn, ns, hns, rfl⟩ := h
    rw [toJsonAll, Json.normalizeItems, ← normalize_of_ofJson? v n hn,
      ← normalizeItems_of_ofJsonAll? rest ns hns]

end

end Node

/-- A tree is described by its JSON form with the members of each object in order, and by no other
value. -/
theorem Tree.ofJson?_eq_some_iff {j : Json} {t : Tree} :
    ofJson? j = some t ↔ j = t.toJson.normalize := by
  have hroot : t.toJson.normalize = .object [("root", t.root.toJson.normalize)] := rfl
  rw [hroot]
  constructor
  · intro h
    unfold ofJson? at h
    split at h
    · next root =>
      obtain ⟨n, hn, rfl⟩ := Option.map_eq_some_iff.mp h
      rw [← Node.normalize_of_ofJson? root n hn]
    · cases h
  · rintro rfl
    rw [ofJson?, Node.ofJson?_normalize]
    rfl

/-! ## Levels of a tree -/

namespace Node

mutual

/-- How many groups of a node stand in each other. -/
def levels : Node → Nat
  | .leaf _ => 0
  | .group _ _ members => levelsOf members + 1

/-- How many groups of the nodes of a list stand in each other. -/
def levelsOf : List Node → Nat
  | [] => 0
  | n :: ns => max n.levels (levelsOf ns)

end

theorem isNumberFree_term (t : Term) : t.toJson.isNumberFree = true := by
  cases t with
  | literal s => rfl
  | pattern s => rfl

mutual

theorem isNumberFree_toJson : (n : Node) → n.toJson.isNumberFree = true
  | .leaf ⟨comparison, category, none⟩ => by
    simp [toJson, Json.isNumberFree, Json.membersNumberFree, isNumberFree_term]
  | .leaf ⟨comparison, category, some value⟩ => by
    simp [toJson, Json.isNumberFree, Json.membersNumberFree, isNumberFree_term]
  | .group op comparison [] => rfl
  | .group op comparison (m :: ms) => by
    simp [toJson, Json.isNumberFree, Json.membersNumberFree, Json.allNumberFree,
      isNumberFree_toJson m, allNumberFree_toJsonAll ms]

theorem allNumberFree_toJsonAll : (ns : List Node) → Json.allNumberFree (toJsonAll ns) = true
  | [] => rfl
  | n :: ns => by
    simp [toJsonAll, Json.allNumberFree, isNumberFree_toJson n, allNumberFree_toJsonAll ns]

end

theorem nesting_term (t : Term) : t.toJson.nesting = 1 := by
  cases t with
  | literal s => rfl
  | pattern s => rfl

theorem nesting_leaf (l : Leaf) : (leaf l).toJson.nesting = 2 := by
  cases hvalue : l.value with
  | none => simp [toJson, hvalue, Json.nesting, Json.nestingOfMembers, nesting_term]
  | some v => simp [toJson, hvalue, Json.nesting, Json.nestingOfMembers, nesting_term]

/-- The least nesting, that of a condition, is left out of the count. -/
theorem nestingOfItems_toJsonAll {ns : List Node}
    (h : ∀ n ∈ ns, n.toJson.nesting = 2 * n.levels + 2) :
    max (Json.nestingOfItems (toJsonAll ns)) 2 = 2 * levelsOf ns + 2 := by
  induction ns with
  | nil => rfl
  | cons n ns ih =>
    rw [List.forall_mem_cons] at h
    have hns := ih h.2
    rw [toJsonAll, Json.nestingOfItems, levelsOf, h.1]
    omega

/-- Each group adds the object of its node and the array of its members. -/
theorem nesting_group {op : Operator} {comparison : Comparison} {members : List Node}
    (hne : members ≠ []) (h : ∀ n ∈ members, n.toJson.nesting = 2 * n.levels + 2) :
    (group op comparison members).toJson.nesting =
      2 * (group op comparison members).levels + 2 := by
  cases members with
  | nil => exact absurd rfl hne
  | cons m ms =>
    have hitems := nestingOfItems_toJsonAll h
    have hm : 2 ≤ Json.nestingOfItems (toJsonAll (m :: ms)) := by
      have hfirst := h m List.mem_cons_self
      rw [toJsonAll, Json.nestingOfItems]
      omega
    rw [toJsonAll] at hitems hm
    simp only [toJson, Json.nesting, Json.nestingOfMembers, levels]
    omega

theorem IsScoped.nesting_toJson {primary : String} {comparison : Comparison} {n : Node}
    (h : n.IsScoped primary comparison) : n.toJson.nesting = 2 * n.levels + 2 := by
  induction h with
  | leaf _ _ => exact nesting_leaf _
  | group hne _ ih => exact nesting_group hne ih

end Node

namespace Tree

theorem isNumberFree_toJson (t : Tree) : t.toJson.isNumberFree = true := by
  simp [toJson, Json.isNumberFree, Json.membersNumberFree, Node.isNumberFree_toJson]

/-- The reader of JSON goes down into a root and sixty-one groups in each other. -/
theorem nesting_toJson_le_iff {primary : String} {members : List Node}
    (h : ∀ n ∈ members, n.IsScoped primary .equal) :
    (ofMembers members).toJson.nesting ≤ Json.maxDepth ↔ (ofMembers members).root.levels ≤ 62 := by
  by_cases hne : members = []
  · subst hne
    decide
  · have hroot : (ofMembers members).root.toJson.nesting =
        2 * (ofMembers members).root.levels + 2 :=
      Node.nesting_group hne fun n hn => (h n hn).nesting_toJson
    rw [toJson, Json.nesting, Json.nestingOfMembers, Json.nestingOfMembers, hroot, Json.maxDepth]
    omega

end Tree

/-! ## Checks of the syntax -/

namespace Check

variable {query primary : String} {rawBase64 : Bool} {input : Option String} {t : Tree}

/-- A search that parses is found well formed unless it is nested too deeply. -/
theorem run_of_parse (h : Tree.parse query primary { decodeBase64 := !rawBase64 } = .ok t) :
    run { query, input, primary, rawBase64, syntaxOnly := true } =
      if t.root.levels ≤ 62 then .ok (.wellFormed t.canonical t.toJson.normalize)
      else .error .malformedJson := by
  obtain ⟨members, rfl, hmembers⟩ := Tree.exists_members_of_parse h
  have hread := Json.parse_compact (Tree.isNumberFree_toJson (.ofMembers members))
  simp only [Tree.nesting_toJson_le_iff hmembers] at hread
  simp only [run, parse, h, if_true, treeJson, hread]
  by_cases hlevels : (Tree.ofMembers members).root.levels ≤ 62
  · rw [if_pos hlevels, if_pos hlevels]
    rfl
  · rw [if_neg hlevels, if_neg hlevels]
    rfl

/-- What a check of the syntax answers, whatever document it is given. -/
theorem run_syntaxOnly (query primary : String) (rawBase64 : Bool) (input : Option String) :
    let check : Check := { query, input, primary, rawBase64, syntaxOnly := true }
    match Tree.parse query primary { decodeBase64 := !rawBase64 } with
    | .error e => check.run = .error (.query (.syntaxError e))
    | .ok t =>
      if t.root.levels ≤ 62 then
        ∃ j, check.run = .ok (.wellFormed t.canonical j) ∧ Tree.ofJson? j = some t
      else check.run = .error .malformedJson := by
  intro check
  split
  · next e he => exact run_eq_of_parse_error he
  · next t ht =>
    have hrun : check.run = _ := run_of_parse ht
    rw [hrun]
    split
    · exact ⟨_, rfl, Tree.ofJson?_eq_some_iff.mpr rfl⟩
    · rfl

end Check

/-! ## A search that is nested too deeply -/

namespace Node

/-- A bare value in a number of conjunctions. -/
def nested : Nat → Node
  | 0 => .leaf ⟨.equal, .literal defaultPrimary, some (.literal "a")⟩
  | n + 1 => .group .conj .equal [nested n]

theorem isScoped_nested (n : Nat) : (nested n).IsScoped defaultPrimary .equal := by
  induction n with
  | zero =>
    refine .leaf rfl ⟨.inl rfl, fun v hv => ⟨"a", ?_⟩⟩
    rw [← Option.some.inj hv]
    decide
  | succ n ih => exact .group (List.cons_ne_nil _ _) (List.forall_mem_singleton.mpr ih)

theorem levels_nested (n : Nat) : (nested n).levels = n := by
  induction n with
  | zero => rfl
  | succ n ih => rw [nested, levels, levelsOf, levelsOf, ih, Nat.max_zero]

/-- However many conjunctions there are, their canonical text is parsed. -/
theorem parse_nested (n : Nat) :
    Tree.parse (nested n).canonical = .ok (.ofMembers [nested n]) :=
  Tree.parse_item rfl (accepts_node (by decide) (by decide) (isScoped_nested n))

end Node

/-- Sixty-two conjunctions in each other parse, but they are not found well formed. -/
theorem Check.run_tooDeep :
    let check : Check := { query := (Node.nested 62).canonical, syntaxOnly := true }
    Tree.parse check.query check.primary { decodeBase64 := !check.rawBase64 } =
        .ok (.ofMembers [Node.nested 62]) ∧
      check.run = .error .malformedJson ∧
      ¬ ∃ canonical j, check.run = .ok (.wellFormed canonical j) := by
  intro check
  have hparse := Node.parse_nested 62
  have hrun : check.run = .error .malformedJson := by
    have hlevels : (Tree.ofMembers [Node.nested 62]).root.levels = 63 :=
      Node.levels_nested 63
    rw [Check.run_of_parse hparse, hlevels]
    rfl
  refine ⟨hparse, hrun, ?_⟩
  rintro ⟨canonical, j, hok⟩
  rw [hrun] at hok
  cases hok

end TagSearch
