import TagSearch.Proofs.RoundTrip
import TagSearch.Query.Json

/-!
# Well-formed trees

A node is seen as the record that its JSON form lists: an operator, a comparison, and as far as it
has them a category, a value and members.  In a parsed tree every record below the root is that of
a condition or of a group with members, its comparison is that of the nearest keyword around it,
and its terms hold no stand-in that a later stage could not tell from a written character.

Main results:

- Theorem `Node.toJson_eq`: the JSON form of a node lists the fields of its record.
- Theorem `Tree.isScoped_of_standsIn`: a node of a parsed tree is scoped under the comparison
  that the groups around it fix.
- Theorem `Tree.isWellFormed_of_parse`: parsed trees are well formed.
-/

namespace TagSearch

/-! ## Nodes as records -/

namespace Node

/-- The operator of a node.  A condition has that of a plain comparison. -/
def operator : Node → Operator
  | .leaf _ => .compare .equal
  | .group op _ _ => op

/-- The comparison in force at a node. -/
def comparison : Node → Comparison
  | .leaf l => l.comparison
  | .group _ comparison _ => comparison

/-- The category of a node, if it has one. -/
def category? : Node → Option Term
  | .leaf l => some l.category
  | .group .. => none

/-- The value of a node, if it has one. -/
def value? : Node → Option Term
  | .leaf l => l.value
  | .group .. => none

/-- The members of a node. -/
def members : Node → List Node
  | .leaf _ => []
  | .group _ _ members => members

theorem toJsonAll_eq_map (ns : List Node) : toJsonAll ns = ns.map toJson := by
  induction ns with
  | nil => rfl
  | cons n ns ih => rw [toJsonAll, ih, List.map_cons]

/-- The JSON form of a node lists the fields of its record. -/
theorem toJson_eq (n : Node) :
    n.toJson = .object ([("op", .string n.operator.keyword),
        ("comp", .string n.comparison.keyword)] ++
      (n.category?.map fun c => ("category", c.toJson)).toList ++
      (n.value?.map fun v => ("value", v.toJson)).toList ++
      if n.members = [] then [] else [("children", .array (n.members.map toJson))]) := by
  cases n with
  | leaf l =>
    have hkeyword : Comparison.equal.keyword = (Operator.compare .equal).keyword := rfl
    cases hvalue : l.value with
    | none => simp [toJson, operator, comparison, category?, value?, members, hvalue, hkeyword]
    | some v => simp [toJson, operator, comparison, category?, value?, members, hvalue, hkeyword]
  | group op comparison ms =>
    cases ms with
    | nil => simp [toJson, operator, Node.comparison, category?, value?, members]
    | cons m ms =>
      simp [toJson, operator, Node.comparison, category?, value?, members, toJsonAll_eq_map]

/-- A condition: its operator is that of a plain comparison, and it has a category but no
members. -/
structure IsCondition (n : Node) : Prop where
  operator : n.operator = .compare .equal
  category : n.category?.isSome
  members : n.members = []

/-- A group that is not empty: it has members, but neither a category nor a value. -/
structure IsFullGroup (n : Node) : Prop where
  category : n.category? = none
  value : n.value? = none
  members : n.members ≠ []

end Node

/-! ## Nodes of a tree -/

/-- A node stands in a tree, below groups with the given operators, the nearest one first.  The
root stands below none. -/
inductive Node.StandsIn (t : Tree) : List Operator → Node → Prop where
  | root : StandsIn t [] t.root
  | member {above : List Operator} {op : Operator} {comparison : Comparison} {members : List Node}
      {n : Node} (hgroup : StandsIn t above (.group op comparison members)) (hn : n ∈ members) :
      StandsIn t (op :: above) n

/-- The comparison that a chain of operators fixes, the nearest one first.  It is equality where
none of them is a comparison. -/
def Operator.nearest (ops : List Operator) : Comparison :=
  (ops.findSome? Operator.comparison?).getD .equal

theorem Operator.nearest_cons (op : Operator) (above : List Operator) :
    nearest (op :: above) = op.inner (nearest above) := by
  cases op with
  | compare c => rfl
  | conj => rfl
  | disj => rfl
  | neg => rfl

/-- The operators that govern a node, the nearest one first: its own if it is a group, then those
of the groups around it. -/
def Node.governing (above : List Operator) : Node → List Operator
  | .leaf _ => above
  | .group op _ _ => op :: above

namespace Node.IsScoped

variable {primary : String} {comparison : Comparison} {above : List Operator} {n : Node}

theorem comparison_eq (h : n.IsScoped primary (Operator.nearest above)) :
    n.comparison = Operator.nearest (n.governing above) := by
  cases h with
  | leaf hcomparison _ => exact hcomparison
  | group _ _ => exact (Operator.nearest_cons _ above).symm

theorem isCondition_or_isFullGroup (h : n.IsScoped primary comparison) :
    n.IsCondition ∨ n.IsFullGroup := by
  cases h with
  | leaf _ _ => exact Or.inl ⟨rfl, rfl, rfl⟩
  | group hne _ => exact Or.inr ⟨rfl, rfl, hne⟩

/-- Every term of a scoped node is one that a tag can hold. -/
theorem isHeld (hname : primary ≠ "") (hprimary : quotedSlash ∉ primary.toList)
    (h : n.IsScoped primary comparison) :
    n.category? ≠ some (.literal "") ∧
      ∀ term, n.category? = some term ∨ n.value? = some term → term.IsHeld := by
  cases h with
  | @leaf _ l _ hread =>
    have hheld := isHeld_of_isRead hname hprimary hread
    refine ⟨fun hempty => hheld.category_ne (Option.some.inj hempty), ?_⟩
    rintro term (hcategory | hvalue)
    · exact Option.some.inj hcategory ▸ hheld.category
    · exact hheld.value term hvalue
  | group _ _ =>
    refine ⟨nofun, ?_⟩
    rintro term (hcategory | hvalue)
    · cases hcategory
    · cases hvalue

end Node.IsScoped

/-! ## Parsed trees -/

namespace Tree

/-- Below the root, a node is scoped under the comparison that the groups around it fix. -/
theorem isScoped_of_standsIn {primary : String} {members : List Node}
    (hmembers : ∀ m ∈ members, m.IsScoped primary .equal) {above : List Operator} {n : Node}
    (h : n.StandsIn (ofMembers members) above) :
    above = [] ∧ n = (ofMembers members).root ∨ n.IsScoped primary (Operator.nearest above) := by
  induction h with
  | root => exact Or.inl ⟨rfl, rfl⟩
  | @member above op comparison ms n _ hn ih =>
    right
    rcases ih with ⟨habove, hroot⟩ | hscoped
    · cases hroot
      subst habove
      exact hmembers n hn
    · cases hscoped with
      | group _ hms =>
        rw [Operator.nearest_cons]
        exact hms n hn

/-- The name under which bare values are read is not empty, and it can be held as it is. -/
theorem primaryName_held {primary : String} (hprimary : quotedSlash ∉ primary.toList) :
    (if primary = "" then defaultPrimary else primary) ≠ "" ∧
      quotedSlash ∉ (if primary = "" then defaultPrimary else primary).toList := by
  split
  · decide
  · next hne => exact ⟨hne, hprimary⟩

/-- A tree is well formed. -/
structure IsWellFormed (t : Tree) : Prop where
  /-- The root is a conjunction under plain equality. -/
  root : t.root.operator = .conj ∧ t.root.comparison = .equal ∧
    t.root.category? = none ∧ t.root.value? = none
  /-- Every other node is a condition, or a group with members. -/
  shape : ∀ above (n : Node), n.StandsIn t above → above ≠ [] → n.IsCondition ∨ n.IsFullGroup
  /-- The comparison of a node is that of the nearest comparison keyword. -/
  comparison : ∀ above (n : Node), n.StandsIn t above →
    n.comparison = Operator.nearest (n.governing above)
  /-- No category is an empty literal. -/
  category : ∀ above (n : Node), n.StandsIn t above → n.category? ≠ some (.literal "")
  /-- No literal holds the stand-in of a slash, and no pattern holds any stand-in. -/
  terms : ∀ above (n : Node), n.StandsIn t above →
    ∀ term, n.category? = some term ∨ n.value? = some term → term.IsHeld

/-- Parsed trees are well formed, whatever is parsed and whatever the options are. -/
theorem isWellFormed_of_parse {input primary : String} {options : ScanOptions} {t : Tree}
    (hprimary : quotedSlash ∉ primary.toList) (h : parse input primary options = .ok t) :
    t.IsWellFormed := by
  obtain ⟨members, rfl, hmembers⟩ := exists_members_of_parse h
  obtain ⟨hname, hmarked⟩ := primaryName_held hprimary
  constructor
  case root => exact ⟨rfl, rfl, rfl, rfl⟩
  case shape =>
    intro above n hn habove
    rcases isScoped_of_standsIn hmembers hn with ⟨hnil, _⟩ | hscoped
    · exact absurd hnil habove
    · exact hscoped.isCondition_or_isFullGroup
  case comparison =>
    intro above n hn
    rcases isScoped_of_standsIn hmembers hn with ⟨rfl, rfl⟩ | hscoped
    · rfl
    · exact hscoped.comparison_eq
  case category =>
    intro above n hn
    rcases isScoped_of_standsIn hmembers hn with ⟨rfl, rfl⟩ | hscoped
    · exact nofun
    · exact (hscoped.isHeld hname hmarked).1
  case terms =>
    intro above n hn term hterm
    rcases isScoped_of_standsIn hmembers hn with ⟨rfl, rfl⟩ | hscoped
    · rcases hterm with hcategory | hvalue
      · cases hcategory
      · cases hvalue
    · exact (hscoped.isHeld hname hmarked).2 term hterm

/-- Two groups that are never closed, with a pattern before a colon and quoted characters in two
values. -/
theorem isWellFormed_of_parse_unclosed :
    let t := ofMembers [.group (.compare .greater) .greater [
      .leaf ⟨.greater, .literal "a", some (.literal "1")⟩,
      .group .disj .greater [
        .leaf ⟨.greater, .pattern "b*", some (.literal "x\ue000")⟩,
        .leaf ⟨.greater, .literal "name", some (.literal "/y/")⟩]]]
    quotedSlash ∉ "name".toList ∧
      parse "gt(a:1 or(/b*/:\"x*\", \"/y/\"" "name" = .ok t ∧ t.IsWellFormed := by
  have hprimary : quotedSlash ∉ "name".toList := by decide
  have hparse : parse "gt(a:1 or(/b*/:\"x*\", \"/y/\"" "name" = .ok
      (ofMembers [.group (.compare .greater) .greater [
        .leaf ⟨.greater, .literal "a", some (.literal "1")⟩,
        .group .disj .greater [
          .leaf ⟨.greater, .pattern "b*", some (.literal "x\ue000")⟩,
          .leaf ⟨.greater, .literal "name", some (.literal "/y/")⟩]]]) := by cbv
  exact ⟨hprimary, hparse, isWellFormed_of_parse hprimary hparse⟩

end Tree

end TagSearch
