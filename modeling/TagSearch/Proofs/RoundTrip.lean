import Mathlib
import TagSearch.Proofs.Items
import TagSearch.Proofs.Scoping

/-!
# Parsing the canonical text

The canonical text of a parsed search is parsed to the same tree.  Each node of the tree is
written as an item that the parser reads as that node.

Main results:

- Theorem `accepts_node`: the parser reads a written node back as that node.
- Theorem `Tree.parse_canonical`: the canonical text of a parsed tree is parsed to that tree.
-/

namespace TagSearch

/-- With the standard options and the standard primary field, the parser reads the text `cs` to
its end and comes from the nodes `done` of the innermost list to `nodes`. -/
def Accepts (groups : List OpenGroup) (comparison : Comparison) (done : List Node)
    (cs : List Char) (nodes : List Node) : Prop :=
  ParsesTo {} defaultPrimary groups comparison done cs nodes

/-- The parser reads `n` back from its canonical text, whatever groups are open around it. -/
def ReadsNode (comparison : Comparison) (n : Node) : Prop :=
  ReadsItem {} defaultPrimary comparison n.canonical.toList n

variable {groups : List OpenGroup} {comparison : Comparison} {done nodes : List Node}

/-! ## Conditions -/

/-- What is known of a condition that can be written and read back. -/
structure Leaf.IsHeld (l : Leaf) : Prop where
  category : l.category.IsHeld
  category_ne : l.category ≠ .literal ""
  value : ∀ v, l.value = some v → v.IsHeld

/-- What the parser reads can be written and read back. -/
theorem isHeld_of_isRead {primary : String} (hname : primary ≠ "")
    (hprimary : quotedSlash ∉ primary.toList) {l : Leaf} (h : l.IsRead primary) : l.IsHeld := by
  refine ⟨?_, ?_, ?_⟩
  · rcases h.category with hc | ⟨text, -, hc⟩
    · rw [hc]
      exact hprimary
    · rw [hc]
      exact Term.isHeld_ofTag text
  · rcases h.category with hc | ⟨text, htext, hc⟩
    · rw [hc, ne_eq, Term.literal.injEq]
      exact hname
    · rw [hc]
      exact Term.ofTag_ne_empty htext
  · intro v hv
    obtain ⟨text, rfl⟩ := h.value v hv
    exact Term.isHeld_ofTag text

/-- The parser reads a written condition back. -/
theorem readsNode_leaf {l : Leaf} (hl : l.IsHeld) (hcomparison : l.comparison = comparison) :
    ReadsNode comparison (.leaf l) := by
  obtain ⟨comparison', category, value⟩ := l
  obtain rfl : comparison' = comparison := hcomparison
  have hcategory : ∀ rest, ReadsTag {} false category.canonical.toList category (':' :: rest) :=
    fun rest => readsTerm false hl.category (closes_cons rest (.inr (.inr rfl)))
  cases value with
  | none =>
    have htext : (Node.leaf ⟨comparison', category, none⟩).canonical.toList =
        category.canonical.toList ++ [':'] := by
      simp [Node.canonical, Leaf.canonical]
    rw [ReadsNode, htext]
    exact readsItem_present hl.category_ne hcategory
  | some v =>
    have hvalue : ∀ rest, EndsItem rest → ReadsTag {} true v.canonical.toList v rest :=
      fun rest hrest => readsTerm true (hl.value v rfl) hrest.closes
    have htext : (Node.leaf ⟨comparison', category, some v⟩).canonical.toList =
        category.canonical.toList ++ ':' :: v.canonical.toList := by
      simp [Node.canonical, Leaf.canonical]
    rw [ReadsNode, htext]
    exact readsItem_condition rfl hl.category_ne hcategory hvalue

/-! ## Nodes -/

theorem accepts_nil (h : closeAll groups done = .ok nodes) :
    Accepts groups comparison done [] nodes :=
  parsesTo_nil h

/-- A written list has commas between its nodes. -/
theorem Node.canonicalList_eq (members : List Node) :
    Node.canonicalList members = ",".intercalate (members.map Node.canonical) := by
  induction members with
  | nil => simp [canonicalList]
  | cons n members ih =>
    cases members with
    | nil => simp [canonicalList]
    | cons m members =>
      rw [canonicalList, ih, List.map_cons, List.map_cons, List.map_cons,
        String.intercalate_cons_cons]

/-- The parser reads a written list back if it reads its nodes back. -/
theorem accepts_list {members : List Node} (hmembers : ∀ n ∈ members, ReadsNode comparison n)
    {rest : List Char} (hrest : EndsItem rest)
    (h : Accepts groups comparison (done ++ members) rest nodes) :
    Accepts groups comparison done ((Node.canonicalList members).toList ++ rest) nodes := by
  rw [Node.canonicalList_eq]
  rw [← members.map_id] at h
  exact parsesTo_list hmembers hrest h

/-- The parser reads a written group back if it reads its members back. -/
theorem readsNode_group {op : Operator} {members : List Node} (hne : members ≠ [])
    (hmembers : ∀ n ∈ members, ReadsNode (op.inner comparison) n) :
    ReadsNode comparison (.group op (op.inner comparison) members) := by
  have hgroup : ReadsItem {} defaultPrimary comparison
      (op.keyword ++ "(" ++ ",".intercalate (members.map Node.canonical) ++ ")").toList
      (.group op (op.inner comparison) (members.map id)) :=
    readsItem_group hne hmembers
  rw [List.map_id] at hgroup
  rw [ReadsNode, Node.canonical, Node.canonicalList_eq]
  exact hgroup

/-- The parser reads every node back that it can build. -/
theorem accepts_node {primary : String} (hname : primary ≠ "")
    (hprimary : quotedSlash ∉ primary.toList) {n : Node} (hn : n.IsScoped primary comparison) :
    ReadsNode comparison n := by
  induction hn with
  | @leaf comparison l hcomparison hread =>
    exact readsNode_leaf (isHeld_of_isRead hname hprimary hread) hcomparison
  | group hne _ ih => exact readsNode_group hne ih

namespace Tree

/-- The canonical text of a parsed tree is parsed to that tree, with the standard options
and the standard primary field, whatever options and primary field the tree was parsed
with. -/
theorem parse_canonical {input primary : String} {options : ScanOptions} {t : Tree}
    (hprimary : quotedSlash ∉ primary.toList) (h : parse input primary options = .ok t) :
    parse t.canonical = .ok t := by
  obtain ⟨members, rfl, hmembers⟩ := exists_members_of_parse h
  have hname : (if primary = "" then defaultPrimary else primary) ≠ "" := by
    split
    · decide
    · assumption
  have hmarked : quotedSlash ∉ (if primary = "" then defaultPrimary else primary).toList := by
    split
    · decide
    · exact hprimary
  have haccepts : Accepts [] .equal [] ((Node.canonicalList members).toList ++ []) members :=
    accepts_list (fun n hn => accepts_node hname hmarked (hmembers n hn)) endsItem_nil
      (accepts_nil rfl)
  rw [List.append_nil] at haccepts
  have hparse := haccepts 0
  rw [parse, if_neg (by decide)]
  show Except.map ofMembers (parseTokens defaultPrimary [] .equal []
    (Scanner.tokens true ⟨{}, (Node.canonicalList members).toList, 0, false⟩)) = _
  rw [hparse]
  rfl

/-- A search with a pattern before a colon, a quoted wildcard, base64 behind a bare wildcard,
and a primary field whose name has a colon. -/
theorem parse_canonical_mixed :
    let t := ofMembers [.group (.compare .atLeast) .atLeast [
      .leaf ⟨.atLeast, .pattern "a:b", some (.literal "x/\ue000")⟩,
      .leaf ⟨.atLeast, .literal "p:q", some (.literal "*/a/b/")⟩,
      .leaf ⟨.atLeast, .literal "/", none⟩,
      .leaf ⟨.atLeast, .literal "p:q", some (.literal "b/x")⟩]]
    quotedSlash ∉ "p:q".toList ∧
      parse "gte(/a:b/:\"x/*\", *b/YS9i/ b\"Lw==\":,\"b\"/x" "p:q" = .ok t ∧
      parse t.canonical = .ok t := by
  have hprimary : quotedSlash ∉ "p:q".toList := by decide
  have hparse : parse "gte(/a:b/:\"x/*\", *b/YS9i/ b\"Lw==\":,\"b\"/x" "p:q" = .ok
      (ofMembers [.group (.compare .atLeast) .atLeast [
        .leaf ⟨.atLeast, .pattern "a:b", some (.literal "x/\ue000")⟩,
        .leaf ⟨.atLeast, .literal "p:q", some (.literal "*/a/b/")⟩,
        .leaf ⟨.atLeast, .literal "/", none⟩,
        .leaf ⟨.atLeast, .literal "p:q", some (.literal "b/x")⟩]]) := by cbv
  exact ⟨hprimary, hparse, parse_canonical hprimary hparse⟩

end Tree

end TagSearch
