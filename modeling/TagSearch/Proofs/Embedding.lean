import TagSearch.Proofs.Items

/-!
# Embedding data in a search

A program that searches for data it was given quotes the data.  Whatever the data holds, a list
of quoted categories with quoted values is read as the conditions on these categories and
values, and nothing in the data ends a condition, opens a group or makes a pattern.

Main results:

- Definition `IsQuotable`: the pairs that can be embedded.
- Theorem `readsItem_quotedPair`: a quoted pair is read as its condition, whatever stands
  around it.
- Theorem `Tree.parse_quotedPairs`: a list of quoted pairs, by itself or behind a keyword.
-/

namespace TagSearch

/-- The text of a condition on data: a quoted category and a quoted value. -/
def quotedPair (p : String × String) : String :=
  quoteLiteral p.1 ++ ":" ++ quoteLiteral p.2

/-- The text of a list of conditions on data. -/
def quotedPairs (pairs : List (String × String)) : String :=
  ",".intercalate (pairs.map quotedPair)

/-- The condition on data where `comparison` is in force. -/
def pairNode (comparison : Comparison) (p : String × String) : Node :=
  .leaf ⟨comparison, .literal p.1, some (.literal p.2)⟩

/-- A category that is not empty and a value, both without the stand-in of a slash. -/
structure IsQuotable (p : String × String) : Prop where
  category_ne : p.1 ≠ ""
  category : quotedSlash ∉ p.1.toList
  value : quotedSlash ∉ p.2.toList

/-- A quoted pair is read as its condition, whatever stands around it. -/
theorem readsItem_quotedPair {options : ScanOptions} (hcategories : options.categories = false)
    (primary : String) (comparison : Comparison) {p : String × String} (hp : IsQuotable p) :
    ReadsItem options primary comparison (quotedPair p).toList (pairNode comparison p) := by
  have htext : (quotedPair p).toList =
      (quoteLiteral p.1).toList ++ ':' :: (quoteLiteral p.2).toList := by
    simp [quotedPair]
  have hne : Term.literal p.1 ≠ .literal "" := by
    rw [ne_eq, Term.literal.injEq]
    exact hp.category_ne
  rw [htext]
  apply readsItem_condition hcategories hne
  · intro rest
    exact readsTag_quoteLiteral options false hp.category (closes_cons rest (.inr (.inr rfl)))
  · intro rest hrest
    exact readsTag_quoteLiteral options true hp.value hrest.closes

namespace Tree

/-- A list of quoted pairs is parsed to exactly the conditions on these pairs, in their order.
Behind a keyword the conditions are the members of its group, and there have to be any. -/
theorem parse_quotedPairs {pairs : List (String × String)} (hpairs : ∀ p ∈ pairs, IsQuotable p)
    {options : ScanOptions} (hcategories : options.categories = false) (primary : String) :
    parse (quotedPairs pairs) primary options =
        .ok (ofMembers (pairs.map (pairNode .equal))) ∧
      ∀ op : Operator, parse (op.keyword ++ "(" ++ quotedPairs pairs ++ ")") primary options =
        if pairs = [] then .error ⟨.emptyGroup, op.keyword, 0⟩
        else .ok (ofMembers
          [.group op (op.inner .equal) (pairs.map (pairNode (op.inner .equal)))]) := by
  constructor
  · apply parse_list rfl
    intro p hp
    exact readsItem_quotedPair hcategories _ .equal (hpairs p hp)
  · intro op
    by_cases hne : pairs = []
    · have htext : op.keyword ++ "(" ++ quotedPairs [] ++ ")" = op.keyword ++ "()" := by
        rw [String.append_assoc, String.append_assoc]
        rfl
      rw [if_pos hne, hne, htext]
      exact parse_keyword_nothing op primary options
    · rw [if_neg hne]
      apply parse_item rfl
      apply readsItem_group hne
      intro p hp
      exact readsItem_quotedPair hcategories _ _ (hpairs p hp)

/-- Data that looks like the end of a group, a pattern, a wildcard, a keyword and base64. -/
theorem parse_quotedPairs_hostile :
    let pairs := [("a),b", "/x/"), ("not(", "\"\\*"), ("b/", "")]
    let options : ScanOptions := {}
    (∀ p ∈ pairs, IsQuotable p) ∧ options.categories = false ∧
      (parse (quotedPairs pairs) "name" options =
          .ok (ofMembers (pairs.map (pairNode .equal))) ∧
        ∀ op : Operator, parse (op.keyword ++ "(" ++ quotedPairs pairs ++ ")") "name" options =
          if pairs = [] then .error ⟨.emptyGroup, op.keyword, 0⟩
          else .ok (ofMembers
            [.group op (op.inner .equal) (pairs.map (pairNode (op.inner .equal)))])) := by
  intro pairs options
  have hpairs : ∀ p ∈ pairs, IsQuotable p := by
    intro p hp
    simp only [pairs, List.mem_cons, List.not_mem_nil, or_false] at hp
    rcases hp with rfl | rfl | rfl
    · exact ⟨by decide, by decide, by decide⟩
    · exact ⟨by decide, by decide, by decide⟩
    · exact ⟨by decide, by decide, by decide⟩
  have hcategories : options.categories = false := rfl
  exact ⟨hpairs, hcategories, parse_quotedPairs hpairs hcategories "name"⟩

/-- The list of no pairs is a list of quoted pairs, and behind a keyword it is refused. -/
theorem parse_quotedPairs_none :
    let pairs : List (String × String) := []
    let text := Operator.conj.keyword ++ "(" ++ quotedPairs pairs ++ ")"
    (∀ p ∈ pairs, IsQuotable p) ∧ text = "and()" ∧
      parse text = .error ⟨.emptyGroup, "and", 0⟩ ∧
      ¬ ∃ members, parse text = .ok (ofMembers members) := by
  intro pairs text
  have hparse : parse text = .error ⟨.emptyGroup, "and", 0⟩ :=
    parse_keyword_nothing .conj defaultPrimary {}
  refine ⟨fun p hp => absurd hp List.not_mem_nil, by decide, hparse, ?_⟩
  rintro ⟨members, hmembers⟩
  rw [hparse] at hmembers
  cases hmembers

end Tree

end TagSearch
