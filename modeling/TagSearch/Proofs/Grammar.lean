import TagSearch.Proofs.Scoping

/-!
# The grammar of a search

A search is a list of items with blanks and commas anywhere between them.  An item is a value, a
category with or without a value, or a group of items behind a keyword.  The parser accepts the
searches whose tokens can be derived so, and gives the tree of the derivation.

What is derived takes the tokens behind it into account: only at the end of input may the
parenthesis of a group be missing, and a category without a value stands before a comma, a closing
parenthesis, or the end of input.

Main results:

- Definitions `DerivesList` and `DerivesItem`: the grammar, with the nodes that tokens stand for.
- Theorem `parseTokens_of_derivesList`: what can be derived is read.
- Theorem `completes_of_parseTokens`: what is read can be derived.
- Theorem `Tree.parse_eq_ok_iff_derives`: the parser accepts exactly its grammar.
-/

namespace TagSearch

/-! ## The grammar -/

/-- Blanks and commas separate the items of a list. -/
def Token.IsSeparator (t : Token) : Prop :=
  t.kind = .whitespace ∨ t.kind = .comma

/-- A category has no value when a comma, a closing parenthesis or the end of input follows it
directly. -/
def EndsCategory (following : List Token) : Prop :=
  following = [] ∨
    ∃ t rest, following = t :: rest ∧ (t.kind = .comma ∨ t.kind = .rParen)

/-- What ends a group before the tokens `following`: a closing parenthesis, or nothing at the end
of input. -/
def EndsGroup (closing following : List Token) : Prop :=
  (∃ t, closing = [t] ∧ t.kind = .rParen) ∨ (closing = [] ∧ following = [])

mutual

/-- Before the tokens `following`, the tokens are a list of items that stand for the nodes, where
the comparison is in force. -/
inductive DerivesList (primary : String) :
    Comparison → List Token → List Token → List Node → Prop where
  | nil {comparison : Comparison} {following : List Token} :
      DerivesList primary comparison [] following []
  | separator {comparison : Comparison} {t : Token} {ts following : List Token}
      {nodes : List Node} (ht : t.IsSeparator)
      (hrest : DerivesList primary comparison ts following nodes) :
      DerivesList primary comparison (t :: ts) following nodes
  | item {comparison : Comparison} {us ts following : List Token} {n : Node}
      {nodes : List Node} (hitem : DerivesItem primary comparison us (ts ++ following) n)
      (hrest : DerivesList primary comparison ts following nodes) :
      DerivesList primary comparison (us ++ ts) following (n :: nodes)

/-- Before the tokens `following`, the tokens are an item that stands for the node, where the
comparison is in force. -/
inductive DerivesItem (primary : String) :
    Comparison → List Token → List Token → Node → Prop where
  /-- A bare value belongs to the primary field. -/
  | value {comparison : Comparison} {v : Token} {following : List Token}
      (hv : v.kind = .tagValue) :
      DerivesItem primary comparison [v] following
        (.leaf ⟨comparison, .literal primary, some (.ofTag v.literal)⟩)
  /-- A category with a value, and maybe blanks between the two. -/
  | condition {comparison : Comparison} {t v : Token} {blank following : List Token}
      (ht : t.kind = .tagCategory) (hname : t.literal ≠ "")
      (hblank : blank = [] ∨ ∃ w, blank = [w] ∧ w.kind = .whitespace)
      (hv : v.kind = .tagValue) :
      DerivesItem primary comparison (t :: (blank ++ [v])) following
        (.leaf ⟨comparison, .ofTag t.literal, some (.ofTag v.literal)⟩)
  /-- A category without a value. -/
  | present {comparison : Comparison} {t : Token} {following : List Token}
      (ht : t.kind = .tagCategory) (hname : t.literal ≠ "") (hend : EndsCategory following) :
      DerivesItem primary comparison [t] following
        (.leaf ⟨comparison, .ofTag t.literal, none⟩)
  /-- A keyword and, in parentheses, a list of one item at least. -/
  | group {comparison : Comparison} {k p : Token} {op : Operator}
      {ts closing following : List Token} {members : List Node}
      (hk : k.kind = .keyword) (hop : k.literal = op.keyword) (hp : p.kind = .lParen)
      (hmembers : DerivesList primary (op.inner comparison) ts (closing ++ following) members)
      (hne : members ≠ []) (hend : EndsGroup closing following) :
      DerivesItem primary comparison (k :: p :: (ts ++ closing)) following
        (.group op (op.inner comparison) members)

end

/-! ## What can be derived is read -/

section Reading

variable {primary : String} {groups : List OpenGroup} {comparison : Comparison}
  {done : List Node} {t v : Token} {following : List Token}

theorem parseTokens_separator (ht : t.IsSeparator) (following : List Token) :
    parseTokens primary groups comparison done (t :: following) =
      parseTokens primary groups comparison done following := by
  rw [parseTokens.eq_def]
  rcases ht with ht | ht
  · simp only [ht]
  · simp only [ht]

theorem parseTokens_bare (hv : v.kind = .tagValue) (following : List Token) :
    parseTokens primary groups comparison done (v :: following) =
      parseTokens primary groups comparison
        (done ++ [.leaf ⟨comparison, .literal primary, some (.ofTag v.literal)⟩]) following := by
  rw [parseTokens.eq_def]
  simp only [hv]

theorem parseTokens_condition {blank : List Token} (ht : t.kind = .tagCategory)
    (hname : t.literal ≠ "") (hblank : blank = [] ∨ ∃ w, blank = [w] ∧ w.kind = .whitespace)
    (hv : v.kind = .tagValue) (following : List Token) :
    parseTokens primary groups comparison done (t :: (blank ++ v :: following)) =
      parseTokens primary groups comparison
        (done ++ [.leaf ⟨comparison, .ofTag t.literal, some (.ofTag v.literal)⟩]) following := by
  rw [parseTokens.eq_def]
  rcases hblank with rfl | ⟨w, rfl, hw⟩
  · simp only [ht, hname, if_false, List.nil_append, hv]
  · have hterminator : v.isTerminator = false := by
      rw [Token.isTerminator, hv]
      rfl
    simp only [ht, hname, if_false, List.singleton_append, hw, hterminator, Bool.false_eq_true,
      hv, if_true]

theorem parseTokens_present (ht : t.kind = .tagCategory) (hname : t.literal ≠ "")
    (hend : EndsCategory following) :
    parseTokens primary groups comparison done (t :: following) =
      parseTokens primary groups comparison
        (done ++ [.leaf ⟨comparison, .ofTag t.literal, none⟩]) following := by
  rw [parseTokens.eq_def]
  rcases hend with rfl | ⟨u, rest, rfl, hu | hu⟩
  · rw [parseTokens]
    simp only [ht, hname, if_false]
  · simp only [ht, hname, if_false, hu]
  · simp only [ht, hname, if_false, hu]

theorem parseTokens_open {k p : Token} {op : Operator} (hk : k.kind = .keyword)
    (hop : k.literal = op.keyword) (hp : p.kind = .lParen) (following : List Token) :
    parseTokens primary groups comparison done (k :: p :: following) =
      parseTokens primary (⟨k, op, comparison, done⟩ :: groups) (op.inner comparison) []
        following := by
  have hoperator : Operator.ofKeyword? k.literal = some op := by
    rw [hop]
    exact Operator.ofKeyword?_keyword op
  rw [parseTokens.eq_def]
  simp only [hk, hoperator, hp, if_true]

theorem OpenGroup.close_of_ne_nil {g : OpenGroup} {members : List Node} (hne : members ≠ []) :
    g.close members = .ok (g.before ++ [.group g.op g.inner members]) := by
  rw [OpenGroup.close, if_neg hne]

/-- Where a group ends, the parser goes on behind it in the list around it. -/
theorem parseTokens_close {g : OpenGroup} {members : List Node} {closing : List Token}
    (hne : members ≠ []) (hend : EndsGroup closing following) :
    parseTokens primary (g :: groups) comparison members (closing ++ following) =
      parseTokens primary groups g.outer (g.before ++ [.group g.op g.inner members])
        following := by
  have hclose := OpenGroup.close_of_ne_nil (g := g) hne
  rcases hend with ⟨r, rfl, hr⟩ | ⟨rfl, rfl⟩
  · rw [List.singleton_append, parseTokens.eq_def]
    simp only [hr, hclose]
  · rw [List.nil_append, parseTokens, parseTokens, closeAll, hclose]
    rfl

end Reading

mutual

/-- A list that can be derived is read node by node, whatever groups are open around it. -/
theorem parseTokens_of_derivesList {primary : String} {comparison : Comparison}
    {ts following : List Token} {nodes : List Node} (groups : List OpenGroup) (done : List Node) :
    DerivesList primary comparison ts following nodes →
    parseTokens primary groups comparison done (ts ++ following) =
      parseTokens primary groups comparison (done ++ nodes) following
  | .nil => by rw [List.nil_append, List.append_nil]
  | .separator ht hrest => by
    rw [List.cons_append, parseTokens_separator ht]
    exact parseTokens_of_derivesList groups done hrest
  | .item (n := n) hitem hrest => by
    rw [List.append_assoc, parseTokens_of_derivesItem groups done hitem,
      parseTokens_of_derivesList groups (done ++ [n]) hrest, List.append_assoc,
      List.singleton_append]

/-- An item that can be derived is read as its node. -/
theorem parseTokens_of_derivesItem {primary : String} {comparison : Comparison}
    {us following : List Token} {n : Node} (groups : List OpenGroup) (done : List Node) :
    DerivesItem primary comparison us following n →
    parseTokens primary groups comparison done (us ++ following) =
      parseTokens primary groups comparison (done ++ [n]) following
  | .value hv => parseTokens_bare hv following
  | .condition ht hname hblank hv => by
    rw [List.cons_append, List.append_assoc, List.singleton_append]
    exact parseTokens_condition ht hname hblank hv following
  | .present ht hname hend => parseTokens_present ht hname hend
  | .group hk hop hp hmembers hne hend => by
    rw [List.cons_append, List.cons_append, List.append_assoc, parseTokens_open hk hop hp,
      parseTokens_of_derivesList _ _ hmembers, List.nil_append, parseTokens_close hne hend]
    rfl

end

/-! ## What is read can be derived -/

/-- With the groups still open and the nodes `done` read in the innermost list, the tokens are the
rest of that list, the end of its group, and so on outwards; the nodes are those of the root. -/
inductive Completes (primary : String) :
    List OpenGroup → Comparison → List Node → List Token → List Node → Prop where
  | root {comparison : Comparison} {done nodes : List Node} {ts : List Token}
      (hlist : DerivesList primary comparison ts [] nodes) :
      Completes primary [] comparison done ts (done ++ nodes)
  | inside {g : OpenGroup} {gs : List OpenGroup} {comparison : Comparison}
      {done members nodes : List Node} {ts closing rest : List Token}
      (hlist : DerivesList primary comparison ts (closing ++ rest) members)
      (hne : done ++ members ≠ []) (hend : EndsGroup closing rest)
      (houter : Completes primary gs g.outer
        (g.before ++ [.group g.op g.inner (done ++ members)]) rest nodes) :
      Completes primary (g :: gs) comparison done (ts ++ (closing ++ rest)) nodes

section Deriving

variable {primary : String} {groups : List OpenGroup} {comparison : Comparison}
  {done nodes : List Node} {ts : List Token}

theorem Completes.separator {t : Token} (ht : t.IsSeparator)
    (h : Completes primary groups comparison done ts nodes) :
    Completes primary groups comparison done (t :: ts) nodes := by
  cases h with
  | root hlist => exact .root (.separator ht hlist)
  | inside hlist hne hend houter =>
    rw [← List.cons_append]
    exact .inside (.separator ht hlist) hne hend houter

/-- An item in front of what finishes the innermost list. -/
theorem Completes.item {us : List Token} {n : Node}
    (hitem : DerivesItem primary comparison us ts n)
    (h : Completes primary groups comparison (done ++ [n]) ts nodes) :
    Completes primary groups comparison done (us ++ ts) nodes := by
  cases h with
  | @root _ _ nodes _ hlist =>
    rw [List.append_assoc, List.singleton_append]
    rw [← List.append_nil ts] at hitem
    exact .root (.item hitem hlist)
  | @inside g gs _ _ members _ ts closing rest hlist hne hend houter =>
    rw [List.append_assoc, List.singleton_append] at hne houter
    rw [← List.append_assoc]
    exact .inside (.item hitem hlist) hne hend houter

/-- A group that opens, with what finishes it and the groups around it. -/
theorem Completes.group {k p : Token} {op : Operator} (hk : k.kind = .keyword)
    (hop : k.literal = op.keyword) (hp : p.kind = .lParen)
    (h : Completes primary (⟨k, op, comparison, done⟩ :: groups) (op.inner comparison) [] ts
      nodes) :
    Completes primary groups comparison done (k :: p :: ts) nodes := by
  cases h with
  | @inside _ _ _ _ members _ ts closing rest hlist hne hend houter =>
    have hitem : DerivesItem primary comparison (k :: p :: (ts ++ closing)) rest
        (.group op (op.inner comparison) members) := .group hk hop hp hlist hne hend
    have hfront : k :: p :: (ts ++ (closing ++ rest)) = (k :: p :: (ts ++ closing)) ++ rest := by
      rw [List.cons_append, List.cons_append, List.append_assoc]
    rw [hfront]
    exact .item hitem houter

theorem OpenGroup.eq_of_close {g : OpenGroup} {members closed : List Node}
    (h : g.close members = .ok closed) :
    members ≠ [] ∧ closed = g.before ++ [.group g.op g.inner members] := by
  by_cases hne : members = []
  · rw [OpenGroup.close, if_pos hne] at h
    cases h
  · rw [OpenGroup.close_of_ne_nil hne] at h
    exact ⟨hne, (Except.ok.inj h).symm⟩

/-- A closing parenthesis ends the innermost group. -/
theorem Completes.closed {g : OpenGroup} {gs : List OpenGroup} {closed : List Node} {t : Token}
    (ht : t.kind = .rParen) (hclose : g.close done = .ok closed)
    (h : Completes primary gs g.outer closed ts nodes) :
    Completes primary (g :: gs) comparison done (t :: ts) nodes := by
  obtain ⟨hne, rfl⟩ := OpenGroup.eq_of_close hclose
  have hend : EndsGroup [t] ts := .inl ⟨t, rfl, ht⟩
  have hdone : done ++ [] = done := List.append_nil done
  rw [← hdone] at hne h
  exact .inside .nil hne hend h

/-- At the end of input every open group ends. -/
theorem completes_of_closeAll (h : closeAll groups done = .ok nodes) :
    Completes primary groups comparison done [] nodes := by
  induction groups generalizing comparison done with
  | nil =>
    obtain rfl := Except.ok.inj h
    have hroot : Completes primary [] comparison done [] (done ++ []) := .root .nil
    rw [List.append_nil] at hroot
    exact hroot
  | cons g gs ih =>
    rw [closeAll] at h
    cases hclose : g.close done with
    | error e =>
      rw [hclose] at h
      cases h
    | ok closed =>
      rw [hclose] at h
      obtain ⟨hne, rfl⟩ := OpenGroup.eq_of_close hclose
      have hend : EndsGroup [] [] := .inr ⟨rfl, rfl⟩
      have houter : Completes primary gs g.outer
          (g.before ++ [.group g.op g.inner (done ++ [])]) [] nodes := by
        rw [List.append_nil]
        exact ih h
      rw [← List.append_nil done] at hne
      exact .inside .nil hne hend houter

theorem Operator.eq_keyword_of_ofKeyword? {word : String} {op : Operator}
    (h : Operator.ofKeyword? word = some op) : word = op.keyword := by
  have hword := List.find?_some h
  rw [beq_iff_eq] at hword
  exact hword.symm

/-- What the parser reads can be derived. -/
theorem completes_of_parseTokens
    (h : parseTokens primary groups comparison done ts = .ok nodes) :
    Completes primary groups comparison done ts nodes := by
  fun_induction parseTokens primary groups comparison done ts with
  | case1 => exact completes_of_closeAll h
  -- separators
  | case2 _ _ _ _ _ ht ih => exact .separator (.inl ht) (ih h)
  | case3 _ _ _ _ _ ht ih => exact .separator (.inr ht) (ih h)
  -- a group closes
  | case6 _ _ _ _ ht _ _ _ hclose ih => exact .closed ht hclose (ih h)
  -- a group opens
  | case7 _ _ _ _ ht _ _ _ hop hp ih =>
    exact .group ht (Operator.eq_keyword_of_ofKeyword? hop) hp (ih h)
  | case10 _ _ _ _ _ hv _ ih => exact .item (.value hv) (ih h)
  -- a category without a value
  | case12 _ _ _ _ ht hname =>
    exact .item (.present ht hname (.inl rfl)) (completes_of_closeAll h)
  | case14 _ _ _ _ ht hname _ u rest hu ih =>
    exact .item (.present ht hname (.inr ⟨u, rest, rfl, .inr hu⟩)) (ih h)
  | case15 _ _ _ _ ht hname _ u rest hu ih =>
    exact .item (.present ht hname (.inr ⟨u, rest, rfl, .inl hu⟩)) (ih h)
  -- a category with a value
  | case13 _ _ _ _ ht hname _ _ _ hv ih =>
    exact .item (.condition ht hname (.inl rfl) hv) (ih h)
  | case18 _ _ _ _ ht hname _ w hw _ _ _ hv ih =>
    exact .item (.condition ht hname (.inr ⟨w, rfl, hw⟩) hv) (ih h)
  | _ => cases h

end Deriving

/-! ## Searches -/

/-- The parser accepts exactly the searches that its grammar derives, and the tree that it gives
is the one of the derivation. -/
theorem Tree.parse_eq_ok_iff_derives (input primary : String) (options : ScanOptions) (t : Tree) :
    Tree.parse input primary options = .ok t ↔
      ∃ nodes, DerivesList (if primary = "" then defaultPrimary else primary) .equal
        ((Scanner.ofString input options).tokens true) [] nodes ∧ t = .ofMembers nodes := by
  rw [parse]
  generalize (if primary = "" then defaultPrimary else primary) = name
  generalize (Scanner.ofString input options).tokens true = tokens
  constructor
  · intro h
    cases hnodes : parseTokens name [] .equal [] tokens with
    | error e =>
      rw [hnodes] at h
      cases h
    | ok nodes =>
      rw [hnodes] at h
      obtain rfl := Except.ok.inj h
      cases completes_of_parseTokens hnodes with
      | root hlist => exact ⟨_, hlist, rfl⟩
  · rintro ⟨nodes, hlist, rfl⟩
    have hread := parseTokens_of_derivesList [] [] hlist
    rw [List.append_nil, List.nil_append] at hread
    rw [hread, parseTokens, closeAll]
    rfl

end TagSearch
