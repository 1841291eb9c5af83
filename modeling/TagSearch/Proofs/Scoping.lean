import TagSearch.Query.Parser

/-!
# The trees that the parser builds

Every condition of a parsed search compares as the groups around it say, every group has
members, and every term is the reading of a tag.  The parser keeps these properties step by
step, for the nodes read so far and for the groups that are still open.

Main results:

- Definition `Node.IsScoped`: the shape of a node under a comparison.
- Theorem `isScoped_of_parseTokens`: whatever the tokens are, the nodes read from them are
  scoped under the comparison of the root.
- Theorem `Tree.exists_members_of_parse`: a parsed tree consists of such nodes.
-/

namespace TagSearch

/-! ## Scoped nodes -/

/-- The terms of a condition are readings of tags; only the category of a bare value is the
primary one. -/
structure Leaf.IsRead (primary : String) (l : Leaf) : Prop where
  category : l.category = .literal primary ∨ ∃ text, text ≠ "" ∧ l.category = .ofTag text
  value : ∀ v, l.value = some v → ∃ text, v = .ofTag text

/-- A node as the parser builds it where a comparison is in force. -/
inductive Node.IsScoped (primary : String) : Comparison → Node → Prop where
  | leaf {comparison : Comparison} {l : Leaf} (hcomparison : l.comparison = comparison)
      (hread : l.IsRead primary) : IsScoped primary comparison (.leaf l)
  | group {comparison : Comparison} {op : Operator} {members : List Node}
      (hne : members ≠ [])
      (hmembers : ∀ n ∈ members, IsScoped primary (op.inner comparison) n) :
      IsScoped primary comparison (.group op (op.inner comparison) members)

/-- The open groups fit each other: inside each one the comparison is in force that it fixes
under the comparison around it, and the nodes before it are scoped there. -/
inductive GroupsScoped (primary : String) : List OpenGroup → Comparison → Prop where
  | root : GroupsScoped primary [] .equal
  | inside {g : OpenGroup} {gs : List OpenGroup}
      (hbefore : ∀ n ∈ g.before, n.IsScoped primary g.outer)
      (hgroups : GroupsScoped primary gs g.outer) : GroupsScoped primary (g :: gs) g.inner

/-! ## Steps of the parser -/

/-- Reading one more scoped node keeps the nodes read so far scoped. -/
theorem isScoped_append {primary : String} {comparison : Comparison} {done : List Node}
    {n : Node} (hdone : ∀ m ∈ done, m.IsScoped primary comparison)
    (hn : n.IsScoped primary comparison) :
    ∀ m ∈ done ++ [n], m.IsScoped primary comparison := by
  intro m hm
  rcases List.mem_append.mp hm with hm | hm
  · exact hdone m hm
  · rw [List.mem_singleton.mp hm]
    exact hn

theorem isScoped_tag {primary : String} {comparison : Comparison} {text : String}
    (h : text ≠ "") (value : Option String) :
    (Node.leaf ⟨comparison, .ofTag text, value.map .ofTag⟩).IsScoped primary comparison := by
  refine .leaf rfl ⟨.inr ⟨text, h, rfl⟩, fun v hv => ?_⟩
  obtain ⟨u, -, rfl⟩ := Option.map_eq_some_iff.mp hv
  exact ⟨u, rfl⟩

theorem isScoped_bare (primary : String) (comparison : Comparison) (text : String) :
    (Node.leaf ⟨comparison, .literal primary, some (.ofTag text)⟩).IsScoped primary comparison :=
  .leaf rfl ⟨.inl rfl, fun _ hv => ⟨text, (Option.some.inj hv).symm⟩⟩

/-- A group that closes takes its place in the list around it. -/
theorem isScoped_close {primary : String} {g : OpenGroup} {done closed : List Node}
    (hbefore : ∀ n ∈ g.before, n.IsScoped primary g.outer)
    (hdone : ∀ n ∈ done, n.IsScoped primary g.inner) (h : g.close done = .ok closed) :
    ∀ n ∈ closed, n.IsScoped primary g.outer := by
  unfold OpenGroup.close at h
  split at h
  · simp at h
  · next hne =>
    obtain rfl := Except.ok.inj h
    exact isScoped_append hbefore (.group hne hdone)

theorem isScoped_closeAll {primary : String} {groups : List OpenGroup} {comparison : Comparison}
    {done nodes : List Node} (hgroups : GroupsScoped primary groups comparison)
    (hdone : ∀ n ∈ done, n.IsScoped primary comparison)
    (h : closeAll groups done = .ok nodes) : ∀ n ∈ nodes, n.IsScoped primary .equal := by
  induction hgroups generalizing done with
  | root =>
    obtain rfl := Except.ok.inj h
    exact hdone
  | @inside g gs hbefore _ ih =>
    rw [closeAll] at h
    cases hclose : g.close done with
    | error e => rw [hclose] at h; cases h
    | ok closed =>
      rw [hclose] at h
      exact ih (isScoped_close hbefore hdone hclose) h

/-- Whatever the tokens are, the nodes read from them are scoped. -/
theorem isScoped_of_parseTokens {primary : String} {groups : List OpenGroup}
    {comparison : Comparison} {done : List Node} {tokens : List Token} {nodes : List Node}
    (hgroups : GroupsScoped primary groups comparison)
    (hdone : ∀ n ∈ done, n.IsScoped primary comparison)
    (h : parseTokens primary groups comparison done tokens = .ok nodes) :
    ∀ n ∈ nodes, n.IsScoped primary .equal := by
  fun_induction parseTokens primary groups comparison done tokens with
  | case1 => exact isScoped_closeAll hgroups hdone h
  -- separators leave the state as it is
  | case2 _ _ _ _ _ _ ih | case3 _ _ _ _ _ _ ih => exact ih hgroups hdone h
  -- a group closes
  | case6 _ _ _ _ _ g gs closed hclose ih =>
    cases hgroups with
    | inside hbefore hgroups => exact ih hgroups (isScoped_close hbefore hdone hclose) h
  -- a group opens
  | case7 _ _ _ _ _ op _ _ _ _ ih => exact ih (.inside hdone hgroups) (by simp) h
  | case10 _ comparison _ w _ _ _ ih =>
    exact ih hgroups (isScoped_append hdone (isScoped_bare primary comparison w.literal)) h
  -- a condition without a value
  | case12 _ _ _ _ _ htext =>
    exact isScoped_closeAll hgroups (isScoped_append hdone (isScoped_tag htext none)) h
  | case14 _ _ _ _ _ htext _ _ _ _ ih | case15 _ _ _ _ _ htext _ _ _ _ ih =>
    exact ih hgroups (isScoped_append hdone (isScoped_tag htext none)) h
  -- a condition with a value
  | case13 _ _ _ _ _ htext _ v _ _ ih =>
    exact ih hgroups (isScoped_append hdone (isScoped_tag htext (some v.literal))) h
  | case18 _ _ _ _ _ htext _ _ _ v _ _ _ ih =>
    exact ih hgroups (isScoped_append hdone (isScoped_tag htext (some v.literal))) h
  | _ => cases h

namespace Tree

/-- A parsed tree consists of scoped nodes. -/
theorem exists_members_of_parse {input primary : String} {options : ScanOptions} {t : Tree}
    (h : parse input primary options = .ok t) :
    ∃ members, t = ofMembers members ∧ ∀ n ∈ members,
      n.IsScoped (if primary = "" then defaultPrimary else primary) .equal := by
  rw [parse] at h
  generalize (if primary = "" then defaultPrimary else primary) = name at h ⊢
  cases hnodes : parseTokens name [] .equal [] ((Scanner.ofString input options).tokens true) with
  | error e => rw [hnodes] at h; cases h
  | ok nodes =>
    rw [hnodes] at h
    obtain rfl := Except.ok.inj h
    exact ⟨nodes, rfl, isScoped_of_parseTokens .root (by simp) hnodes⟩

end Tree

end TagSearch
