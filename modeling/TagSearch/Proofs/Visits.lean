import TagSearch.Query.Evaluation

/-!
# What an evaluation visits

An evaluation asks a test about conditions of a tree, one after the other, and the test may answer
as it likes, from what it was asked before, or with an error.  Which conditions it is asked about
follows from the answers: a condition is visited unless an answer before it was an error, or a
group around it was decided before, or a negation around it is refused.

Main results:

- Definition `Node.Settles`: some answers fix the Boolean value of a node, whatever the conditions
  are that were not visited.
- Definition `Node.IsOpen`: nothing that came before rules out a visit.
- Definition `Node.IsEvaluated`: the places that are met, in order, and the result.
- Theorem `Tree.exists_met`: what every evaluation visits and gives.
-/

namespace TagSearch

/-! ## Places in a tree -/

/-- The way from a node down to another: for each node on it, the position among its siblings.
The order of addresses is the order from left to right. -/
abbrev Address := List Nat

namespace Node

/-- What stands at an address. -/
def at? : Node → Address → Option Node
  | n, [] => some n
  | leaf _, _ :: _ => none
  | group _ _ members, i :: rest => members[i]?.bind fun n => n.at? rest

mutual

/-- The Boolean value of a node, where `truth` holds the values of the conditions: conjunctions
and groups under a comparison need all members, disjunctions need one, and a negation turns the
value of its member over. -/
def holds (truth : Address → Bool) : Node → Bool
  | leaf _ => truth []
  | group .disj _ members => (holdsEach truth 0 members).any id
  | group .neg _ members => !(holdsEach truth 0 members).all id
  | group _ _ members => (holdsEach truth 0 members).all id

/-- The Boolean values of members, the first of which stands at position `i`. -/
def holdsEach (truth : Address → Bool) (i : Nat) : List Node → List Bool
  | [] => []
  | n :: rest => n.holds (fun a => truth (i :: a)) :: holdsEach truth (i + 1) rest

end

end Node

/-- The value of a member that decides a group, whatever the members behind it are.  A negation
has one member only. -/
def Operator.deciding? : Operator → Option Bool
  | .conj => some false
  | .disj => some true
  | .neg => none
  | .compare _ => some false

/-! ## Stops -/

/-- A place at which an evaluation gets an answer: at a condition that of the test, at a negation
that is refused the error. -/
structure Stop where
  address : Address
  answer : Except Error Bool

namespace Stop

/-- The stop as seen from a group whose member `i` it is in. -/
def under (i : Nat) (x : Stop) : Stop :=
  ⟨i :: x.address, x.answer⟩

/-- Values of conditions that agree with the answers. -/
def Agrees (truth : Address → Bool) (met : List Stop) : Prop :=
  ∀ x ∈ met, ∀ b, x.answer = .ok b → truth x.address = b

/-- The stops stand strictly from left to right. -/
def InOrder (met : List Stop) : Prop :=
  met.Pairwise fun x y => x.address < y.address

/-- No answer is an error. -/
def Unfailed (met : List Stop) : Prop :=
  ∀ x ∈ met, ∀ e, x.answer ≠ .error e

/-- The last answer is an error, the only one. -/
def FailsWith (e : Error) (met : List Stop) : Prop :=
  ∃ before x, met = before ++ [x] ∧ x.answer = .error e ∧ Unfailed before

end Stop

namespace Node

/-- At this node an evaluation gets an answer at once: of a condition the test says something, and
a negation that has other than one member is refused. -/
inductive IsAnswered : Node → Except Error Bool → Prop where
  | condition (l : Leaf) (answer : Except Error Bool) : IsAnswered (.leaf l) answer
  | refusal {comparison : Comparison} {members : List Node} (h : members.length ≠ 1) :
      IsAnswered (.group .neg comparison members) (.error (negationArity members))

/-- The answers fix the value of the node at an address, whatever the conditions are that were not
visited. -/
def Settles (met : List Stop) (above : Address) (n : Node) (b : Bool) : Prop :=
  ∀ truth, Stop.Agrees truth met → n.holds (fun a => truth (above ++ a)) = b

/-- Nothing that came before rules out a visit at an address. -/
structure IsOpen (root : Node) (met : List Stop) (a : Address) : Prop where
  /-- No earlier sibling has decided the group, at any group around the place. -/
  undecided : ∀ above i rest, a = above ++ i :: rest → ∀ op comparison members,
    root.at? above = some (.group op comparison members) → ∀ d, op.deciding? = some d →
      ∀ j < i, ∀ n, members[j]? = some n → ¬ Settles met (above ++ [j]) n d
  /-- Every negation around the place has one member. -/
  single : ∀ above i rest, a = above ++ i :: rest → ∀ comparison members,
    root.at? above = some (.group .neg comparison members) → members.length = 1
  /-- No answer before was an error. -/
  unfailed : ∀ x ∈ met, x.address < a → ∀ e, x.answer ≠ .error e

/-- An evaluation of a tree meets these stops and gives this result. -/
structure IsEvaluated (root : Node) (met : List Stop) (result : Except Error Bool) : Prop where
  /-- The places are met from left to right, each one once. -/
  inOrder : Stop.InOrder met
  /-- They are conditions, and negations that are refused. -/
  places : ∀ x ∈ met, ∃ n, root.at? x.address = some n ∧ n.IsAnswered x.answer
  /-- Such a place is met exactly when nothing that came before rules it out. -/
  visits : ∀ a n answer, root.at? a = some n → n.IsAnswered answer →
    ((∃ x ∈ met, x.address = a) ↔ root.IsOpen met a)
  /-- An error as result is the first one met, and nothing is visited after it. -/
  failed : ∀ e, result = .error e → Stop.FailsWith e met
  /-- Without an error, the result is the Boolean value of the tree. -/
  settled : ∀ b, result = .ok b → Stop.Unfailed met ∧ Settles met [] root b

end Node

/-! ## Answers and values -/

namespace Stop

variable {met : List Stop}

/-- Some values agree with the answers. -/
theorem exists_agrees (h : InOrder met) : ∃ truth, Agrees truth met := by
  induction met with
  | nil => exact ⟨fun _ => true, nofun⟩
  | cons x rest ih =>
    obtain ⟨hx, hrest⟩ := List.pairwise_cons.mp h
    obtain ⟨truth, htruth⟩ := ih hrest
    refine ⟨fun a => if a = x.address then x.answer.toOption.getD true else truth a, ?_⟩
    intro y hy b hb
    show (if y.address = x.address then x.answer.toOption.getD true else truth y.address) = b
    rcases List.mem_cons.mp hy with rfl | hy
    · rw [if_pos rfl, hb]
      rfl
    · have hne : y.address ≠ x.address := by
        intro heq
        have hlt := hx y hy
        rw [heq] at hlt
        exact List.lt_irrefl _ hlt
      rw [if_neg hne]
      exact htruth y hy b hb

/-- The stops in the members of a group, the first of which stands at position `i`. -/
def gather (i : Nat) : List (List Stop) → List Stop
  | [] => []
  | met :: rest => met.map (under i) ++ gather (i + 1) rest

variable {mets : List (List Stop)} {i : Nat} {x : Stop}

theorem mem_gather :
    x ∈ gather i mets ↔ ∃ j met y, mets[j]? = some met ∧ y ∈ met ∧ x = under (i + j) y := by
  induction mets generalizing i with
  | nil => simp [gather]
  | cons met rest ih =>
    rw [gather, List.mem_append, List.mem_map, ih]
    constructor
    · rintro (⟨y, hy, rfl⟩ | ⟨j, met', y, hmet, hy, rfl⟩)
      · exact ⟨0, met, y, rfl, hy, rfl⟩
      · refine ⟨j + 1, met', y, hmet, hy, ?_⟩
        rw [Nat.add_assoc, Nat.add_comm 1 j]
    · rintro ⟨j, met', y, hmet, hy, rfl⟩
      cases j with
      | zero =>
        obtain rfl := Option.some.inj hmet
        exact .inl ⟨y, hy, rfl⟩
      | succ j =>
        refine .inr ⟨j, met', y, hmet, hy, ?_⟩
        rw [Nat.add_assoc, Nat.add_comm 1 j]

theorem mem_gather_zero :
    x ∈ gather 0 mets ↔ ∃ j met y, mets[j]? = some met ∧ y ∈ met ∧ x = under j y := by
  rw [mem_gather]
  simp only [Nat.zero_add]

theorem inOrder_gather (h : ∀ met ∈ mets, InOrder met) (i : Nat) : InOrder (gather i mets) := by
  induction mets generalizing i with
  | nil => exact List.Pairwise.nil
  | cons met rest ih =>
    obtain ⟨hmet, hrest⟩ := List.forall_mem_cons.mp h
    refine List.pairwise_append.mpr ⟨?_, ih hrest (i + 1), ?_⟩
    · rw [List.pairwise_map]
      exact hmet.imp fun hlt => List.cons_lt_cons_iff.mpr (.inr ⟨rfl, hlt⟩)
    · intro x hx y hy
      obtain ⟨x, _, rfl⟩ := List.mem_map.mp hx
      obtain ⟨j, _, y, _, _, rfl⟩ := mem_gather.mp hy
      exact List.cons_lt_cons_iff.mpr (.inl (by omega))

/-- Values agree with the answers of a member, where they agree with those of all members. -/
theorem Agrees.of_gather {truth : Address → Bool} (h : Agrees truth (gather i mets)) {j : Nat}
    (hmet : mets[j]? = some met) : Agrees (fun a => truth ((i + j) :: a)) met := by
  intro x hx b hb
  exact h (x.under (i + j)) (mem_gather.mpr ⟨j, met, x, hmet, hx, rfl⟩) b hb

theorem Unfailed.under (h : Unfailed met) (i : Nat) : Unfailed (met.map (under i)) := by
  intro x hx e
  obtain ⟨y, hy, rfl⟩ := List.mem_map.mp hx
  exact h y hy e

theorem Unfailed.append {met' : List Stop} (h : Unfailed met) (h' : Unfailed met') :
    Unfailed (met ++ met') := by
  intro x hx e
  rcases List.mem_append.mp hx with hx | hx
  · exact h x hx e
  · exact h' x hx e

theorem FailsWith.under {e : Error} (h : FailsWith e met) (i : Nat) :
    FailsWith e (met.map (under i)) := by
  obtain ⟨before, x, rfl, hx, hbefore⟩ := h
  refine ⟨before.map (Stop.under i), x.under i, ?_, hx, hbefore.under i⟩
  rw [List.map_append, List.map_singleton]

theorem FailsWith.append {e : Error} {met' : List Stop} (h : Unfailed met)
    (h' : FailsWith e met') : FailsWith e (met ++ met') := by
  obtain ⟨before, x, rfl, hx, hbefore⟩ := h'
  exact ⟨met ++ before, x, (List.append_assoc ..).symm, hx, h.append hbefore⟩

end Stop

namespace Node

variable {mets : List (List Stop)} {met : List Stop} {i : Nat} {n : Node} {b : Bool}

/-- Whether a member is settled, its own stops say. -/
theorem settles_gather (h : ∀ met ∈ mets, Stop.InOrder met) (hmet : mets[i]? = some met)
    (above : Address) :
    Settles (Stop.gather 0 mets) (i :: above) n b ↔ Settles met above n b := by
  constructor
  · intro hsettles truth htruth
    obtain ⟨others, hothers⟩ := Stop.exists_agrees (Stop.inOrder_gather h 0)
    -- the values below the member, among values that agree with the answers elsewhere
    have hagrees : Stop.Agrees
        (fun a => if a.head? = some i then truth a.tail else others a) (Stop.gather 0 mets) := by
      intro x hx b hb
      obtain ⟨j, met', y, hmet', hy, rfl⟩ := Stop.mem_gather_zero.mp hx
      by_cases hj : j = i
      · subst hj
        obtain rfl := Option.some.inj (hmet.symm.trans hmet')
        simp only [Stop.under, List.head?_cons, if_true, List.tail_cons]
        exact htruth y hy b hb
      · simp only [Stop.under, List.head?_cons, Option.some.injEq, hj, if_false]
        exact hothers _ hx b hb
    have hvalue := hsettles _ hagrees
    simp only [List.cons_append, List.head?_cons, if_true, List.tail_cons] at hvalue
    exact hvalue
  · intro hsettles truth htruth
    have hagrees := htruth.of_gather hmet
    rw [Nat.zero_add] at hagrees
    exact hsettles _ hagrees

/-- Answers do not settle a node at both values. -/
theorem Settles.eq {b' : Bool} {above : Address} (hmet : Stop.InOrder met)
    (h : Settles met above n b) (h' : Settles met above n b') : b = b' := by
  obtain ⟨truth, htruth⟩ := Stop.exists_agrees hmet
  exact (h truth htruth).symm.trans (h' truth htruth)

/-- A group has the value that decides it exactly when a member has. -/
theorem holds_group {op : Operator} {d : Bool} (hop : op.deciding? = some d)
    (comparison : Comparison) (ms : List Node) (truth : Address → Bool) :
    (group op comparison ms).holds truth = if d ∈ holdsEach truth 0 ms then d else !d := by
  cases op with
  | conj =>
    cases hop
    by_cases h : false ∈ holdsEach truth 0 ms
    · simp [holds, h]
    · simp [holds, h]
  | disj =>
    cases hop
    by_cases h : true ∈ holdsEach truth 0 ms
    · simp [holds, h]
    · simp [holds, h]
  | neg => cases hop
  | compare c =>
    cases hop
    by_cases h : false ∈ holdsEach truth 0 ms
    · simp [holds, h]
    · simp [holds, h]

end Node

/-! ## The places in a group -/

namespace Node

/-- The members of a group that were evaluated, up to the one that failed or decided it. -/
structure IsScanned (op : Operator) (ms : List Node) (mets : List (List Stop)) : Prop where
  /-- The members evaluated are the first ones, and only the last may have ended the group. -/
  visited : ∀ i met, mets[i]? = some met → ∃ n r, ms[i]? = some n ∧ n.IsEvaluated met r ∧
    (i + 1 < mets.length → ∃ d, op.deciding? = some d ∧ r = .ok !d)
  /-- Before a member that was not evaluated, another failed or decided the group. -/
  ended : ∀ i n, ms[i]? = some n → mets.length ≤ i → ∃ j < i, ∃ m met r, ms[j]? = some m ∧
    mets[j]? = some met ∧ m.IsEvaluated met r ∧
      ((∃ e, r = .error e) ∨ ∃ d, op.deciding? = some d ∧ r = .ok d)
  single : op = .neg → ms.length = 1

namespace IsScanned

variable {op : Operator} {comparison : Comparison} {ms : List Node} {mets : List (List Stop)}
  {met : List Stop} {i : Nat} {n : Node} {a : Address}

theorem inOrder (h : IsScanned op ms mets) : ∀ met ∈ mets, Stop.InOrder met := by
  intro met hmet
  obtain ⟨i, hi⟩ := List.mem_iff_getElem?.mp hmet
  obtain ⟨_, _, _, hn, _⟩ := h.visited i met hi
  exact hn.inOrder

/-- A member before one that was evaluated has neither failed nor decided the group. -/
theorem settles_of_lt (h : IsScanned op ms mets) {j : Nat} (hj : j < i) (hi : i < mets.length) :
    ∃ m met d, ms[j]? = some m ∧ mets[j]? = some met ∧ op.deciding? = some d ∧
      Stop.Unfailed met ∧ Settles met [] m !d := by
  have hlt : j < mets.length := Nat.lt_trans hj hi
  have hmet : mets[j]? = some mets[j] := List.getElem?_eq_getElem hlt
  obtain ⟨m, r, hm, heval, hlast⟩ := h.visited j _ hmet
  obtain ⟨d, hd, rfl⟩ := hlast (by omega)
  obtain ⟨hunfailed, hsettles⟩ := heval.settled _ rfl
  exact ⟨m, mets[j], d, hm, hmet, hd, hunfailed, hsettles⟩

/-- What is open in a member that was evaluated is open in the group. -/
theorem isOpen_of_member (h : IsScanned op ms mets) (hmet : mets[i]? = some met)
    (hn : ms[i]? = some n) (hopen : n.IsOpen met a) :
    (group op comparison ms).IsOpen (Stop.gather 0 mets) (i :: a) := by
  obtain ⟨hi, _⟩ := List.getElem?_eq_some_iff.mp hmet
  constructor
  case undecided =>
    intro above k rest ha op' comparison' members hat d hd j hj m hm hsettles
    cases above with
    | nil =>
      -- the group itself
      cases ha
      cases hat
      obtain ⟨m', met', d', hm', hmet', hd', _, hsettles'⟩ := h.settles_of_lt hj hi
      obtain rfl := Option.some.inj (hm.symm.trans hm')
      obtain rfl := Option.some.inj (hd.symm.trans hd')
      have hself := (settles_gather h.inOrder hmet' []).mp hsettles
      have heq := hself.eq (h.inOrder met' (List.mem_of_getElem? hmet')) hsettles'
      exact (Bool.eq_not_self d).mp heq
    | cons k' above =>
      -- a group in the member
      cases ha
      rw [at?, hn] at hat
      refine hopen.undecided above k rest rfl op' comparison' members hat d hd j hj m hm ?_
      exact (settles_gather h.inOrder hmet (above ++ [j])).mp hsettles
  case single =>
    intro above k rest ha comparison' members hat
    cases above with
    | nil =>
      cases hat
      exact h.single rfl
    | cons k' above =>
      cases ha
      rw [at?, hn] at hat
      exact hopen.single above k rest rfl comparison' members hat
  case unfailed =>
    intro x hx hlt
    obtain ⟨j, met', y, hmet', hy, rfl⟩ := Stop.mem_gather_zero.mp hx
    rcases List.cons_lt_cons_iff.mp hlt with hj | ⟨rfl, hbefore⟩
    · obtain ⟨_, met'', _, _, hmet'', _, hunfailed, _⟩ := h.settles_of_lt hj hi
      obtain rfl := Option.some.inj (hmet'.symm.trans hmet'')
      exact hunfailed y hy
    · obtain rfl := Option.some.inj (hmet.symm.trans hmet')
      exact hopen.unfailed y hy hbefore

/-- What is open in a group is in a member that was evaluated, and open there. -/
theorem member_of_isOpen (h : IsScanned op ms mets) (hn : ms[i]? = some n)
    (hopen : (group op comparison ms).IsOpen (Stop.gather 0 mets) (i :: a)) :
    ∃ met, mets[i]? = some met ∧ n.IsOpen met a := by
  by_cases hi : i < mets.length
  · have hmet : mets[i]? = some mets[i] := List.getElem?_eq_getElem hi
    refine ⟨mets[i], hmet, ?_, ?_, ?_⟩
    case refine_1 =>
      intro above k rest ha op' comparison' members hat d hd j hj m hm hsettles
      refine hopen.undecided (i :: above) k rest (congrArg _ ha) op' comparison' members ?_ d hd
        j hj m hm ?_
      · rw [at?, hn]
        exact hat
      · exact (settles_gather h.inOrder hmet (above ++ [j])).mpr hsettles
    case refine_2 =>
      intro above k rest ha comparison' members hat
      refine hopen.single (i :: above) k rest (congrArg _ ha) comparison' members ?_
      rw [at?, hn]
      exact hat
    case refine_3 =>
      intro x hx hlt
      refine hopen.unfailed (x.under i) ?_ (List.cons_lt_cons_iff.mpr (.inr ⟨rfl, hlt⟩))
      exact Stop.mem_gather_zero.mpr ⟨i, _, x, hmet, hx, rfl⟩
  · -- an earlier member has ended the group
    exfalso
    obtain ⟨j, hj, m, met, r, hm, hmet, heval, hend⟩ := h.ended i n hn (Nat.le_of_not_lt hi)
    rcases hend with ⟨e, rfl⟩ | ⟨d, hd, rfl⟩
    · obtain ⟨before, x, rfl, hx, _⟩ := heval.failed e rfl
      refine hopen.unfailed (x.under j) ?_ (List.cons_lt_cons_iff.mpr (.inl hj)) e hx
      exact Stop.mem_gather_zero.mpr
        ⟨j, _, x, hmet, List.mem_append_right _ (List.mem_singleton_self x), rfl⟩
    · obtain ⟨_, hsettles⟩ := heval.settled d rfl
      exact hopen.undecided [] i a rfl op comparison ms rfl d hd j hj m hm
        ((settles_gather h.inOrder hmet []).mpr hsettles)

/-- At a place below a member, the group and the member agree on what is met. -/
theorem exists_address_iff (mets : List (List Stop)) (i : Nat) (a : Address) :
    (∃ x ∈ Stop.gather 0 mets, x.address = i :: a) ↔
      ∃ met, mets[i]? = some met ∧ ∃ x ∈ met, x.address = a := by
  constructor
  · rintro ⟨x, hx, ha⟩
    obtain ⟨j, met, y, hmet, hy, rfl⟩ := Stop.mem_gather_zero.mp hx
    cases ha
    exact ⟨met, hmet, y, hy, rfl⟩
  · rintro ⟨met, hmet, y, hy, rfl⟩
    exact ⟨y.under i, Stop.mem_gather_zero.mpr ⟨i, met, y, hmet, hy, rfl⟩, rfl⟩

/-- An evaluation of a group meets what the evaluations of its members meet, one after the
other. -/
theorem isEvaluated (h : IsScanned op ms mets) {result : Except Error Bool}
    (hfailed : ∀ e, result = .error e → Stop.FailsWith e (Stop.gather 0 mets))
    (hsettled : ∀ b, result = .ok b → Stop.Unfailed (Stop.gather 0 mets) ∧
      Settles (Stop.gather 0 mets) [] (group op comparison ms) b) :
    (group op comparison ms).IsEvaluated (Stop.gather 0 mets) result := by
  refine ⟨Stop.inOrder_gather h.inOrder 0, ?_, ?_, hfailed, hsettled⟩
  case refine_1 =>
    intro x hx
    obtain ⟨i, met, y, hmet, hy, rfl⟩ := Stop.mem_gather_zero.mp hx
    obtain ⟨n, r, hn, heval, _⟩ := h.visited i met hmet
    obtain ⟨m, hm, hanswer⟩ := heval.places y hy
    refine ⟨m, ?_, hanswer⟩
    rw [Stop.under, at?, hn]
    exact hm
  case refine_2 =>
    intro a n answer hat hanswer
    cases a with
    | nil =>
      -- the group is not refused, so it is no such place itself
      cases hat
      cases hanswer with
      | refusal hne => exact absurd (h.single rfl) hne
    | cons i a =>
      cases hm : ms[i]? with
      | none =>
        rw [at?, hm] at hat
        cases hat
      | some m =>
        rw [at?, hm] at hat
        rw [exists_address_iff]
        constructor
        · rintro ⟨met, hmet, hx⟩
          obtain ⟨m', r, hm', heval, _⟩ := h.visited i met hmet
          obtain rfl := Option.some.inj (hm.symm.trans hm')
          exact h.isOpen_of_member hmet hm ((heval.visits a n answer hat hanswer).mp hx)
        · intro hopen
          obtain ⟨met, hmet, hmember⟩ := h.member_of_isOpen hm hopen
          obtain ⟨m', r, hm', heval, _⟩ := h.visited i met hmet
          obtain rfl := Option.some.inj (hm.symm.trans hm')
          exact ⟨met, hmet, (heval.visits a n answer hat hanswer).mpr hmember⟩

end IsScanned

/-! ## The result of a group -/

/-- The members of a list are evaluated one after the other until one fails or has the value
`d`. -/
inductive EachEvaluated (d : Bool) :
    List Node → List (List Stop) → Except Error Bool → Prop where
  | nil : EachEvaluated d [] [] (.ok !d)
  | next {n : Node} {met : List Stop} {rest : List Node} {mets : List (List Stop)}
      {r : Except Error Bool} (hn : n.IsEvaluated met (.ok !d))
      (hrest : EachEvaluated d rest mets r) : EachEvaluated d (n :: rest) (met :: mets) r
  | ended {n : Node} {met : List Stop} {rest : List Node} {r : Except Error Bool}
      (hn : n.IsEvaluated met r) (hr : (∃ e, r = .error e) ∨ r = .ok d) :
      EachEvaluated d (n :: rest) [met] r

namespace EachEvaluated

variable {d : Bool} {ms : List Node} {mets : List (List Stop)} {r : Except Error Bool}

theorem isScanned {op : Operator} (hop : op.deciding? = some d) (h : EachEvaluated d ms mets r) :
    IsScanned op ms mets := by
  have hsingle : op = .neg → ms.length = 1 := by
    rintro rfl
    cases hop
  refine ⟨?_, ?_, hsingle⟩
  case refine_1 =>
    clear hsingle
    induction h with
    | nil => exact nofun
    | @next n met rest mets r hn hrest ih =>
      intro i met' hmet'
      cases i with
      | zero =>
        obtain rfl := Option.some.inj hmet'
        exact ⟨n, _, rfl, hn, fun _ => ⟨d, hop, rfl⟩⟩
      | succ i =>
        obtain ⟨n', r', hn', heval, hlast⟩ := ih i met' hmet'
        exact ⟨n', r', hn', heval, fun hlt => hlast (Nat.lt_of_succ_lt_succ hlt)⟩
    | @ended n met rest r hn hr =>
      intro i met' hmet'
      cases i with
      | zero =>
        obtain rfl := Option.some.inj hmet'
        exact ⟨n, r, rfl, hn, fun hlt => absurd hlt (Nat.lt_irrefl 1)⟩
      | succ i => cases hmet'
  case refine_2 =>
    clear hsingle
    induction h with
    | nil => exact nofun
    | @next n met rest mets r hn hrest ih =>
      intro i n' hn' hi
      cases i with
      | zero => cases hi
      | succ i =>
        obtain ⟨j, hj, m, met', r', hm, hmet', heval, hend⟩ :=
          ih i n' hn' (Nat.le_of_succ_le_succ hi)
        exact ⟨j + 1, Nat.succ_lt_succ hj, m, met', r', hm, hmet', heval, hend⟩
    | @ended n met rest r hn hr =>
      intro i n' hn' hi
      exact ⟨0, hi, n, met, r, rfl, rfl, hn, hr.imp_right fun hd => ⟨d, hop, hd⟩⟩

theorem length_le (h : EachEvaluated d ms mets r) : mets.length ≤ ms.length := by
  induction h with
  | nil => exact Nat.le_refl 0
  | next _ _ ih => exact Nat.succ_le_succ ih
  | ended => exact Nat.succ_le_succ (Nat.zero_le _)

theorem failsWith {e : Error} (h : EachEvaluated d ms mets (.error e)) (i : Nat) :
    Stop.FailsWith e (Stop.gather i mets) := by
  generalize hr : Except.error e = r at h
  induction h generalizing i with
  | nil => cases hr
  | next hn _ ih =>
    obtain ⟨hunfailed, _⟩ := hn.settled _ rfl
    exact (ih (i + 1) hr).append (hunfailed.under i)
  | ended hn _ =>
    rw [Stop.gather, Stop.gather, List.append_nil]
    exact (hn.failed e hr.symm).under i

theorem unfailed {b : Bool} (h : EachEvaluated d ms mets (.ok b)) (i : Nat) :
    Stop.Unfailed (Stop.gather i mets) := by
  generalize hr : Except.ok b = r at h
  induction h generalizing i with
  | nil => exact nofun
  | next hn _ ih =>
    obtain ⟨hunfailed, _⟩ := hn.settled _ rfl
    exact (hunfailed.under i).append (ih (i + 1) hr)
  | ended hn _ =>
    rw [Stop.gather, Stop.gather, List.append_nil]
    exact ((hn.settled b hr.symm).1).under i

/-- The value of the group, under all values of conditions that agree with the answers. -/
theorem value_eq {b : Bool} (h : EachEvaluated d ms mets (.ok b)) (i : Nat)
    {truth : Address → Bool} (htruth : Stop.Agrees truth (Stop.gather i mets)) :
    (if d ∈ holdsEach truth i ms then d else !d) = b := by
  generalize hr : Except.ok b = r at h
  induction h generalizing i with
  | nil =>
    cases hr
    rw [holdsEach, if_neg List.not_mem_nil]
  | @next n met rest mets r hn _ ih =>
    obtain ⟨_, hsettles⟩ := hn.settled _ rfl
    have hvalue : n.holds (fun a => truth (i :: a)) = !d :=
      hsettles _ (htruth.of_gather (j := 0) rfl)
    have hrest : Stop.Agrees truth (Stop.gather (i + 1) mets) :=
      fun x hx => htruth x (List.mem_append_right _ hx)
    have hne : d ≠ !d := fun heq => (Bool.eq_not_self d).mp heq
    rw [holdsEach, hvalue, ← ih (i + 1) hrest hr]
    simp only [List.mem_cons, hne, false_or]
  | @ended n met rest r hn hend =>
    cases hr
    obtain ⟨_, hsettles⟩ := hn.settled b rfl
    have hvalue : n.holds (fun a => truth (i :: a)) = b :=
      hsettles _ (htruth.of_gather (j := 0) rfl)
    rcases hend with ⟨e, he⟩ | hd
    · cases he
    · cases hd
      rw [holdsEach, hvalue, if_pos (List.mem_cons_self ..)]

/-- A group under an operator with a deciding value is evaluated so. -/
theorem isEvaluated {op : Operator} (hop : op.deciding? = some d) (comparison : Comparison)
    (h : EachEvaluated d ms mets r) :
    (group op comparison ms).IsEvaluated (Stop.gather 0 mets) r := by
  refine (h.isScanned hop).isEvaluated ?_ ?_
  · rintro e rfl
    exact h.failsWith 0
  · rintro b rfl
    refine ⟨h.unfailed 0, fun truth htruth => ?_⟩
    rw [← h.value_eq 0 htruth]
    exact holds_group hop comparison ms truth

end EachEvaluated

/-! ## The evaluation of a node -/

theorem isOpen_nil (n : Node) (answer : Except Error Bool) : n.IsOpen [⟨[], answer⟩] [] := by
  constructor
  case undecided => exact fun above i rest ha => by simp at ha
  case single => exact fun above i rest ha => by simp at ha
  case unfailed =>
    intro x hx hlt
    rw [List.mem_singleton.mp hx] at hlt
    exact absurd hlt (List.lt_irrefl [])

/-- Where an answer is given at once, it is the result, and nothing else is met. -/
theorem IsAnswered.isEvaluated {n : Node} {answer : Except Error Bool}
    (h : n.IsAnswered answer) : n.IsEvaluated [⟨[], answer⟩] answer := by
  constructor
  case inOrder => exact List.pairwise_singleton ..
  case places =>
    intro x hx
    rw [List.mem_singleton.mp hx]
    exact ⟨n, rfl, h⟩
  case visits =>
    intro a m answer' hat _
    cases a with
    | nil => exact iff_of_true ⟨_, List.mem_singleton_self _, rfl⟩ (n.isOpen_nil answer)
    | cons i rest =>
      cases h with
      | condition l => cases hat
      | refusal hne =>
        refine iff_of_false ?_ ?_
        · rintro ⟨x, hx, ha⟩
          rw [List.mem_singleton.mp hx] at ha
          cases ha
        · exact fun hopen => hne (hopen.single [] i rest rfl _ _ rfl)
  case failed =>
    rintro e rfl
    exact ⟨[], _, rfl, rfl, nofun⟩
  case settled =>
    rintro b rfl
    refine ⟨?_, fun truth htruth => ?_⟩
    · intro x hx e he
      rw [List.mem_singleton.mp hx] at he
      cases he
    · cases h
      rw [holds]
      exact htruth _ (List.mem_singleton_self _) b rfl

/-- A negation of one member turns the result for the member over. -/
theorem isEvaluated_negation (comparison : Comparison) {n : Node} {met : List Stop}
    {r : Except Error Bool} (h : n.IsEvaluated met r) :
    (group .neg comparison [n]).IsEvaluated (Stop.gather 0 [met]) (r.map not) := by
  have hscanned : IsScanned .neg [n] [met] := by
    refine ⟨?_, ?_, fun _ => rfl⟩
    case refine_1 =>
      intro i met' hmet'
      cases i with
      | zero =>
        obtain rfl := Option.some.inj hmet'
        exact ⟨n, r, rfl, h, fun hlt => absurd hlt (Nat.lt_irrefl 1)⟩
      | succ i => cases hmet'
    case refine_2 =>
      intro i n' hn' hi
      cases i with
      | zero => cases hi
      | succ i => cases hn'
  have hgather : Stop.gather 0 [met] = met.map (Stop.under 0) := by
    rw [Stop.gather, Stop.gather, List.append_nil]
  refine hscanned.isEvaluated ?_ ?_
  · intro e he
    cases r with
    | error e' =>
      cases he
      rw [hgather]
      exact (h.failed e rfl).under 0
    | ok b => cases he
  · intro b hb
    cases r with
    | error e => cases hb
    | ok b' =>
      cases hb
      obtain ⟨hunfailed, hsettles⟩ := h.settled b' rfl
      refine ⟨?_, fun truth htruth => ?_⟩
      · rw [hgather]
        exact hunfailed.under 0
      · have hvalue : n.holds (fun a => truth (0 :: a)) = b' :=
          hsettles _ (htruth.of_gather (j := 0) rfl)
        simp [holds, holdsEach, hvalue]

/-! ## Evaluations on record -/

/-- A call of the test: the condition and the answer. -/
abbrev TestCall := Leaf × Except Error Bool

/-- The same test, which also puts every call on record. -/
def recording {σ : Type} (test : Leaf → ExceptT Error (StateM σ) Bool) (l : Leaf) :
    ExceptT Error (StateM (σ × List TestCall)) Bool :=
  ExceptT.mk fun (s, calls) =>
    (((test l).run s).1, (((test l).run s).2, calls ++ [(l, ((test l).run s).1)]))

/-- The call that a stop stands for, where it is at a condition. -/
def call? (root : Node) (x : Stop) : Option TestCall :=
  match root.at? x.address with
  | some (leaf l) => some (l, x.answer)
  | _ => none

/-- The calls that the stops in members stand for. -/
def callsEach : List (List Stop) → List Node → List TestCall
  | [], _ => []
  | _ :: _, [] => []
  | met :: mets, n :: ms => met.filterMap n.call? ++ callsEach mets ms

theorem filterMap_call?_under {op : Operator} {comparison : Comparison} {ms : List Node} {i : Nat}
    {n : Node} (hn : ms[i]? = some n) (met : List Stop) :
    (met.map (Stop.under i)).filterMap (group op comparison ms).call? = met.filterMap n.call? := by
  rw [List.filterMap_map]
  congr 1
  funext x
  simp only [Function.comp, call?, Stop.under, at?, hn, Option.bind_some]

theorem filterMap_call?_gather (op : Operator) (comparison : Comparison) (before ms : List Node)
    (mets : List (List Stop)) (hle : mets.length ≤ ms.length) :
    (Stop.gather before.length mets).filterMap (group op comparison (before ++ ms)).call? =
      callsEach mets ms := by
  induction ms generalizing before mets with
  | nil =>
    obtain rfl := List.length_eq_zero_iff.mp (Nat.le_zero.mp hle)
    rfl
  | cons n ms ih =>
    cases mets with
    | nil => rfl
    | cons met mets =>
      have hn : (before ++ n :: ms)[before.length]? = some n := by simp
      have hrest := ih (before ++ [n]) mets (Nat.le_of_succ_le_succ hle)
      rw [List.length_append, List.append_assoc] at hrest
      rw [Stop.gather, List.filterMap_append, filterMap_call?_under hn, callsEach]
      exact congrArg _ hrest

section Running

variable {σ : Type} {s s' : σ} {x : ExceptT Error (StateM σ) Bool}
  {f : Bool → ExceptT Error (StateM σ) Bool}

theorem run_bind_ok {b : Bool} (h : x.run s = (.ok b, s')) :
    (x >>= f).run s = (f b).run s' := by
  have hbind : (x >>= f).run s = ExceptT.bindCont f (x.run s).1 (x.run s).2 := rfl
  rw [hbind, h]
  rfl

theorem run_bind_error {e : Error} (h : x.run s = (.error e, s')) :
    (x >>= f).run s = (.error e, s') := by
  have hbind : (x >>= f).run s = ExceptT.bindCont f (x.run s).1 (x.run s).2 := rfl
  rw [hbind, h]
  rfl

end Running

section Groups

variable {m : Type → Type} [Monad m]

/-- Evaluates members until one has the value `d`. -/
def evalUntil (d : Bool) (test : Leaf → ExceptT Error m Bool) : List Node → ExceptT Error m Bool
  | [] => pure !d
  | n :: rest => n.eval test >>= fun b => if b = d then pure d else evalUntil d test rest

theorem evalAll_eq_evalUntil (test : Leaf → ExceptT Error m Bool) (ms : List Node) :
    evalAll test ms = evalUntil false test ms := by
  induction ms with
  | nil => rw [evalAll, evalUntil, Bool.not_false]
  | cons n rest ih =>
    rw [evalAll, evalUntil, ih]
    congr 1
    funext b
    cases b with
    | true => rfl
    | false => rfl

theorem evalAny_eq_evalUntil (test : Leaf → ExceptT Error m Bool) (ms : List Node) :
    evalAny test ms = evalUntil true test ms := by
  induction ms with
  | nil => rw [evalAny, evalUntil, Bool.not_true]
  | cons n rest ih =>
    rw [evalAny, evalUntil, ih]

theorem eval_group {op : Operator} {d : Bool} (hop : op.deciding? = some d)
    (test : Leaf → ExceptT Error m Bool) (comparison : Comparison) (ms : List Node) :
    (group op comparison ms).eval test = evalUntil d test ms := by
  cases op with
  | conj =>
    cases hop
    simp only [eval]
    exact evalAll_eq_evalUntil test ms
  | disj =>
    cases hop
    simp only [eval]
    exact evalAny_eq_evalUntil test ms
  | neg => cases hop
  | compare c =>
    cases hop
    simp only [eval]
    exact evalAll_eq_evalUntil test ms

theorem eval_refusal (test : Leaf → ExceptT Error m Bool) (comparison : Comparison)
    {ms : List Node} (h : ms.length ≠ 1) :
    (group .neg comparison ms).eval test = throw (negationArity ms) := by
  rw [eval]
  rintro n rfl
  exact h rfl

end Groups

section Recording

variable {σ : Type} (test : Leaf → ExceptT Error (StateM σ) Bool)

theorem exists_isEvaluated_refusal (comparison : Comparison) {ms : List Node}
    (h : ms.length ≠ 1) (s : σ) : ∃ met result s',
      ((group .neg comparison ms).eval test).run s = (result, s') ∧
      (∀ calls, ((group .neg comparison ms).eval (recording test)).run (s, calls) =
        (result, s', calls ++ met.filterMap (group .neg comparison ms).call?)) ∧
      (group .neg comparison ms).IsEvaluated met result := by
  refine ⟨_, .error (negationArity ms), s, ?_, ?_, (IsAnswered.refusal h).isEvaluated⟩
  · rw [eval_refusal test comparison h]
    rfl
  · intro calls
    have hcalls : [⟨[], .error (negationArity ms)⟩].filterMap (group .neg comparison ms).call? =
        [] := rfl
    rw [eval_refusal _ comparison h, hcalls, List.append_nil]
    rfl

mutual

/-- What the evaluation of a node meets, and the calls on record. -/
theorem exists_isEvaluated : (n : Node) → ∀ s, ∃ met result s',
    (n.eval test).run s = (result, s') ∧
      (∀ calls, (n.eval (recording test)).run (s, calls) =
        (result, s', calls ++ met.filterMap n.call?)) ∧ n.IsEvaluated met result
  | leaf l => by
    intro s
    refine ⟨_, ((test l).run s).1, ((test l).run s).2, ?_, ?_,
      (IsAnswered.condition l _).isEvaluated⟩
    · rw [eval]
      rfl
    · intro calls
      rw [eval]
      rfl
  | group op comparison ms => by
    intro s
    cases hop : op.deciding? with
    | some d =>
      obtain ⟨mets, result, s', hrun, hrecord, heval⟩ := exists_eachEvaluated d ms s
      refine ⟨Stop.gather 0 mets, result, s', ?_, ?_, heval.isEvaluated hop comparison⟩
      · rw [eval_group hop]
        exact hrun
      · intro calls
        have hcalls := filterMap_call?_gather op comparison [] ms mets heval.length_le
        rw [eval_group hop, hrecord calls, ← hcalls]
        rfl
    | none =>
      cases op with
      | neg =>
        match ms with
        | [n] =>
          obtain ⟨met, result, s', hrun, hrecord, heval⟩ := exists_isEvaluated n s
          refine ⟨Stop.gather 0 [met], result.map not, s', ?_, ?_,
            isEvaluated_negation comparison heval⟩
          · rw [eval]
            cases result with
            | error e => exact run_bind_error hrun
            | ok b => exact run_bind_ok hrun
          · intro calls
            have hcalls : (Stop.gather 0 [met]).filterMap (group .neg comparison [n]).call? =
                met.filterMap n.call? := by
              rw [Stop.gather, Stop.gather, List.append_nil]
              exact filterMap_call?_under rfl met
            rw [eval, hcalls]
            cases result with
            | error e => exact run_bind_error (hrecord calls)
            | ok b => exact run_bind_ok (hrecord calls)
        | [] => exact exists_isEvaluated_refusal test comparison (by simp) s
        | _ :: _ :: _ => exact exists_isEvaluated_refusal test comparison (by simp) s
      | conj => cases hop
      | disj => cases hop
      | compare c => cases hop

theorem exists_eachEvaluated (d : Bool) : (ms : List Node) → ∀ s, ∃ mets result s',
    (evalUntil d test ms).run s = (result, s') ∧
      (∀ calls, (evalUntil d (recording test) ms).run (s, calls) =
        (result, s', calls ++ callsEach mets ms)) ∧ EachEvaluated d ms mets result
  | [] => by
    intro s
    refine ⟨[], .ok !d, s, rfl, ?_, .nil⟩
    intro calls
    rw [callsEach, List.append_nil]
    rfl
  | n :: rest => by
    intro s
    obtain ⟨met, result, s', hrun, hrecord, heval⟩ := exists_isEvaluated n s
    have hcalls : callsEach [met] (n :: rest) = met.filterMap n.call? := List.append_nil _
    cases result with
    | error e =>
      refine ⟨[met], .error e, s', ?_, ?_, .ended heval (.inl ⟨e, rfl⟩)⟩
      · rw [evalUntil]
        exact run_bind_error hrun
      · intro calls
        rw [evalUntil, hcalls]
        exact run_bind_error (hrecord calls)
    | ok b =>
      by_cases hb : b = d
      · subst hb
        refine ⟨[met], .ok b, s', ?_, ?_, .ended heval (.inr rfl)⟩
        · rw [evalUntil, run_bind_ok hrun, if_pos rfl]
          rfl
        · intro calls
          rw [evalUntil, hcalls, run_bind_ok (hrecord calls), if_pos rfl]
          rfl
      · obtain ⟨mets, result, s'', hrun', hrecord', hrest⟩ := exists_eachEvaluated d rest s'
        obtain rfl : b = !d := Bool.eq_not_of_ne hb
        refine ⟨met :: mets, result, s'', ?_, ?_, .next heval hrest⟩
        · rw [evalUntil, run_bind_ok hrun, if_neg hb]
          exact hrun'
        · intro calls
          rw [evalUntil, run_bind_ok (hrecord calls), if_neg hb, hrecord', callsEach,
            List.append_assoc]

end

end Recording

end Node

/-! ## Trees -/

/-- What an evaluation of a tree visits, and what it gives, whatever the test does. -/
theorem Tree.exists_met {σ : Type} (t : Tree) (test : Leaf → ExceptT Error (StateM σ) Bool)
    (s : σ) : ∃ met result s', (t.eval test).run s = (result, s') ∧
      (t.eval (Node.recording test)).run (s, []) = (result, s', met.filterMap t.root.call?) ∧
      t.root.IsEvaluated met result := by
  obtain ⟨met, result, s', hrun, hrecord, heval⟩ := t.root.exists_isEvaluated test s
  exact ⟨met, result, s', hrun, hrecord [], heval⟩

end TagSearch
