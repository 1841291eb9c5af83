import TagSearch.Proofs.Custody
import TagSearch.Proofs.Turns

/-!
# Accounting of transactions

Every transaction that is begun is told to end exactly once, unless an open cursor still holds
it, and nothing is asked in it afterwards.  The cursors that are open can be told from the steps
and what they came to.

Main results:

- Theorem `World.Balanced.accounts`: where only running transactions are held, all are accounted
  for.
- Theorem `Session.step_openNames`: which cursors are open after a step.
- Theorem `Session.InOrder.accounts`: a session that is in order accounts for its transactions.
- Theorem `Session.transactions_accounted`: every session does, whatever its steps and whatever
  the pool answers.
-/

namespace TagSearch

variable {σ : Type}

/-! ## Accounts -/

namespace World

/-- The calls that began a transaction. -/
def beginnings (w : World σ) (tx : Nat) : List Event :=
  w.trace.filter fun e => e.begun? = some tx

/-- The calls that told a transaction to end. -/
def endings (w : World σ) (tx : Nat) : List Event :=
  w.trace.filter fun e => e.call.endOf? = some tx

/-- The transactions are accounted for: those of the list are open, all others have ended. -/
structure Accounts (w : World σ) (held : List Nat) : Prop where
  distinct : held.Nodup
  /-- No two transactions have the same number. -/
  once : ∀ tx, (w.beginnings tx).length ≤ 1
  unended : ∀ tx ∈ held, (w.beginnings tx).length = 1 ∧ w.endings tx = []
  settled : ∀ b ∈ w.trace, ∀ tx, b.begun? = some tx → tx ∉ held → (w.endings tx).length = 1
  /-- Nothing is asked in a transaction after it was told to end. -/
  quiet : w.trace.Pairwise fun earlier later =>
    ∀ tx, earlier.call.endOf? = some tx → later.call.transaction? ≠ some tx

variable {w : World σ} {tx : Nat}

theorem filter_begun?_eq_nil {events : List Event} (h : ∀ e ∈ events, e.isOk = false) :
    (events.filter fun e => e.begun? = some tx) = [] := by
  rw [List.filter_eq_nil_iff]
  intro e he hbegun
  have hok := (Event.begun?_eq_some_iff.mp (of_decide_eq_true hbegun)).2
  rw [h e he] at hok
  cases hok

theorem beginnings_eq (w : World σ) (tx : Nat) :
    w.beginnings tx = (w.callsIn tx).filter fun e => e.begun? = some tx := by
  rw [beginnings, callsIn, List.filter_filter]
  refine List.filter_congr ?_
  intro e _
  by_cases h : e.begun? = some tx
  · simp [h, (Event.begun?_eq_some_iff.mp h).1, Call.transaction?]
  · simp [h]

theorem endings_eq (w : World σ) (tx : Nat) :
    w.endings tx = (w.callsIn tx).filter fun e => e.call.endOf? = some tx := by
  rw [endings, callsIn, List.filter_filter]
  refine List.filter_congr ?_
  intro e _
  by_cases h : e.call.endOf? = some tx
  · simp [h, Call.transaction?_of_endOf? h]
  · simp [h]

end World

/-! ## The end of a course -/

namespace Advances

variable {setting : String} {tx : Nat} {j : Job} {p q : Phase} {e : Event}

theorem ne_ended (h : Advances setting tx j p e q) : p ≠ .ended := by
  cases h with
  | bound _ _ _ => exact Phase.noConfusion
  | notBound _ _ _ => exact Phase.noConfusion
  | ran _ _ => exact Phase.noConfusion
  | notRun _ _ => exact Phase.noConfusion
  | fetched _ => exact Phase.noConfusion
  | committed _ => exact Phase.noConfusion
  | rolledBack _ _ hover => exact hover

/-- A transaction is over when it is told to end, and only then. -/
theorem endOf?_eq_some_iff (h : Advances setting tx j p e q) :
    e.call.endOf? = some tx ↔ q = .ended := by
  cases h with
  | bound _ hcall _ => simp [hcall, Call.endOf?]
  | notBound _ hcall _ => simp [hcall, Call.endOf?]
  | ran hcall _ => simp [hcall, Call.endOf?]
  | notRun hcall _ => simp [hcall, Call.endOf?]
  | fetched hcall => simp [hcall, Call.endOf?]
  | committed hcall => simp [hcall, Call.endOf?]
  | rolledBack hcall _ _ => simp [hcall, Call.endOf?]

end Advances

namespace Course

variable {setting : String} {tx : Nat} {j : Job} {events : List Event} {p : Phase}

theorem length_endings (h : Course setting tx j events p) :
    (events.filter fun e => e.call.endOf? = some tx).length = if p = .ended then 1 else 0 := by
  induction h with
  | begun =>
    have hfirst : j.firstPhase ≠ .ended := by
      rw [Job.firstPhase]
      split
      · exact Phase.noConfusion
      · exact Phase.noConfusion
    rw [if_neg hfirst]
    rfl
  | @snoc events p q e _ _ hcall ih =>
    rw [if_neg hcall.ne_ended] at ih
    rw [List.filter_append, List.length_append, ih, Nat.zero_add]
    by_cases hq : q = .ended
    · rw [if_pos hq, List.filter_cons_of_pos (by simpa using hcall.endOf?_eq_some_iff.mpr hq)]
      rfl
    · rw [if_neg hq,
        List.filter_cons_of_neg (by simpa using fun h => hq (hcall.endOf?_eq_some_iff.mp h))]
      rfl

/-- Nothing follows the call that tells a transaction to end. -/
theorem pairwise (h : Course setting tx j events p) :
    events.Pairwise fun earlier _ => earlier.call.endOf? ≠ some tx := by
  induction h with
  | begun => exact List.Pairwise.nil
  | @snoc events p q e hbefore _ hcall ih =>
    refine List.pairwise_append.mpr ⟨ih, List.pairwise_singleton _ _, ?_⟩
    intro x hx _ _ hend
    have hlength := hbefore.length_endings
    rw [if_neg hcall.ne_ended, List.length_eq_zero_iff, List.filter_eq_nil_iff] at hlength
    exact hlength x hx (decide_eq_true hend)

end Course

namespace World

variable {setting : String} {j : Job} {w : World σ} {tx : Nat} {p : Phase}

theorem IsUnbegun.beginnings (h : w.IsUnbegun tx) : w.beginnings tx = [] := by
  rw [beginnings_eq]
  exact filter_begun?_eq_nil fun e he => (h e he).2

theorem IsUnbegun.pairwise (h : w.IsUnbegun tx) :
    (w.callsIn tx).Pairwise fun earlier _ => earlier.call.endOf? ≠ some tx := by
  refine List.Pairwise.imp_of_mem ?_ (List.pairwise_of_forall fun _ _ => trivial)
  intro e _ he _ _
  exact Event.endOf?_of_begin (h e he).1 tx

theorem IsUnderway.beginnings (h : w.IsUnderway setting j tx p) :
    (w.beginnings tx).length = 1 := by
  obtain ⟨before, b, events, hcalls, hbefore, hbegin, hok, _, hcourse⟩ := h
  have hnone : before.filter (fun e => e.begun? = some tx) = [] :=
    filter_begun?_eq_nil fun e he => (hbefore e he).2
  have hnone' : events.filter (fun e => e.begun? = some tx) = [] := by
    rw [List.filter_eq_nil_iff]
    intro e he hbegun
    exact hcourse.call_ne_begin he tx (Event.begun?_eq_some_iff.mp (of_decide_eq_true hbegun)).1
  have hb : b.begun? = some tx := Event.begun?_eq_some_iff.mpr ⟨hbegin, hok⟩
  rw [beginnings_eq, hcalls, List.filter_append, hnone,
    List.filter_cons_of_pos (by simpa using hb), hnone']
  rfl

theorem IsUnderway.length_endings (h : w.IsUnderway setting j tx p) :
    (w.endings tx).length = if p = .ended then 1 else 0 := by
  obtain ⟨before, b, events, hcalls, hbefore, hbegin, _, _, hcourse⟩ := h
  have hnone : before.filter (fun e => e.call.endOf? = some tx) = [] := by
    rw [List.filter_eq_nil_iff]
    intro e he hend
    exact Event.endOf?_of_begin (hbefore e he).1 tx (of_decide_eq_true hend)
  rw [endings_eq, hcalls, List.filter_append, hnone, List.nil_append,
    List.filter_cons_of_neg (by simpa using Event.endOf?_of_begin hbegin tx),
    hcourse.length_endings]

theorem IsUnderway.pairwise (h : w.IsUnderway setting j tx p) :
    (w.callsIn tx).Pairwise fun earlier _ => earlier.call.endOf? ≠ some tx := by
  obtain ⟨before, b, events, hcalls, hbefore, hbegin, _, _, hcourse⟩ := h
  rw [hcalls, List.pairwise_append, List.pairwise_cons]
  refine ⟨?_, ⟨fun _ _ => Event.endOf?_of_begin hbegin tx, hcourse.pairwise⟩, ?_⟩
  · refine List.Pairwise.imp_of_mem ?_ (List.pairwise_of_forall fun _ _ => trivial)
    intro e _ he _ _
    exact Event.endOf?_of_begin (hbefore e he).1 tx
  · intro e he _ _
    exact Event.endOf?_of_begin (hbefore e he).1 tx

/-- A world that is balanced accounts for its transactions. -/
theorem Balanced.accounts {jobs : List Job} {held : List Holding}
    (hw : w.Balanced setting jobs held) (hrunning : ∀ h ∈ held, h.phase = .running) :
    w.Accounts (held.map Holding.transaction) := by
  constructor
  case distinct =>
    exact hw.distinct
  case once =>
    intro tx
    rcases hw.unbegun_or_underway hrunning tx with hunbegun | ⟨_, _, _, _, hunderway⟩
    · rw [hunbegun.beginnings]
      exact Nat.zero_le 1
    · exact Nat.le_of_eq hunderway.beginnings
  case unended =>
    intro tx htx
    obtain ⟨h, hh, heq⟩ := List.mem_map.mp htx
    have hunderway := (hw.underway h hh).2.2
    rw [heq, hrunning h hh] at hunderway
    exact ⟨hunderway.beginnings, List.length_eq_zero_iff.mp hunderway.length_endings⟩
  case settled =>
    intro b hb tx hbegun htx
    rcases hw.settled tx htx with hunbegun | ⟨_, _, hover⟩
    · have hmem : b ∈ w.beginnings tx := List.mem_filter.mpr ⟨hb, decide_eq_true hbegun⟩
      rw [hunbegun.beginnings] at hmem
      cases hmem
    · exact hover.length_endings
  case quiet =>
    rw [List.pairwise_iff_forall_sublist]
    intro earlier later hsub tx hend hlater
    -- The two calls are made in the same transaction, so they are among its calls in order.
    have hsub' : [earlier, later].Sublist (w.callsIn tx) := by
      have hfilter := hsub.filter fun e => e.call.transaction? = some tx
      rwa [List.filter_cons_of_pos (by simpa using Call.transaction?_of_endOf? hend),
        List.filter_cons_of_pos (by simpa using hlater), List.filter_nil] at hfilter
    have hpairwise : (w.callsIn tx).Pairwise fun earlier _ => earlier.call.endOf? ≠ some tx := by
      rcases hw.unbegun_or_underway hrunning tx with hunbegun | ⟨_, _, _, _, hunderway⟩
      · exact hunbegun.pairwise
      · exact hunderway.pairwise
    exact List.pairwise_iff_forall_sublist.mp hpairwise hsub' hend

end World

/-! ## Open cursors -/

/-- The transaction that is held, for each cursor that is open. -/
def Session.held (s : Session σ) : List (String × Nat) :=
  s.cursors.filterMap fun x => x.2.transaction?.map fun tx => (x.1, tx)

/-- The names of the open cursors after a step, by what it came to: a query opens a cursor, and a
cursor is open until it is closed or dropped, or moves on without giving a row. -/
def Step.openAfter (names : List String) : Step → Outcome → List String
  | .query name _ _, .opened => name :: names
  | .next _, .row _ => names
  | .next name, _ => names.filter (· ≠ name)
  | .close name, _ => names.filter (· ≠ name)
  | .drop name, _ => names.filter (· ≠ name)
  | _, _ => names

/-- The names of the open cursors after a sequence of steps. -/
def Session.openNames (names : List String) : List Step → List Outcome → List String
  | st :: steps, o :: outcomes => openNames (st.openAfter names o) steps outcomes
  | _, _ => names

namespace Session

variable {db : Database σ} {jobs : List Job} {s : Session σ} {names : List String} {name : String}

theorem mem_held {tx : Nat} :
    (name, tx) ∈ s.held ↔ ∃ c, (name, c) ∈ s.cursors ∧ c.transaction? = some tx := by
  simp only [held, List.mem_filterMap, Option.map_eq_some_iff, Prod.mk.injEq, Prod.exists]
  constructor
  · rintro ⟨_, c, hc, _, htx, rfl, rfl⟩
    exact ⟨c, hc, htx⟩
  · rintro ⟨c, hc, htx⟩
    exact ⟨name, c, hc, tx, htx, rfl, rfl⟩

/-- Whether a cursor of the name is open. -/
def IsOpen (s : Session σ) (name : String) : Prop :=
  ∃ c, (name, c) ∈ s.cursors ∧ c.transaction?.isSome = true

theorem isOpen_iff_mem : s.IsOpen name ↔ name ∈ s.held.map Prod.fst := by
  simp only [IsOpen, List.mem_map, Prod.exists, exists_and_right, exists_eq_right, mem_held,
    Option.isSome_iff_exists]
  constructor
  · rintro ⟨c, hc, tx, htx⟩
    exact ⟨tx, c, hc, htx⟩
  · rintro ⟨tx, c, hc, htx⟩
    exact ⟨c, hc, tx, htx⟩

theorem mem_cursors {c : Cursor} (h : s.cursor? name = some c) : (name, c) ∈ s.cursors := by
  rw [cursor?, Option.map_eq_some_iff] at h
  obtain ⟨⟨n, c'⟩, hfind, hc⟩ := h
  have hn : n = name := by simpa using List.find?_some hfind
  subst hn
  subst hc
  exact List.mem_of_find?_eq_some hfind

theorem not_isOpen_of_none (h : s.cursor? name = none) : ¬ s.IsOpen name := by
  rintro ⟨c, hc, _⟩
  rw [cursor?, Option.map_eq_none_iff, List.find?_eq_none] at h
  exact h (name, c) hc (beq_self_eq_true name)

/-- Which cursors are open does not depend on the world. -/
theorem isOpen_world (w : World σ) (n : String) :
    ({ s with world := w } : Session σ).IsOpen n ↔ s.IsOpen n := Iff.rfl

/-- Without the cursor of a name all others are open as before. -/
theorem isOpen_without (w : World σ) (name n : String) :
    ({ world := w, cursors := s.without name } : Session σ).IsOpen n ↔
      n ≠ name ∧ s.IsOpen n := by
  simp only [IsOpen, without, List.mem_filter, bne_iff_ne]
  constructor
  · rintro ⟨c, ⟨hc, hn⟩, hsome⟩
    exact ⟨hn, c, hc, hsome⟩
  · rintro ⟨hn, c, hc, hsome⟩
    exact ⟨c, ⟨hc, hn⟩, hsome⟩

/-- A cursor in the place of the one of its name leaves all others open as before. -/
theorem isOpen_cons_without (w : World σ) (c : Cursor) (n : String) :
    ({ world := w, cursors := (name, c) :: s.without name } : Session σ).IsOpen n ↔
      (n = name ∧ c.transaction?.isSome = true) ∨ (n ≠ name ∧ s.IsOpen n) := by
  rw [← isOpen_without w name]
  simp only [IsOpen, List.mem_cons, Prod.mk.injEq]
  constructor
  · rintro ⟨c', ⟨hn, hc⟩ | hc, hsome⟩
    · exact Or.inl ⟨hn, hc ▸ hsome⟩
    · exact Or.inr ⟨c', hc, hsome⟩
  · rintro (⟨hn, hsome⟩ | ⟨c', hc, hsome⟩)
    · exact ⟨c, Or.inl ⟨hn, rfl⟩, hsome⟩
    · exact ⟨c', Or.inr hc, hsome⟩

theorem mem_filter_ne (h : ∀ n, n ∈ names ↔ s.IsOpen n) (n : String) :
    n ∈ names.filter (· ≠ name) ↔ n ≠ name ∧ s.IsOpen n := by
  rw [List.mem_filter, h n, decide_eq_true_iff, and_comm]

/-- A name that no cursor has is not the name of an open one. -/
theorem mem_filter_of_none (h : ∀ n, n ∈ names ↔ s.IsOpen n) (hc : s.cursor? name = none)
    (n : String) : n ∈ names.filter (· ≠ name) ↔ s.IsOpen n := by
  rw [mem_filter_ne h, and_iff_right_iff_imp]
  intro hopen hn
  exact not_isOpen_of_none hc (hn ▸ hopen)

/-- The names of the open cursors are those that the step and what it came to tell. -/
theorem step_openNames (h : ∀ n, n ∈ names ↔ s.IsOpen n) (st : Step) (n : String) :
    n ∈ st.openAfter names (s.step db st).1 ↔ (s.step db st).2.IsOpen n := by
  cases st with
  | exec ctx st =>
    rcases hexec : db.exec ctx st s.world with ⟨e | count, w⟩
    · simp only [step, act, hexec]
      exact h n
    · simp only [step, act, hexec]
      exact h n
  | query name ctx st =>
    rcases hquery : db.query ctx st s.world with ⟨e | c, w⟩
    · simp only [step, act, hquery]
      exact h n
    · have hsome : c.transaction?.isSome = true := by
        cases Database.queried hquery with
        | opened _ => rfl
      simp only [step, act, hquery, isOpen_cons_without, isOpen_world, hsome, and_true,
        Step.openAfter, List.mem_cons, h n]
      by_cases hn : n = name
      · simp [hn]
      · simp [hn]
  | queryRow ctx st =>
    rcases hquery : db.queryRow ctx st s.world with ⟨e | row, w⟩
    · simp only [step, act, hquery]
      exact h n
    · simp only [step, act, hquery]
      exact h n
  | next name =>
    cases hc : s.cursor? name with
    | none =>
      simp only [step, hc]
      exact mem_filter_of_none h hc n
    | some c =>
      rcases hnext : db.next c s.world with ⟨⟨_ | e | row, c'⟩, w⟩
      · have hover := Database.next_over hnext (by simp)
        simp only [step, act, hc, hnext, isOpen_cons_without, isOpen_world, hover, Step.openAfter,
          mem_filter_ne h, Option.isSome_none, Bool.false_eq_true, and_false, false_or]
      · have hover := Database.next_over hnext (by simp)
        simp only [step, act, hc, hnext, isOpen_cons_without, isOpen_world, hover, Step.openAfter,
          mem_filter_ne h, Option.isSome_none, Bool.false_eq_true, and_false, false_or]
      · obtain ⟨hsame, hsome⟩ := Database.next_row hnext
        have hopen : s.IsOpen name := ⟨c, mem_cursors hc, hsome⟩
        subst hsame
        simp only [step, act, hc, hnext, isOpen_cons_without, isOpen_world, hsome, and_true,
          Step.openAfter, h n]
        by_cases hn : n = name
        · simp [hn, hopen]
        · simp [hn]
  | close name =>
    cases hc : s.cursor? name with
    | none =>
      simp only [step, hc]
      exact mem_filter_of_none h hc n
    | some c =>
      rcases hclose : db.close c s.world with ⟨e | _, w⟩
      · simp only [step, act, hc, hclose, isOpen_without, Step.openAfter, mem_filter_ne h]
      · simp only [step, act, hc, hclose, isOpen_without, Step.openAfter, mem_filter_ne h]
  | drop name =>
    cases hc : s.cursor? name with
    | none =>
      simp only [step, hc]
      exact mem_filter_of_none h hc n
    | some c =>
      simp only [step, act, hc]
      exact (mem_filter_ne h n).trans (isOpen_without (db.drop c s.world).2 name n).symm
  | cancel handle => exact h n
  | ping =>
    rcases hping : db.ping s.world with ⟨e | _, w⟩
    · simp only [step, act, hping]
      exact h n
    · simp only [step, act, hping]
      exact h n
  | closePool => exact h n

theorem steps_openNames (h : ∀ n, n ∈ names ↔ s.IsOpen n) (steps : List Step) (n : String) :
    n ∈ openNames names steps (s.steps db steps).1 ↔ (s.steps db steps).2.IsOpen n := by
  induction steps generalizing s names with
  | nil => exact h n
  | cons st rest ih => exact ih (step_openNames h st)

/-! ## Sessions -/

theorem transactions_held (cs : List Cursor) {held : List Holding} (h : Cursor.AllHold cs held) :
    held.map Holding.transaction = cs.filterMap Cursor.transaction? := by
  induction h with
  | nil => rfl
  | cons hown _ ih =>
    rw [List.map_append, ih]
    cases hown with
    | ended hc => rw [List.filterMap_cons_none hc, List.map_nil, List.nil_append]
    | opened j tx =>
      rw [List.filterMap_cons_some (f := Cursor.transaction?) (b := tx) rfl]
      rfl

theorem map_held :
    s.held.map Prod.snd = (s.cursors.map Prod.snd).filterMap Cursor.transaction? := by
  rw [held, List.map_filterMap, List.filterMap_map]
  congr 1
  funext x
  simp [Function.comp_def]

/-- A session that is in order accounts for its transactions: the open cursors hold those that
have not ended. -/
theorem InOrder.accounts {setting : String} (hs : s.InOrder setting jobs) :
    s.world.Accounts (s.held.map Prod.snd) := by
  obtain ⟨held, hhold, hbalanced⟩ := hs.tidy
  rw [map_held, ← transactions_held _ hhold]
  exact hbalanced.accounts hhold.running

theorem names_held (s : Session σ) : (s.held.map Prod.fst).Sublist (s.cursors.map Prod.fst) := by
  rw [held]
  induction s.cursors with
  | nil => exact List.Sublist.slnil
  | cons x rest ih =>
    rw [List.filterMap_cons]
    cases x.2.transaction? with
    | none => exact ih.cons x.1
    | some tx => exact ih.cons_cons x.1

/-- Transactions are accounted for: whatever a session does and whatever the pool answers, each
transaction that was begun is told to end exactly once and is asked nothing afterwards, except
for those that an open cursor holds; and the open cursors are those that were opened and have not
been exhausted, failed, closed or dropped since.  When the session ends none is left.  A request
has one open transaction at most, and leaves open that of its cursor alone. -/
theorem transactions_accounted (db : Database σ) (store : σ) (now : Nat)
    (cancelled : List CancelHandle) (steps : List Step) :
    let start : Session σ := { world := { store, now, cancelled } }
    let outcomes := (start.steps db steps).1
    let s := (start.steps db steps).2
    s.world.Accounts (s.held.map Prod.snd) ∧
      (s.held.map Prod.fst).Nodup ∧
      (∀ name, name ∈ s.held.map Prod.fst ↔ name ∈ openNames [] steps outcomes) ∧
      (s.finish db).world.Accounts [] ∧
      ∀ ctx st, Action.InTurn (db.exec ctx st) (fun _ => none) ∧
        Action.InTurn (db.query ctx st) Cursor.held? ∧
        Action.InTurn (db.queryRow ctx st) (fun _ => none) := by
  intro start outcomes s
  have hs : s.InOrder db.config.tenantSetting (steps.filterMap Step.job?) :=
    steps_inOrder (inOrder_start _ rfl rfl) steps (mem_jobs steps)
  have hnone : ∀ n, n ∈ ([] : List String) ↔ start.IsOpen n := by
    intro n
    refine iff_of_false List.not_mem_nil ?_
    rintro ⟨_, hc, _⟩
    cases hc
  refine ⟨hs.accounts, hs.names.sublist (names_held s), ?_, (finish_inOrder hs).accounts, ?_⟩
  · intro name
    rw [← isOpen_iff_mem]
    exact (steps_openNames hnone steps name).symm
  · intro ctx st
    exact ⟨db.exec_inTurn ctx st, db.query_inTurn ctx st, db.queryRow_inTurn ctx st⟩

end Session

end TagSearch
