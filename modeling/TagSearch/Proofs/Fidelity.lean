import TagSearch.Proofs.Running
import TagSearch.Proofs.Sparing

/-!
# What a cursor gives

Between the opening of a cursor and its end, everything fetched in its transaction is fetched when
it is advanced, so that it gives the rows of the store as they come.  When it gives something else
than a row it is over: its end was reported by the store and committed, or there was an error.

Main results:

- Definition `World.fetched`: the rows that the store gave in a transaction.
- Definition `Outcome.IsFaithful`: what the advances of a cursor come to.
- Theorem `Session.cursor_isFaithful`: every cursor of every session is faithful, whatever the pool
  answers.
-/

namespace TagSearch

variable {σ : Type}

/-! ## Rows of the store -/

/-- The row that a call fetched. -/
def Event.row? : Event → Option Row
  | ⟨_, .fetch _, a⟩ =>
    match a.outcome with
    | .ok row => row
    | .error _ => none
  | _ => none

theorem Event.row?_of_not_fetch {e : Event} (h : ∀ tx, e.call ≠ .fetch tx) : e.row? = none := by
  obtain ⟨ctx, call, a⟩ := e
  cases call with
  | fetch tx => exact absurd rfl (h tx)
  | _ => rfl

namespace World

variable {w w' : World σ} {tx : Nat}

/-- The rows that the store gave in a transaction, in this order. -/
def fetched (w : World σ) (tx : Nat) : List Row :=
  (w.callsIn tx).filterMap Event.row?

/-- The last calls in a transaction were a fetch to which the store reported the end of the rows,
and a commit, which succeeded. -/
def IsReadOut (w : World σ) (tx : Nat) : Prop :=
  ∃ before ctx a b, w.callsIn tx = before ++ [⟨ctx, .fetch tx, a⟩, ⟨ctx, .commit tx, b⟩] ∧
    a.outcome = .ok none ∧ b.outcome = .ok ()

theorem fetched_of_eq (h : w'.callsIn tx = w.callsIn tx) : w'.fetched tx = w.fetched tx := by
  rw [fetched, fetched, h]

theorem fetched_append {calls : List Event} (h : w'.callsIn tx = w.callsIn tx ++ calls) :
    w'.fetched tx = w.fetched tx ++ calls.filterMap Event.row? := by
  rw [fetched, fetched, h, List.filterMap_append]

theorem IsReadOut.of_eq (hw : w.IsReadOut tx) (h : w'.callsIn tx = w.callsIn tx) :
    w'.IsReadOut tx := by
  obtain ⟨before, ctx, a, b, hcalls, ha, hb⟩ := hw
  exact ⟨before, ctx, a, b, h.trans hcalls, ha, hb⟩

/-- Calls that were all made in one transaction are added to its calls. -/
theorem Adds.callsIn_eq {calls : List Event} {signals : List Signal}
    (h : w.Adds w' calls signals) (hcalls : ∀ e ∈ calls, e.call.transaction? = some tx) :
    w'.callsIn tx = w.callsIn tx ++ calls := by
  rw [callsIn, callsIn, h.trace, List.filter_append]
  congr 1
  rw [List.filter_eq_self]
  intro e he
  exact decide_eq_true (hcalls e he)

end World

/-! ## Advances of a cursor -/

namespace Outcome

/-- What a cursor that moves on gives, as the outcome of a step. -/
def ofItem : Option (Except Error Row) → Outcome
  | none => .exhausted
  | some (.ok r) => .row r
  | some (.error e) => .failed e

/-- The row that an outcome consists of. -/
def row? : Outcome → Option Row
  | .row r => some r
  | _ => none

/-- Whether an outcome is an error. -/
def isFailed : Outcome → Bool
  | .failed _ => true
  | _ => false

end Outcome

theorem Tries.not_fetch {setting : String} {j : Job} {tx : Nat} {calls : List Event}
    {result : Except AttemptFault (Nat × j.operation.Reply)}
    (h : Tries setting j tx calls result) : ∀ e ∈ calls, e.row? = none := by
  intro e he
  refine Event.row?_of_not_fetch fun n hfetch => ?_
  rcases h.call_ways he with hbegin | ⟨hrun, _⟩ | hroll
  · cases hbegin.symm.trans hfetch
  · rw [hfetch] at hrun
    cases hrun
  · cases hroll.symm.trans hfetch

namespace Database

variable {db : Database σ} {w w' : World σ} {c c' : Cursor} {tx : Nat}

/-- A cursor that is dropped rolls its transaction back. -/
theorem Drops.calls_eq {calls : List Event} {signals : List Signal}
    (h : Drops db c calls signals) (hc : c.transaction? = some tx) :
    ∃ r, calls = [⟨some c.context, .rollback tx, r⟩] := by
  cases h with
  | ended hc' => cases hc.symm.trans hc'
  | rolledBack hc' =>
    cases hc.symm.trans hc'
    exact ⟨_, rfl⟩

/-- A cursor that is closed commits its transaction. -/
theorem Closes.calls_eq {calls : List Event} {signals : List Signal} {result : Except Error Unit}
    (h : Closes db c calls signals result) (hc : c.transaction? = some tx) :
    ∃ b, calls = [⟨some c.context, .commit tx, b⟩] ∧ (result = .ok () → b.outcome = .ok ()) := by
  cases h with
  | ended hc' => cases hc.symm.trans hc'
  | notCommitted hc' _ =>
    cases hc.symm.trans hc'
    exact ⟨_, rfl, nofun⟩
  | committed hc' hb =>
    cases hc.symm.trans hc'
    exact ⟨_, rfl, fun _ => hb⟩

/-- A cursor that moves on calls in its own transaction. -/
theorem Moves.transaction_eq {calls : List Event} {signals : List Signal}
    {item : Option (Except Error Row)} (h : Moves db c calls signals item c')
    (hc : c.transaction? = some tx) : ∀ e ∈ calls, e.call.transaction? = some tx := by
  cases h with
  | ended _ => exact nofun
  | stopped _ hdrop =>
    obtain ⟨r, rfl⟩ := hdrop.calls_eq hc
    exact List.forall_mem_singleton.mpr rfl
  | failed hc' _ hdrop =>
    obtain ⟨r, rfl⟩ := hdrop.calls_eq hc
    exact List.forall_mem_cons.mpr ⟨hc'.symm.trans hc, List.forall_mem_singleton.mpr rfl⟩
  | row hc' _ => exact List.forall_mem_singleton.mpr (hc'.symm.trans hc)
  | exhausted hc' _ hclose =>
    obtain ⟨b, rfl, _⟩ := hclose.calls_eq hc
    exact List.forall_mem_cons.mpr ⟨hc'.symm.trans hc, List.forall_mem_singleton.mpr rfl⟩

/-- An open cursor that moves on gives the row that it fetched and stays as it is, or it is over:
with an error, or with nothing once the end of the rows was reported and committed. -/
theorem next_ways {item : Option (Except Error Row)} (hc : c.transaction? = some tx)
    (h : db.next c w = ((item, c'), w')) :
    (∃ row, item = some (.ok row) ∧ c' = c ∧ w'.fetched tx = w.fetched tx ++ [row]) ∨
      (c' = c.ended ∧ w'.fetched tx = w.fetched tx ∧
        ((item = none ∧ w'.IsReadOut tx) ∨ ∃ e, item = some (.error e))) := by
  obtain ⟨calls, signals, hadds, hmoves⟩ := next_records h
  have hcalls := hadds.callsIn_eq (hmoves.transaction_eq hc)
  have hrows := World.fetched_append hcalls
  cases hmoves with
  | ended hc' => cases hc.symm.trans hc'
  | stopped _ hdrop =>
    obtain ⟨r, rfl⟩ := hdrop.calls_eq hc
    exact .inr ⟨rfl, hrows.trans (List.append_nil _), .inr ⟨_, rfl⟩⟩
  | failed _ ha hdrop =>
    obtain ⟨r, rfl⟩ := hdrop.calls_eq hc
    refine .inr ⟨rfl, ?_, .inr ⟨_, rfl⟩⟩
    rw [hrows]
    simp [Event.row?, ha]
  | row _ ha =>
    refine .inl ⟨_, rfl, rfl, ?_⟩
    rw [hrows]
    simp [Event.row?, ha]
  | @exhausted _ _ _ result _ hc' ha hclose =>
    obtain ⟨b, rfl, hb⟩ := hclose.calls_eq hc
    refine .inr ⟨rfl, ?_, ?_⟩
    · rw [hrows]
      simp [Event.row?, ha]
    · cases result with
      | error e => exact .inr ⟨e, rfl⟩
      | ok _ =>
        cases hc.symm.trans hc'
        exact .inl ⟨rfl, _, _, _, _, hcalls, ha, hb rfl⟩

theorem Runs.not_fetch {j : Job} {calls : List Event} {signals : List Signal}
    {result : Except Error (Nat × j.operation.Reply)} (h : Runs db j tx calls signals result) :
    ∀ e ∈ calls, e.row? = none := by
  cases h with
  | first hfirst => exact hfirst.not_fetch
  | final hfirst _ => exact hfirst.not_fetch
  | notReconnected hfirst _ _ =>
    exact List.forall_mem_append.mpr ⟨hfirst.not_fetch, List.forall_mem_singleton.mpr rfl⟩
  | again hfirst _ _ hsecond =>
    exact List.forall_mem_append.mpr
      ⟨hfirst.not_fetch, List.forall_mem_cons.mpr ⟨rfl, hsecond.not_fetch⟩⟩

/-- Nothing is fetched before a cursor is open. -/
theorem Queries.not_fetch {ctx : Context} {st : Statement} {calls : List Event}
    {signals : List Signal} {result : Except Error Cursor}
    (h : Queries db ctx st tx calls signals result) : ∀ e ∈ calls, e.row? = none := by
  cases h with
  | failed hrun => exact hrun.not_fetch
  | opened hrun => exact hrun.not_fetch

end Database

/-! ## A cursor of a session -/

theorem Cursor.AllHold.exists_holding {c : Cursor} {tx : Nat} {cs : List Cursor}
    {held : List Holding} (h : Cursor.AllHold cs held) (hc : c ∈ cs)
    (htx : c.transaction? = some tx) : ∃ x ∈ held, x.transaction = tx := by
  induction h with
  | nil => cases hc
  | cons hown _ ih =>
    rcases List.mem_cons.mp hc with rfl | hc
    · cases hown with
      | ended hnone => cases htx.symm.trans hnone
      | opened j n =>
        exact ⟨⟨n, j, .running⟩, List.mem_append_left _ List.mem_cons_self, Option.some.inj htx⟩
    · obtain ⟨x, hx, heq⟩ := ih hc
      exact ⟨x, List.mem_append_right _ hx, heq⟩

/-- What the steps that advance the cursor of a name came to. -/
def Session.yielded (name : String) (steps : List Step) (outcomes : List Outcome) :
    List Outcome :=
  ((steps.zip outcomes).filter fun x => x.1.advances name).map Prod.snd

/-- What advances of a cursor come to, faithful to the calls in its transaction. -/
structure Outcome.IsFaithful (w : World σ) (tx : Nat) (outcomes : List Outcome) : Prop where
  /-- It gives the rows that the store gave, each one once and in their order. -/
  rows : outcomes.filterMap Outcome.row? = w.fetched tx
  /-- Everything else that it gives is its end or an error. -/
  kinds : ∀ o ∈ outcomes, (∃ r, o = .row r) ∨ o = .exhausted ∨ ∃ e, o = .failed e
  /-- After the first of these it gives nothing more. -/
  spent : outcomes.Pairwise fun o later => o.row? = none → later = .exhausted
  /-- There is one error at most. -/
  single : outcomes.countP Outcome.isFailed ≤ 1
  /-- Unless there was an error, it ends only when the store has reported the end of the rows and
  the commit has succeeded. -/
  ended : .exhausted ∈ outcomes → (∀ e, .failed e ∉ outcomes) → w.IsReadOut tx

namespace Session

variable {db : Database σ} {s : Session σ} {name : String} {ctx : Context} {tx : Nat}
  {c : Cursor} {outcomes : List Outcome}

/-- A cursor that was advanced with these outcomes: it gave all rows that the store gave in its
transaction, and then, if it is over, its end or an error, and nothing more. -/
inductive Reads (s : Session σ) (name : String) (ctx : Context) (tx : Nat) :
    List Outcome → Prop where
  | reading (hc : s.cursor? name = some ⟨ctx, some tx⟩) :
      Reads s name ctx tx ((s.world.fetched tx).map .row)
  | ended {o : Outcome} (k : Nat) (hc : s.cursor? name = some ⟨ctx, none⟩)
      (ho : o = .exhausted ∧ s.world.IsReadOut tx ∨ ∃ e, o = .failed e) :
      Reads s name ctx tx
        ((s.world.fetched tx).map .row ++ o :: List.replicate k .exhausted)

theorem step_next_fst (db : Database σ) (hc : s.cursor? name = some c) :
    (s.step db (.next name)).1 = .ofItem (db.next c s.world).1.1 := by
  rcases hnext : db.next c s.world with ⟨⟨item, c'⟩, w⟩
  rcases item with _ | e | row
  · simp only [step, act, hc, hnext, Outcome.ofItem]
  · simp only [step, act, hc, hnext, Outcome.ofItem]
  · simp only [step, act, hc, hnext, Outcome.ofItem]

/-- Advancing a cursor adds one outcome. -/
theorem Reads.next (db : Database σ) (h : s.Reads name ctx tx outcomes) :
    (s.step db (.next name)).2.Reads name ctx tx
      (outcomes ++ [(s.step db (.next name)).1]) := by
  cases h with
  | reading hc =>
    rw [step_next_fst db hc, step_next db hc]
    rcases hnext : db.next ⟨ctx, some tx⟩ s.world with ⟨⟨item, c'⟩, w⟩
    have hc' : cursor? ⟨w, (name, c') :: s.without name⟩ name = some c' := cursor?_cons_self _ _
    rcases Database.next_ways rfl hnext with
      ⟨row, rfl, rfl, hrows⟩ | ⟨rfl, hrows, ⟨rfl, hend⟩ | ⟨e, rfl⟩⟩
    · have hreads := Reads.reading hc'
      rw [hrows, List.map_append] at hreads
      exact hreads
    · have hreads := Reads.ended 0 hc' (.inl ⟨rfl, hend⟩)
      rw [hrows] at hreads
      exact hreads
    · rw [← hrows]
      exact .ended 0 hc' (.inr ⟨e, rfl⟩)
  | ended k hc ho =>
    have hover : db.next ⟨ctx, none⟩ s.world = ((none, ⟨ctx, none⟩), s.world) :=
      Database.next_of_over db rfl s.world
    rw [step_next_fst db hc, step_next db hc, hover, List.append_assoc, List.cons_append,
      Outcome.ofItem, ← List.replicate_succ']
    exact .ended (k + 1) (cursor?_cons_self _ _) ho

/-- What spares the transaction of a cursor makes no difference to it. -/
theorem Reads.of_spares {s' : Session σ} (h : s.Reads name ctx tx outcomes)
    (hspares : s.world.Spares tx s'.world) (hc : s'.cursor? name = s.cursor? name) :
    s'.Reads name ctx tx outcomes := by
  have hrows : s'.world.fetched tx = s.world.fetched tx := World.fetched_of_eq hspares.calls
  cases h with
  | reading hopen =>
    rw [← hrows]
    exact .reading (hc.trans hopen)
  | ended k hover ho =>
    rw [← hrows]
    exact .ended k (hc.trans hover) (ho.imp_left fun h => ⟨h.1, h.2.of_eq hspares.calls⟩)

theorem Owns.next (db : Database σ) (hs : s.Owns name tx) :
    (s.step db (.next name)).2.Owns name tx := by
  cases hc : s.cursor? name with
  | none =>
    rw [(step_of_none db hc).1]
    exact hs
  | some c =>
    rcases hnext : db.next c s.world with ⟨⟨item, c'⟩, w⟩
    rw [step_next db hc, hnext]
    exact hs.cons (Database.next_begun hnext) fun hne => absurd rfl hne

/-- Every step keeps the account of a cursor, unless it disposes of the cursor. -/
theorem Reads.step {st : Step} (hs : s.Owns name tx) (h : s.Reads name ctx tx outcomes)
    (hkept : st.hasDisposedOf name (s.step db st).1 = false) :
    (s.step db st).2.Owns name tx ∧ (s.step db st).2.Reads name ctx tx
      (outcomes ++ yielded name [st] [(s.step db st).1]) := by
  cases hadvances : st.advances name with
  | true =>
    cases st with
    | next n =>
      obtain rfl : n = name := by simpa [Step.advances] using hadvances
      have hyielded : yielded n [.next n] [(s.step db (.next n)).1] =
          [(s.step db (.next n)).1] := by
        simp [yielded, Step.advances]
      rw [hyielded]
      exact ⟨hs.next db, h.next db⟩
    | _ => cases hadvances
  | false =>
    have hyielded : yielded name [st] [(s.step db st).1] = [] := by
      simp [yielded, hadvances]
    obtain ⟨hspares, hc, howns⟩ := step_spares hs hkept hadvances
    rw [hyielded, List.append_nil]
    exact ⟨howns, h.of_spares hspares hc⟩

theorem yielded_cons (name : String) (st : Step) (o : Outcome) (steps : List Step)
    (os : List Outcome) :
    yielded name (st :: steps) (o :: os) = yielded name [st] [o] ++ yielded name steps os := by
  rw [yielded, List.zip_cons_cons, List.filter_cons]
  cases hadvances : st.advances name with
  | true => simp [yielded, hadvances]
  | false => simp [yielded, hadvances]

theorem Reads.steps {steps : List Step} (hs : s.Owns name tx)
    (h : s.Reads name ctx tx outcomes)
    (hkept : ∀ x ∈ steps.zip (s.steps db steps).1, x.1.hasDisposedOf name x.2 = false) :
    (s.steps db steps).2.Reads name ctx tx
      (outcomes ++ yielded name steps (s.steps db steps).1) := by
  induction steps generalizing s outcomes with
  | nil =>
    rw [Session.steps, yielded, List.zip_nil_left, List.filter_nil, List.map_nil, List.append_nil]
    exact h
  | cons st rest ih =>
    obtain ⟨hfirst, hrest⟩ := List.forall_mem_cons.mp hkept
    obtain ⟨howns, hreads⟩ := h.step hs hfirst
    have hlater := ih howns hreads hrest
    rw [List.append_assoc, ← yielded_cons] at hlater
    exact hlater

/-! ### The opening of a cursor -/

/-- Where a session is in order, its cursors read transactions that were begun. -/
theorem InOrder.transaction_le {setting : String} {jobs : List Job} (hs : s.InOrder setting jobs)
    {x : String × Cursor} (hx : x ∈ s.cursors) (htx : x.2.transaction? = some tx) :
    tx ≤ s.world.begun := by
  obtain ⟨held, hhold, hbalanced⟩ := hs.tidy
  obtain ⟨y, hy, rfl⟩ := hhold.exists_holding (List.mem_map_of_mem hx) htx
  exact (hbalanced.underway y hy).2.1

/-- In a transaction that is yet to be begun nothing was fetched. -/
theorem InOrder.fetched_eq_nil {setting : String} {jobs : List Job} (hs : s.InOrder setting jobs)
    (htx : s.world.begun < tx) : s.world.fetched tx = [] := by
  obtain ⟨held, _, hbalanced⟩ := hs.tidy
  rw [World.fetched, List.filterMap_eq_nil_iff]
  intro e he
  refine Event.row?_of_not_fetch fun n hfetch => ?_
  cases (hbalanced.fresh tx htx e he).1.symm.trans hfetch

/-- A cursor that opens has a transaction of its own, in which nothing was fetched yet. -/
theorem exists_reads {setting : String} {jobs : List Job} (hs : s.InOrder setting jobs)
    {st : Statement} (hopen : (s.step db (.query name ctx st)).1 = .opened) :
    ∃ tx, (s.step db (.query name ctx st)).2.cursor? name = some ⟨ctx, some tx⟩ ∧
      (s.step db (.query name ctx st)).2.Owns name tx ∧
      (s.step db (.query name ctx st)).2.Reads name ctx tx [] := by
  rcases step_query_ways db s name ctx st with ⟨e, w, hquery, hstep⟩ | ⟨d, w, hquery, hstep⟩
  · rw [hstep] at hopen
    cases hopen
  · obtain ⟨n, rfl, hlt, hle⟩ := Database.query_number hquery
    have hother : ∀ x ∈ s.cursors, x.2.transaction? ≠ some n := by
      intro x hx hn
      exact absurd (hs.transaction_le hx hn) (Nat.not_le_of_lt hlt)
    have hdrop : w.Spares n (dropCursor db (s.cursor? name) w).2 :=
      dropCursor_spares (fun c hc => hother _ (mem_of_cursor? hc)) w
    have hfetched : (dropCursor db (s.cursor? name) w).2.fetched n = [] := by
      obtain ⟨calls, _, hadds, hqueries⟩ := Database.query_records hquery
      rw [World.fetched_of_eq hdrop.calls, World.fetched, World.callsIn, hadds.trace,
        List.filter_append, List.filterMap_append, List.append_eq_nil_iff]
      refine ⟨hs.fetched_eq_nil hlt, List.filterMap_eq_nil_iff.mpr fun e he => ?_⟩
      exact hqueries.not_fetch e (List.mem_filter.mp he).1
    rw [hstep]
    refine ⟨n, cursor?_cons_self _ _, ⟨Nat.le_trans hle hdrop.begun, ?_⟩, ?_⟩
    · intro x hx hne
      rcases List.mem_cons.mp hx with rfl | hx
      · exact absurd rfl hne
      · exact hother x (s.without_subset name hx)
    · have hreads : Reads ⟨(dropCursor db (s.cursor? name) w).2,
          (name, ⟨ctx, some n⟩) :: s.without name⟩ name ctx n _ :=
        .reading (cursor?_cons_self _ _)
      rw [hfetched] at hreads
      exact hreads

/-! ### Faithful cursors -/

theorem Reads.isFaithful (h : s.Reads name ctx tx outcomes) :
    Outcome.IsFaithful s.world tx outcomes := by
  have hrows : ∀ rows : List Row, (rows.map Outcome.row).filterMap Outcome.row? = rows := by
    intro rows
    rw [List.filterMap_map]
    exact List.filterMap_some
  have hspent : ∀ rows : List Row, (rows.map Outcome.row).Pairwise fun o later =>
      o.row? = none → later = .exhausted := by
    intro rows
    exact List.pairwise_map.mpr (List.pairwise_of_forall fun _ _ hnone => nomatch hnone)
  have hsingle : ∀ rows : List Row, (rows.map Outcome.row).countP Outcome.isFailed = 0 := by
    intro rows
    rw [List.countP_map]
    exact List.countP_eq_zero.mpr fun _ _ => Bool.false_ne_true
  cases h with
  | reading hc =>
    constructor
    case rows => exact hrows _
    case kinds =>
      intro o ho
      obtain ⟨row, _, rfl⟩ := List.mem_map.mp ho
      exact .inl ⟨row, rfl⟩
    case spent => exact hspent _
    case single =>
      rw [hsingle]
      exact Nat.zero_le 1
    case ended =>
      intro hexhausted _
      obtain ⟨row, _, hrow⟩ := List.mem_map.mp hexhausted
      cases hrow
  | @ended o k hc ho =>
    have hnone : o.row? = none := by
      rcases ho with ⟨rfl, _⟩ | ⟨e, rfl⟩
      · rfl
      · rfl
    have hrest : (List.replicate k Outcome.exhausted).filterMap Outcome.row? = [] := by
      rw [List.filterMap_eq_nil_iff]
      intro o' ho'
      rw [List.eq_of_mem_replicate ho']
      rfl
    constructor
    case rows =>
      rw [List.filterMap_append, hrows, List.filterMap_cons_none hnone, hrest, List.append_nil]
    case kinds =>
      intro o' ho'
      rcases List.mem_append.mp ho' with hrow | hend
      · obtain ⟨row, _, rfl⟩ := List.mem_map.mp hrow
        exact .inl ⟨row, rfl⟩
      · rcases List.mem_cons.mp hend with rfl | hlater
        · exact .inr (ho.imp_left And.left)
        · exact .inr (.inl (List.eq_of_mem_replicate hlater))
    case spent =>
      refine List.pairwise_append.mpr ⟨hspent _, List.pairwise_cons.mpr ⟨?_, ?_⟩, ?_⟩
      · exact fun o' ho' _ => List.eq_of_mem_replicate ho'
      · exact List.pairwise_replicate.mpr (.inr fun _ => rfl)
      · intro o' ho' _ _ hnone'
        obtain ⟨row, _, rfl⟩ := List.mem_map.mp ho'
        cases hnone'
    case single =>
      have hlater : (List.replicate k Outcome.exhausted).countP Outcome.isFailed = 0 := by
        rw [List.countP_eq_zero]
        intro o' ho'
        rw [List.eq_of_mem_replicate ho']
        exact Bool.false_ne_true
      rw [List.countP_append, hsingle, List.countP_cons, hlater]
      split
      · exact Nat.le_refl 1
      · exact Nat.zero_le 1
    case ended =>
      intro _ hnofailure
      rcases ho with ⟨_, hend⟩ | ⟨e, rfl⟩
      · exact hend
      · exact absurd (List.mem_append_right _ List.mem_cons_self) (hnofailure e)

/-- A cursor that is over gives nothing more, and nothing is called. -/
theorem Reads.step_of_over (db : Database σ) (h : s.Reads name ctx tx outcomes)
    (hover : ∃ o ∈ outcomes, o.row? = none) :
    (s.step db (.next name)).1 = .exhausted ∧ (s.step db (.next name)).2.world = s.world := by
  cases h with
  | reading hc =>
    obtain ⟨o, ho, hnone⟩ := hover
    obtain ⟨row, _, rfl⟩ := List.mem_map.mp ho
    cases hnone
  | ended k hc _ =>
    have hnext : db.next ⟨ctx, none⟩ s.world = ((none, ⟨ctx, none⟩), s.world) :=
      Database.next_of_over db rfl s.world
    rw [step_next_fst db hc, step_next db hc, hnext]
    exact ⟨rfl, rfl⟩

/-- Whatever a session does and whatever the pool answers, a cursor is faithful to its
transaction, as long as it is not disposed of; and once it has given something else than a row,
advancing it makes no call. -/
theorem cursor_isFaithful (db : Database σ) (store : σ) (now : Nat)
    (cancelled : List CancelHandle) (before after : List Step) (name : String) (ctx : Context)
    (st : Statement) {opened later : Session σ} {os : List Outcome}
    (hopen : (steps db { world := { store, now, cancelled } } before).2.step db
      (.query name ctx st) = (.opened, opened))
    (hafter : opened.steps db after = (os, later))
    (hkept : ∀ x ∈ after.zip os, x.1.hasDisposedOf name x.2 = false) :
    ∃ tx, opened.cursor? name = some ⟨ctx, some tx⟩ ∧
      Outcome.IsFaithful later.world tx (yielded name after os) ∧
      ((∃ o ∈ yielded name after os, o.row? = none) →
        (later.step db (.next name)).1 = .exhausted ∧
        (later.step db (.next name)).2.world = later.world) := by
  generalize hs : steps db { world := { store, now, cancelled } } before = s at hopen
  have horder : s.2.InOrder db.config.tenantSetting (before.filterMap Step.job?) := by
    rw [← hs]
    exact steps_inOrder (inOrder_start _ rfl rfl) before (mem_jobs before)
  have hquery : (s.2.step db (.query name ctx st)).1 = .opened := congrArg Prod.fst hopen
  obtain ⟨tx, hc, howns, hreads⟩ := exists_reads horder hquery
  rw [hopen] at hc howns hreads
  have hlater := hreads.steps howns (by rw [hafter]; exact hkept)
  rw [hafter] at hlater
  exact ⟨tx, hc, hlater.isFaithful, hlater.step_of_over db⟩

/-- A store with two rows for every query, one of which is read while another query takes its own
first row; then the end is reported, and the cursor is advanced once more. -/
theorem cursor_isFaithful_twoRows :
    let db : Database Script := { pool := Script.pool }
    let store : Script := { rows := [[("id", .text "a")], [("id", .text "b")]] }
    let ctx : Context := { cancel := ⟨"stop"⟩ }
    let st : Statement := ⟨"SELECT id FROM task", []⟩
    let after : List Step :=
      [.next "tasks", .queryRow ctx st, .next "tasks", .next "tasks", .next "tasks"]
    ∃ opened later os, (steps db { world := { store } } [.ping]).2.step db
        (.query "tasks" ctx st) = (.opened, opened) ∧
      opened.steps db after = (os, later) ∧
      (∀ x ∈ after.zip os, x.1.hasDisposedOf "tasks" x.2 = false) ∧
      ∃ tx, opened.cursor? "tasks" = some ⟨ctx, some tx⟩ ∧
        Outcome.IsFaithful later.world tx (yielded "tasks" after os) := by
  intro db store ctx st after
  have hall : ((after.zip ((((steps db { world := { store } } [.ping]).2.step db
      (.query "tasks" ctx st)).2.steps db after).1)).all fun x =>
        x.1.hasDisposedOf "tasks" x.2 = false) = true := by decide +kernel
  rcases hopen : (steps db { world := { store } } [.ping]).2.step db (.query "tasks" ctx st)
    with ⟨o, opened⟩
  obtain rfl : o = .opened := (congrArg Prod.fst hopen).symm
  rcases hafter : opened.steps db after with ⟨os, later⟩
  rw [hopen, hafter] at hall
  have hkept : ∀ x ∈ after.zip os, x.1.hasDisposedOf "tasks" x.2 = false :=
    fun x hx => of_decide_eq_true (List.all_eq_true.mp hall x hx)
  obtain ⟨tx, hc, hfaithful, _⟩ :=
    cursor_isFaithful db store 0 [] [.ping] after "tasks" ctx st hopen hafter hkept
  exact ⟨opened, later, os, rfl, hafter, hkept, tx, hc, hfaithful⟩

/-- The rows come once each, then the end twice. -/
example :
    let db : Database Script := { pool := Script.pool }
    let store : Script := { rows := [[("id", .text "a")], [("id", .text "b")]] }
    let ctx : Context := { cancel := ⟨"stop"⟩ }
    let st : Statement := ⟨"SELECT id FROM task", []⟩
    let steps : List Step :=
      [.query "tasks" ctx st, .next "tasks", .queryRow ctx st, .next "tasks", .next "tasks",
        .next "tasks"]
    (yielded "tasks" steps (Session.steps db { world := { store } } steps).1).map Outcome.row? =
      [some [("id", .text "a")], some [("id", .text "b")], none, none] := by
  rfl

end Session

end TagSearch
