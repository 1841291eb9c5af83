import Mathlib.Data.List.Basic
import Mathlib.Data.List.TakeWhile
import TagSearch.Proofs.Running

/-!
# The one retry of a request

A request makes a second attempt only if its first one failed in the binding of the tenant or in
the statement, with a fault that a fresh connection may not have, and the pool could reconnect.
What comes of the request is then what comes of the second attempt.

Main results:

- Theorem `Database.run_retriesOnce`: a statement is retried once at most.
- Theorem `Database.RetriesOnce.extend`: what follows a statement is never a reason to retry.
- Theorem `Database.requests_retryOnce`: every request is retried once at most.
-/

namespace TagSearch

variable {σ : Type}

/-- Whether a signal is about a counter. -/
def Signal.isCounted : Signal → Bool
  | .counted _ _ => true
  | .finished _ _ => false

/-! ## The first attempt among the calls of a request -/

namespace Event

/-- The calls of a request before it reconnects. -/
def firstAttempt (calls : List Event) : List Event :=
  calls.takeWhile fun e => !e.call.isReconnect

variable {calls tail : List Event}

theorem firstAttempt_eq_self (h : ∀ e ∈ calls, e.call.isReconnect = false) :
    firstAttempt calls = calls := by
  rw [firstAttempt, List.takeWhile_eq_self_iff]
  intro e he
  rw [h e he]
  rfl

theorem firstAttempt_append {r : Event} (h : ∀ e ∈ calls, e.call.isReconnect = false)
    (hr : r.call.isReconnect = true) : firstAttempt (calls ++ r :: tail) = calls := by
  have hgo : ∀ e ∈ calls, (!e.call.isReconnect) = true := by
    intro e he
    rw [h e he]
    rfl
  rw [firstAttempt, List.takeWhile_append_of_pos hgo, List.takeWhile_cons_of_neg (by simp [hr]),
    List.append_nil]

theorem not_mem_of_isReconnect {x : Event} (h : ∀ e ∈ calls, e.call.isReconnect = false)
    (hx : x.call.isReconnect = true) : x ∉ calls := by
  intro hmem
  rw [h x hmem] at hx
  cases hx

/-- Calls can be parted at their only reconnect in one way. -/
theorem eq_of_reconnect {before after : List Event} {r x : Event}
    (hcalls : ∀ e ∈ calls, e.call.isReconnect = false)
    (htail : ∀ e ∈ tail, e.call.isReconnect = false) (hx : x.call.isReconnect = true)
    (h : calls ++ r :: tail = before ++ x :: after) : calls = before ∧ r = x ∧ tail = after :=
  (List.append_cons_inj_of_notMem (not_mem_of_isReconnect hcalls hx)
    (not_mem_of_isReconnect htail hx)).mp h

/-- What comes after a reconnect ends with the calls that have none. -/
theorem eq_append_of_reconnect {before after : List Event} {r : Event}
    (htail : ∀ e ∈ tail, e.call.isReconnect = false) (hr : r.call.isReconnect = true)
    (h : calls ++ tail = before ++ r :: after) :
    ∃ rest, calls = before ++ r :: rest ∧ after = rest ++ tail := by
  have hr' : r ∉ tail := not_mem_of_isReconnect htail hr
  rcases List.append_eq_append_iff.mp h with ⟨mid, _, htail⟩ | ⟨mid, hcalls, hrest⟩
  · exact absurd (by rw [htail]; exact List.mem_append_right mid List.mem_cons_self) hr'
  · cases mid with
    | nil => exact absurd (by rw [← List.nil_append tail, ← hrest]; exact List.mem_cons_self) hr'
    | cons m mid =>
      obtain ⟨hm, hafter⟩ := List.cons.inj hrest
      subst hm
      exact ⟨mid, hcalls, hafter⟩

theorem filter_eq_nil {p : Event → Bool} (h : ∀ e ∈ calls, p e = false) :
    calls.filter p = [] := by
  rw [List.filter_eq_nil_iff]
  intro e he
  rw [h e he]
  exact Bool.false_ne_true

theorem not_isTransientRun {e : Event} (h : e.call.isFollowUp = true) :
    e.isTransientRun = false := by
  rw [isTransientRun, Call.isRun_of_isFollowUp h, Bool.false_and]

/-- What follows a statement does not count for the first attempt. -/
theorem firstAttempt_followUp (htail : ∀ e ∈ tail, e.call.isFollowUp = true) :
    (∃ e ∈ firstAttempt (calls ++ tail), e.isTransientRun = true) ↔
      ∃ e ∈ firstAttempt calls, e.isTransientRun = true := by
  induction calls with
  | nil =>
    refine iff_of_false ?_ ?_
    · rintro ⟨e, he, htransient⟩
      have hmem : e ∈ tail := (List.takeWhile_sublist _).mem he
      rw [not_isTransientRun (htail e hmem)] at htransient
      cases htransient
    · rintro ⟨e, he, _⟩
      cases he
  | cons e rest ih =>
    rw [List.cons_append, firstAttempt, firstAttempt, List.takeWhile_cons, List.takeWhile_cons]
    split
    · simp only [List.mem_cons, exists_eq_or_imp]
      exact or_congr Iff.rfl ih
    · rfl

end Event

/-! ## Requests with one retry -/

namespace Database

/-- The same database, which makes no second attempt. -/
def once (db : Database σ) : Database σ :=
  { db with config := { db.config with retryTransient := false } }

/-- The world in which a second attempt of a job is made: after the first one, and after the
reconnect that follows it. -/
def reconnected (db : Database σ) (j : Job) (w : World σ) : World σ :=
  (db.call j.context .reconnect (db.signal (.counted .reconnects 1)
    (db.attempt j.context j.operation j.statement w).2).2).2

/-- The calls and the signals of a request for a job, and how it depends on its attempts. -/
structure RetriesOnce {α : Type} (db : Database σ) (j : Job)
    (request : Database σ → Action σ (Except Error α)) (w : World σ) (calls : List Event)
    (signals : List Signal) : Prop where
  adds : w.Adds (request db w).2 calls signals
  /-- The pool reconnects at most once. -/
  reconnects : (calls.filter fun e => e.call.isReconnect).length ≤ 1
  /-- Every transaction but the first is begun after a reconnect of its own. -/
  begins : (calls.filter fun e => e.call.isBegin).length ≤
    (calls.filter fun e => e.call.isReconnect).length + 1
  /-- The pool reconnects if the settings allow it and the first attempt ran a statement, be it
  that of the tenant or that of the job, which failed for its connection. -/
  requested : (∃ e ∈ calls, e.call = .reconnect) ↔
    db.config.retryTransient = true ∧ ∃ e ∈ Event.firstAttempt calls, e.isTransientRun = true
  /-- Each reconnect is counted. -/
  counted : signals.filter Signal.isCounted =
    (calls.filter fun e => e.call.isReconnect).flatMap fun _ => db.heard (.counted .reconnects 1)
  /-- Without a reconnect the request goes as if it had no second attempt. -/
  once : (∀ e ∈ calls, e.call ≠ .reconnect) → request db w = request db.once w
  /-- If the reconnect fails, its fault is what the request comes to, and nothing else is
  called. -/
  notReconnected : ∀ before r after f, calls = before ++ r :: after → r.call = .reconnect →
    r.fault? = some f → after = [] ∧ (request db w).1 = .error (.ofStore f)
  /-- If it succeeds, the request goes as if it were made by then and had no second attempt. -/
  again : ∀ before r after, calls = before ++ r :: after → r.call = .reconnect →
    r.isOk = true → request db w = request db.once (db.reconnected j w) ∧
      w.Adds (db.reconnected j w) (before ++ [r]) (db.heard (.counted .reconnects 1))
  /-- The statement succeeds in one transaction at most. -/
  single : ∀ n n', j.SucceedsIn calls n → j.SucceedsIn calls n' → n = n'

/-! ### Databases without a second attempt -/

section Once

variable (db : Database σ) (ctx : Context)

theorem once_call (c : Call) : db.once.call ctx c = db.call ctx c := rfl

theorem once_signal (s : Signal) : db.once.signal s = db.signal s := rfl

theorem once_begin : db.once.begin ctx = db.begin ctx := by
  unfold begin
  rfl

theorem once_abandon (tx : Nat) : db.once.abandon ctx tx = db.abandon ctx tx := rfl

theorem once_commit (tx : Nat) : db.once.commit ctx tx = db.commit ctx tx := rfl

theorem once_bindTenant (tx : Nat) : db.once.bindTenant ctx tx = db.bindTenant ctx tx := by
  funext w
  cases htenant : ctx.boundTenant? with
  | none => simp only [bindTenant, htenant]
  | some tenant =>
    rcases hcall : db.call ctx (.run tx .exec (tenantBind db.config.tenantSetting tenant)) w
      with ⟨f | count, w₁⟩
    · have honce : db.once.call ctx
          (.run tx .exec (tenantBind db.once.config.tenantSetting tenant)) w = (.error f, w₁) :=
        hcall
      simp only [bindTenant, htenant, Action.bind_apply, hcall, honce]
    · have honce : db.once.call ctx
          (.run tx .exec (tenantBind db.once.config.tenantSetting tenant)) w = (.ok count, w₁) :=
        hcall
      simp only [bindTenant, htenant, Action.bind_apply, hcall, honce]

theorem once_attempt (op : Operation) (st : Statement) :
    db.once.attempt ctx op st = db.attempt ctx op st := by
  simp only [attempt, once_call, once_begin, once_bindTenant, once_abandon]

theorem once_close (c : Cursor) : db.once.close c = db.close c := by
  simp only [close, once_commit, once_signal]

theorem once_drop (c : Cursor) : db.once.drop c = db.drop c := by
  simp only [drop, once_abandon, once_signal]

theorem once_next (c : Cursor) : db.once.next c = db.next c := by
  simp only [next, once_call, once_drop, once_close]

/-- Without a second attempt a statement comes to what its attempt does. -/
theorem once_run (op : Operation) (st : Statement) (w : World σ) :
    db.once.run ctx op st w = ((db.attempt ctx op st w).1.mapError AttemptFault.error,
      (db.attempt ctx op st w).2) := by
  have hnever : db.once.config.retryTransient = false := rfl
  rw [run, Action.bind_apply, once_attempt]
  rcases db.attempt ctx op st w with ⟨fault | done, w₁⟩
  · simp only [hnever, Bool.and_false, Bool.false_eq_true, if_false]
    rfl
  · rfl

end Once

/-! ### Statements -/

variable {db : Database σ} {w w' : World σ} {calls tail : List Event} {signals told : List Signal}

/-- An attempt that is the only one. -/
theorem RetriesOnce.of_attempt {j : Job} {tx : Nat}
    {result : Except AttemptFault (Nat × j.operation.Reply)}
    (hattempt : db.attempt j.context j.operation j.statement w = (result, w'))
    (hadds : w.Adds w' calls []) (htries : Tries db.config.tenantSetting j tx calls result)
    (hrun : db.run j.context j.operation j.statement w =
      (result.mapError AttemptFault.error, w'))
    (hretry : ∀ fault, result = .error fault →
      (fault.isTransient && db.config.retryTransient) = false) :
    RetriesOnce db j (fun db => db.run j.context j.operation j.statement) w calls [] := by
  have hnone : ∀ e ∈ calls, e.call ≠ .reconnect := by
    intro e he hcall
    have hfalse := htries.isReconnect_eq_false e he
    rw [hcall] at hfalse
    cases hfalse
  have hfilter : (calls.filter fun e => e.call.isReconnect) = [] :=
    Event.filter_eq_nil htries.isReconnect_eq_false
  constructor
  case adds =>
    rw [hrun]
    exact hadds
  case reconnects =>
    rw [hfilter]
    exact Nat.zero_le 1
  case begins =>
    rw [hfilter]
    exact htries.length_begins
  case requested =>
    refine iff_of_false ?_ ?_
    · rintro ⟨e, he, hcall⟩
      exact hnone e he hcall
    · rintro ⟨hallowed, htransient⟩
      rw [Event.firstAttempt_eq_self htries.isReconnect_eq_false,
        htries.transient_iff] at htransient
      obtain ⟨fault, hfault, htrue⟩ := htransient
      have hfalse := hretry fault hfault
      rw [htrue, hallowed] at hfalse
      cases hfalse
  case counted =>
    rw [hfilter]
    rfl
  case once =>
    intro _
    rw [hrun, once_run, hattempt]
  case notReconnected =>
    intro before r after f hcalls hr _
    exact absurd hr (hnone r (by rw [hcalls]; exact List.mem_append_right _ List.mem_cons_self))
  case again =>
    intro before r after hcalls hr _
    exact absurd hr (hnone r (by rw [hcalls]; exact List.mem_append_right _ List.mem_cons_self))
  case single =>
    intro n n'
    exact htries.runsFor.single

/-- An attempt that is followed by a reconnect. -/
theorem RetriesOnce.of_reconnect {j : Job} {tx : Nat} {fault : AttemptFault} {a : Answer Unit}
    {result : Except Error (Nat × j.operation.Reply)}
    (htries : Tries db.config.tenantSetting j tx calls (.error fault))
    (hretry : (fault.isTransient && db.config.retryTransient) = true)
    (hreconnected : w.Adds (db.reconnected j w) (calls ++ [⟨some j.context, .reconnect, a⟩])
      (db.heard (.counted .reconnects 1)))
    (hrun : db.run j.context j.operation j.statement w = (result, w'))
    (hadds : w.Adds w' (calls ++ ⟨some j.context, .reconnect, a⟩ :: tail)
      (db.heard (.counted .reconnects 1)))
    (htail : ∀ e ∈ tail, e.call.isReconnect = false)
    (hbegins : (tail.filter fun e => e.call.isBegin).length ≤ 1)
    (hfailed : ∀ f, a.outcome = .error f → tail = [] ∧ result = .error (.ofStore f))
    (hagain : a.outcome = .ok () → (result, w') =
      db.once.run j.context j.operation j.statement (db.reconnected j w))
    (hruns : j.RunsFor (calls ++ ⟨some j.context, .reconnect, a⟩ :: tail) result) :
    RetriesOnce db j (fun db => db.run j.context j.operation j.statement) w
      (calls ++ ⟨some j.context, .reconnect, a⟩ :: tail) (db.heard (.counted .reconnects 1)) := by
  obtain ⟨htransient, hallowed⟩ := Bool.and_eq_true_iff.mp hretry
  have hfilter : ((calls ++ ⟨some j.context, .reconnect, a⟩ :: tail).filter
      fun e => e.call.isReconnect) = [⟨some j.context, .reconnect, a⟩] := by
    rw [List.filter_append, Event.filter_eq_nil htries.isReconnect_eq_false,
      List.filter_cons_of_pos rfl, Event.filter_eq_nil htail, List.nil_append]
  constructor
  case adds =>
    rw [hrun]
    exact hadds
  case reconnects =>
    rw [hfilter]
    exact Nat.le_refl 1
  case begins =>
    rw [hfilter, List.filter_append, List.filter_cons_of_neg Bool.false_ne_true, List.length_append]
    exact Nat.add_le_add htries.length_begins hbegins
  case requested =>
    refine iff_of_true ⟨_, List.mem_append_right calls List.mem_cons_self, rfl⟩ ⟨hallowed, ?_⟩
    rw [Event.firstAttempt_append htries.isReconnect_eq_false rfl, htries.transient_iff]
    exact ⟨fault, rfl, htransient⟩
  case counted =>
    rw [hfilter, List.flatMap_cons, List.flatMap_nil, List.append_nil, filter_heard]
    rfl
  case once =>
    intro hnone
    exact absurd rfl (hnone _ (List.mem_append_right calls List.mem_cons_self))
  case notReconnected =>
    intro before r after f hcalls hr hf
    obtain ⟨_, hra, hafter⟩ := Event.eq_of_reconnect htries.isReconnect_eq_false htail
      (Call.isReconnect_iff.mpr hr) hcalls
    subst hra
    cases ha : a.outcome with
    | ok _ =>
      simp only [Event.fault?, ha] at hf
      cases hf
    | error g =>
      simp only [Event.fault?, ha, Option.some.injEq] at hf
      subst hf
      obtain ⟨htailNil, hresult⟩ := hfailed g ha
      rw [hrun]
      exact ⟨hafter.symm.trans htailNil, hresult⟩
  case again =>
    intro before r after hcalls hr hok
    obtain ⟨hbefore, hra, _⟩ := Event.eq_of_reconnect htries.isReconnect_eq_false htail
      (Call.isReconnect_iff.mpr hr) hcalls
    subst hbefore
    subst hra
    refine ⟨?_, hreconnected⟩
    rw [hrun]
    cases ha : a.outcome with
    | ok _ => exact hagain ha
    | error g =>
      rw [Event.isOk, ha] at hok
      cases hok
  case single =>
    intro n n'
    exact hruns.single

/-- A statement is retried once at most. -/
theorem run_retriesOnce (db : Database σ) (j : Job) (w : World σ) :
    ∃ calls signals,
      RetriesOnce db j (fun db => db.run j.context j.operation j.statement) w calls signals := by
  rcases hrun : db.run j.context j.operation j.statement w with ⟨result, w'⟩
  cases ran hrun with
  | first hfirst =>
    obtain ⟨calls, hadds, htries, _⟩ := attempt_records hfirst
    refine ⟨calls, [], .of_attempt hfirst hadds htries hrun ?_⟩
    intro fault hfault
    cases hfault
  | final hfirst hretry =>
    obtain ⟨calls, hadds, htries, _⟩ := attempt_records hfirst
    refine ⟨calls, [], .of_attempt hfirst hadds htries hrun ?_⟩
    intro fault hfault
    cases hfault
    exact hretry
  | notReconnected hfirst hretry hreconnect =>
    obtain ⟨calls, hadds, htries, _⟩ := attempt_records hfirst
    obtain ⟨a, ha, hadds₂, _⟩ := call_records hreconnect
    have hreconnected := hadds.trans ((signal_records _ _).trans hadds₂)
    rw [List.nil_append, List.nil_append, List.append_nil] at hreconnected
    refine ⟨_, _, .of_reconnect htries hretry ?_ hrun hreconnected (List.forall_mem_nil _)
      (Nat.zero_le 1) ?_ ?_ (Runs.notReconnected htries hretry ha).runsFor⟩
    · rw [reconnected, hfirst, hreconnect]
      exact hreconnected
    · intro f hf
      cases ha.symm.trans hf
      exact ⟨rfl, rfl⟩
    · intro hok
      cases ha.symm.trans hok
  | @again fault second w₁ w₂ w₃ hfirst hretry hreconnect hsecond =>
    obtain ⟨calls, hadds, htries, hbegun⟩ := attempt_records hfirst
    obtain ⟨a, ha, hadds₂, hbegun₂⟩ := call_records hreconnect
    obtain ⟨calls', hadds₃, htries', _⟩ := attempt_records hsecond
    have htransient : fault.isTransient = true := (Bool.and_eq_true_iff.mp hretry).1
    have hnumber : w₂.begun = w.begun + 1 := by
      rw [hbegun₂, (signal_ways _ w₁).2, hbegun fault rfl htransient]
    rw [hnumber] at htries'
    have hreconnected := hadds.trans ((signal_records _ _).trans hadds₂)
    rw [List.nil_append, List.nil_append, List.append_nil] at hreconnected
    have hall := hreconnected.trans hadds₃
    rw [List.append_assoc, List.append_nil] at hall
    have hworld : db.reconnected j w = w₂ := by
      rw [reconnected, hfirst, hreconnect]
    refine ⟨_, _, .of_reconnect htries hretry ?_ hrun hall htries'.isReconnect_eq_false
      htries'.length_begins ?_ ?_ (Runs.again htries hretry ha htries').runsFor⟩
    · rw [hworld]
      exact hreconnected
    · intro f hf
      cases ha.symm.trans hf
    · intro _
      rw [hworld, once_run, hsecond]

/-! ### What follows a statement -/

theorem Closes.followUps {c : Cursor} {result : Except Error Unit}
    (h : Closes db c calls signals result) :
    (∀ e ∈ calls, e.call.isFollowUp = true) ∧ signals.filter Signal.isCounted = [] := by
  cases h with
  | ended _ => exact ⟨List.forall_mem_nil _, rfl⟩
  | notCommitted _ _ => exact ⟨List.forall_mem_singleton.mpr rfl, filter_heard db _ _⟩
  | committed _ _ => exact ⟨List.forall_mem_singleton.mpr rfl, filter_heard db _ _⟩

theorem Drops.followUps {c : Cursor} (h : Drops db c calls signals) :
    (∀ e ∈ calls, e.call.isFollowUp = true) ∧ signals.filter Signal.isCounted = [] := by
  cases h with
  | ended _ => exact ⟨List.forall_mem_nil _, rfl⟩
  | rolledBack _ => exact ⟨List.forall_mem_singleton.mpr rfl, filter_heard db _ _⟩

/-- A cursor begins nothing, runs nothing and does not reconnect, whatever fails. -/
theorem Moves.followUps {c c' : Cursor} {item : Option (Except Error Row)}
    (h : Moves db c calls signals item c') :
    (∀ e ∈ calls, e.call.isFollowUp = true) ∧ signals.filter Signal.isCounted = [] := by
  cases h with
  | ended _ => exact ⟨List.forall_mem_nil _, rfl⟩
  | stopped _ hdrop => exact hdrop.followUps
  | failed _ _ hdrop =>
    exact ⟨List.forall_mem_cons.mpr ⟨rfl, hdrop.followUps.1⟩, hdrop.followUps.2⟩
  | row _ _ => exact ⟨List.forall_mem_singleton.mpr rfl, rfl⟩
  | exhausted _ _ hclose =>
    exact ⟨List.forall_mem_cons.mpr ⟨rfl, hclose.followUps.1⟩, hclose.followUps.2⟩

/-- One request goes on after another one: only after a success, and without beginning or running
anything. -/
structure FollowsUp {α β : Type} (inner : Except Error α × World σ)
    (outer : Except Error β × World σ) (tail : List Event) (told : List Signal) : Prop where
  adds : inner.2.Adds outer.2 tail told
  followUps : ∀ e ∈ tail, e.call.isFollowUp = true
  uncounted : told.filter Signal.isCounted = []
  error : ∀ e, inner.1 = .error e → tail = [] ∧ outer.1 = .error e

theorem exec_followsUp (db : Database σ) (ctx : Context) (st : Statement) (w : World σ) :
    ∃ tail told, FollowsUp (db.run ctx .exec st w) (db.exec ctx st w) tail told := by
  rcases hexec : db.exec ctx st w with ⟨result, w'⟩
  cases executed hexec with
  | failed hrun =>
    rw [hrun]
    refine ⟨_, _, signal_records _ _, List.forall_mem_nil _, filter_heard db _ _, ?_⟩
    intro e he
    cases he
    exact ⟨rfl, rfl⟩
  | notCommitted hrun hcommit =>
    obtain ⟨a, hadds, _⟩ := commit_records hcommit
    rw [hrun]
    refine ⟨_, _, hadds.trans (signal_records _ _), List.forall_mem_singleton.mpr rfl,
      filter_heard db _ _, ?_⟩
    intro e he
    cases he
  | done hrun hcommit =>
    obtain ⟨a, hadds, _⟩ := commit_records hcommit
    rw [hrun]
    refine ⟨_, _, hadds.trans (signal_records _ _), List.forall_mem_singleton.mpr rfl,
      filter_heard db _ _, ?_⟩
    intro e he
    cases he

theorem query_followsUp (db : Database σ) (ctx : Context) (st : Statement) (w : World σ) :
    ∃ tail told, FollowsUp (db.run ctx .query st w) (db.query ctx st w) tail told := by
  rcases hquery : db.query ctx st w with ⟨result, w'⟩
  cases queried hquery with
  | failed hrun =>
    rw [hrun]
    refine ⟨_, _, signal_records _ _, List.forall_mem_nil _, filter_heard db _ _, ?_⟩
    intro e he
    cases he
    exact ⟨rfl, rfl⟩
  | opened hrun =>
    rw [hrun]
    refine ⟨_, _, World.Adds.refl _, List.forall_mem_nil _, rfl, ?_⟩
    intro e he
    cases he

theorem queryRow_followsUp (db : Database σ) (ctx : Context) (st : Statement) (w : World σ) :
    ∃ tail told, FollowsUp (db.query ctx st w) (db.queryRow ctx st w) tail told := by
  rcases hrow : db.queryRow ctx st w with ⟨result, w'⟩
  cases queriedRow hrow with
  | notOpened hquery =>
    rw [hquery]
    refine ⟨_, _, World.Adds.refl _, List.forall_mem_nil _, rfl, ?_⟩
    intro e he
    cases he
    exact ⟨rfl, rfl⟩
  | noRow hquery hnext =>
    obtain ⟨_, _, hadds, hmoves⟩ := next_records hnext
    rw [hquery]
    refine ⟨_, _, hadds, hmoves.followUps.1, hmoves.followUps.2, ?_⟩
    intro e he
    cases he
  | failed hquery hnext =>
    obtain ⟨_, _, hadds, hmoves⟩ := next_records hnext
    rw [hquery]
    refine ⟨_, _, hadds, hmoves.followUps.1, hmoves.followUps.2, ?_⟩
    intro e he
    cases he
  | row hquery hnext hclose =>
    obtain ⟨_, _, hadds, hmoves⟩ := next_records hnext
    obtain ⟨_, _, hadds₂, hcloses⟩ := close_records hclose
    rw [hquery]
    refine ⟨_, _, hadds.trans hadds₂,
      List.forall_mem_append.mpr ⟨hmoves.followUps.1, hcloses.followUps.1⟩, ?_, ?_⟩
    · rw [List.filter_append, hmoves.followUps.2, hcloses.followUps.2, List.nil_append]
    · intro e he
      cases he

/-! ### Requests -/

/-- A request that goes on after another one is retried as that one is. -/
theorem RetriesOnce.extend {α β : Type} {j : Job}
    {inner : Database σ → Action σ (Except Error α)}
    {request : Database σ → Action σ (Except Error β)}
    (h : RetriesOnce db j inner w calls signals)
    (hfollows : FollowsUp (inner db w) (request db w) tail told)
    (hrequest : ∀ w₂, inner db w = inner db.once w₂ → request db w = request db.once w₂) :
    RetriesOnce db j request w (calls ++ tail) (signals ++ told) := by
  have htail := hfollows.followUps
  have hnot : ∀ e ∈ tail, e.call.isReconnect = false := fun e he =>
    Call.isReconnect_of_isFollowUp (htail e he)
  have hreconnects : ((calls ++ tail).filter fun e => e.call.isReconnect) =
      calls.filter fun e => e.call.isReconnect := by
    rw [List.filter_append, Event.filter_eq_nil hnot, List.append_nil]
  have hbegins : ((calls ++ tail).filter fun e => e.call.isBegin) =
      calls.filter fun e => e.call.isBegin := by
    rw [List.filter_append,
      Event.filter_eq_nil fun e he => Call.isBegin_of_isFollowUp (htail e he), List.append_nil]
  constructor
  case adds =>
    exact h.adds.trans hfollows.adds
  case reconnects =>
    rw [hreconnects]
    exact h.reconnects
  case begins =>
    rw [hbegins, hreconnects]
    exact h.begins
  case requested =>
    rw [Event.firstAttempt_followUp htail, ← h.requested]
    constructor
    · rintro ⟨e, he, hcall⟩
      rcases List.mem_append.mp he with he | he
      · exact ⟨e, he, hcall⟩
      · have hfalse := hnot e he
        rw [hcall] at hfalse
        cases hfalse
    · rintro ⟨e, he, hcall⟩
      exact ⟨e, List.mem_append_left tail he, hcall⟩
  case counted =>
    rw [List.filter_append, hfollows.uncounted, List.append_nil, hreconnects]
    exact h.counted
  case once =>
    intro hall
    exact hrequest w (h.once fun e he => hall e (List.mem_append_left tail he))
  case notReconnected =>
    intro before r after f hall hr hf
    obtain ⟨rest, hcalls, hafter⟩ :=
      Event.eq_append_of_reconnect hnot (Call.isReconnect_iff.mpr hr) hall
    obtain ⟨hrest, hresult⟩ := h.notReconnected before r rest f hcalls hr hf
    obtain ⟨htailNil, hresult'⟩ := hfollows.error _ hresult
    exact ⟨by rw [hafter, hrest, htailNil, List.append_nil], hresult'⟩
  case again =>
    intro before r after hall hr hok
    obtain ⟨rest, hcalls, _⟩ :=
      Event.eq_append_of_reconnect hnot (Call.isReconnect_iff.mpr hr) hall
    obtain ⟨hagain, hadds'⟩ := h.again before r rest hcalls hr hok
    exact ⟨hrequest _ hagain, hadds'⟩
  case single =>
    intro n n'
    have hruns : ∀ n, j.runsIn (calls ++ tail) n = j.runsIn calls n := fun _ =>
      j.runsIn_append_left fun e he => Or.inl (Call.isRun_of_isFollowUp (htail e he))
    rw [Job.SucceedsIn, Job.SucceedsIn, hruns, hruns]
    exact h.single n n'

theorem exec_retriesOnce (db : Database σ) (ctx : Context) (st : Statement) (w : World σ) :
    ∃ calls signals,
      RetriesOnce db ⟨ctx, .exec, st⟩ (fun db => db.exec ctx st) w calls signals := by
  obtain ⟨calls, signals, hretries⟩ := run_retriesOnce db ⟨ctx, .exec, st⟩ w
  obtain ⟨tail, told, hfollows⟩ := exec_followsUp db ctx st w
  refine ⟨_, _, hretries.extend hfollows ?_⟩
  intro w₂ h
  simp only [exec, Action.bind_apply, h, once_commit, once_signal]

theorem query_retriesOnce (db : Database σ) (ctx : Context) (st : Statement) (w : World σ) :
    ∃ calls signals,
      RetriesOnce db ⟨ctx, .query, st⟩ (fun db => db.query ctx st) w calls signals := by
  obtain ⟨calls, signals, hretries⟩ := run_retriesOnce db ⟨ctx, .query, st⟩ w
  obtain ⟨tail, told, hfollows⟩ := query_followsUp db ctx st w
  refine ⟨_, _, hretries.extend hfollows ?_⟩
  intro w₂ h
  simp only [query, Action.bind_apply, h, once_signal]

theorem queryRow_retriesOnce (db : Database σ) (ctx : Context) (st : Statement) (w : World σ) :
    ∃ calls signals,
      RetriesOnce db ⟨ctx, .query, st⟩ (fun db => db.queryRow ctx st) w calls signals := by
  obtain ⟨calls, signals, hretries⟩ := query_retriesOnce db ctx st w
  obtain ⟨tail, told, hfollows⟩ := queryRow_followsUp db ctx st w
  refine ⟨_, _, hretries.extend hfollows ?_⟩
  intro w₂ h
  simp only [queryRow, Action.bind_apply, h, once_next, once_close]

/-- Whatever an action does, it begins nothing, runs nothing, does not reconnect and counts
nothing. -/
def OnlyFollowsUp {α : Type} (a : Action σ α) : Prop :=
  ∀ w : World σ, ∃ calls signals, w.Adds (a w).2 calls signals ∧
    (∀ e ∈ calls, e.call.isFollowUp = true) ∧ signals.filter Signal.isCounted = []

/-- Requests retry once at most, whatever the pool answers: they make a second attempt if the
first one failed in the binding of the tenant or in the statement with a fault of its connection,
the settings allow it, and the pool could reconnect.  Nothing else is tried again, and what is
done with a cursor is not tried again at all. -/
theorem requests_retryOnce (db : Database σ) :
    (∀ ctx st w, ∃ calls signals,
      RetriesOnce db ⟨ctx, .exec, st⟩ (fun db => db.exec ctx st) w calls signals) ∧
    (∀ ctx st w, ∃ calls signals,
      RetriesOnce db ⟨ctx, .query, st⟩ (fun db => db.query ctx st) w calls signals) ∧
    (∀ ctx st w, ∃ calls signals,
      RetriesOnce db ⟨ctx, .query, st⟩ (fun db => db.queryRow ctx st) w calls signals) ∧
    ∀ c, OnlyFollowsUp (db.next c) ∧ OnlyFollowsUp (db.close c) ∧ OnlyFollowsUp (db.drop c) := by
  refine ⟨exec_retriesOnce db, query_retriesOnce db, queryRow_retriesOnce db, ?_⟩
  intro c
  refine ⟨?_, ?_, ?_⟩
  · intro w
    rcases hnext : db.next c w with ⟨⟨item, c'⟩, w'⟩
    obtain ⟨calls, signals, hadds, hmoves⟩ := next_records hnext
    exact ⟨calls, signals, hadds, hmoves.followUps⟩
  · intro w
    rcases hclose : db.close c w with ⟨result, w'⟩
    obtain ⟨calls, signals, hadds, hcloses⟩ := close_records hclose
    exact ⟨calls, signals, hadds, hcloses.followUps⟩
  · intro w
    obtain ⟨calls, signals, hadds, hdrops⟩ := drop_records db c w
    exact ⟨calls, signals, hadds, hdrops.followUps⟩

end Database

end TagSearch
