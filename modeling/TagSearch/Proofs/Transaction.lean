import TagSearch.Proofs.Attempt

/-!
# The calls of one transaction

Everything that is asked of the store in a transaction, in order.  A transaction goes through
phases: the tenant is bound, the statement is run, rows may be fetched, and the transaction
ends.  What may be called in a phase, and which phase follows, is said once here.

Main results:

- Theorem `Database.call_ways`: what a call leaves behind.
- Theorem `Database.begin_ways`: a transaction is begun under the next number, or not at all.
- Theorems `World.callsIn_of_eq` and `World.callsIn_of_ne`: a call adds itself to the calls of
  its own transaction and leaves those of the others alone.
-/

namespace TagSearch

variable {σ : Type}

/-! ## Jobs -/

/-- A statement that is to be run on behalf of a context. -/
structure Job where
  context : Context
  operation : Operation
  statement : Statement

/-- The job of a step, if it runs a statement. -/
def Step.job? : Step → Option Job
  | .exec ctx st => some ⟨ctx, .exec, st⟩
  | .query _ ctx st => some ⟨ctx, .query, st⟩
  | .queryRow ctx st => some ⟨ctx, .query, st⟩
  | _ => none

/-! ## Events -/

/-- Whether a call runs a statement. -/
def Call.isRun : Call → Bool
  | .run .. => true
  | _ => false

namespace Event

/-- Whether the call succeeded. -/
def isOk (e : Event) : Bool :=
  e.answer.outcome.isOk

/-- The statements that were run, with their transactions. -/
def runs (events : List Event) : List Call :=
  (events.map Event.call).filter Call.isRun

theorem runs_append (before after : List Event) :
    runs (before ++ after) = runs before ++ runs after := by
  simp only [runs, List.map_append, List.filter_append]

end Event

/-! ## Beginnings and ends -/

/-- The transaction that a call tells to end. -/
def Call.endOf? : Call → Option Nat
  | .commit tx => some tx
  | .rollback tx => some tx
  | _ => none

/-- The transaction that a call began. -/
def Event.begun? (e : Event) : Option Nat :=
  match e.call with
  | .begin tx => if e.isOk then some tx else none
  | _ => none

theorem Call.transaction?_of_endOf? {c : Call} {tx : Nat} (h : c.endOf? = some tx) :
    c.transaction? = some tx := by
  cases c <;> first | exact h | cases h

namespace Event

variable {e : Event} {tx : Nat}

theorem begun?_eq_some_iff : e.begun? = some tx ↔ e.call = .begin tx ∧ e.isOk = true := by
  unfold begun?
  split
  · rename_i n hcall
    rw [hcall, Call.begin.injEq, Option.ite_none_right_eq_some, Option.some.injEq, and_comm]
  · rename_i hother
    constructor
    · intro h
      cases h
    · intro h
      exact absurd h.1 (hother tx)

theorem begun?_of_ok {ctx : Option Context} {b : Answer Unit} (hb : b.outcome = .ok ()) :
    begun? ⟨ctx, .begin tx, b⟩ = some tx :=
  begun?_eq_some_iff.mpr ⟨rfl, by rw [isOk, hb]; rfl⟩

/-- A call to begin a transaction does not end any. -/
theorem endOf?_of_begin (h : e.call = .begin tx) (n : Nat) : e.call.endOf? ≠ some n := by
  rw [h]
  exact (Option.some_ne_none n).symm

end Event

/-! ## Phases -/

/-- How far a transaction has come. -/
inductive Phase where
  /-- The tenant is yet to be bound. -/
  | unbound
  /-- The statement is yet to be run. -/
  | ready
  /-- The statement succeeded. -/
  | running
  /-- The binding or the statement failed. -/
  | failed
  /-- The transaction was told to end. -/
  | ended
deriving DecidableEq, Repr

/-- The phase in which the transaction of a job begins. -/
def Job.firstPhase (j : Job) : Phase :=
  if j.context.boundTenant?.isSome then .unbound else .ready

/-- The calls that may be made in a phase of the transaction of a job, and the phases
that they lead to. -/
inductive Advances (setting : String) (tx : Nat) (j : Job) : Phase → Event → Phase → Prop where
  | bound {e : Event} {tenant : String} (htenant : j.context.boundTenant? = some tenant)
      (hcall : e.call = .run tx .exec (tenantBind setting tenant)) (hok : e.isOk = true) :
      Advances setting tx j .unbound e .ready
  | notBound {e : Event} {tenant : String} (htenant : j.context.boundTenant? = some tenant)
      (hcall : e.call = .run tx .exec (tenantBind setting tenant)) (hfailed : e.isOk = false) :
      Advances setting tx j .unbound e .failed
  | ran {e : Event} (hcall : e.call = .run tx j.operation j.statement) (hok : e.isOk = true) :
      Advances setting tx j .ready e .running
  | notRun {e : Event} (hcall : e.call = .run tx j.operation j.statement)
      (hfailed : e.isOk = false) : Advances setting tx j .ready e .failed
  | fetched {e : Event} (hcall : e.call = .fetch tx) : Advances setting tx j .running e .running
  | committed {e : Event} (hcall : e.call = .commit tx) : Advances setting tx j .running e .ended
  /-- A transaction that has a tenant is not given up before the attempt to bind it. -/
  | rolledBack {e : Event} {p : Phase} (hcall : e.call = .rollback tx) (hbound : p ≠ .unbound)
      (hover : p ≠ .ended) : Advances setting tx j p e .ended

namespace Advances

variable {setting : String} {tx : Nat} {j : Job} {p q : Phase} {e : Event}

theorem transaction?_eq (h : Advances setting tx j p e q) : e.call.transaction? = some tx := by
  cases h with
  | bound _ hcall _ => rw [hcall]; rfl
  | notBound _ hcall _ => rw [hcall]; rfl
  | ran hcall _ => rw [hcall]; rfl
  | notRun hcall _ => rw [hcall]; rfl
  | fetched hcall => rw [hcall]; rfl
  | committed hcall => rw [hcall]; rfl
  | rolledBack hcall _ _ => rw [hcall]; rfl

theorem call_ne_begin (h : Advances setting tx j p e q) (n : Nat) : e.call ≠ .begin n := by
  cases h with
  | bound _ hcall _ => rw [hcall]; exact Call.noConfusion
  | notBound _ hcall _ => rw [hcall]; exact Call.noConfusion
  | ran hcall _ => rw [hcall]; exact Call.noConfusion
  | notRun hcall _ => rw [hcall]; exact Call.noConfusion
  | fetched hcall => rw [hcall]; exact Call.noConfusion
  | committed hcall => rw [hcall]; exact Call.noConfusion
  | rolledBack hcall _ _ => rw [hcall]; exact Call.noConfusion

end Advances

/-- The calls that were made in the transaction of a job after it was begun, all on behalf
of the context of the job, and the phase that they lead to. -/
inductive Course (setting : String) (tx : Nat) (j : Job) : List Event → Phase → Prop where
  | begun : Course setting tx j [] j.firstPhase
  | snoc {events : List Event} {p q : Phase} {e : Event} (hbefore : Course setting tx j events p)
      (hcontext : e.context = some j.context) (hcall : Advances setting tx j p e q) :
      Course setting tx j (events ++ [e]) q

theorem Course.call_ne_begin {setting : String} {tx : Nat} {j : Job} {events : List Event}
    {p : Phase} (h : Course setting tx j events p) {e : Event} (he : e ∈ events) (n : Nat) :
    e.call ≠ .begin n := by
  induction h with
  | begun => cases he
  | snoc _ _ hcall ih =>
    rcases List.mem_append.mp he with hbefore | hlast
    · exact ih hbefore
    · rw [List.mem_singleton.mp hlast]
      exact hcall.call_ne_begin n

theorem Course.context_eq {setting : String} {tx : Nat} {j : Job} {events : List Event} {p : Phase}
    (h : Course setting tx j events p) : ∀ e ∈ events, e.context = some j.context := by
  induction h with
  | begun =>
    intro e he
    cases he
  | snoc _ hcontext _ ih =>
    intro e he
    rcases List.mem_append.mp he with hbefore | hlast
    · exact ih e hbefore
    · rw [List.mem_singleton.mp hlast]
      exact hcontext

/-! ## The calls of a transaction in a world -/

namespace World

/-- The calls that were made in a transaction, attempts to begin it included. -/
def callsIn (w : World σ) (tx : Nat) : List Event :=
  w.trace.filter fun e => e.call.transaction? = some tx

theorem callsIn_congr {w w' : World σ} (h : w'.trace = w.trace) (tx : Nat) :
    w'.callsIn tx = w.callsIn tx := by
  rw [callsIn, callsIn, h]

theorem callsIn_of_eq {w w' : World σ} {e : Event} {tx : Nat} (h : w'.trace = w.trace ++ [e])
    (he : e.call.transaction? = some tx) : w'.callsIn tx = w.callsIn tx ++ [e] := by
  rw [callsIn, h, List.filter_append, List.filter_cons_of_pos (by simpa using he),
    List.filter_nil, callsIn]

theorem callsIn_of_ne {w w' : World σ} {e : Event} {tx : Nat} (h : w'.trace = w.trace ++ [e])
    (he : e.call.transaction? ≠ some tx) : w'.callsIn tx = w.callsIn tx := by
  rw [callsIn, h, List.filter_append, List.filter_cons_of_neg (by simpa using he),
    List.filter_nil, List.append_nil, callsIn]

/-- A call in one transaction leaves the calls of the others alone. -/
theorem callsIn_others {w w' : World σ} {e : Event} {tx : Nat} (h : w'.trace = w.trace ++ [e])
    (he : e.call.transaction? = some tx) : ∀ n, n ≠ tx → w'.callsIn n = w.callsIn n := by
  intro n hn
  refine callsIn_of_ne h ?_
  rw [he]
  intro heq
  exact hn (Option.some.inj heq).symm

theorem mem_callsIn {w : World σ} {e : Event} {tx : Nat} :
    e ∈ w.callsIn tx ↔ e ∈ w.trace ∧ e.call.transaction? = some tx := by
  rw [callsIn, List.mem_filter, decide_eq_true_iff]

/-- No transaction of the number was begun: every attempt to do so failed. -/
def IsUnbegun (w : World σ) (tx : Nat) : Prop :=
  ∀ e ∈ w.callsIn tx, e.call = .begin tx ∧ e.isOk = false

/-- The transaction was begun for the job, maybe after attempts that failed, and has come
to the phase. -/
def IsUnderway (setting : String) (j : Job) (w : World σ) (tx : Nat) (p : Phase) : Prop :=
  ∃ (before : List Event) (b : Event) (events : List Event),
    w.callsIn tx = before ++ b :: events ∧
      (∀ e ∈ before, e.call = .begin tx ∧ e.isOk = false) ∧
      b.call = .begin tx ∧ b.isOk = true ∧ b.context = some j.context ∧
      Course setting tx j events p

theorem IsUnbegun.of_callsIn_eq {w w' : World σ} {tx : Nat} (h : w.IsUnbegun tx)
    (heq : w'.callsIn tx = w.callsIn tx) : w'.IsUnbegun tx := by
  rw [IsUnbegun, heq]
  exact h

theorem IsUnderway.of_callsIn_eq {setting : String} {j : Job} {w w' : World σ} {tx : Nat}
    {p : Phase} (h : w.IsUnderway setting j tx p) (heq : w'.callsIn tx = w.callsIn tx) :
    w'.IsUnderway setting j tx p := by
  rw [IsUnderway, heq]
  exact h

theorem IsUnbegun.fail {w w' : World σ} {tx : Nat} {e : Event} (h : w.IsUnbegun tx)
    (htrace : w'.trace = w.trace ++ [e]) (hcall : e.call = .begin tx) (hfailed : e.isOk = false) :
    w'.IsUnbegun tx := by
  intro x hx
  have heq : w'.callsIn tx = w.callsIn tx ++ [e] :=
    callsIn_of_eq htrace (by rw [hcall]; rfl)
  rw [heq] at hx
  rcases List.mem_append.mp hx with hbefore | hlast
  · exact h x hbefore
  · rw [List.mem_singleton.mp hlast]
    exact ⟨hcall, hfailed⟩

theorem IsUnbegun.begin {setting : String} {j : Job} {w w' : World σ} {tx : Nat} {e : Event}
    (h : w.IsUnbegun tx) (htrace : w'.trace = w.trace ++ [e]) (hcall : e.call = .begin tx)
    (hok : e.isOk = true) (hcontext : e.context = some j.context) :
    w'.IsUnderway setting j tx j.firstPhase := by
  have heq : w'.callsIn tx = w.callsIn tx ++ [e] :=
    callsIn_of_eq htrace (by rw [hcall]; rfl)
  exact ⟨w.callsIn tx, e, [], heq, h, hcall, hok, hcontext, .begun⟩

theorem IsUnderway.advance {setting : String} {j : Job} {w w' : World σ} {tx : Nat}
    {p q : Phase} {e : Event} (h : w.IsUnderway setting j tx p)
    (htrace : w'.trace = w.trace ++ [e]) (hcontext : e.context = some j.context)
    (hcall : Advances setting tx j p e q) : w'.IsUnderway setting j tx q := by
  obtain ⟨before, b, events, hcalls, hbefore, hbegin, hok, hctx, hcourse⟩ := h
  refine ⟨before, b, events ++ [e], ?_, hbefore, hbegin, hok, hctx, hcourse.snoc hcontext hcall⟩
  rw [callsIn_of_eq htrace hcall.transaction?_eq, hcalls, List.append_assoc, List.cons_append]

end World

/-! ## What a call leaves behind -/

namespace Database

variable {db : Database σ}

/-- A call is recorded with its answer, and begins nothing by itself. -/
theorem call_ways {ctx : Context} {c : Call} {outcome : Except StoreFault c.Reply}
    {w w' : World σ} (h : db.call ctx c w = (outcome, w')) :
    ∃ a : Answer c.Reply, a.outcome = outcome ∧ w'.trace = w.trace ++ [⟨some ctx, c, a⟩] ∧
      w'.begun = w.begun := by
  cases h
  exact ⟨(db.pool.answer w.store c).1, rfl, rfl, rfl⟩

/-- A transaction is begun under the next number, or the attempt to do so is recorded. -/
theorem begin_ways {ctx : Context} {outcome : Except StoreFault Nat} {w w' : World σ}
    (h : db.begin ctx w = (outcome, w')) :
    ∃ e : Event, e.context = some ctx ∧ e.call = .begin (w.begun + 1) ∧
      w'.trace = w.trace ++ [e] ∧
      match outcome with
      | .ok tx => tx = w.begun + 1 ∧ w'.begun = w.begun + 1 ∧ e.isOk = true
      | .error _ => w'.begun = w.begun ∧ e.isOk = false := by
  rw [begin, Action.bind_apply] at h
  change (db.call ctx (.begin (w.begun + 1)) >>= _) w = _ at h
  rw [Action.bind_apply] at h
  rcases hcall : db.call ctx (.begin (w.begun + 1)) w with ⟨f | _, w₁⟩
  · obtain ⟨a, houtcome, htrace, hbegun⟩ := call_ways hcall
    rw [hcall] at h
    cases h
    exact ⟨⟨some ctx, .begin (w.begun + 1), a⟩, rfl, rfl, htrace, hbegun,
      by rw [Event.isOk, houtcome]; rfl⟩
  · obtain ⟨a, houtcome, htrace, hbegun⟩ := call_ways hcall
    rw [hcall] at h
    cases h
    exact ⟨⟨some ctx, .begin (w.begun + 1), a⟩, rfl, rfl, htrace, rfl, rfl,
      by rw [Event.isOk, houtcome]; rfl⟩

/-- A signal is not a call. -/
theorem signal_ways (s : Signal) (w : World σ) :
    (db.signal s w).2.trace = w.trace ∧ (db.signal s w).2.begun = w.begun := by
  rw [signal, World.signal]
  split
  · exact ⟨rfl, rfl⟩
  · exact ⟨rfl, rfl⟩

end Database

end TagSearch
