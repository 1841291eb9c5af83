import TagSearch.Store.Call

/-!
# The world of a database

Request contexts, and the world in which an engine acts: the state of the pool, the time,
the handles that were cancelled, and the record of all calls made so far together with the
signals given to an observer.

Main results:

- Theorem `Context.isStopped_of_mem`: a context whose handle was cancelled is stopped.
- Theorem `World.trace_call`: a call adds itself to the record and nothing else.
-/

namespace TagSearch

/-! ## Contexts -/

/-- The tenant, the deadline and the cancellation of a request. -/
structure Context where
  tenant : Option String := none
  /-- The time from which on the request is stopped. -/
  deadline : Option Nat := none
  cancel : CancelHandle
deriving DecidableEq, Repr

namespace Context

/-- The tenant to bind.  An empty name is no tenant. -/
def boundTenant? (ctx : Context) : Option String :=
  ctx.tenant.filter (· ≠ "")

/-- A context with one more deadline.  The earliest one counts. -/
def withDeadline (ctx : Context) (deadline : Nat) : Context :=
  { ctx with deadline := some ((ctx.deadline.map (min · deadline)).getD deadline) }

/-- A context that is stopped a given time from now, if not before. -/
def withTimeout (ctx : Context) (now timeout : Nat) : Context :=
  ctx.withDeadline (now + timeout)

end Context

/-! ## Signals -/

/-- What an observer counts. -/
inductive Counter where
  | reconnects
deriving DecidableEq, Repr

/-- The name of a counter. -/
def Counter.name : Counter → String
  | reconnects => "reconnects"

/-- What an observer is told. -/
inductive Signal where
  /-- An operation is over. -/
  | finished (operation : Operation) (failed : Bool)
  | counted (counter : Counter) (amount : Nat)
deriving DecidableEq, Repr

/-- An observer of operations, which may or may not record counters. -/
structure Observer where
  recordsCounters : Bool
deriving DecidableEq, Repr

/-- Whether an observer records a signal. -/
def Observer.records (o : Observer) : Signal → Bool
  | .finished .. => true
  | .counted .. => o.recordsCounters

/-! ## Worlds -/

/-- A call that was made, on whose behalf, and how it went. -/
structure Event where
  /-- The context of the request, if the call belongs to one. -/
  context : Option Context
  call : Call
  answer : Answer call.Reply

/-- Everything that actions of an engine depend on and change. -/
structure World (σ : Type) where
  /-- The state of the pool. -/
  store : σ
  now : Nat := 0
  cancelled : List CancelHandle := []
  /-- The number of transactions begun so far. -/
  begun : Nat := 0
  /-- The calls made so far, the latest last. -/
  trace : List Event := []
  /-- The signals recorded so far, the latest last. -/
  signals : List Signal := []

/-- An action in a world. -/
abbrev Action (σ : Type) := StateM (World σ)

/-- Whether a context is stopped: it was cancelled, or its deadline has passed. -/
def Context.isStopped {σ : Type} (ctx : Context) (w : World σ) : Bool :=
  w.cancelled.contains ctx.cancel || ctx.deadline.any (· ≤ w.now)

theorem Context.isStopped_of_mem {σ : Type} {ctx : Context} {w : World σ}
    (h : ctx.cancel ∈ w.cancelled) : ctx.isStopped w = true := by
  simp [isStopped, h]

namespace World

variable {σ : Type}

/-- Calls the pool on behalf of a context. -/
def call (pool : Pool σ) (ctx : Option Context) (c : Call) :
    Action σ (Except StoreFault c.Reply) := fun w =>
  let (answer, store) := pool.answer w.store c
  (answer.outcome,
    { w with
      store := store
      now := w.now + answer.elapsed
      cancelled := w.cancelled ++ answer.cancelled
      trace := w.trace ++ [⟨ctx, c, answer⟩] })

/-- Gives a signal to an observer, if there is one. -/
def signal (observer : Option Observer) (s : Signal) : Action σ Unit := fun w =>
  if observer.any (·.records s) then ((), { w with signals := w.signals ++ [s] }) else ((), w)

/-- Whether a context is stopped by now. -/
def stopped (ctx : Context) : Action σ Bool := fun w => (ctx.isStopped w, w)

/-- Cancels a handle. -/
def cancel (handle : CancelHandle) : Action σ Unit := fun w =>
  ((), { w with cancelled := w.cancelled ++ [handle] })

theorem trace_call (pool : Pool σ) (ctx : Option Context) (c : Call) (w : World σ) :
    (call pool ctx c w).2.trace = w.trace ++ [⟨ctx, c, (pool.answer w.store c).1⟩] := rfl

end World

end TagSearch
