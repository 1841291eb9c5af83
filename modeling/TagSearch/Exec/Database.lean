import TagSearch.Config
import TagSearch.Error
import TagSearch.Exec.World

/-!
# Databases

Runs statements, each in a transaction of its own.  With a tenant, the first statement of a
transaction binds the tenant to a session setting that ends with the transaction.  When a
transport failure ends an attempt in the binding or in the statement, the pool reconnects
and the whole attempt is made once more; nothing else is tried again.

Main results:

- Theorem `Database.attempt_of_isStopped`: a stopped context makes no call.
-/

namespace TagSearch

/-- Where an attempt failed, and why. -/
inductive AttemptFault where
  /-- No transaction could be begun. -/
  | begin (fault : StoreFault)
  /-- The tenant could not be bound. -/
  | bind (fault : StoreFault)
  /-- The statement failed. -/
  | statement (fault : StoreFault)
  /-- The context was stopped. -/
  | stopped
deriving DecidableEq, Repr

namespace AttemptFault

/-- A fault is worth another attempt when a fresh connection may not have it. -/
def isTransient : AttemptFault → Bool
  | bind f => f.isTransient
  | statement f => f.isTransient
  | begin _ => false
  | stopped => false

/-- The error that a fault is reported as. -/
def error : AttemptFault → Error
  | begin f => .ofStore f
  | bind f => if f.isTransient then .ofStore f else .forbidden f
  | statement f => .ofStore f
  | stopped => .cancelled

end AttemptFault

/-- The statement that binds a tenant to a setting for one transaction. -/
def tenantBind (setting tenant : String) : Statement :=
  ⟨"SELECT set_config($1, $2, true)", [.text setting, .text tenant]⟩

/-- A pool with the settings and the observer of its use. -/
structure Database (σ : Type) where
  pool : Pool σ
  config : Config := {}
  observer : Option Observer := none

/-- A query whose rows are being read. -/
structure Cursor where
  context : Context
  /-- The transaction of the query, until the rows are exhausted or given up. -/
  transaction? : Option Nat
deriving DecidableEq, Repr

namespace Database

variable {σ : Type} (db : Database σ)

/-- Calls the pool on behalf of a context. -/
def call (ctx : Context) (c : Call) : Action σ (Except StoreFault c.Reply) :=
  World.call db.pool (some ctx) c

/-- Gives a signal to the observer. -/
def signal (s : Signal) : Action σ Unit :=
  World.signal db.observer s

/-! ## Transactions -/

/-- Begins a transaction and tells its number. -/
def begin (ctx : Context) : Action σ (Except StoreFault Nat) := do
  let tx := (← get).begun + 1
  match ← db.call ctx (.begin tx) with
  | .error f => return .error f
  | .ok () =>
    modify fun w => { w with begun := tx }
    return .ok tx

/-- Rolls a transaction back.  A failure to do so goes unreported. -/
def abandon (ctx : Context) (tx : Nat) : Action σ Unit := do
  let _ ← db.call ctx (.rollback tx)

/-- Binds the tenant of a context, if it has one. -/
def bindTenant (ctx : Context) (tx : Nat) : Action σ (Except StoreFault Unit) := do
  match ctx.boundTenant? with
  | none => return .ok ()
  | some tenant =>
    match ← db.call ctx (.run tx .exec (tenantBind db.config.tenantSetting tenant)) with
    | .error f => return .error f
    | .ok _ => return .ok ()

/-- Attempts a statement in a transaction of its own, which stays open if the statement
succeeds. -/
def attempt (ctx : Context) (op : Operation) (st : Statement) :
    Action σ (Except AttemptFault (Nat × op.Reply)) := do
  if ← World.stopped ctx then return .error .stopped
  match ← db.begin ctx with
  | .error f => return .error (.begin f)
  | .ok tx =>
    match ← db.bindTenant ctx tx with
    | .error f =>
      db.abandon ctx tx
      return .error (.bind f)
    | .ok () =>
      if ← World.stopped ctx then
        db.abandon ctx tx
        return .error .stopped
      match ← db.call ctx (.run tx op st) with
      | .error f =>
        db.abandon ctx tx
        return .error (.statement f)
      | .ok reply => return .ok (tx, reply)

/-- Runs a statement: one attempt, and one more after a reconnect if the first one had a
transport failure and the settings allow it. -/
def run (ctx : Context) (op : Operation) (st : Statement) :
    Action σ (Except Error (Nat × op.Reply)) := do
  match ← db.attempt ctx op st with
  | .ok done => return .ok done
  | .error fault =>
    if fault.isTransient && db.config.retryTransient then
      db.signal (.counted .reconnects 1)
      match ← db.call ctx .reconnect with
      | .error f => return .error (.ofStore f)
      | .ok () => return (← db.attempt ctx op st).mapError AttemptFault.error
    else return .error fault.error

/-- Commits a transaction. -/
def commit (ctx : Context) (tx : Nat) : Action σ (Except Error Unit) := do
  return (← db.call ctx (.commit tx)).mapError .ofStore

/-! ## Statements for their effect -/

/-- Runs a statement and commits it.  Returns the number of rows affected. -/
def exec (ctx : Context) (st : Statement) : Action σ (Except Error Nat) := do
  match ← db.run ctx .exec st with
  | .error e =>
    db.signal (.finished .exec true)
    return .error e
  | .ok (tx, affected) =>
    match ← db.commit ctx tx with
    | .error e =>
      db.signal (.finished .exec true)
      return .error e
    | .ok () =>
      db.signal (.finished .exec false)
      return .ok affected

/-! ## Statements for their rows -/

/-- Opens a cursor on the rows of a statement.  The transaction stays open until the rows
are exhausted or given up. -/
def query (ctx : Context) (st : Statement) : Action σ (Except Error Cursor) := do
  match ← db.run ctx .query st with
  | .error e =>
    db.signal (.finished .query true)
    return .error e
  | .ok (tx, ()) => return .ok ⟨ctx, some tx⟩

/-- Ends a cursor and commits, if it is still open. -/
def close (c : Cursor) : Action σ (Except Error Unit) := do
  match c.transaction? with
  | none => return .ok ()
  | some tx =>
    let result ← db.commit c.context tx
    db.signal (.finished .query (!result.isOk))
    return result

/-- Gives a cursor up and rolls back, if it is still open. -/
def drop (c : Cursor) : Action σ Unit := do
  match c.transaction? with
  | none => return ()
  | some tx =>
    db.abandon c.context tx
    db.signal (.finished .query true)

/-- Advances a cursor: the next row, an error, or nothing at the end.  The end of the rows
commits, and an error rolls back. -/
def next (c : Cursor) : Action σ (Option (Except Error Row) × Cursor) := do
  match c.transaction? with
  | none => return (none, c)
  | some tx =>
    let ended := { c with transaction? := none }
    if ← World.stopped c.context then
      db.drop c
      return (some (.error .cancelled), ended)
    match ← db.call c.context (.fetch tx) with
    | .error f =>
      db.drop c
      return (some (.error (.ofStore f)), ended)
    | .ok (some row) => return (some (.ok row), c)
    | .ok none =>
      match ← db.close c with
      | .error e => return (some (.error e), ended)
      | .ok () => return (none, ended)

/-- The first row of a statement.  It is an error if there is none; further rows count
nothing. -/
def queryRow (ctx : Context) (st : Statement) : Action σ (Except Error Row) := do
  match ← db.query ctx st with
  | .error e => return .error e
  | .ok c =>
    match ← db.next c with
    | (none, _) => return .error .notFound
    | (some (.error e), _) => return .error e
    | (some (.ok row), c) =>
      match ← db.close c with
      | .error e => return .error e
      | .ok () => return .ok row

/-! ## The pool itself -/

/-- Asks whether the store is there. -/
def ping : Action σ (Except Error Unit) := do
  return (← World.call db.pool none .ping).mapError .ofStore

/-- The numbers of connections. -/
def stats (w : World σ) : PoolStats :=
  db.pool.stats w.store

/-- Closes the pool. -/
def closePool : Action σ Unit :=
  modify fun w => { w with store := db.pool.close w.store }

theorem attempt_of_isStopped {ctx : Context} {w : World σ} (h : ctx.isStopped w = true)
    (op : Operation) (st : Statement) :
    db.attempt ctx op st w = (.error .stopped, w) := by
  have hs : (World.stopped ctx).run w = (true, w) := by
    change (ctx.isStopped w, w) = _
    rw [h]
  change (db.attempt ctx op st).run w = _
  rw [attempt, StateT.run_bind, hs]
  rfl

end Database

end TagSearch
