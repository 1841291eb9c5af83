import TagSearch.Schema.Row
import TagSearch.Sql.Statement
import TagSearch.Store.Fault

/-!
# Calls to the store

Everything that an engine can ask of a pool and of the transactions on its connections,
with the type of each reply, and pools as the things that reply.
-/

namespace TagSearch

/-- A way to run a statement. -/
inductive Operation where
  /-- For its effect; the reply is the number of rows affected. -/
  | exec
  /-- For its rows, which are then fetched one by one. -/
  | query
deriving DecidableEq, Repr

namespace Operation

/-- The name of an operation. -/
def name : Operation → String
  | exec => "exec"
  | query => "query"

/-- What a statement that ran successfully replies. -/
abbrev Reply : Operation → Type
  | exec => Nat
  | query => Unit

end Operation

/-- A call to the store.  Transactions go by numbers. -/
inductive Call where
  /-- Begins a transaction, which will have the given number. -/
  | begin (tx : Nat)
  | run (tx : Nat) (operation : Operation) (statement : Statement)
  /-- Asks for the next row of the query that runs in a transaction. -/
  | fetch (tx : Nat)
  | commit (tx : Nat)
  | rollback (tx : Nat)
  /-- Drops every connection of the pool and opens fresh ones. -/
  | reconnect
  /-- Asks whether the store is there. -/
  | ping
deriving Repr

namespace Call

/-- What a successful call replies. -/
abbrev Reply : Call → Type
  | begin _ => Unit
  | run _ operation _ => operation.Reply
  | fetch _ => Option Row
  | commit _ => Unit
  | rollback _ => Unit
  | reconnect => Unit
  | ping => Unit

/-- The transaction that a call is made in. -/
def transaction? : Call → Option Nat
  | begin tx => some tx
  | run tx _ _ => some tx
  | fetch tx => some tx
  | commit tx => some tx
  | rollback tx => some tx
  | reconnect => none
  | ping => none

end Call

/-- Names a group of contexts that are cancelled together. -/
structure CancelHandle where
  name : String
deriving DecidableEq, Repr

/-- How a call went. -/
structure Answer (α : Type) where
  outcome : Except StoreFault α
  /-- The handles that were cancelled while the call was under way. -/
  cancelled : List CancelHandle := []
  /-- The time that passed. -/
  elapsed : Nat := 0

/-- The numbers of connections of a pool. -/
structure PoolStats where
  opened : Nat
  inUse : Nat
  idle : Nat
deriving DecidableEq, Repr

/-- A pool of connections with states `σ`.  Nothing is assumed about its answers. -/
structure Pool (σ : Type) where
  answer : σ → (call : Call) → Answer call.Reply × σ
  stats : σ → PoolStats
  close : σ → σ

end TagSearch
