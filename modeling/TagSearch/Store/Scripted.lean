import TagSearch.Store.Call

/-!
# Scripted pools

A pool that answers from a script: fixed rows, a fixed number of affected rows, and faults
that strike at given points.  It stands in for a store wherever none is at hand.
-/

namespace TagSearch

/-- A point at which a fault may strike. -/
inductive CallPoint where
  | begin
  | exec
  | query
  | fetch
  | commit
  | rollback
  | reconnect
  | ping
deriving DecidableEq, Repr

namespace CallPoint

/-- The name of a point. -/
def name : CallPoint → String
  | begin => "begin"
  | exec => "exec"
  | query => "query"
  | fetch => "fetch"
  | commit => "commit"
  | rollback => "rollback"
  | reconnect => "reconnect"
  | ping => "ping"

/-- Every point. -/
def every : List CallPoint :=
  [begin, exec, query, fetch, commit, rollback, reconnect, ping]

/-- The point of a given name. -/
def ofName? (name : String) : Option CallPoint :=
  every.find? fun p => p.name == name

/-- The point that a call passes. -/
def ofCall : Call → CallPoint
  | .begin _ => begin
  | .run _ .exec _ => exec
  | .run _ .query _ => query
  | .fetch _ => fetch
  | .commit _ => commit
  | .rollback _ => rollback
  | .reconnect => reconnect
  | .ping => ping

end CallPoint

/-- A fault of a script. -/
structure ScriptedFault where
  point : CallPoint
  /-- How the statements begin that the fault strikes. -/
  opening : String := ""
  /-- The number of calls that are still passed over. -/
  skip : Nat := 0
  /-- The number of calls that are still struck. -/
  times : Nat := 1
  /-- What a struck call reports; a fault without it lets the call succeed. -/
  fault : Option StoreFault := none
  /-- The handle that a struck call cancels. -/
  cancels : Option CancelHandle := none
deriving DecidableEq, Repr

/-- The text of the statement that a call runs. -/
def Call.statementText? : Call → Option String
  | .run _ _ st => some st.sql
  | _ => none

/-- Whether a fault is meant for a call. -/
def ScriptedFault.fits (f : ScriptedFault) (c : Call) : Bool :=
  f.point == CallPoint.ofCall c &&
    match c.statementText? with
    | some sql => f.opening.toList.isPrefixOf sql.toList
    | none => true

/-- The script of a pool, as far as it is still to be played. -/
structure Script where
  faults : List ScriptedFault := []
  closed : Bool := false
  /-- What every statement run for its effect replies. -/
  affected : Nat := 1
  /-- What every query returns. -/
  rows : List Row := []
  /-- The rows that the queries under way have not returned yet, by transaction. -/
  pending : List (Nat × List Row) := []
  /-- The number of transactions begun and not ended. -/
  inUse : Nat := 0

namespace Script

/-- The number of connections. -/
def size : Nat := 4

/-- The fault that strikes a call, if any, and the faults afterwards.  The first fault that
is meant for the call and neither passes it over nor is used up strikes it. -/
def strike (c : Call) : List ScriptedFault → Option ScriptedFault × List ScriptedFault
  | [] => (none, [])
  | f :: rest =>
    let (struck, others) := strike c rest
    if !f.fits c then (struck, f :: others)
    else if 0 < f.skip then (struck, { f with skip := f.skip - 1 } :: others)
    else if f.times = 0 then (struck, f :: others)
    else (some f, { f with times := f.times - 1 } :: rest)

/-- The next row of a query, and the rows still pending. -/
def takeRow (tx : Nat) : List (Nat × List Row) → Option Row × List (Nat × List Row)
  | [] => (none, [])
  | (n, rows) :: rest =>
    if n = tx then
      match rows with
      | [] => (none, (n, []) :: rest)
      | row :: others => (some row, (n, others) :: rest)
    else ((takeRow tx rest).1, (n, rows) :: (takeRow tx rest).2)

/-- What a call replies and leaves behind when nothing strikes it. -/
def succeed (s : Script) : (c : Call) → c.Reply × Script
  | .begin _ => ((), { s with inUse := s.inUse + 1 })
  | .run _ .exec _ => (s.affected, s)
  | .run tx .query _ => ((), { s with pending := (tx, s.rows) :: s.pending })
  | .fetch tx => ((takeRow tx s.pending).1, { s with pending := (takeRow tx s.pending).2 })
  | .commit _ => ((), s)
  | .rollback _ => ((), s)
  | .reconnect => ((), s)
  | .ping => ((), s)

/-- A transaction is over when it is told to end, whether or not that succeeds. -/
def release (s : Script) : Call → Script
  | .commit _ => { s with inUse := s.inUse - 1 }
  | .rollback _ => { s with inUse := s.inUse - 1 }
  | _ => s

/-- A closed pool refuses to begin transactions and to say that it is there. -/
def isRefused (s : Script) : Call → Bool
  | .begin _ => s.closed
  | .ping => s.closed
  | _ => false

/-- Answers a call. -/
def answer (s : Script) (c : Call) : Answer c.Reply × Script :=
  if s.isRefused c then (⟨.error .closed, [], 0⟩, s)
  else
    let (struck, faults) := strike c s.faults
    let s := { s with faults := faults }.release c
    match struck with
    | none => (⟨.ok (s.succeed c).1, [], 0⟩, (s.succeed c).2)
    | some f =>
      match f.fault with
      | none => (⟨.ok (s.succeed c).1, f.cancels.toList, 0⟩, (s.succeed c).2)
      | some fault => (⟨.error fault, f.cancels.toList, 0⟩, s)

/-- The pool of a script. -/
def pool : Pool Script where
  answer := answer
  stats s := ⟨size, s.inUse, size - s.inUse⟩
  close s := { s with closed := true }

end Script

end TagSearch
