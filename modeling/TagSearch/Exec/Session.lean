import TagSearch.Exec.Database

/-!
# Sessions

A sequence of requests to one database, with cursors kept by name between them.
-/

namespace TagSearch

/-- A request to a database. -/
inductive Step where
  | exec (ctx : Context) (st : Statement)
  /-- Opens a cursor under a name.  A cursor that has the name already is dropped once the
  new one is open. -/
  | query (cursor : String) (ctx : Context) (st : Statement)
  | queryRow (ctx : Context) (st : Statement)
  | next (cursor : String)
  | close (cursor : String)
  | drop (cursor : String)
  | cancel (handle : CancelHandle)
  | ping
  | closePool
deriving Repr

/-- What a request came to. -/
inductive Outcome where
  | affected (count : Nat)
  /-- A cursor is open. -/
  | opened
  | row (row : Row)
  /-- The rows of a cursor are exhausted. -/
  | exhausted
  | closed
  | dropped
  /-- There is no cursor of the name. -/
  | noCursor
  | cancelled
  | alive
  | failed (e : Error)
deriving Repr

/-- A database in use: its world and the cursors by name. -/
structure Session (σ : Type) where
  world : World σ
  cursors : List (String × Cursor) := []

namespace Session

variable {σ : Type}

/-- The cursor of a name. -/
def cursor? (s : Session σ) (name : String) : Option Cursor :=
  (s.cursors.find? fun (n, _) => n == name).map (·.2)

/-- The cursors other than the one of a name. -/
def without (s : Session σ) (name : String) : List (String × Cursor) :=
  s.cursors.filter fun (n, _) => n != name

/-- Runs an action in the world of a session. -/
def act {α : Type} (s : Session σ) (a : Action σ α) : α × Session σ :=
  let (x, w) := a s.world
  (x, { s with world := w })

/-- Gives a cursor up if there is one. -/
def dropCursor (db : Database σ) : Option Cursor → Action σ Unit
  | none => return ()
  | some c => db.drop c

/-- Carries out a request. -/
def step (db : Database σ) (s : Session σ) : Step → Outcome × Session σ
  | .exec ctx st =>
    match s.act (db.exec ctx st) with
    | (.ok count, s) => (.affected count, s)
    | (.error e, s) => (.failed e, s)
  | .query name ctx st =>
    match s.act (db.query ctx st) with
    | (.ok c, s) =>
      let ((), s') := s.act (dropCursor db (s.cursor? name))
      (.opened, { s' with cursors := (name, c) :: s.without name })
    | (.error e, s) => (.failed e, s)
  | .queryRow ctx st =>
    match s.act (db.queryRow ctx st) with
    | (.ok row, s) => (.row row, s)
    | (.error e, s) => (.failed e, s)
  | .next name =>
    match s.cursor? name with
    | none => (.noCursor, s)
    | some c =>
      let ((item, c), s) := s.act (db.next c)
      let s := { s with cursors := (name, c) :: s.without name }
      match item with
      | none => (.exhausted, s)
      | some (.ok row) => (.row row, s)
      | some (.error e) => (.failed e, s)
  | .close name =>
    match s.cursor? name with
    | none => (.noCursor, s)
    | some c =>
      match { s with cursors := s.without name }.act (db.close c) with
      | (.ok (), s) => (.closed, s)
      | (.error e, s) => (.failed e, s)
  | .drop name =>
    match s.cursor? name with
    | none => (.noCursor, s)
    | some c =>
      let ((), s) := { s with cursors := s.without name }.act (db.drop c)
      (.dropped, s)
  | .cancel handle => (.cancelled, (s.act (World.cancel handle)).2)
  | .ping =>
    match s.act db.ping with
    | (.ok (), s) => (.alive, s)
    | (.error e, s) => (.failed e, s)
  | .closePool => (.closed, (s.act db.closePool).2)

/-- Carries out requests one after the other. -/
def steps (db : Database σ) (s : Session σ) : List Step → List Outcome × Session σ
  | [] => ([], s)
  | st :: rest =>
    let (o, s) := s.step db st
    let (os, s) := s.steps db rest
    (o :: os, s)

/-- Gives up cursors one after the other. -/
def dropAll (db : Database σ) : List (String × Cursor) → Action σ Unit
  | [] => return ()
  | (_, c) :: rest => do
    db.drop c
    dropAll db rest

/-- Ends a session.  Cursors that are left are given up in the order of their names. -/
def finish (db : Database σ) (s : Session σ) : Session σ :=
  let inOrder := s.cursors.mergeSort fun a b => a.1 ≤ b.1
  { (s.act (dropAll db inOrder)).2 with cursors := [] }

end Session

end TagSearch
