import TagSearch.Sql.Select

/-!
# Changes

The plans of statements that insert, update and delete rows.  An insert and an update
return the rows that they wrote, read as a selection would read them.
-/

namespace TagSearch

/-- A value to be stored in a column of the base relation. -/
inductive StoredValue where
  /-- A parameter as it is. -/
  | plain (param : Param)
  /-- The surrogate key of the row of `table` whose business key `column` is the
  parameter. -/
  | keyOf (table column : String) (param : Param)
deriving Repr

namespace StoredValue

/-- The pieces of a value. -/
def pieces : StoredValue → List Piece
  | plain p => [.param p]
  | keyOf table column p =>
    [.text ("(SELECT " ++ table ++ "." ++ surrogateKey ++ " FROM " ++ table ++ " WHERE " ++
        table ++ "." ++ column ++ " = "), .param p, .text ")"]

/-- The parameter of a value. -/
def param : StoredValue → Param
  | plain p => p
  | keyOf _ _ p => p

end StoredValue

/-- A column of the base relation with a value, which is assigned to it or compared with
it. -/
structure Equation where
  column : String
  value : StoredValue
deriving Repr

/-- The pieces of an equation. -/
def Equation.pieces (e : Equation) : List Piece :=
  .text (e.column ++ " = ") :: e.value.pieces

/-- What an insert does about rows that are already there: the columns that identify them,
and the columns to update. -/
structure Conflict where
  target : List String
  update : List String
deriving DecidableEq, Repr

namespace Conflict

/-- What is done to the row that is already there. -/
def actionText (c : Conflict) : String :=
  if c.update.isEmpty then " DO NOTHING"
  else " DO UPDATE SET " ++
    ", ".intercalate (c.update.map fun column => column ++ " = EXCLUDED." ++ column)

/-- The text of the conflict clause of an insert. -/
def text (c : Conflict) : String :=
  " ON CONFLICT (" ++ ", ".intercalate c.target ++ ")" ++ c.actionText

end Conflict

/-- The text of an optional conflict clause. -/
def Conflict.text? : Option Conflict → String
  | none => ""
  | some c => c.text

/-- The rows that are written, and with what. -/
inductive Write where
  /-- A new row. -/
  | insert (row : List Equation) (conflict : Option Conflict)
  /-- The rows that satisfy all keys. -/
  | update (assignments keys : List Equation)
deriving Repr

/-- The pieces of a conjunction of equations. -/
def Equation.conjPieces (equations : List Equation) : List Piece :=
  Piece.separated " AND " (equations.map Equation.pieces)

/-- The pieces of a write to a table. -/
def Write.pieces (table : String) : Write → List Piece
  | .insert row conflict =>
    .text ("INSERT INTO " ++ table ++ " (" ++ ", ".intercalate (row.map (·.column)) ++
        ") VALUES (") ::
      Piece.separated ", " (row.map (·.value.pieces)) ++
        [.text (")" ++ Conflict.text? conflict)]
  | .update assignments keys =>
    .text ("UPDATE " ++ table ++ " SET ") ::
      Piece.separated ", " (assignments.map Equation.pieces) ++
        .text " WHERE " :: Equation.conjPieces keys

/-- The plan of a statement that writes rows and returns them. -/
structure Mutation where
  table : String
  write : Write
  outputs : List Output
  joins : List Join

/-- The plan of a statement that deletes the rows that satisfy all keys. -/
structure Delete where
  table : String
  keys : List Equation

namespace Mutation

/-- The pieces of a write together with the rows that it returns. -/
def pieces (m : Mutation) : List Piece :=
  .text "WITH affected AS (" :: m.write.pieces m.table ++
    [.text (" RETURNING *) SELECT " ++ Output.listText m.outputs ++ " FROM affected AS " ++
      m.table ++ Join.listText m.joins)]

/-- The statement of a write. -/
def statement (m : Mutation) : Statement :=
  .ofPieces m.pieces

end Mutation

namespace Delete

/-- The pieces of a deletion. -/
def pieces (d : Delete) : List Piece :=
  .text ("DELETE FROM " ++ d.table ++ " WHERE ") :: Equation.conjPieces d.keys

/-- The statement of a deletion. -/
def statement (d : Delete) : Statement :=
  .ofPieces d.pieces

end Delete

end TagSearch
