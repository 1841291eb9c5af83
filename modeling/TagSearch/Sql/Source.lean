import TagSearch.Path
import TagSearch.Schema.Basic
import TagSearch.Sql.Statement

/-!
# Sources

Where a statement reads a field from, and the expressions built on it: the source itself,
its text, and the text found by steps into a document.
-/

namespace TagSearch

/-- Where a statement reads a field from. -/
inductive Source where
  /-- A column of the base relation, qualified by the name of the relation if need be. -/
  | own (qualifier : Option String) (column : String)
  /-- A column of a joined relation. -/
  | joined (table column : String)
  /-- The business key `column` of `table`, found by the surrogate key that the base
  relation stores in `key`. -/
  | reference (table column base key : String)
deriving DecidableEq, Repr

namespace Source

/-- The expression that reads a source. -/
def text : Source → String
  | own none column => column
  | own (some base) column => base ++ "." ++ column
  | joined table column => table ++ "." ++ column
  | reference table column base key =>
    "(SELECT " ++ table ++ "." ++ column ++ " FROM " ++ table ++ " WHERE " ++ table ++ "." ++
      surrogateKey ++ " = " ++ base ++ "." ++ key ++ ")"

theorem text_own (base column : String) :
    (own (some base) column).text = base ++ "." ++ column := rfl

theorem text_joined (table column : String) :
    (joined table column).text = table ++ "." ++ column := rfl

theorem text_reference (table column base key : String) :
    (reference table column base key).text =
      "(SELECT " ++ table ++ "." ++ column ++ " FROM " ++ table ++ " WHERE " ++ table ++ "." ++
        surrogateKey ++ " = " ++ base ++ "." ++ key ++ ")" := rfl

/-- The relation that has to be joined for a source to be readable. -/
def joinedTable? : Source → Option String
  | joined table _ => some table
  | _ => none

end Source

namespace Schema

/-- The qualifier of columns of the base relation.  Names may clash once relations can be
joined. -/
def qualifier (s : Schema) : Option String :=
  if s.joins.isEmpty then none else some s.table

/-- Where a field is read from.  A field of another relation needs a declared join. -/
def source (s : Schema) (f : Field) : Except Error Source :=
  match f.table, f.key with
  | some table, some key => .ok (.reference table f.columnName s.table key)
  | some table, none =>
    if table = s.table then .ok (.own s.qualifier f.columnName)
    else if s.joins.any fun j => j.table == table then .ok (.joined table f.columnName)
    else .error (.config (.missingJoin f.name table s.table))
  | none, _ => .ok (.own s.qualifier f.columnName)

end Schema

/-- An expression that a condition tests. -/
inductive Operand where
  /-- A source as it is. -/
  | plain (source : Source)
  /-- The text of a source. -/
  | textOf (source : Source)
  /-- The text that steps into the document of a source lead to. -/
  | below (source : Source) (steps : List Segment)
deriving DecidableEq, Repr

/-- What a step into a document takes: a bound name, or a position as written. -/
def Segment.pieces : Segment → List Piece
  | .field name => [.param (.text name), .text "::text"]
  | .index i => [.text (if i < 0 then "(" ++ toString i ++ ")" else toString i)]

namespace Operand

/-- The source below an expression. -/
def source : Operand → Source
  | plain s => s
  | textOf s => s
  | below s _ => s

/-- Steps into a document.  The last one takes the text of what it finds. -/
def stepPieces : List Segment → List Piece
  | [] => []
  | [s] => .text "->>" :: s.pieces
  | s :: rest => .text "->" :: s.pieces ++ stepPieces rest

/-- The pieces of an expression. -/
def pieces : Operand → List Piece
  | plain s => [.text s.text]
  | textOf s => [.text (s.text ++ "::text")]
  | below s steps => .text s.text :: stepPieces steps

end Operand

end TagSearch
