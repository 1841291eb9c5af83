import TagSearch.Values.Param

/-!
# Statements

A statement is a text with placeholders, and the parameters that these stand for.  Pieces are a
view of it: fixed text, and parameters in the places where they belong, numbered from left to
right.  A statement is not made from pieces, but that it is made as they say can be proved.
-/

namespace TagSearch

/-- A part of a statement: fixed text, or a parameter in its place. -/
inductive Piece where
  | text (s : String)
  | param (p : Param)
deriving Repr

namespace Piece

/-- The parameter that a piece binds. -/
def param? : Piece → Option Param
  | text _ => none
  | param p => some p

/-- The placeholder of the parameter with a given number. -/
def placeholder (number : Nat) : String :=
  "$" ++ toString number

/-- The text of pieces whose first parameter has the given number. -/
def textFrom : (number : Nat) → List Piece → String
  | _, [] => ""
  | number, text s :: rest => s ++ textFrom number rest
  | number, param _ :: rest => placeholder number ++ textFrom (number + 1) rest

/-- Composes lists of pieces with a separator between any two. -/
def separated (separator : String) : List (List Piece) → List Piece
  | [] => []
  | [ps] => ps
  | ps :: rest => ps ++ text separator :: separated separator rest

end Piece

/-- A statement with placeholders for its parameters. -/
structure Statement where
  sql : String
  params : List Param
deriving Repr

namespace Statement

/-- The statement that pieces describe.  Its parameters are numbered from one. -/
def ofPieces (pieces : List Piece) : Statement :=
  ⟨Piece.textFrom 1 pieces, pieces.filterMap Piece.param?⟩

/-- A statement as JSON. -/
def toJson (s : Statement) : Json :=
  .object [("sql", .string s.sql), ("params", .array (s.params.map Param.toJson))]

end Statement

end TagSearch
