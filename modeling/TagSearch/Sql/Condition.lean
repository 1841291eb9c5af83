import TagSearch.Sql.Formula
import TagSearch.Sql.Source

/-!
# Conditions of a statement

The tests that a statement makes on the fields of a row, and the pieces that write them.

Main results:

- Theorems `Formula.pieces_conj`, `Formula.pieces_disj` and `Formula.pieces_neg`: several parts
  stand in parentheses, and so does what is negated.
-/

namespace TagSearch

/-- A test of a text against a pattern. -/
inductive PatternTest where
  /-- The text fits a pattern with wildcards. -/
  | like (pattern : String)
  /-- The text matches a regular expression. -/
  | expression (pattern : String)
deriving DecidableEq, Repr

/-- The pieces of a test, which follow the text that is tested. -/
def PatternTest.pieces : PatternTest → List Piece
  | like p => [.text " LIKE ", .param (.text p)]
  | expression p => [.text " ~ ", .param (.text p)]

/-- A test that a statement makes on a row. -/
inductive Condition where
  /-- There is a value. -/
  | present (operand : Operand)
  /-- There is no value. -/
  | absent (operand : Operand)
  /-- The value stands in a given relation to a parameter. -/
  | compare (operand : Operand) (comparison : Comparison) (param : Param)
  /-- The value, read as a number, stands in a given relation to a number. -/
  | compareNumber (operand : Operand) (comparison : Comparison) (number : Decimal)
  /-- The value passes a test of its text. -/
  | fits (operand : Operand) (test : PatternTest)
  /-- Some item of an array is a given text. -/
  | hasItem (source : Source) (item : String)
  /-- Some item of an array passes a test. -/
  | someItem (source : Source) (test : PatternTest)
deriving Repr

namespace Condition

/-- The source that a condition reads. -/
def source : Condition → Source
  | present o => o.source
  | absent o => o.source
  | compare o _ _ => o.source
  | compareNumber o _ _ => o.source
  | fits o _ => o.source
  | hasItem s _ => s
  | someItem s _ => s

/-- The pieces of a condition. -/
def pieces : Condition → List Piece
  | present o => o.pieces ++ [.text " IS NOT NULL"]
  | absent o => o.pieces ++ [.text " IS NULL"]
  | compare o c p => o.pieces ++ [.text (" " ++ c.sign ++ " "), .param p]
  | compareNumber o c d =>
    .text "(" :: o.pieces ++ [.text (")::numeric " ++ c.sign ++ " "), .param (.numeric d)]
  | fits o test => o.pieces ++ test.pieces
  | hasItem s item => [.param (.text item), .text (" = ANY(" ++ s.text ++ ")")]
  | someItem s test =>
    .text ("EXISTS (SELECT 1 FROM unnest(" ++ s.text ++ ") AS elem WHERE elem") ::
      test.pieces ++ [.text ")"]

end Condition

/-- The pieces of a symbol between conditions. -/
def Symbol.pieces : Symbol Condition → List Piece
  | .atom c => c.pieces
  | .lParen => [.text "("]
  | .rParen => [.text ")"]
  | .conj => [.text " AND "]
  | .disj => [.text " OR "]
  | .neg => [.text "NOT "]

theorem Symbol.pieces_conj : Symbol.conj.pieces = [.text " AND "] := rfl

theorem Symbol.pieces_disj : Symbol.disj.pieces = [.text " OR "] := rfl

namespace Formula

/-- The pieces of a formula. -/
def pieces (f : Formula Condition) : List Piece :=
  f.symbols.flatMap Symbol.pieces

theorem pieces_atom (c : Condition) : (atom c).pieces = c.pieces :=
  List.append_nil c.pieces

theorem pieces_separated {connective : Symbol Condition} {sign : String}
    (hsign : connective.pieces = [.text sign]) (parts : List (Formula Condition)) :
    (Symbol.separated connective (symbolsOfAll parts)).flatMap Symbol.pieces =
      Piece.separated sign (parts.map pieces) := by
  induction parts with
  | nil => rfl
  | cons p ps ih =>
    cases ps with
    | nil => rfl
    | cons q qs =>
      have hsymbols : Symbol.separated connective (symbolsOfAll (p :: q :: qs)) =
          p.symbols ++ connective :: Symbol.separated connective (symbolsOfAll (q :: qs)) := rfl
      rw [hsymbols, List.flatMap_append, List.flatMap_cons, hsign, ih]
      rfl

theorem pieces_conj (parts : List (Formula Condition)) :
    (conj parts).pieces =
      .text "(" :: (Piece.separated " AND " (parts.map pieces) ++ [.text ")"]) := by
  rw [← pieces_separated Symbol.pieces_conj, pieces, symbols, List.flatMap_append]
  rfl

theorem pieces_disj (parts : List (Formula Condition)) :
    (disj parts).pieces =
      .text "(" :: (Piece.separated " OR " (parts.map pieces) ++ [.text ")"]) := by
  rw [← pieces_separated Symbol.pieces_disj, pieces, symbols, List.flatMap_append]
  rfl

theorem pieces_neg (part : Formula Condition) :
    (neg part).pieces = .text "NOT " :: .text "(" :: (part.pieces ++ [.text ")"]) := by
  rw [pieces, symbols, List.flatMap_append]
  rfl

end Formula

end TagSearch
