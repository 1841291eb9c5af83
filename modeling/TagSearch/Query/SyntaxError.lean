import TagSearch.Text.Escaped
import TagSearch.Query.Token

/-!
# Syntax errors

The ways in which a search fails to follow the grammar, each with the text and the place
that it points at.
-/

namespace TagSearch

/-- What is wrong with a search. -/
inductive SyntaxFault where
  /-- A token that cannot stand where it does. -/
  | illegalToken
  /-- A closing parenthesis without a group to close. -/
  | unexpectedTerminator
  /-- A group without members. -/
  | emptyGroup
  /-- Blanks between a category and the end of its tag. -/
  | invalidWhitespace
deriving DecidableEq, Repr

namespace SyntaxFault

/-- The wording of a fault. -/
def message : SyntaxFault → String
  | illegalToken => "illegal token"
  | unexpectedTerminator => "unexpected terminator"
  | emptyGroup => "empty group"
  | invalidWhitespace => "invalid whitespace"

end SyntaxFault

/-- A fault with the text and the place in the search that it points at. -/
structure SyntaxError where
  fault : SyntaxFault
  literal : String
  offset : Nat
deriving DecidableEq, Repr

namespace SyntaxError

/-- A fault at a token. -/
def ofToken (fault : SyntaxFault) (t : Token) : SyntaxError :=
  ⟨fault, t.literal, t.offset⟩

/-- The wording of a syntax error. -/
def message (e : SyntaxError) : String :=
  "syntax error: " ++ e.fault.message ++ " near " ++ Text.quoted e.literal ++ " at offset " ++
    toString e.offset

end SyntaxError

end TagSearch
