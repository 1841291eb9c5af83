import TagSearch.Query.Term

/-!
# Patterns of the store

A value with bare wildcards as a pattern of the store, in which a percent sign stands for
any run of characters, an underscore for any one character, and a backslash makes the
character after it stand for itself.
-/

namespace TagSearch

namespace Like

/-- A character that means something in a pattern of the store. -/
def isSpecial (c : Char) : Bool :=
  c == '%' || c == '_' || c == '\\'

/-- The part of a pattern that a character of a value stands for. -/
def charPattern (c : Char) : List Char :=
  if isSpecial c then ['\\', c]
  else if c = '*' then ['%']
  else if c = '?' then ['_']
  else if c = quotedStar then ['*']
  else if c = quotedQuestion then ['?']
  else [c]

/-- The pattern that a value with wildcards stands for. -/
def pattern (value : String) : String :=
  String.ofList (value.toList.flatMap charPattern)

end Like

end TagSearch
