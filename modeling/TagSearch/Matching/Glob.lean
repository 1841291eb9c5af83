import TagSearch.Query.Pattern
import TagSearch.Query.Term

/-!
# Wildcards in documents

A value with bare wildcards as a pattern over whole texts: a star stands for any run of
characters, a question mark for any one character, and every other character for itself.
Neither wildcard matches a line feed.  The pattern is written and then read like any other.

Main results:

- Definition `Glob.text`: the text of the pattern.
- Definition `Glob.regex`: the expression that the value stands for.
-/

namespace TagSearch

namespace Glob

/-- The expression that one character of a value stands for. -/
def charRegex (c : Char) : Regex :=
  if c = '*' then .loop 0 none (.set .notLineFeed)
  else if c = '?' then .set .notLineFeed
  else if c = quotedStar then .char '*'
  else if c = quotedQuestion then .char '?'
  else .char c

/-- The expression that a value with wildcards stands for. -/
def regex (value : String) : Regex :=
  .seq (.assert .start) (.seqAll (value.toList.map charRegex ++ [.assert .stop]))

/-- What one character of a value is in the text of a pattern. -/
def charText (c : Char) : List Char :=
  if c = '*' then ['.', '*']
  else if c = '?' then ['.']
  else if c = quotedStar then ['\\', '*']
  else if c = quotedQuestion then ['\\', '?']
  else if Regex.isMeta c then ['\\', c]
  else [c]

/-- The text of the pattern that a value with wildcards stands for. -/
def text (value : String) : String :=
  String.ofList ('^' :: value.toList.flatMap charText ++ ['$'])

/-- The expression of a value with wildcards, as it is read from the text of its pattern. -/
def compile (value : String) : Except Error Regex :=
  compilePattern (text value)

end Glob

end TagSearch
