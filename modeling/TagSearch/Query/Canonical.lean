import TagSearch.Query.Parser

/-!
# Canonical text

Writes a tree back as a search.  Every condition is written with its category, the members
of the root as a plain list, and only characters that would otherwise change the meaning
are quoted.
-/

namespace TagSearch

/-! ## Quoting -/

/-- A character is special when it would end a tag or be read as something else. -/
def needsQuote (c : Char) : Bool :=
  Text.isBlank c || c == '(' || c == ')' || c == ',' || c == ':' || c == '"' ||
    c == quotedStar || c == quotedQuestion

/-- Whether a character is written inside quotes, given whether it is the first of its
text, whether a base64 literal could open at it, and what follows.  Bare wildcards stay
outside so that they remain wildcards; backslashes stay outside because only a quote can
be escaped inside. -/
def quotes (first literalStart : Bool) (c : Char) (following : List Char) : Bool :=
  if c = '*' ∨ c = '?' ∨ c = '\\' then false
  else if c = 'b' then
    literalStart &&
      match following with
      | [] => false
      | n :: _ => n == '/' || n == '[' || needsQuote n
  else if c = '/' then first
  else needsQuote c

/-- A character as it is written: an escaped quote, the wildcard for its stand-in, and
otherwise the character. -/
def written (c : Char) : List Char :=
  if c = '"' then ['\\', '"']
  else if c = quotedStar then ['*']
  else if c = quotedQuestion then ['?']
  else [c]

/-- Writes the characters of a tag, where `inQuotes` tells whether a quote is open. -/
def quoteFrom (inQuotes first literalStart : Bool) : List Char → List Char
  | [] => if inQuotes then ['"'] else []
  | c :: cs =>
    let quote := quotes first literalStart c cs
    (if quote = inQuotes then [] else ['"']) ++ written c ++
      quoteFrom quote false (c = '*' ∨ c = '?') cs

/-- Writes a text so that scanning it back gives the text. -/
def quoteLiteral (s : String) : String :=
  if s = "" then "\"\"" else String.ofList (quoteFrom false true true s.toList)

/-! ## Trees -/

namespace Term

/-- A term as it is written.  A pattern with a slash inside, or a backslash at its end,
would end its slashes early; such a pattern is written in base64. -/
def canonical : Term → String
  | pattern p =>
    if '/' ∈ p.toList ∨ p.toList.getLast? = some '\\' then
      "b[url]/" ++ String.ofList (Base64.encodeString .urlSafe p) ++ "/"
    else "/" ++ p ++ "/"
  | literal s => quoteLiteral s

end Term

namespace Leaf

/-- A condition as it is written. -/
def canonical (l : Leaf) : String :=
  l.category.canonical ++ ":" ++ (l.value.map Term.canonical).getD ""

end Leaf

namespace Node

mutual

/-- A node as it is written. -/
def canonical : Node → String
  | leaf l => l.canonical
  | group op _ members => op.keyword ++ "(" ++ canonicalList members ++ ")"

/-- A list of nodes as it is written, with commas between them. -/
def canonicalList : List Node → String
  | [] => ""
  | [n] => n.canonical
  | n :: m :: rest => n.canonical ++ "," ++ canonicalList (m :: rest)

end

end Node

namespace Tree

/-- The canonical text of a tree. -/
def canonical (t : Tree) : String :=
  Node.canonicalList t.members

end Tree

end TagSearch
