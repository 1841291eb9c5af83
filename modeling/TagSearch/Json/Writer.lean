import TagSearch.Json.Basic
import TagSearch.Text.Escaped

/-!
# JSON text

Writes JSON values as text: in the compact form without blanks, in the indented form with
one member a line, and in the described form, which names the kind of every value.
-/

namespace TagSearch.Json

/-- The form of one character in a JSON string. -/
def escapeChar (c : Char) : List Char :=
  if c = '"' then ['\\', '"']
  else if c = '\\' then ['\\', '\\']
  else if c = '\n' then ['\\', 'n']
  else if c = '\r' then ['\\', 'r']
  else if c = '\t' then ['\\', 't']
  else if c.toNat = 8 then ['\\', 'b']
  else if c.toNat = 12 then ['\\', 'f']
  else if c.toNat < 0x20 then
    ['\\', 'u', '0', '0', Nat.digitChar (c.toNat / 16), Nat.digitChar (c.toNat % 16)]
  else [c]

/-- A string as JSON text. -/
def quote (s : String) : List Char :=
  '"' :: s.toList.flatMap escapeChar ++ ['"']

/-- The opening brace of an object. -/
def openBrace : Char := '\x7b'

/-- The closing brace of an object. -/
def closeBrace : Char := '\x7d'

mutual

/-- The characters of a value in compact form. -/
def compactChars : Json → List Char
  | null => ['n', 'u', 'l', 'l']
  | bool true => ['t', 'r', 'u', 'e']
  | bool false => ['f', 'a', 'l', 's', 'e']
  | number n => n.text.toList
  | string s => quote s
  | array items => '[' :: compactItems items ++ [']']
  | object members => openBrace :: compactMembers members ++ [closeBrace]

/-- The items of an array with commas between them. -/
def compactItems : List Json → List Char
  | [] => []
  | [v] => compactChars v
  | v :: w :: rest => compactChars v ++ ',' :: compactItems (w :: rest)

/-- The members of an object with commas between them. -/
def compactMembers : List (String × Json) → List Char
  | [] => []
  | [(k, v)] => quote k ++ ':' :: compactChars v
  | (k, v) :: m :: rest => quote k ++ ':' :: compactChars v ++ ',' :: compactMembers (m :: rest)

end

/-- The compact text of a value. -/
def compact (j : Json) : String :=
  String.ofList (compactChars j)

/-- The start of a line at a depth: two blanks a level. -/
def newline (depth : Nat) : List Char :=
  '\n' :: List.replicate (2 * depth) ' '

mutual

/-- The characters of a value in indented form, where `depth` is the level around it. -/
def indentedChars (depth : Nat) : Json → List Char
  | array [] => ['[', ']']
  | array (v :: rest) =>
    '[' :: newline (depth + 1) ++ indentedChars (depth + 1) v ++ indentedItems (depth + 1) rest ++
      newline depth ++ [']']
  | object [] => [openBrace, closeBrace]
  | object ((k, v) :: rest) =>
    openBrace :: newline (depth + 1) ++ quote k ++ ':' :: ' ' :: indentedChars (depth + 1) v ++
      indentedMembers (depth + 1) rest ++ newline depth ++ [closeBrace]
  | null => ['n', 'u', 'l', 'l']
  | bool true => ['t', 'r', 'u', 'e']
  | bool false => ['f', 'a', 'l', 's', 'e']
  | number n => n.text.toList
  | string s => quote s

/-- The items after the first, each on a line of its own. -/
def indentedItems (depth : Nat) : List Json → List Char
  | [] => []
  | v :: rest => ',' :: newline depth ++ indentedChars depth v ++ indentedItems depth rest

/-- The members after the first, each on a line of its own. -/
def indentedMembers (depth : Nat) : List (String × Json) → List Char
  | [] => []
  | (k, v) :: rest =>
    ',' :: newline depth ++ quote k ++ ':' :: ' ' :: indentedChars depth v ++
      indentedMembers depth rest

end

/-- The indented text of a value. -/
def indented (j : Json) : String :=
  String.ofList (indentedChars 0 j)

mutual

/-- The text of a value with the kind of every part. -/
def described : Json → String
  | null => "Null"
  | bool true => "Bool(true)"
  | bool false => "Bool(false)"
  | number n => "Number(" ++ n.text ++ ")"
  | string s => "String(" ++ Text.quoted s ++ ")"
  | array items => "Array [" ++ describedItems items ++ "]"
  | object members => "Object \x7b" ++ describedMembers members ++ "\x7d"

/-- The described items of an array. -/
def describedItems : List Json → String
  | [] => ""
  | [v] => described v
  | v :: w :: rest => described v ++ ", " ++ describedItems (w :: rest)

/-- The described members of an object. -/
def describedMembers : List (String × Json) → String
  | [] => ""
  | [(k, v)] => Text.quoted k ++ ": " ++ described v
  | (k, v) :: m :: rest =>
    Text.quoted k ++ ": " ++ described v ++ ", " ++ describedMembers (m :: rest)

end

end TagSearch.Json
