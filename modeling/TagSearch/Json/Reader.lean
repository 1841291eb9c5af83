import TagSearch.Json.Number

/-!
# Reading JSON text

Reads one JSON value that makes up a whole text, blanks around it aside.  Values may be
nested to a depth of 127.  A value that is read as a document has the members of its
objects in ascending order of names; of several members with one name the last counts.
-/

namespace TagSearch.Json

/-- The blanks that JSON allows between its parts. -/
def isSpace (c : Char) : Bool :=
  c == ' ' || c == '\n' || c == '\t' || c == '\r'

/-- The text after its leading blanks. -/
def skipSpace (cs : List Char) : List Char :=
  cs.dropWhile isSpace

/-- The value of a hexadecimal digit. -/
def hexValue? (c : Char) : Option Nat :=
  if c.isDigit then some (c.toNat - '0'.toNat)
  else if 'a' ≤ c ∧ c ≤ 'f' then some (c.toNat - 'a'.toNat + 10)
  else if 'A' ≤ c ∧ c ≤ 'F' then some (c.toNat - 'A'.toNat + 10)
  else none

/-- The number that four hexadecimal digits write. -/
def hex4? (a b c d : Char) : Option Nat := do
  let a ← hexValue? a
  let b ← hexValue? b
  let c ← hexValue? c
  let d ← hexValue? d
  some (((a * 16 + b) * 16 + c) * 16 + d)

/-- The character that a short escape stands for. -/
def shortEscape? (c : Char) : Option Char :=
  if c = '"' then some '"'
  else if c = '\\' then some '\\'
  else if c = '/' then some '/'
  else if c = 'b' then some (Char.ofNat 8)
  else if c = 'f' then some (Char.ofNat 12)
  else if c = 'n' then some '\n'
  else if c = 'r' then some '\r'
  else if c = 't' then some '\t'
  else none

/-- Whether a code unit is the first half of a pair. -/
def isHighHalf (n : Nat) : Bool := 0xD800 ≤ n && n ≤ 0xDBFF

/-- Whether a code unit is the second half of a pair. -/
def isLowHalf (n : Nat) : Bool := 0xDC00 ≤ n && n ≤ 0xDFFF

/-- The character that two halves make together. -/
def joinHalves (high low : Nat) : Char :=
  Char.ofNat (0x10000 + (high - 0xD800) * 0x400 + (low - 0xDC00))

/-- Reads a string after its opening quote. -/
def readString : List Char → Option (List Char × List Char)
  | [] => none
  | '"' :: cs => some ([], cs)
  | '\\' :: 'u' :: a :: b :: c :: d :: cs =>
    match hex4? a b c d with
    | none => none
    | some n =>
      if isLowHalf n then none
      else if isHighHalf n then
        match cs with
        | '\\' :: 'u' :: e :: f :: g :: h :: rest =>
          match hex4? e f g h with
          | none => none
          | some m =>
            if isLowHalf m then
              (readString rest).map fun (text, rest) => (joinHalves n m :: text, rest)
            else none
        | _ => none
      else (readString cs).map fun (text, rest) => (Char.ofNat n :: text, rest)
  | '\\' :: c :: cs =>
    match shortEscape? c with
    | none => none
    | some e => (readString cs).map fun (text, rest) => (e :: text, rest)
  | c :: cs =>
    if c = '\\' ∨ c.toNat < 0x20 then none
    else (readString cs).map fun (text, rest) => (c :: text, rest)

/-- What follows a word at the front of a text. -/
def afterWord? : List Char → List Char → Option (List Char)
  | [], cs => some cs
  | _ :: _, [] => none
  | w :: ws, c :: cs => if w = c then afterWord? ws cs else none

mutual

/-- Reads a value from the front of a text, where `depth` levels of nesting are left and
`fuel` bounds the number of steps. -/
def readValue (depth : Nat) : Nat → List Char → Option (Json × List Char)
  | 0, _ => none
  | fuel + 1, cs =>
    match skipSpace cs with
    | [] => none
    | c :: rest =>
      if c = 'n' then (afterWord? ['u', 'l', 'l'] rest).map fun r => (null, r)
      else if c = 't' then (afterWord? ['r', 'u', 'e'] rest).map fun r => (bool true, r)
      else if c = 'f' then
        (afterWord? ['a', 'l', 's', 'e'] rest).map fun r => (bool false, r)
      else if c = '"' then
        (readString rest).map fun (text, r) => (string (String.ofList text), r)
      else if c = '[' then
        if depth = 0 then none
        else
          match skipSpace rest with
          | ']' :: r => some (array [], r)
          | r => (readItems (depth - 1) fuel r).map fun (items, r) => (array items, r)
      else if c = '\x7b' then
        if depth = 0 then none
        else
          match skipSpace rest with
          | '\x7d' :: r => some (object [], r)
          | r =>
            (readMembers (depth - 1) fuel r).map fun (members, r) => (object members, r)
      else (JsonNumber.read (c :: rest)).map fun (n, r) => (number n, r)

/-- Reads the items of an array up to and with its closing bracket. -/
def readItems (depth : Nat) : Nat → List Char → Option (List Json × List Char)
  | 0, _ => none
  | fuel + 1, cs =>
    match readValue depth fuel cs with
    | none => none
    | some (v, rest) =>
      match skipSpace rest with
      | ',' :: r => (readItems depth fuel r).map fun (items, r) => (v :: items, r)
      | ']' :: r => some ([v], r)
      | _ => none

/-- Reads the members of an object up to and with its closing brace. -/
def readMembers (depth : Nat) : Nat → List Char → Option (List (String × Json) × List Char)
  | 0, _ => none
  | fuel + 1, cs =>
    match skipSpace cs with
    | '"' :: r =>
      match readString r with
      | none => none
      | some (key, r) =>
        match skipSpace r with
        | ':' :: r =>
          match readValue depth fuel r with
          | none => none
          | some (v, rest) =>
            let member := (String.ofList key, v)
            match skipSpace rest with
            | ',' :: r =>
              (readMembers depth fuel r).map fun (members, r) => (member :: members, r)
            | '\x7d' :: r => some ([member], r)
            | _ => none
        | _ => none
    | _ => none

end

/-- The greatest depth of nesting. -/
def maxDepth : Nat := 127

/-- The value that makes up a whole text, the members of its objects as they are written. -/
def readText (s : String) : Option Json :=
  let cs := s.toList
  match readValue maxDepth (2 * cs.length + 2) cs with
  | some (v, rest) => if skipSpace rest = [] then some v else none
  | none => none

/-- The value that makes up a whole text, the members of its objects in ascending order. -/
def parse (s : String) : Option Json :=
  (readText s).map normalize

end TagSearch.Json
