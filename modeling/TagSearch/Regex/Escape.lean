import TagSearch.Number.Power
import TagSearch.Regex.Basic
import TagSearch.Regex.Flags

/-!
# Escapes of patterns

Reads what follows a backslash: a character by its code point or by a letter, a set by the
name of a property or by a letter, or a condition on a place.

A pattern only matches whole characters.  Where the flags leave Unicode aside, anything
that would match a byte beyond the ASCII range is therefore refused.
-/

namespace TagSearch.Regex

/-! ## Characters of a pattern -/

/-- The characters with a meaning of their own, which an escape turns into plain ones. -/
def isMeta (c : Char) : Bool :=
  ['\\', '.', '+', '*', '?', '(', ')', '|', '[', ']', '\x7b', '\x7d', '^', '$', '#', '&', '-',
    '~'].contains c

/-- The characters that an escape leaves as they are. -/
def isEscapable (c : Char) : Bool :=
  isMeta c || (c.toNat < 0x80 && !c.isAlphanum && c != '<' && c != '>')

/-- The value of a hexadecimal digit. -/
def hexValue? (c : Char) : Option Nat :=
  if c.isDigit then some (c.toNat - '0'.toNat)
  else if 'a' ≤ c ∧ c ≤ 'f' then some (c.toNat - 'a'.toNat + 10)
  else if 'A' ≤ c ∧ c ≤ 'F' then some (c.toNat - 'A'.toNat + 10)
  else none

/-- The character of a code point, which must not be a surrogate. -/
def charOf? (n : Nat) : Option Char :=
  if n.isValidChar then some (Char.ofNat n) else none

/-- What one escape or one plain character of a pattern stands for. -/
inductive Primitive where
  | literal (c : Char)
  | chars (members : CharSet)
  | assertion (a : Assertion)
  | dot
deriving Repr

/-! ## Sets under flags -/

/-- A set with the letters of either case, where case counts nothing. -/
def foldSet (f : Flags) (s : CharSet) : CharSet :=
  if f.ignoreCase then .folded (!f.unicode) s else s

/-- A set or the characters outside it. -/
def negateIf (negated : Bool) (s : CharSet) : CharSet :=
  if negated then .compl s else s

/-- A set or the characters outside it, which only Unicode patterns may name. -/
def negate? (f : Flags) (negated : Bool) (s : CharSet) : Option CharSet :=
  if negated ∧ f.unicode = false then none else some (negateIf negated s)

/-! ## Code points -/

/-- Reads up to `count` hexadecimal digits, all of which have to be there. -/
def readHexDigits (f : Flags) : Nat → Nat → List Char → Option (Nat × List Char)
  | 0, value, cs => some (value, cs)
  | count + 1, value, cs =>
    match cs with
    | [] => none
    | c :: rest =>
      match hexValue? c with
      | none => none
      | some d => readHexDigits f count (value * 16 + d) (skip f rest)

/-- Reads hexadecimal digits up to a closing brace. -/
def readHexBraced (f : Flags) (value : Nat) (any : Bool) : Nat → List Char →
    Option (Nat × List Char)
  | 0, _ => none
  | fuel + 1, cs =>
    match cs with
    | [] => none
    | c :: rest =>
      if c = '\x7d' then if any then some (value, skip f rest) else none
      else
        match hexValue? c with
        | none => none
        | some d =>
          if value ≥ twoTo 32 then none
          else readHexBraced f (value * 16 + d) true fuel (skip f rest)

/-- Reads the code point of an escape with `count` digits, or with any number of them
between braces.  Two digits without braces write a byte where Unicode is left aside. -/
def readHex (f : Flags) (count : Nat) (cs : List Char) : Option (Char × List Char) := do
  match skip f cs with
  | '\x7b' :: rest =>
    let (n, rest) ← readHexBraced f 0 false (rest.length + 1) (skip f rest)
    some (← charOf? n, rest)
  | rest =>
    let (n, rest) ← readHexDigits f count 0 rest
    if f.unicode = false ∧ count = 2 ∧ 0x80 ≤ n then none else some (← charOf? n, rest)

/-! ## Properties -/

/-- Splits a text at the first place where another text stands. -/
def splitAt? (mark : List Char) : List Char → Option (List Char × List Char)
  | [] => none
  | c :: cs =>
    if mark.isPrefixOf (c :: cs) then some ([], (c :: cs).drop mark.length)
    else (splitAt? mark cs).map fun (a, b) => (c :: a, b)

/-- The set that the text of a property stands for. -/
def propertySet? (name : List Char) : Option CharSet :=
  match splitAt? ['!', '='] name with
  | some (p, v) => (CharSet.propertyValue? p v).map .compl
  | none =>
    match splitAt? [':'] name with
    | some (p, v) => CharSet.propertyValue? p v
    | none =>
      match splitAt? ['='] name with
      | some (p, v) => CharSet.propertyValue? p v
      | none => CharSet.property? name

/-- Reads a property set after its letter. -/
def readProperty (f : Flags) (negated : Bool) (cs : List Char) :
    Option (Primitive × List Char) :=
  if !f.unicode then none
  else
    match skip f cs with
    | [] => none
    | '\\' :: _ => none
    | '\x7b' :: rest =>
      match takeSpaced f (· != '\x7d') (skip f rest) with
      | (_, []) => none
      | (name, _ :: rest) =>
        (propertySet? name).map fun s => (.chars (negateIf negated (foldSet f s)), rest)
    | c :: rest =>
      (CharSet.property? [c]).map fun s =>
        (.chars (negateIf negated (foldSet f s)), skip f rest)

/-- The set of a one-letter class, whose capital letter negates it. -/
def letterSet? (f : Flags) (letter : Char) : Option CharSet :=
  let lower := letter.toLower
  let s :=
    if lower = 'd' then if f.unicode then CharSet.digit else .asciiDigit
    else if lower = 's' then if f.unicode then CharSet.space else .asciiSpace
    else if f.unicode then CharSet.word else .asciiWord
  negate? f letter.isUpper s

/-! ## Conditions on places -/

/-- The assertion that a word between braces after `\b` names. -/
def specialEdge? (f : Flags) (word : List Char) : Option Assertion :=
  match String.ofList word with
  | "start" => some (.wordStart !f.unicode)
  | "end" => some (.wordStop !f.unicode)
  | "start-half" => some (.noWordBefore !f.unicode)
  | "end-half" => some (.noWordAfter !f.unicode)
  | _ => none

/-- Reads what may follow `\b`: a word between braces, which selects one side of a word.
Braces around anything else belong to a repetition. -/
def readEdge (f : Flags) (cs : List Char) : Option (Primitive × List Char) :=
  match cs with
  | '\x7b' :: rest =>
    match skip f rest with
    | [] => none
    | rest =>
      match takeSpaced f (fun c => c.isAlpha || c == '-') rest with
      | ([], _) => some (.assertion (.wordEdge !f.unicode), cs)
      | (word, '\x7d' :: rest) => (specialEdge? f word).map fun a => (.assertion a, rest)
      | _ => none
  | _ => some (.assertion (.wordEdge !f.unicode), cs)

/-! ## Escapes -/

/-- Reads an escape after its backslash. -/
def readEscape (f : Flags) : List Char → Option (Primitive × List Char)
  | [] => none
  | c :: cs =>
    if c.isDigit then none
    else if c = 'x' then (readHex f 2 cs).map fun (d, rest) => (.literal d, rest)
    else if c = 'u' then (readHex f 4 cs).map fun (d, rest) => (.literal d, rest)
    else if c = 'U' then (readHex f 8 cs).map fun (d, rest) => (.literal d, rest)
    else if c = 'p' then readProperty f false cs
    else if c = 'P' then readProperty f true cs
    else if ['d', 's', 'w', 'D', 'S', 'W'].contains c then
      (letterSet? f c).map fun s => (.chars s, cs)
    else if isEscapable c then some (.literal c, cs)
    else if c = 'a' then some (.literal (Char.ofNat 7), cs)
    else if c = 'f' then some (.literal (Char.ofNat 12), cs)
    else if c = 't' then some (.literal '\t', cs)
    else if c = 'n' then some (.literal '\n', cs)
    else if c = 'r' then some (.literal '\r', cs)
    else if c = 'v' then some (.literal (Char.ofNat 11), cs)
    else if c = 'A' then some (.assertion .start, cs)
    else if c = 'z' then some (.assertion .stop, cs)
    else if c = 'b' then readEdge f cs
    else if c = 'B' then some (.assertion (.notWordEdge !f.unicode), cs)
    else if c = '<' then some (.assertion (.wordStart !f.unicode), cs)
    else if c = '>' then some (.assertion (.wordStop !f.unicode), cs)
    else none

end TagSearch.Regex
