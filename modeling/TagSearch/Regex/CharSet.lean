import TagSearch.Text.Age
import TagSearch.Text.CaseFold
import TagSearch.Text.Category
import TagSearch.Text.Grapheme
import TagSearch.Text.Property
import TagSearch.Text.Script
import TagSearch.Text.Sentence
import TagSearch.Text.Word

/-!
# Character sets of patterns

The sets of characters that a pattern names, built from ranges by the operations that
bracketed sets offer.

Main results:

- Theorem `contains_compl`: the complement of a set holds what the set leaves out.
- Theorem `contains_single`: a single character is a set of its own.
-/

namespace TagSearch

open Text

/-- A set of characters. -/
inductive CharSet where
  /-- The characters in some of the ranges. -/
  | ranges (members : Ranges)
  | union (a b : CharSet)
  | inter (a b : CharSet)
  | diff (a b : CharSet)
  | symDiff (a b : CharSet)
  | compl (a : CharSet)
  /-- The characters that differ at most in case from one of the set; with `ascii`, only
  the letters of the ASCII range have a case. -/
  | folded (ascii : Bool) (a : CharSet)
deriving DecidableEq, Repr

namespace CharSet

/-- The code points that differ at most in case from a letter of the ASCII range. -/
def asciiOrbit (n : Nat) : List Nat :=
  if 'a'.toNat ≤ n ∧ n ≤ 'z'.toNat then [n, n - 32]
  else if 'A'.toNat ≤ n ∧ n ≤ 'Z'.toNat then [n, n + 32]
  else [n]

/-- Whether a code point belongs to a set. -/
def contains : CharSet → Nat → Bool
  | ranges r, n => r.contains n
  | union a b, n => a.contains n || b.contains n
  | inter a b, n => a.contains n && b.contains n
  | diff a b, n => a.contains n && !b.contains n
  | symDiff a b, n => a.contains n != b.contains n
  | compl a, n => !a.contains n
  | folded ascii a, n => (if ascii then asciiOrbit n else CaseFold.orbit n).any a.contains

@[simp] theorem contains_compl (a : CharSet) (n : Nat) :
    (compl a).contains n = !a.contains n := rfl

/-- The set without members. -/
def none : CharSet := ranges []

/-- The set of one character. -/
def single (c : Char) : CharSet := ranges [(c.toNat, c.toNat)]

/-- The set of all characters. -/
def any : CharSet := ranges [(0, 0x10FFFF)]

/-- All characters but the line feed. -/
def notLineFeed : CharSet := compl (single '\n')

@[simp] theorem contains_single (c : Char) (n : Nat) :
    (single c).contains n = (n == c.toNat) := by
  simp only [single, contains, Ranges.contains, List.any_cons, List.any_nil, Bool.or_false]
  rw [Bool.eq_iff_iff]
  simp only [Bool.and_eq_true, decide_eq_true_eq, beq_iff_eq]
  omega

/-- The letters of the ASCII range that differ at most in case from some code point
between `low` and `high`. -/
def asciiOrbits (low high : Nat) : Ranges :=
  [(low, high), (max low 0x61 - 0x20, min high 0x7A - 0x20),
    (max low 0x41 + 0x20, min high 0x5A + 0x20)].filter fun (a, b) => a ≤ b

/-- The code points of a set as runs. -/
def codePoints : CharSet → Ranges
  | ranges r => r
  | union a b => a.codePoints ++ b.codePoints
  | inter a b => a.codePoints.inter b.codePoints
  | diff a b => a.codePoints.inter b.codePoints.compl
  | symDiff a b =>
    a.codePoints.inter b.codePoints.compl ++ b.codePoints.inter a.codePoints.compl
  | compl a => a.codePoints.compl
  | folded ascii a =>
    a.codePoints.normalize.flatMap fun (low, high) =>
      if ascii then asciiOrbits low high else CaseFold.orbits low high

/-- The maximal runs of characters in a set. -/
def runs (s : CharSet) : Ranges :=
  s.codePoints.characters

/-! ## Named sets -/

/-- Decimal digits. -/
def digit : CharSet := ranges Category.decimalNumber

/-- Blank characters. -/
def space : CharSet := ranges Property.whiteSpace

/-- Word characters: letters, marks, decimal digits, connecting punctuation, and the two
joiners. -/
def word : CharSet :=
  ranges (Ranges.normalize (Property.alphabetic ++ Category.spacingMark ++
    Category.enclosingMark ++ Category.nonspacingMark ++ Category.decimalNumber ++
    Category.connectorPunctuation ++ Property.joinControl))

/-- Decimal digits of the ASCII range. -/
def asciiDigit : CharSet := ranges [(0x30, 0x39)]

/-- Blank characters of the ASCII range. -/
def asciiSpace : CharSet := ranges [(9, 13), (0x20, 0x20)]

/-- Word characters of the ASCII range. -/
def asciiWord : CharSet := ranges [(0x30, 0x39), (0x41, 0x5A), (0x5F, 0x5F), (0x61, 0x7A)]

/-- The ASCII set of a given name. -/
def asciiNamed? (name : String) : Option CharSet :=
  match name with
  | "alnum" => some (ranges [(0x30, 0x39), (0x41, 0x5A), (0x61, 0x7A)])
  | "alpha" => some (ranges [(0x41, 0x5A), (0x61, 0x7A)])
  | "ascii" => some (ranges [(0, 0x7F)])
  | "blank" => some (ranges [(9, 9), (0x20, 0x20)])
  | "cntrl" => some (ranges [(0, 0x1F), (0x7F, 0x7F)])
  | "digit" => some asciiDigit
  | "graph" => some (ranges [(0x21, 0x7E)])
  | "lower" => some (ranges [(0x61, 0x7A)])
  | "print" => some (ranges [(0x20, 0x7E)])
  | "punct" => some (ranges [(0x21, 0x2F), (0x3A, 0x40), (0x5B, 0x60), (0x7B, 0x7E)])
  | "space" => some asciiSpace
  | "upper" => some (ranges [(0x41, 0x5A)])
  | "word" => some asciiWord
  | "xdigit" => some (ranges [(0x30, 0x39), (0x41, 0x46), (0x61, 0x66)])
  | _ => Option.none

/-! ## Properties by name -/

/-- The ASCII characters of a property name in small letters, without separators. -/
def plainName (cs : List Char) : List Char :=
  (cs.filter fun c => c.toNat < 0x80 && !(c == ' ' || c == '_' || c == '-')).map Char.toLower

/-- A property name as tables list it.  A leading `is` counts nothing, unless only a `c`
follows. -/
def looseName (cs : List Char) : String :=
  match cs with
  | i :: s :: rest =>
    if i.toLower = 'i' ∧ s.toLower = 's' then
      let name := plainName rest
      if name = ['c'] then "isc" else String.ofList name
    else String.ofList (plainName cs)
  | _ => String.ofList (plainName cs)

/-- The set of a general category or one of the wide sets. -/
def category? (name : String) : Option CharSet :=
  match name with
  | "any" => some any
  | "assigned" => some (compl (ranges Category.unassigned))
  | "ascii" => some (ranges [(0, 0x7F)])
  | _ => (Category.find? name).map ranges

/-- The set that a lone property name stands for: a binary property, a general category,
or a script. -/
def property? (cs : List Char) : Option CharSet :=
  let name := looseName cs
  let binary :=
    if name = "cf" ∨ name = "sc" ∨ name = "lc" then Option.none
    else (Property.find? name).map ranges
  match binary with
  | some s => some s
  | Option.none =>
    match category? name with
    | some s => some s
    | Option.none => (Script.find? name).map ranges

/-- The set that a property with a value stands for. -/
def propertyValue? (property value : List Char) : Option CharSet :=
  let value := looseName value
  match looseName property with
  | "gc" | "generalcategory" => category? value
  | "sc" | "script" => (Script.find? value).map ranges
  | "scx" | "scriptextensions" => (Script.findUsed? value).map ranges
  | "age" => (Age.find? value).map ranges
  | "gcb" | "graphemeclusterbreak" => (Grapheme.find? value).map ranges
  | "sb" | "sentencebreak" => (Sentence.find? value).map ranges
  | "wb" | "wordbreak" => (Word.find? value).map ranges
  | _ => Option.none

end CharSet

end TagSearch
