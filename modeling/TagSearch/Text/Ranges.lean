/-!
# Sets of code points

A set of code points is held as runs.  Larger sets are written as text: hexadecimal
numbers in pairs, where the first number of a pair counts the code points skipped since
the run before, and the second is one less than the length of the run.

Main results:

- Theorem `contains_append`: lists of runs hold together what each of them holds.
-/

namespace TagSearch.Text

/-- A set of code points, as the first and the last member of each run. -/
abbrev Ranges := List (Nat × Nat)

namespace Ranges

/-- A code point belongs to the set when some run holds it. -/
def contains (r : Ranges) (n : Nat) : Bool :=
  r.any fun (first, last) => first ≤ n && n ≤ last

/-- The value of a hexadecimal digit; other characters count nothing. -/
def digitValue (c : Char) : Nat :=
  if c.isDigit then c.toNat - '0'.toNat
  else if 'a' ≤ c ∧ c ≤ 'f' then c.toNat - 'a'.toNat + 10
  else if 'A' ≤ c ∧ c ≤ 'F' then c.toNat - 'A'.toNat + 10
  else 0

/-- The hexadecimal numbers of a text that blanks separate, where `current` is the number
whose digits are being read. -/
def numbers (current : Option Nat) : List Char → List Nat
  | [] => current.toList
  | c :: cs =>
    if c = ' ' ∨ c = '\n' then current.toList ++ numbers none cs
    else numbers (some (current.getD 0 * 16 + digitValue c)) cs

/-- The runs that pairs of gap and length describe from `start` on. -/
def ofGaps (start : Nat) : List Nat → Ranges
  | gap :: extra :: rest =>
    (start + gap, start + gap + extra) :: ofGaps (start + gap + extra + 1) rest
  | _ => []

/-- The set that a text describes. -/
def ofText (s : String) : Ranges :=
  ofGaps 0 (numbers none s.toList)

/-- The set that several texts describe, each of which ends with a number. -/
def ofTexts (texts : List String) : Ranges :=
  ofGaps 0 (texts.flatMap fun s => numbers none s.toList)

/-! ## Maximal runs -/

/-- The run from `first` to `last` and the runs after it, where each run that overlaps or
touches the one before becomes part of it. -/
def joinFrom (first last : Nat) : Ranges → Ranges
  | [] => [(first, last)]
  | (a, b) :: rest =>
    if a ≤ last + 1 then joinFrom first (max last b) rest
    else (first, last) :: joinFrom a b rest

/-- Joins the runs of a list in ascending order. -/
def join : Ranges → Ranges
  | [] => []
  | (a, b) :: rest => joinFrom a b rest

/-- The maximal runs of a set, in ascending order. -/
def normalize (r : Ranges) : Ranges :=
  join (r.mergeSort fun x y => x.1 ≤ y.1)

/-- The greatest code point. -/
def lastCodePoint : Nat := 0x10FFFF

/-- The code points from `next` on that ascending runs leave out. -/
def outside (next : Nat) : Ranges → Ranges
  | [] => if next ≤ lastCodePoint then [(next, lastCodePoint)] else []
  | (a, b) :: rest =>
    if next < a then (next, a - 1) :: outside (max next (b + 1)) rest
    else outside (max next (b + 1)) rest

/-- The code points outside a set. -/
def compl (r : Ranges) : Ranges :=
  outside 0 (normalize r)

/-- The code points in both of two sets. -/
def inter (r s : Ranges) : Ranges :=
  compl (compl r ++ compl s)

/-- The code points of a set that are characters: no surrogate is one. -/
def characters (r : Ranges) : Ranges :=
  inter r [(0, 0xD7FF), (0xE000, lastCodePoint)]

@[simp] theorem contains_nil (n : Nat) : contains [] n = false := rfl

@[simp] theorem contains_cons (a b : Nat) (r : Ranges) (n : Nat) :
    contains ((a, b) :: r) n = (decide (a ≤ n) && decide (n ≤ b) || r.contains n) := rfl

theorem contains_append (r s : Ranges) (n : Nat) :
    contains (r ++ s) n = (r.contains n || s.contains n) :=
  List.any_append

end Ranges

end TagSearch.Text
