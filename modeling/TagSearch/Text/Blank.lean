/-!
# Blank characters

The characters that separate words: the class White_Space of the Unicode standard.  The
class is small enough to be written out, so a scan over blanks can be followed character
by character.

Main results:

- Theorem `isBlank_of_mem_takeBlank`: a leading run of blanks holds blanks only.
-/

namespace TagSearch.Text

/-- A character is blank when it has the Unicode property White_Space. -/
def isBlank (c : Char) : Bool :=
  let n := c.toNat
  (9 ≤ n && n ≤ 13) || n == 0x20 || n == 0x85 || n == 0xA0 || n == 0x1680 ||
    (0x2000 ≤ n && n ≤ 0x200A) || n == 0x2028 || n == 0x2029 || n == 0x202F ||
    n == 0x205F || n == 0x3000

/-- The text without the blanks at its start. -/
def trimStart (cs : List Char) : List Char :=
  cs.dropWhile isBlank

/-- The text without the blanks at its two ends. -/
def trim (cs : List Char) : List Char :=
  (trimStart (trimStart cs).reverse).reverse

/-- The leading run of blanks. -/
def takeBlank (cs : List Char) : List Char :=
  cs.takeWhile isBlank

theorem isBlank_of_mem_takeBlank {cs : List Char} {c : Char} (h : c ∈ takeBlank cs) :
    isBlank c := by
  induction cs with
  | nil => simp [takeBlank] at h
  | cons d ds ih =>
    by_cases hd : isBlank d
    · simp only [takeBlank, List.takeWhile_cons, hd, if_true, List.mem_cons] at h
      rcases h with rfl | h
      · exact hd
      · exact ih h
    · simp [takeBlank, hd] at h

/-- A run of blanks and what follows it make up the text. -/
theorem takeBlank_append_trimStart (cs : List Char) : takeBlank cs ++ trimStart cs = cs :=
  List.takeWhile_append_dropWhile

end TagSearch.Text
