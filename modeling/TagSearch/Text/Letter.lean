import TagSearch.Text.Category
import TagSearch.Text.Property

/-!
# Letters and numbers in names

The characters that names are made of.  Names know version 17.0 of the Unicode standard,
while the tables of sets end with version 16.0.

Main results:

- Theorem `isLetter_of_alphabetic`: the letters of the tables are letters of names.
-/

namespace TagSearch.Text

/-- The letters that version 17.0 of the standard added. -/
def newLetters : Ranges :=
  Ranges.ofText
    "88f 0 3cc 0 7f 0 9af1 1 2 0 1 0 1c 0 614e 19 56b 2 32 1 c64 7 248 2b 50c4 18 2 18 11e 4 1801
    7 509 15 61 72 58cd 1e 1 15 8 1 d03a 5 1762 b 5502 10c9"

/-- The numbers that version 17.0 of the standard added. -/
def newNumbers : Ranges :=
  Ranges.ofText
    "11de0 9 520a 2"

/-- Whether a character is a letter. -/
def isLetter (c : Char) : Bool :=
  Property.alphabetic.contains c.toNat || newLetters.contains c.toNat

/-- Whether a character is a digit or another number. -/
def isNumber (c : Char) : Bool :=
  [Category.decimalNumber, Category.letterNumber, Category.otherNumber, newNumbers].any
    fun r => r.contains c.toNat

theorem isLetter_of_alphabetic {c : Char} (h : Property.alphabetic.contains c.toNat) :
    isLetter c := by
  rw [isLetter, h, Bool.true_or]

end TagSearch.Text
