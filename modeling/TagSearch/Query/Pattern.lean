import TagSearch.Error
import TagSearch.Regex.Parser

/-!
# Values with a meaning of their own

Patterns between slashes are regular expressions, and two literal values stand for the
absence of a value.

Main results:

- Theorem `isNullText_iff`: only the empty text and the word for null stand for nothing.
-/

namespace TagSearch

/-- The expression of a pattern. -/
def compilePattern (pattern : String) : Except Error Regex :=
  match Regex.parse pattern with
  | some r => .ok r
  | none => .error (.invalidRequest (.invalidPattern pattern))

/-- A value stands for the absence of a value when it is empty or the word for null. -/
def isNullText (value : String) : Bool :=
  value == "" || value == "null"

theorem isNullText_iff (value : String) : isNullText value ↔ value = "" ∨ value = "null" := by
  simp [isNullText]

end TagSearch
