/-!
# Operators of a search

A search groups conditions under keywords.  Three keywords combine truth values; the
other five fix the comparison that the conditions below them make.

Main results:

- Theorem `Operator.ofKeyword?_keyword`: every operator is read back from its keyword.
- Theorem `Operator.keyword_injective`: no two operators share a keyword.
-/

namespace TagSearch

/-- How a condition compares its field with its value. -/
inductive Comparison where
  /-- The field equals the value, or fits it when the value has wildcards. -/
  | equal
  /-- The field is greater than the value. -/
  | greater
  /-- The field is greater than the value or equal to it. -/
  | atLeast
  /-- The field is less than the value. -/
  | less
  /-- The field is less than the value or equal to it. -/
  | atMost
deriving DecidableEq, Repr

namespace Comparison

/-- The word that opens a group of this comparison. -/
def keyword : Comparison → String
  | equal => "match"
  | greater => "gt"
  | atLeast => "gte"
  | less => "lt"
  | atMost => "lte"

/-- The comparison sign of the query language of the store. -/
def sign : Comparison → String
  | equal => "="
  | greater => ">"
  | atLeast => ">="
  | less => "<"
  | atMost => "<="

/-- Whether a field that stands in order `o` to the value satisfies the comparison. -/
def holds : Comparison → Ordering → Bool
  | equal, o => o == .eq
  | greater, o => o == .gt
  | atLeast, o => o != .lt
  | less, o => o == .lt
  | atMost, o => o != .gt

end Comparison

/-- The operator of a group. -/
inductive Operator where
  /-- Every member holds. -/
  | conj
  /-- Some member holds. -/
  | disj
  /-- The single member does not hold. -/
  | neg
  /-- Every member holds under the given comparison. -/
  | compare (comparison : Comparison)
deriving DecidableEq, Repr

namespace Operator

/-- The word that opens a group of this operator. -/
def keyword : Operator → String
  | conj => "and"
  | disj => "or"
  | neg => "not"
  | compare c => c.keyword

/-- Every operator, in the order in which the keywords are tried. -/
def every : List Operator :=
  [conj, disj, neg, compare .atLeast, compare .greater, compare .atMost, compare .less,
    compare .equal]

/-- The operator that a word opens. -/
def ofKeyword? (word : String) : Option Operator :=
  every.find? fun op => op.keyword == word

/-- The comparison that an operator fixes for the conditions below it. -/
def comparison? : Operator → Option Comparison
  | compare c => some c
  | _ => none

/-- The comparison in force below an operator that stands under `outer`. -/
def inner (op : Operator) (outer : Comparison) : Comparison :=
  op.comparison?.getD outer

theorem mem_every (op : Operator) : op ∈ every := by
  cases op with
  | compare c => cases c <;> decide
  | _ => decide

theorem ofKeyword?_keyword (op : Operator) : ofKeyword? op.keyword = some op := by
  cases op with
  | compare c => cases c <;> decide
  | _ => decide

theorem keyword_injective {a b : Operator} (h : a.keyword = b.keyword) : a = b := by
  have ha := ofKeyword?_keyword a
  rw [h, ofKeyword?_keyword b] at ha
  exact (Option.some.inj ha).symm

end Operator

end TagSearch
