import TagSearch.Proofs.ConditionText

/-!
# Reading conditions with the usual precedence

The store reads a condition from left to right: a negation belongs to the operand behind it,
conjunctions bind more tightly than disjunctions, and parentheses stand as written.  Read in this
way with two truth values, the text of a formula has the truth value of the formula.

Main results:

- Definition `Logic.twoValued`: the connectives of two truth values.
- Theorem `Formula.IsReadable.readText_holds`: the text of a formula has its truth value.
-/

namespace TagSearch

variable {α : Type}

/-- The logic of two truth values. -/
def Logic.twoValued : Logic Bool where
  yes := true
  no := false
  conj := and
  disj := or
  neg := not
  conj_assoc := Bool.and_assoc
  yes_conj := Bool.true_and
  conj_yes := Bool.and_true
  disj_assoc := Bool.or_assoc
  no_disj := Bool.false_or
  disj_no := Bool.or_false
  neg_neg := Bool.not_not

/-- Negation goes before conjunction, and conjunction before disjunction. -/
example : ∀ a b c : Bool,
    Logic.twoValued.readText [("a = $1", a), ("(b)", b), ("c", c)] "NOT a = $1 AND (b) OR c" =
      some ((!a && b) || c) := by
  decide +kernel

namespace Formula

mutual

theorem value_twoValued (truth : α → Bool) :
    (f : Formula α) → f.value Logic.twoValued truth = f.holds truth
  | atom _ => rfl
  | conj parts => allValue_twoValued truth parts
  | disj parts => anyValue_twoValued truth parts
  | neg part => congrArg not (value_twoValued truth part)

theorem allValue_twoValued (truth : α → Bool) :
    (parts : List (Formula α)) → allValue Logic.twoValued truth parts = allHold truth parts
  | [] => rfl
  | part :: rest => by
    rw [allValue, value_twoValued truth part, allValue_twoValued truth rest]
    rfl

theorem anyValue_twoValued (truth : α → Bool) :
    (parts : List (Formula α)) → anyValue Logic.twoValued truth parts = anyHolds truth parts
  | [] => rfl
  | part :: rest => by
    rw [anyValue, value_twoValued truth part, anyValue_twoValued truth rest]
    rfl

end

/-- The text of a formula has its truth value. -/
theorem IsReadable.readText_holds {f : Formula Condition} (h : f.IsReadable)
    (truth : Condition → Bool) (frame : Frame) :
    Logic.twoValued.readText (frame.operands truth f.atoms) (frame.text f.pieces) =
      some (f.holds truth) := by
  rw [h.readText_eq, value_twoValued]

end Formula

end TagSearch
