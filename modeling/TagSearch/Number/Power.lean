/-!
# Powers of two and of ten

The two powers on which binary and decimal notation rest.

Main results:

- Theorem `tenTo_add`: the power of a sum is the product of powers.
-/

namespace TagSearch

/-- Two multiplied with itself a number of times. -/
def twoTo (n : Nat) : Nat :=
  Nat.pow 2 n

/-- Ten multiplied with itself a number of times. -/
def tenTo (n : Nat) : Nat :=
  Nat.pow 10 n

theorem twoTo_pos (n : Nat) : 0 < twoTo n :=
  Nat.pow_pos (by decide)

theorem tenTo_pos (n : Nat) : 0 < tenTo n :=
  Nat.pow_pos (by decide)

theorem tenTo_add (m n : Nat) : tenTo (m + n) = tenTo m * tenTo n :=
  Nat.pow_add 10 m n

@[simp] theorem tenTo_zero : tenTo 0 = 1 := rfl

theorem tenTo_succ (n : Nat) : tenTo (n + 1) = tenTo n * 10 :=
  rfl

end TagSearch
