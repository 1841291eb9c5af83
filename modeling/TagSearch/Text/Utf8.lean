/-!
# Characters as bytes

The UTF-8 form of characters, one by one and for whole runs: a run of characters has the
same bytes as a few sequences of byte ranges.

Main results:

- Theorem `cut?_bounds`: a run is cut between its first and its last character.
-/

namespace TagSearch.Text.Utf8

/-- The bytes of a code point. -/
def encode (n : Nat) : List Nat :=
  if n < 0x80 then [n]
  else if n < 0x800 then [0xC0 + n / 0x40, 0x80 + n % 0x40]
  else if n < 0x10000 then [0xE0 + n / 0x1000, 0x80 + n / 0x40 % 0x40, 0x80 + n % 0x40]
  else
    [0xF0 + n / 0x40000, 0x80 + n / 0x1000 % 0x40, 0x80 + n / 0x40 % 0x40, 0x80 + n % 0x40]

/-- For each byte in turn, the least and the greatest value it may have. -/
abbrev ByteRanges := List (Nat × Nat)

/-- Where to cut a run whose first and last code point lie in different blocks of a given
size: before the first whole block, or else after the last one. -/
def cutBlock? (block first last : Nat) : Option Nat :=
  if first / block = last / block then none
  else if first % block ≠ 0 then some (first / block * block + (block - 1))
  else if last % block ≠ block - 1 then some (last / block * block - 1)
  else none

/-- The last code point of the first part of a run that has to be cut: where the number of
bytes changes, or where a byte begins to run through all its values. -/
def cut? (first last : Nat) : Option Nat :=
  if first ≤ 0x7F ∧ 0x7F < last then some 0x7F
  else if first ≤ 0x7FF ∧ 0x7FF < last then some 0x7FF
  else if first ≤ 0xFFFF ∧ 0xFFFF < last then some 0xFFFF
  else if last ≤ 0x7F then none
  else
    match cutBlock? 0x40 first last with
    | some c => some c
    | none =>
      match cutBlock? 0x1000 first last with
      | some c => some c
      | none => cutBlock? 0x40000 first last

theorem cutBlock?_bounds {block first last c : Nat} (hblock : 0 < block) (h : first < last)
    (hc : cutBlock? block first last = some c) : first ≤ c ∧ c < last := by
  have hdiv : first / block ≤ last / block := Nat.div_le_div_right (Nat.le_of_lt h)
  have hfirst := Nat.div_add_mod first block
  have hlast := Nat.div_add_mod last block
  have hmod := Nat.mod_lt first hblock
  rw [cutBlock?] at hc
  split at hc
  · cases hc
  · rename_i hne
    have hstep : first / block + 1 ≤ last / block := by omega
    have hmul : block * (first / block) + block ≤ block * (last / block) := by
      have := Nat.mul_le_mul_left block hstep
      rwa [Nat.mul_add, Nat.mul_one] at this
    have hcomm := Nat.mul_comm (first / block) block
    have hcomm' := Nat.mul_comm (last / block) block
    split at hc
    · cases hc
      omega
    · split at hc
      · cases hc
        omega
      · cases hc

theorem cut?_bounds {first last c : Nat} (h : first < last) (hc : cut? first last = some c) :
    first ≤ c ∧ c < last := by
  rw [cut?] at hc
  split at hc
  · cases hc
    omega
  · split at hc
    · cases hc
      omega
    · split at hc
      · cases hc
        omega
      · split at hc
        · cases hc
        · split at hc
          · rename_i h64
            cases hc
            exact cutBlock?_bounds (by decide) h h64
          · split at hc
            · rename_i h4096
              cases hc
              exact cutBlock?_bounds (by decide) h h4096
            · exact cutBlock?_bounds (by decide) h hc

/-- The sequences of byte ranges that the characters of a run have together, in ascending
order. -/
def sequences (first last : Nat) : List ByteRanges :=
  if _h : first < last then
    match _hc : cut? first last with
    | some c => sequences first c ++ sequences (c + 1) last
    | none => [(encode first).zip (encode last)]
  else [(encode first).zip (encode last)]
termination_by last - first
decreasing_by
  all_goals
    have := cut?_bounds _h _hc
    omega

end TagSearch.Text.Utf8
