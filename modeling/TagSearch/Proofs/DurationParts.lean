import Mathlib.Data.List.TakeWhile
import TagSearch.Proofs.DecimalRange
import TagSearch.Time.Duration

/-!
# The parts of a duration

A duration is written as parts, each a number with a unit.  The reader adds the parts up one after
the other, and gives up when the running total leaves the range of decimals.

Main results:

- Definition `Duration.BeginsWith`: a part at the front of a text.
- Theorem `Duration.readParts_of_beginsWith`: what the reader does with a part.
- Theorem `Duration.readParts_eq_overflow_iff`: the texts whose running total gets too large.
-/

namespace TagSearch

/-- A character that is neither a digit nor a sign keeps a text from being a number. -/
theorem Text.readUnsigned_eq_none {bits : Nat} {cs : List Char} {c : Char} (hc : c ∈ cs)
    (hdigit : c.isDigit = false) (hplus : c ≠ '+') : readUnsigned bits cs = none := by
  have hdigits : ∀ ds, c ∈ ds → readDigits ds = none := by
    intro ds hmem
    have hall : ds.all Char.isDigit = false := List.all_eq_false.mpr ⟨c, hmem, by simp [hdigit]⟩
    simp [readDigits, hall]
  unfold readUnsigned
  split
  · next rest =>
    have hmem : c ∈ rest := by simpa [hplus] using hc
    simp [hdigits rest hmem]
  · simp [hdigits cs hc]

namespace Duration

/-! ## Runs of characters -/

section Runs

variable {p : Char → Bool} {run rest : List Char}

theorem takeWhile_run (hrun : ∀ c ∈ run, p c = true) (hrest : ∀ c ∈ rest.head?, p c = false) :
    (run ++ rest).takeWhile p = run := by
  rw [List.takeWhile_append_of_pos hrun]
  cases rest with
  | nil => simp
  | cons c rest => simp [hrest c rfl]

theorem dropWhile_run (hrun : ∀ c ∈ run, p c = true) (hrest : ∀ c ∈ rest.head?, p c = false) :
    (run ++ rest).dropWhile p = rest := by
  rw [List.dropWhile_append_of_pos hrun]
  cases rest with
  | nil => simp
  | cons c rest => simp [hrest c rfl]

end Runs

/-! ## Units -/

/-- Without a unit there is no part. -/
theorem unit_ne_nil {unit : List Char} {perUnit : Nat} (h : unitNanos? unit = some perUnit) :
    unit ≠ [] := by
  rintro rfl
  cases h

/-- No unit has a character of a number or a blank in it. -/
theorem unit_chars {unit : List Char} {perUnit : Nat} (h : unitNanos? unit = some perUnit) :
    ∀ c ∈ unit, isNumberChar c = false ∧ c ≠ '+' ∧ Text.isBlank c = false := by
  have hunits : (units.all fun u => u.1.all fun c =>
      !isNumberChar c && (c != '+' && !Text.isBlank c)) = true := by decide
  simp only [List.all_eq_true, Bool.and_eq_true, Bool.not_eq_true', bne_iff_ne] at hunits
  obtain ⟨u, hfind, _⟩ := Option.map_eq_some_iff.mp h
  have hname : u.1 = unit := by simpa using List.find?_some hfind
  rw [← hname]
  exact hunits u (List.mem_of_find?_eq_some hfind)

/-- A text with a unit in it is not a bare number. -/
theorem readUnsigned_of_unit {unit : List Char} {perUnit : Nat}
    (h : unitNanos? unit = some perUnit) (bits : Nat) (before behind : List Char) :
    Text.readUnsigned bits (before ++ (unit ++ behind)) = none := by
  obtain ⟨c, hc⟩ := List.exists_mem_of_ne_nil _ (unit_ne_nil h)
  obtain ⟨hnumber, hplus, _⟩ := unit_chars h c hc
  have hdigit : c.isDigit = false := (Bool.or_eq_false_iff.mp hnumber).1
  exact Text.readUnsigned_eq_none (by simp [hc]) hdigit hplus

/-! ## Parts -/

/-- A text begins with a part: a number and a unit, up to where the next number begins.  The part
comes to some nanoseconds. -/
inductive BeginsWith : (text : List Char) → (part : Decimal) → (rest : List Char) → Prop where
  | intro {number unit rest : List Char} {n part : Decimal} {perUnit : Nat}
      (hnumber : ∀ c ∈ number, isNumberChar c = true)
      (hrest : ∀ c ∈ rest.head?, isNumberChar c = true)
      (hread : Decimal.readPlain number = some n)
      (hknown : unitNanos? unit = some perUnit)
      (hpart : n.mulNat perUnit = some part) :
      BeginsWith (number ++ (unit ++ rest)) part rest

variable {cs rest : List Char} {sum part total : Decimal}

theorem BeginsWith.length_lt (h : BeginsWith cs part rest) : rest.length < cs.length := by
  obtain ⟨_, _, _, hknown, _⟩ := h
  have hunit := List.length_pos_of_ne_nil (unit_ne_nil hknown)
  simp only [List.length_append]
  omega

theorem BeginsWith.readUnsigned_eq_none (h : BeginsWith cs part rest) (bits : Nat) :
    Text.readUnsigned bits cs = none := by
  obtain ⟨_, _, _, hknown, _⟩ := h
  exact readUnsigned_of_unit hknown bits _ _

/-- The reader adds a part to the running total, and goes on behind it. -/
theorem readParts_of_beginsWith (h : BeginsWith cs part rest) (sum : Decimal) :
    readParts sum cs =
      match sum.addAbs part with
      | none => .error .overflow
      | some total => readParts total rest := by
  have hlength := h.length_lt
  obtain ⟨hnumber, hrest, hread, hknown, hpart⟩ := h
  rename_i number unit n perUnit
  have hnonempty := unit_ne_nil hknown
  have hunit : ∀ c ∈ unit, isNumberChar c = false := fun c hc => (unit_chars hknown c hc).1
  have hstop : ∀ c ∈ (unit ++ rest).head?, isNumberChar c = false := by
    intro c hc
    rw [List.head?_append_of_ne_nil _ hnonempty] at hc
    exact hunit c (List.mem_of_mem_head? hc)
  have hunit' : ∀ c ∈ unit, (!isNumberChar c) = true := fun c hc => by rw [hunit c hc]; rfl
  have hrest' : ∀ c ∈ rest.head?, (!isNumberChar c) = false := fun c hc => by rw [hrest c hc]; rfl
  have hcs : number ++ (unit ++ rest) ≠ [] := by simp [hnonempty]
  rw [readParts, dif_neg hcs]
  cases htotal : sum.addAbs part with
  | none =>
    simp only [takeWhile_run hnumber hstop, dropWhile_run hnumber hstop,
      takeWhile_run hunit' hrest', hread, hknown, hpart, htotal]
  | some total =>
    simp only [takeWhile_run hnumber hstop, dropWhile_run hnumber hstop,
      takeWhile_run hunit' hrest', dropWhile_run hunit' hrest', hread, hknown, hpart, htotal,
      if_pos hlength]

/-- A text that does not begin with a part is refused, whatever the running total is. -/
theorem beginsWith_or_malformed (hcs : cs ≠ []) :
    (∃ part rest, BeginsWith cs part rest) ∨ ∀ sum, readParts sum cs = .error .malformed := by
  let number := cs.takeWhile isNumberChar
  let behind := cs.dropWhile isNumberChar
  let unit := behind.takeWhile fun c => !isNumberChar c
  let rest := behind.dropWhile fun c => !isNumberChar c
  by_cases hpart : ∃ n perUnit part, Decimal.readPlain number = some n ∧
      unitNanos? unit = some perUnit ∧ n.mulNat perUnit = some part
  · left
    obtain ⟨n, perUnit, part, hread, hknown, hpart⟩ := hpart
    have hnumber : ∀ c ∈ number, isNumberChar c = true := fun c hc => List.mem_takeWhile_imp hc
    have hrest : ∀ c ∈ rest.head?, isNumberChar c = true := by
      intro c hc
      have hstop := List.head?_dropWhile_not (fun c => !isNumberChar c) behind
      rw [Option.mem_def] at hc
      rw [show List.dropWhile (fun c => !isNumberChar c) behind = rest from rfl, hc] at hstop
      simpa using hstop
    have hcut : number ++ (unit ++ rest) = cs := by
      rw [List.takeWhile_append_dropWhile, List.takeWhile_append_dropWhile]
    exact ⟨part, rest, hcut ▸ .intro hnumber hrest hread hknown hpart⟩
  · right
    intro sum
    rw [readParts, dif_neg hcs]
    simp only
    split
    · next n perUnit hread hknown =>
      split
      · rfl
      · next part hproduct => exact absurd ⟨n, perUnit, part, hread, hknown, hproduct⟩ hpart
    · rfl

/-- The running total gets too large at some part: its exact value reaches the limit of decimals
there. -/
inductive Overruns : (sum : Decimal) → (text : List Char) → Prop where
  | now {sum part : Decimal} {cs rest : List Char} (hpart : BeginsWith cs part rest)
      (hlimit : Decimal.limit ≤ sum.absValue + part.absValue) : Overruns sum cs
  | later {sum part total : Decimal} {cs rest : List Char} (hpart : BeginsWith cs part rest)
      (htotal : sum.addAbs part = some total) (hrest : Overruns total rest) : Overruns sum cs

/-- The reader overflows on exactly the texts whose running total gets too large. -/
theorem readParts_eq_overflow_iff (sum : Decimal) (cs : List Char) :
    readParts sum cs = .error .overflow ↔ Overruns sum cs := by
  constructor
  · intro h
    induction hlength : cs.length using Nat.strong_induction_on generalizing sum cs with
    | _ length ih =>
    by_cases hcs : cs = []
    · rw [hcs, readParts] at h
      cases h
    · rcases beginsWith_or_malformed hcs with ⟨part, rest, hpart⟩ | hmalformed
      · rw [readParts_of_beginsWith hpart] at h
        cases htotal : sum.addAbs part with
        | none => exact .now hpart ((Decimal.addAbs_eq_none_iff sum part).mp htotal)
        | some total =>
          rw [htotal] at h
          have hshorter : rest.length < length := hlength ▸ hpart.length_lt
          exact .later hpart htotal (ih rest.length hshorter total rest h rfl)
      · rw [hmalformed] at h
        cases h
  · intro h
    induction h with
    | now hpart hlimit =>
      rw [readParts_of_beginsWith hpart, (Decimal.addAbs_eq_none_iff _ _).mpr hlimit]
    | later hpart htotal _ ih =>
      rw [readParts_of_beginsWith hpart, htotal]
      exact ih

end Duration

end TagSearch
