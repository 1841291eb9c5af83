import TagSearch.Json.Reader
import TagSearch.Json.Writer

/-!
# JSON text, read back

The compact text of a value in which no number stands is read as that value, unless more arrays and
objects stand in each other than the reader goes down into: such a text is refused.

A value is read in no more steps than its text has characters, so that the bound of the reader on
its steps is never met.  What follows the text of a value is left as it is.

Main results:

- Theorem `readString_quoted`: a quoted string is read back, whatever its characters are.
- Definition `nesting`: how many arrays and objects of a value stand in each other.
- Theorem `readsBack`: a value is read back exactly if its nesting is within the depth left.
- Theorem `parse_compact`: what a whole text is read as.
-/

namespace TagSearch.Json

/-! ## Strings -/

theorem hexValue?_digitChar : ∀ d < 16, hexValue? (Nat.digitChar d) = some d := by decide

/-- The number of a control character is read back from its four digits. -/
theorem hex4?_digitChar {n : Nat} (h : n < 0x20) :
    hex4? '0' '0' (Nat.digitChar (n / 16)) (Nat.digitChar (n % 16)) = some n := by
  have hzero : hexValue? '0' = some 0 := rfl
  have hhigh := hexValue?_digitChar (n / 16) (by omega)
  have hlow := hexValue?_digitChar (n % 16) (by omega)
  simp only [hex4?, hzero, hhigh, hlow, Option.bind_eq_bind, Option.bind_some, Option.some.injEq]
  omega

theorem eq_ofNat_of_toNat {c : Char} {n : Nat} (h : c.toNat = n) : c = Char.ofNat n := by
  rw [← h, Char.ofNat_toNat]

/-- An escaped character is read as the character, whatever follows. -/
theorem readString_escapeChar (c : Char) (cs : List Char) :
    readString (escapeChar c ++ cs) =
      (readString cs).map fun (text, rest) => (c :: text, rest) := by
  unfold escapeChar
  -- the short escapes
  split
  · next h => subst h; rfl
  split
  · next h => subst h; rfl
  split
  · next h => subst h; rfl
  split
  · next h => subst h; rfl
  split
  · next h => subst h; rfl
  split
  · next h => rw [eq_ofNat_of_toNat h]; rfl
  split
  · next h => rw [eq_ofNat_of_toNat h]; rfl
  split
  · next h =>
    have hlow : isLowHalf c.toNat = false := by
      simp only [isLowHalf, Bool.and_eq_false_iff, decide_eq_false_iff_not]
      omega
    have hhigh : isHighHalf c.toNat = false := by
      simp only [isHighHalf, Bool.and_eq_false_iff, decide_eq_false_iff_not]
      omega
    simp only [List.cons_append, List.nil_append, readString, hex4?_digitChar h, hlow, hhigh,
      Bool.false_eq_true, if_false, Char.ofNat_toNat]
  · next hquote hbackslash _ _ _ _ _ hcontrol =>
    rw [List.singleton_append, readString]
    · rw [if_neg (by simp [hbackslash, hcontrol])]
    · simpa using hquote
    all_goals simp [hbackslash]

/-- The characters between two quotes are read back, whatever follows. -/
theorem readString_quoted (text rest : List Char) :
    readString (text.flatMap escapeChar ++ '"' :: rest) = some (text, rest) := by
  induction text with
  | nil => rfl
  | cons c text ih =>
    rw [List.flatMap_cons, List.append_assoc, readString_escapeChar, ih]
    rfl

theorem quote_append (s : String) (rest : List Char) :
    quote s ++ rest = '"' :: (s.toList.flatMap escapeChar ++ '"' :: rest) := by
  simp [quote]

/-! ## Values -/

mutual

/-- No number stands in a value. -/
def isNumberFree : Json → Bool
  | number _ => false
  | array items => allNumberFree items
  | object members => membersNumberFree members
  | _ => true

/-- No number stands in the items of a list. -/
def allNumberFree : List Json → Bool
  | [] => true
  | v :: rest => v.isNumberFree && allNumberFree rest

/-- No number stands in the members of a list. -/
def membersNumberFree : List (String × Json) → Bool
  | [] => true
  | (_, v) :: rest => v.isNumberFree && membersNumberFree rest

end

mutual

/-- The greatest number of arrays and objects of a value that stand in each other. -/
def nesting : Json → Nat
  | array items => nestingOfItems items + 1
  | object members => nestingOfMembers members + 1
  | _ => 0

/-- The greatest nesting of the items of a list. -/
def nestingOfItems : List Json → Nat
  | [] => 0
  | v :: rest => max v.nesting (nestingOfItems rest)

/-- The greatest nesting of the members of a list. -/
def nestingOfMembers : List (String × Json) → Nat
  | [] => 0
  | (_, v) :: rest => max v.nesting (nestingOfMembers rest)

end

theorem skipSpace_cons {c : Char} (h : isSpace c = false) (cs : List Char) :
    skipSpace (c :: cs) = c :: cs := by
  rw [skipSpace, List.dropWhile_cons_of_neg (by simp [h])]

/-- The text of a value starts with a character that is no blank and closes no array. -/
theorem exists_compactChars {j : Json} (h : j.isNumberFree = true) :
    ∃ c cs, compactChars j = c :: cs ∧ isSpace c = false ∧ c ≠ ']' := by
  cases j with
  | null => exact ⟨_, _, rfl, by decide, by decide⟩
  | bool b =>
    cases b with
    | true => exact ⟨_, _, rfl, by decide, by decide⟩
    | false => exact ⟨_, _, rfl, by decide, by decide⟩
  | number n => cases h
  | string s => exact ⟨_, _, rfl, by decide, by decide⟩
  | array items => exact ⟨_, _, rfl, by decide, by decide⟩
  | object members => exact ⟨_, _, rfl, by decide, by decide⟩

theorem exists_compactItems {v : Json} {ws : List Json} (h : allNumberFree (v :: ws) = true) :
    ∃ c cs, compactItems (v :: ws) = c :: cs ∧ isSpace c = false ∧ c ≠ ']' := by
  rw [allNumberFree, Bool.and_eq_true] at h
  obtain ⟨c, cs, hchars, hc⟩ := exists_compactChars h.1
  cases ws with
  | nil => exact ⟨c, cs, hchars, hc⟩
  | cons w ws =>
    refine ⟨c, cs ++ ',' :: compactItems (w :: ws), ?_, hc⟩
    rw [compactItems, hchars, List.cons_append]

theorem exists_compactMembers (name : String) (v : Json) (ms : List (String × Json)) :
    ∃ cs, compactMembers ((name, v) :: ms) = quote name ++ cs := by
  cases ms with
  | nil => exact ⟨_, rfl⟩
  | cons m ms => exact ⟨_, by rw [compactMembers, List.append_assoc]⟩

/-! ## Reading back -/

/-- Where a depth is left, the text of a value is read as the value if its nesting is within the
depth, and not at all otherwise.  It takes no more steps than it has characters, and leaves what
follows it. -/
def ReadsBack (depth : Nat) (j : Json) : Prop :=
  ∀ fuel, (compactChars j).length ≤ fuel → ∀ rest,
    readValue depth fuel (compactChars j ++ rest) =
      if j.nesting ≤ depth then some (j, rest) else none

/-- So are the items of an array up to and with its closing bracket. -/
def ItemsReadBack (depth : Nat) (items : List Json) : Prop :=
  ∀ fuel, (compactItems items).length < fuel → ∀ rest,
    readItems depth fuel (compactItems items ++ ']' :: rest) =
      if nestingOfItems items ≤ depth then some (items, rest) else none

/-- So are the members of an object up to and with its closing brace. -/
def MembersReadBack (depth : Nat) (members : List (String × Json)) : Prop :=
  ∀ fuel, (compactMembers members).length < fuel → ∀ rest,
    readMembers depth fuel (compactMembers members ++ closeBrace :: rest) =
      if nestingOfMembers members ≤ depth then some (members, rest) else none

section Steps

variable {depth : Nat} {j v w : Json} {ws : List Json} {name other : String}
  {ms : List (String × Json)}

/-- No value has an empty text, so that there is a step at least to read it in. -/
theorem readsBack_of_succ (hne : compactChars j ≠ [])
    (h : ∀ fuel, (compactChars j).length ≤ fuel + 1 → ∀ rest,
      readValue depth (fuel + 1) (compactChars j ++ rest) =
        if j.nesting ≤ depth then some (j, rest) else none) : ReadsBack depth j := by
  intro fuel hfuel rest
  cases fuel with
  | zero => exact absurd (List.eq_nil_of_length_eq_zero (Nat.le_zero.mp hfuel)) hne
  | succ fuel => exact h fuel hfuel rest

theorem readsBack_string (depth : Nat) (s : String) : ReadsBack depth (string s) := by
  refine readsBack_of_succ (by simp [compactChars, quote]) fun fuel _ rest => ?_
  rw [compactChars, quote_append, readValue, skipSpace_cons (by decide)]
  simp [readString_quoted, nesting]

theorem readsBack_emptyArray (depth : Nat) : ReadsBack depth (array []) := by
  refine readsBack_of_succ (by simp [compactChars]) fun fuel _ rest => ?_
  cases depth with
  | zero => rfl
  | succ depth =>
    rw [nesting, nestingOfItems, if_pos (by omega)]
    rfl

theorem readsBack_emptyObject (depth : Nat) : ReadsBack depth (object []) := by
  refine readsBack_of_succ (by simp [compactChars]) fun fuel _ rest => ?_
  cases depth with
  | zero => rfl
  | succ depth =>
    rw [nesting, nestingOfMembers, if_pos (by omega)]
    rfl

theorem readsBack_array (hfree : allNumberFree (v :: ws) = true)
    (h : ∀ d, depth = d + 1 → ItemsReadBack d (v :: ws)) :
    ReadsBack depth (array (v :: ws)) := by
  refine readsBack_of_succ (by simp [compactChars]) fun fuel hfuel rest => ?_
  obtain ⟨c, cs, hchars, hspace, hc⟩ := exists_compactItems hfree
  cases depth with
  | zero => rfl
  | succ depth =>
    simp only [compactChars, List.length_append, List.length_cons, List.length_nil] at hfuel
    have hitems := h depth rfl fuel (by omega) rest
    have hopen : readValue (depth + 1) (fuel + 1) ('[' :: c :: (cs ++ ']' :: rest)) =
        (readItems depth fuel (c :: (cs ++ ']' :: rest))).map fun r => (array r.1, r.2) := by
      rw [readValue, skipSpace_cons (by decide)]
      simp [skipSpace_cons hspace, hc]
    rw [hchars] at hitems
    rw [compactChars, List.cons_append, List.cons_append, List.append_assoc, List.singleton_append,
      hchars, List.cons_append, hopen, ← List.cons_append, hitems, nesting]
    simp only [Nat.add_le_add_iff_right]
    split
    · rfl
    · rfl

theorem readsBack_object (h : ∀ d, depth = d + 1 → MembersReadBack d ((name, v) :: ms)) :
    ReadsBack depth (object ((name, v) :: ms)) := by
  refine readsBack_of_succ (by simp [compactChars]) fun fuel hfuel rest => ?_
  obtain ⟨cs, hchars⟩ := exists_compactMembers name v ms
  cases depth with
  | zero => rfl
  | succ depth =>
    simp only [compactChars, List.length_append, List.length_cons, List.length_nil] at hfuel
    have hmembers := h depth rfl fuel (by omega) rest
    have hopen : readValue (depth + 1) (fuel + 1)
          (openBrace :: (quote name ++ (cs ++ closeBrace :: rest))) =
        (readMembers depth fuel (quote name ++ (cs ++ closeBrace :: rest))).map
          fun r => (object r.1, r.2) := by
      rw [openBrace, readValue, skipSpace_cons (by decide), quote_append]
      simp [skipSpace_cons (show isSpace '"' = false by decide)]
    rw [hchars, List.append_assoc] at hmembers
    rw [compactChars, List.cons_append, List.cons_append, List.append_assoc, List.singleton_append,
      hchars, List.append_assoc, hopen, hmembers, nesting]
    simp only [Nat.add_le_add_iff_right]
    split
    · rfl
    · rfl

theorem itemsReadBack_singleton (hv : ReadsBack depth v) : ItemsReadBack depth [v] := by
  intro fuel hfuel rest
  rw [compactItems] at hfuel ⊢
  obtain ⟨fuel, rfl⟩ : ∃ n, fuel = n + 1 := ⟨fuel - 1, by omega⟩
  rw [readItems, hv fuel (by omega)]
  by_cases hdeep : v.nesting ≤ depth
  · simp [hdeep, skipSpace_cons, isSpace, nestingOfItems]
  · simp [hdeep, nestingOfItems]

theorem itemsReadBack_cons (hv : ReadsBack depth v) (hws : ItemsReadBack depth (w :: ws)) :
    ItemsReadBack depth (v :: w :: ws) := by
  intro fuel hfuel rest
  rw [compactItems, List.length_append, List.length_cons] at hfuel
  obtain ⟨fuel, rfl⟩ : ∃ n, fuel = n + 1 := ⟨fuel - 1, by omega⟩
  rw [compactItems, List.append_assoc, List.cons_append, readItems, hv fuel (by omega)]
  simp only [nestingOfItems, Nat.max_le]
  by_cases hdeep : v.nesting ≤ depth
  · rw [if_pos hdeep]
    simp only [skipSpace_cons (show isSpace ',' = false by decide), hws fuel (by omega) rest,
      nestingOfItems, Nat.max_le, hdeep, true_and]
    split
    · rfl
    · rfl
  · simp [hdeep]

theorem membersReadBack_singleton (hv : ReadsBack depth v) :
    MembersReadBack depth [(name, v)] := by
  intro fuel hfuel rest
  rw [compactMembers, List.length_append, List.length_cons] at hfuel
  obtain ⟨fuel, rfl⟩ : ∃ n, fuel = n + 1 := ⟨fuel - 1, by omega⟩
  rw [compactMembers, List.append_assoc, quote_append, readMembers, skipSpace_cons (by decide)]
  simp only [readString_quoted, List.cons_append,
    skipSpace_cons (show isSpace ':' = false by decide), hv fuel (by omega)]
  by_cases hdeep : v.nesting ≤ depth
  · simp [hdeep, skipSpace_cons, isSpace, nestingOfMembers, closeBrace]
  · simp [hdeep, nestingOfMembers]

theorem membersReadBack_cons (hv : ReadsBack depth v)
    (hms : MembersReadBack depth ((other, w) :: ms)) :
    MembersReadBack depth ((name, v) :: (other, w) :: ms) := by
  intro fuel hfuel rest
  rw [compactMembers, List.length_append, List.length_append, List.length_cons,
    List.length_cons] at hfuel
  obtain ⟨fuel, rfl⟩ : ∃ n, fuel = n + 1 := ⟨fuel - 1, by omega⟩
  rw [compactMembers, List.append_assoc, List.append_assoc, quote_append, readMembers,
    skipSpace_cons (by decide)]
  simp only [readString_quoted, List.cons_append,
    skipSpace_cons (show isSpace ':' = false by decide), hv fuel (by omega), nestingOfMembers,
    Nat.max_le]
  by_cases hdeep : v.nesting ≤ depth
  · rw [if_pos hdeep]
    simp only [skipSpace_cons (show isSpace ',' = false by decide), hms fuel (by omega) rest,
      nestingOfMembers, Nat.max_le, hdeep, true_and, String.ofList_toList]
    split
    · rfl
    · rfl
  · simp [hdeep]

end Steps

mutual

/-- A value without numbers is read back. -/
theorem readsBack : (j : Json) → j.isNumberFree = true → (depth : Nat) → ReadsBack depth j
  | .null, _, _ => readsBack_of_succ (by simp [compactChars]) fun _ _ _ => rfl
  | .bool true, _, _ => readsBack_of_succ (by simp [compactChars]) fun _ _ _ => rfl
  | .bool false, _, _ => readsBack_of_succ (by simp [compactChars]) fun _ _ _ => rfl
  | .string s, _, depth => readsBack_string depth s
  | .array [], _, depth => readsBack_emptyArray depth
  | .array (v :: ws), hfree, _ => readsBack_array hfree fun d _ => itemsReadBack v ws hfree d
  | .object [], _, depth => readsBack_emptyObject depth
  | .object ((name, v) :: ms), hfree, _ =>
    readsBack_object fun d _ => membersReadBack name v ms hfree d

theorem itemsReadBack : (v : Json) → (ws : List Json) → allNumberFree (v :: ws) = true →
    (depth : Nat) → ItemsReadBack depth (v :: ws)
  | v, [], hfree, depth => by
    rw [allNumberFree, Bool.and_eq_true] at hfree
    exact itemsReadBack_singleton (readsBack v hfree.1 depth)
  | v, w :: ws, hfree, depth => by
    rw [allNumberFree, Bool.and_eq_true] at hfree
    exact itemsReadBack_cons (readsBack v hfree.1 depth) (itemsReadBack w ws hfree.2 depth)

theorem membersReadBack : (name : String) → (v : Json) → (ms : List (String × Json)) →
    membersNumberFree ((name, v) :: ms) = true → (depth : Nat) →
    MembersReadBack depth ((name, v) :: ms)
  | name, v, [], hfree, depth => by
    rw [membersNumberFree, Bool.and_eq_true] at hfree
    exact membersReadBack_singleton (readsBack v hfree.1 depth)
  | name, v, (other, w) :: ms, hfree, depth => by
    rw [membersNumberFree, Bool.and_eq_true] at hfree
    exact membersReadBack_cons (readsBack v hfree.1 depth)
      (membersReadBack other w ms hfree.2 depth)

end

/-! ## Whole texts -/

/-- The text of a value is read as that value, unless it is nested too deeply. -/
theorem readText_compact {j : Json} (h : j.isNumberFree = true) :
    readText (compact j) = if j.nesting ≤ maxDepth then some j else none := by
  have hread := readsBack j h maxDepth (2 * (compactChars j).length + 2) (by omega) []
  rw [List.append_nil] at hread
  rw [readText, compact, String.toList_ofList]
  simp only [hread]
  split
  · next hpair =>
    split at hpair
    · next hdeep =>
      cases hpair
      rw [if_pos hdeep]
      rfl
    · cases hpair
  · next hpair =>
    split at hpair
    · cases hpair
    · next hdeep => rw [if_neg hdeep]

/-- Read as a document, it has the members of its objects in ascending order. -/
theorem parse_compact {j : Json} (h : j.isNumberFree = true) :
    parse (compact j) = if j.nesting ≤ maxDepth then some j.normalize else none := by
  rw [parse, readText_compact h]
  split
  · rfl
  · rfl

end TagSearch.Json
