import TagSearch.Matching.Glob

/-!
# Reading the pattern of a value with wildcards

The pattern of a value is read one character of the value at a time.  Whatever the value is, what
is read is the expression that the value stands for: what has a meaning of its own in a pattern is
escaped there, and no character of the value can change how its neighbours are read.

Main results:

- Theorem `Glob.readAll_charText`: one character of a value is read as its own expression.
- Theorem `Glob.readAll_chars`: so is a run of them.
- Theorem `Glob.compile_eq`: a value compiles to its own expression, as far as that takes no more
  room than it may.
-/

namespace TagSearch

namespace Regex

/-- A pattern is read one element at a time, where blanks count. -/
theorem readAll_of_step {st st' : State} {c : Char} {cs rest : List Char}
    (hflags : st.flags = {}) (hstep : step st (c :: cs) = some (st', rest)) (fuel : Nat) :
    readAll st (fuel + 1) (c :: cs) = readAll st' fuel rest := by
  have hskip : skip st.flags (c :: cs) = c :: cs := by
    rw [hflags]
    rfl
  rw [readAll, hskip, if_neg (List.cons_ne_nil c cs), hstep]

/-- A backslash takes its meaning from a character that has one. -/
theorem readEscape_of_isMeta {c : Char} (h : isMeta c = true) (f : Flags) (cs : List Char) :
    readEscape f (c :: cs) = some (.literal c, cs) := by
  simp only [isMeta, List.contains_iff_mem, List.mem_cons, List.not_mem_nil, or_false] at h
  rcases h with rfl | rfl | rfl | rfl | rfl | rfl | rfl | rfl | rfl | rfl | rfl | rfl | rfl | rfl |
    rfl | rfl | rfl | rfl <;> rfl

/-- A character without a meaning of its own is read as itself. -/
theorem step_of_not_isMeta {st : State} {c : Char} (h : isMeta c = false) (cs : List Char) :
    step st (c :: cs) = (st.add? (.literal c)).map fun st => (st, cs) := by
  simp only [isMeta, List.contains_eq_mem, List.mem_cons, List.not_mem_nil, or_false,
    decide_eq_false_iff_not, not_or] at h
  rw [step.eq_def]
  split <;> simp_all

end Regex

namespace Glob

open Regex

/-- What one character of a value is read as. -/
def item (c : Char) : Item :=
  .expression ⟨charRegex c, if c = '*' then 1 else 0⟩

/-- A character of a value is written as a dot that is repeated, as a dot, behind a backslash, or as
it is. -/
theorem charText_cases (c : Char) :
    (charText c = ['.', '*'] ∧ item c = .expression ⟨.loop 0 none (.set .notLineFeed), 1⟩) ∨
      (charText c = ['.'] ∧ item c = .expression ⟨.set .notLineFeed, 0⟩) ∨
      (∃ d, isMeta d = true ∧ charText c = ['\\', d] ∧ item c = .expression ⟨.char d, 0⟩) ∨
      (isMeta c = false ∧ charText c = [c] ∧ item c = .expression ⟨.char c, 0⟩) := by
  by_cases hstar : c = '*'
  · subst hstar
    exact .inl ⟨rfl, rfl⟩
  by_cases hquestion : c = '?'
  · subst hquestion
    exact .inr (.inl ⟨rfl, rfl⟩)
  by_cases hquotedStar : c = quotedStar
  · subst hquotedStar
    exact .inr (.inr (.inl ⟨'*', rfl, rfl, rfl⟩))
  by_cases hquotedQuestion : c = quotedQuestion
  · subst hquotedQuestion
    exact .inr (.inr (.inl ⟨'?', rfl, rfl, rfl⟩))
  have htext : charText c = if isMeta c then ['\\', c] else [c] := by
    rw [charText, if_neg hstar, if_neg hquestion, if_neg hquotedStar, if_neg hquotedQuestion]
  have hitem : item c = .expression ⟨.char c, 0⟩ := by
    rw [item, charRegex, if_neg hstar, if_neg hquestion, if_neg hquotedStar,
      if_neg hquotedQuestion, if_neg hstar]
  cases hmeta : isMeta c with
  | true => exact .inr (.inr (.inl ⟨c, hmeta, by rw [htext, if_pos hmeta], hitem⟩))
  | false => exact .inr (.inr (.inr ⟨rfl, by rw [htext, hmeta]; rfl, hitem⟩))

/-- No character is written with a question mark in front. -/
theorem head_charText (c : Char) (rest : List Char) :
    ∀ d ∈ (charText c ++ rest).head?, d ≠ '?' := by
  intro d hd
  rcases charText_cases c with ⟨htext, _⟩ | ⟨htext, _⟩ | ⟨e, _, htext, _⟩ | ⟨hmeta, htext, _⟩
  · rw [htext] at hd
    cases hd
    decide
  · rw [htext] at hd
    cases hd
    decide
  · rw [htext] at hd
    cases hd
    decide
  · rw [htext] at hd
    cases hd
    rintro rfl
    cases hmeta

/-- A state of reading in which only the flags of the start are in force. -/
def reading (items : List Item) : State :=
  ⟨{}, ⟨{}, false, [], items⟩, [], []⟩

theorem skipLazy_of_head {cs : List Char} (h : ∀ d ∈ cs.head?, d ≠ '?') : skipLazy cs = cs := by
  unfold skipLazy
  split
  · exact absurd rfl (h '?' rfl)
  · rfl

/-- One character of a value is read as its own expression. -/
theorem readAll_charText (c : Char) (items : List Item) {rest : List Char}
    (hrest : ∀ d ∈ rest.head?, d ≠ '?') :
    ∃ steps ≤ (charText c).length, ∀ fuel,
      readAll (reading items) (fuel + steps) (charText c ++ rest) =
        readAll (reading (item c :: items)) fuel rest := by
  rcases charText_cases c with
    ⟨htext, hitem⟩ | ⟨htext, hitem⟩ | ⟨d, hmeta, htext, hitem⟩ | ⟨hmeta, htext, hitem⟩
  · have hdot : step (reading items) ('.' :: '*' :: rest) =
        some (reading (.expression ⟨.set .notLineFeed, 0⟩ :: items), '*' :: rest) := rfl
    have hstar : step (reading (.expression ⟨.set .notLineFeed, 0⟩ :: items)) ('*' :: rest) =
        some (reading (item c :: items), rest) := by
      rw [hitem]
      change some (_, skipLazy rest) = _
      rw [skipLazy_of_head hrest]
      rfl
    rw [htext]
    exact ⟨2, Nat.le_refl 2, fun fuel =>
      (readAll_of_step rfl hdot (fuel + 1)).trans (readAll_of_step rfl hstar fuel)⟩
  · have hdot : step (reading items) ('.' :: rest) = some (reading (item c :: items), rest) := by
      rw [hitem]
      rfl
    rw [htext]
    exact ⟨1, Nat.le_refl 1, readAll_of_step rfl hdot⟩
  · -- the backslash and the character behind it are one element
    have hescape : step (reading items) ('\\' :: d :: rest) =
        some (reading (item c :: items), rest) := by
      rw [hitem, step, readEscape_of_isMeta hmeta]
      rfl
    rw [htext]
    exact ⟨1, Nat.le_succ 1, readAll_of_step rfl hescape⟩
  · have hplain : step (reading items) (c :: rest) = some (reading (item c :: items), rest) := by
      rw [hitem, step_of_not_isMeta hmeta]
      rfl
    rw [htext]
    exact ⟨1, Nat.le_refl 1, readAll_of_step rfl hplain⟩

/-- A run of characters is read one by one. -/
theorem readAll_chars (cs : List Char) (items : List Item) {rest : List Char}
    (hrest : ∀ d ∈ rest.head?, d ≠ '?') :
    ∃ steps ≤ (cs.flatMap charText).length, ∀ fuel,
      readAll (reading items) (fuel + steps) (cs.flatMap charText ++ rest) =
        readAll (reading ((cs.map item).reverse ++ items)) fuel rest := by
  induction cs generalizing items with
  | nil => exact ⟨0, Nat.le_refl 0, fun fuel => rfl⟩
  | cons c cs ih =>
    have hhead : ∀ d ∈ (cs.flatMap charText ++ rest).head?, d ≠ '?' := by
      cases cs with
      | nil => exact hrest
      | cons c' cs =>
        rw [List.flatMap_cons, List.append_assoc]
        exact head_charText c' _
    obtain ⟨first, hfirst, hreadFirst⟩ := readAll_charText c items hhead
    obtain ⟨steps, hsteps, hread⟩ := ih (item c :: items)
    refine ⟨steps + first, ?_, fun fuel => ?_⟩
    · rw [List.flatMap_cons, List.length_append]
      omega
    · rw [List.flatMap_cons, List.append_assoc, ← Nat.add_assoc, hreadFirst, hread, List.map_cons,
        List.reverse_cons, List.append_assoc, List.singleton_append]

theorem depth_item (c : Char) : (item c).depth ≤ 1 := by
  rw [item, Item.depth]
  split
  · exact Nat.le_refl 1
  · exact Nat.zero_le 1

/-- The items that are read from the pattern of a value, last first. -/
def items (value : String) : List Item :=
  .expression ⟨.assert .stop, 0⟩ ::
    ((value.toList.map item).reverse ++ [.expression ⟨.assert .start, 0⟩])

theorem current_items (value : String) :
    (reading (items value)).group.current.value = regex value := by
  have hregexes : (value.toList.map item).filterMap Item.regex? = value.toList.map charRegex := by
    have hitem : Item.regex? ∘ item = some ∘ charRegex := rfl
    rw [List.filterMap_map, hitem, List.filterMap_eq_map]
  have hitems : (items value).reverse.filterMap Item.regex? =
      .assert .start :: (value.toList.map charRegex ++ [.assert .stop]) := by
    rw [← hregexes]
    simp [items, Item.regex?]
  change seqAll ((items value).reverse.filterMap Item.regex?) = _
  rw [hitems, regex]
  cases hparts : value.toList.map charRegex with
  | nil => rfl
  | cons r rest => rfl

theorem depth_items_le (value : String) :
    (reading (items value)).group.current.depth ≤ Nested.maxDepth := by
  have hitems : ∀ d ∈ (items value).map Item.depth, d ≤ 1 := by
    intro d hd
    obtain ⟨i, hi, rfl⟩ := List.mem_map.mp hd
    simp only [items, List.mem_cons, List.mem_append, List.mem_reverse, List.mem_map,
      List.not_mem_nil, or_false] at hi
    rcases hi with rfl | ⟨c, _, rfl⟩ | rfl
    · exact Nat.zero_le 1
    · exact depth_item c
    · exact Nat.zero_le 1
  have hdepth := Nested.depthOf_le hitems
  exact Nat.le_trans hdepth (by decide)

/-- What is read from the pattern of a value. -/
theorem readAll_text (value : String) :
    readAll ⟨{}, .start {} false, [], []⟩ ((text value).toList.length + 1) (text value).toList =
      some (reading (items value)).group.close := by
  have hend : ∀ d ∈ ['$'].head?, d ≠ '?' := by simp
  obtain ⟨steps, hsteps, hread⟩ :=
    readAll_chars value.toList [.expression ⟨.assert .start, 0⟩] hend
  obtain ⟨spare, hspare⟩ := Nat.exists_eq_add_of_le hsteps
  have htext : (text value).toList = '^' :: (value.toList.flatMap charText ++ ['$']) := by
    rw [text, String.toList_ofList]
    rfl
  have hlength : (text value).toList.length + 1 = spare + 2 + steps + 1 := by
    rw [htext, List.length_cons, List.length_append, hspare, List.length_singleton]
    omega
  have hstart : step ⟨{}, .start {} false, [], []⟩
      ('^' :: (value.toList.flatMap charText ++ ['$'])) =
      some (reading [.expression ⟨.assert .start, 0⟩], value.toList.flatMap charText ++ ['$']) :=
    rfl
  have hstop : step (reading ((value.toList.map item).reverse ++
      [.expression ⟨.assert .start, 0⟩])) ['$'] = some (reading (items value), []) := rfl
  rw [hlength, htext, readAll_of_step rfl hstart, hread, readAll_of_step rfl hstop]
  rfl

/-- The pattern of a value is read as the expression that the value stands for, unless this takes
too much room. -/
theorem parse_glob (value : String) :
    Regex.parse (text value) = if (regex value).fits then some (regex value) else none := by
  have hvalue : (reading (items value)).group.close.value = regex value := current_items value
  have hdepth : (reading (items value)).group.close.depth ≤ Nested.maxDepth :=
    depth_items_le value
  simp only [Regex.parse, readAll_text, hvalue, hdepth, true_and]

/-- A value compiles to its own expression, as far as that takes no more room than it may. -/
theorem compile_eq (value : String) :
    compile value = if (regex value).fits then .ok (regex value)
      else .error (.invalidRequest (.invalidPattern (text value))) := by
  rw [compile, compilePattern, parse_glob]
  cases (regex value).fits with
  | true => rfl
  | false => rfl

end Glob

end TagSearch
