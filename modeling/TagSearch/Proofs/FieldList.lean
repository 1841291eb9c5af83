import TagSearch.Compiler.Basic
import TagSearch.Proofs.NameCharacter
import TagSearch.Proofs.Pointing

/-!
# Lists of names

A list of names is cut by the scanner of searches, to which some characters and words have a
meaning.  The names of fields hold none of these characters, and no parenthesis can follow a word,
so the names come through as they are written, wherever commas and blanks stand between them.

Main results:

- Definition `ListsNames`: the texts that list names.
- Theorem `scanOne_entry`: a name is scanned as a whole.
- Theorem `Query.names_of_listsNames`: the names that are listed are those that are read.
-/

namespace TagSearch

open Text (isWordChar)

/-! ## Lists -/

/-- Commas and blanks separate the names of a list. -/
def isSeparator (c : Char) : Bool :=
  c == ',' || Text.isBlank c

theorem isSeparator_iff {c : Char} : isSeparator c = true ↔ c = ',' ∨ Text.isBlank c = true := by
  simp [isSeparator]

/-- The text is at its end, or goes on with a separator. -/
def AtSeparator (rest : List Char) : Prop :=
  ∀ c ∈ rest.head?, isSeparator c = true

/-- A word is made of letters, digits and low lines. -/
def IsWord (s : String) : Prop :=
  s ≠ "" ∧ ∀ c ∈ s.toList, isWordChar c = true

theorem isWord_of_latin {s : String} (hne : s ≠ "")
    (h : s.toList.all (fun c =>
      (Text.latinLetters ++ Text.arabicDigits).contains c.toNat || c == '_') = true) :
    IsWord s := by
  refine ⟨hne, fun c hc => Text.isWordChar_of_latin ?_⟩
  simpa using List.all_eq_true.mp h c hc

/-- An entry of a list is a word, which a minus sign may precede. -/
def IsEntry (s : String) : Prop :=
  ∃ word, IsWord word ∧ (s = word ∨ s = "-" ++ word)

/-- The text lists the names, with commas and blanks around them and, between two of them, at least
one comma or blank. -/
inductive ListsNames : List String → List Char → Prop where
  | nil {gap : List Char} (hgap : ∀ c ∈ gap, isSeparator c = true) : ListsNames [] gap
  | cons {gap rest : List Char} {name : String} {names : List String}
      (hgap : ∀ c ∈ gap, isSeparator c = true) (hname : IsEntry name)
      (hrest : AtSeparator rest) (hnames : ListsNames names rest) :
      ListsNames (name :: names) (gap ++ name.toList ++ rest)

/-! ## What the scanner takes -/

/-- The characters to which the scanner gives a meaning inside a tag. -/
def tagMarks : List Char :=
  [':', '"', '/', '*', '?', '[']

/-- A character that has no meaning to the scanner. -/
structure IsInert (c : Char) : Prop where
  not_delimiter : isDelimiter c = false
  not_mark : c ∉ tagMarks

theorem isInert_of_isWordChar {c : Char} (h : isWordChar c = true) : IsInert c := by
  have hne : ∀ d : Char, Text.marks.contains d.toNat = true → c ≠ d :=
    fun d hd => Text.ne_of_isWordChar h hd
  have hblank : Text.isBlank c = false := by
    rw [← Bool.not_eq_true]
    intro hblank
    refine hne c ?_ rfl
    simp only [Text.isBlank, Bool.or_eq_true, Bool.and_eq_true, decide_eq_true_eq,
      beq_iff_eq] at hblank
    simp only [Text.marks, Text.Ranges.contains_cons, Text.Ranges.contains_nil, Bool.or_eq_true,
      Bool.and_eq_true, decide_eq_true_eq]
    omega
  constructor
  · simp [isDelimiter, hblank, hne '(' (by decide), hne ')' (by decide), hne ',' (by decide)]
  · simp [tagMarks, hne ':' (by decide), hne '"' (by decide), hne '/' (by decide),
      hne '*' (by decide), hne '?' (by decide), hne '[' (by decide)]

theorem toList_ne_nil_of_isEntry {s : String} (h : IsEntry s) : s.toList ≠ [] := by
  obtain ⟨word, ⟨hword, -⟩, rfl | rfl⟩ := h
  · exact fun hnil => hword (String.toList_inj.mp hnil)
  · simp

theorem isInert_of_isEntry {s : String} (h : IsEntry s) : ∀ c ∈ s.toList, IsInert c := by
  obtain ⟨word, ⟨-, hword⟩, rfl | rfl⟩ := h
  · exact fun c hc => isInert_of_isWordChar (hword c hc)
  · intro c hc
    rw [String.toList_append, List.mem_append] at hc
    rcases hc with hc | hc
    · rw [List.mem_singleton.mp hc]
      exact ⟨by decide, by decide⟩
    · exact isInert_of_isWordChar (hword c hc)

theorem isDelimiter_of_isSeparator {c : Char} (h : isSeparator c = true) :
    isDelimiter c = true := by
  rcases isSeparator_iff.mp h with rfl | h
  · decide
  · simp [isDelimiter, h]

/-- No separator is a letter of a keyword. -/
theorem isSeparator_of_isLower {c : Char} (h : c.isLower = true) : isSeparator c = false := by
  have hcomma : c ≠ ',' := by
    rintro rfl
    exact absurd h (by decide)
  simp [isSeparator, hcomma, isBlank_of_isLower h]

theorem notMem_tagMarks_of_isSeparator {c : Char} (h : isSeparator c = true) : c ∉ tagMarks := by
  rcases isSeparator_iff.mp h with rfl | h
  · decide
  · intro hmem
    simp only [tagMarks, List.mem_cons, List.not_mem_nil, or_false] at hmem
    rcases hmem with rfl | rfl | rfl | rfl | rfl | rfl <;> exact absurd h (by decide)

/-- How lists of names are scanned. -/
def listOptions : ScanOptions where
  decodeBase64 := false
  categories := true

section Scanning

variable {cs rest : List Char}

/-- No base64 literal opens in a text that no mark begins. -/
theorem base64Ahead_eq_false (h : ∀ c ∈ cs.head?, c ∉ tagMarks) : base64Ahead cs = false := by
  unfold base64Ahead
  split
  · exact absurd (by decide) (h _ rfl)
  · exact absurd (by decide) (h _ rfl)
  · exact absurd (by decide) (h _ rfl)
  · rfl

/-- No mark begins what is left of an entry and the text behind it. -/
theorem head_notMem_tagMarks (hcs : ∀ c ∈ cs, IsInert c) (hrest : AtSeparator rest) :
    ∀ c ∈ (cs ++ rest).head?, c ∉ tagMarks := by
  intro c hc
  cases cs with
  | nil => exact notMem_tagMarks_of_isSeparator (hrest c hc)
  | cons d ds =>
    obtain rfl : d = c := Option.some.inj hc
    exact (hcs d List.mem_cons_self).not_mark

/-- Characters without a meaning are taken as they stand, up to a separator. -/
theorem scanTag_inert (hcs : ∀ c ∈ cs, IsInert c) (hrest : AtSeparator rest)
    (st : TagState) :
    scanTag listOptions st (cs ++ rest) = ⟨.tagCategory, st.text ++ cs, rest⟩ := by
  -- the state is free, as each character joins the text of the tag
  induction cs generalizing st with
  | nil =>
    rw [List.nil_append, List.append_nil]
    cases rest with
    | nil => rw [scanTag]; rfl
    | cons d ds =>
      have hd := hrest d rfl
      have hcolon : d ≠ ':' := by
        intro hcolon
        rw [hcolon] at hd
        exact notMem_tagMarks_of_isSeparator hd (by decide)
      rw [scanTag, if_neg (fun h => hcolon h.1), if_pos (isDelimiter_of_isSeparator hd)]
      rfl
  | cons c cs ih =>
    have hc := hcs c List.mem_cons_self
    have hcs' : ∀ d ∈ cs, IsInert d := fun d hd => hcs d (List.mem_cons_of_mem c hd)
    have hahead := base64Ahead_eq_false (head_notMem_tagMarks hcs' hrest)
    have hmark := hc.not_mark
    simp only [tagMarks, List.mem_cons, List.not_mem_nil, or_false, not_or] at hmark
    obtain ⟨hcolon, hquote, -⟩ := hmark
    have hliteral :
        ¬(c = 'b' ∧ st.literalStart = true ∧ base64Ahead (cs ++ rest) = true) := by
      simp [hahead]
    rw [List.cons_append, scanTag, if_neg (fun h => hcolon h.1),
      if_neg (by simp [hc.not_delimiter]), if_neg hquote, if_neg hliteral, ih hcs']
    simp [TagState.add]

/-- No parenthesis stands in an entry or directly behind it, so no word is a keyword. -/
theorem keywordAhead?_entry (hcs : ∀ c ∈ cs, IsInert c) (hrest : AtSeparator rest) :
    keywordAhead? (cs ++ rest) = none := by
  cases hahead : keywordAhead? (cs ++ rest) with
  | none => rfl
  | some op =>
    exfalso
    -- the parenthesis behind the keyword would stand in the entry, or at the separator behind it,
    -- or the separator would be a letter of the keyword
    obtain ⟨tail, htail⟩ := eq_append_of_keywordAhead? hahead
    have hbehind : rest ≠ '(' :: tail := by
      rintro rfl
      exact absurd (hrest '(' rfl) (by decide)
    rcases List.append_eq_append_iff.mp htail with ⟨front, hkeyword, hrest'⟩ | ⟨front, hcs', htail'⟩
    · cases front with
      | nil => exact hbehind hrest'
      | cons d ds =>
        have hletter : d ∈ op.keyword.toList := by simp [hkeyword]
        have hseparator := hrest d (by simp [hrest'])
        rw [isSeparator_of_isLower (isLower_of_mem_keyword hletter)] at hseparator
        cases hseparator
    · cases front with
      | nil => exact hbehind htail'.symm
      | cons d ds =>
        obtain rfl : '(' = d := (List.cons.inj htail').1
        exact absurd (hcs '(' (by simp [hcs'])).not_delimiter (by decide)

/-- A name is scanned as a whole, whatever it would mean in a search. -/
theorem scanOne_entry {name : String} (hname : IsEntry name)
    (hrest : AtSeparator rest) :
    scanOne listOptions false (name.toList ++ rest) = ⟨.tagCategory, name.toList, rest⟩ := by
  have hinert := isInert_of_isEntry hname
  have hkeyword := keywordAhead?_entry hinert hrest
  obtain ⟨c, cs, hcs⟩ := List.exists_cons_of_ne_nil (toList_ne_nil_of_isEntry hname)
  rw [hcs, List.cons_append] at hkeyword ⊢
  rw [hcs] at hinert
  have hc := hinert c List.mem_cons_self
  have hmark := hc.not_mark
  simp only [tagMarks, List.mem_cons, List.not_mem_nil, or_false, not_or] at hmark
  obtain ⟨hcolon, -, hslash, -⟩ := hmark
  rw [scanOne_tag_of_ne listOptions false hc.not_delimiter hcolon hslash hkeyword,
    ← List.cons_append, scanTag_inert hinert hrest]
  rfl

end Scanning

/-! ## Reading a list -/

/-- The tokens of a list are read one by one. -/
theorem Scanner.tokens_listOptions {c : Char} {cs : List Char} {r : Scanned}
    (h : scanOne listOptions false (c :: cs) = r) (offset : Nat) :
    ∃ offset', Scanner.tokens false ⟨listOptions, c :: cs, offset, false⟩ =
      ⟨r.kind, String.ofList r.literal, offset⟩ ::
        Scanner.tokens false ⟨listOptions, r.rest, offset', false⟩ := by
  refine ⟨offset + ((c :: cs).length - r.rest.length), ?_⟩
  rw [Scanner.tokens, dif_neg (List.cons_ne_nil c cs)]
  simp [Scanner.next, h]

/-- The names are read from the characters, whatever stands before them. -/
def ReadsNames (names : List String) (cs : List Char) : Prop :=
  ∀ (list : String) (offset : Nat),
    Query.namesOf list (Scanner.tokens false ⟨listOptions, cs, offset, false⟩) = .ok names

/-- The names are read from the characters, and as well when blanks before them were taken with
those at their front. -/
structure ReadsBehind (names : List String) (cs : List Char) : Prop where
  whole : ReadsNames names cs
  trimmed : ReadsNames names (Text.trimStart cs)

section Reading

variable {names : List String} {rest : List Char}

/-- Characters without blanks at their front are the same when those are taken. -/
theorem ReadsNames.behind {cs : List Char} (h : ReadsNames names cs)
    (hblank : ∀ c ∈ cs.head?, Text.isBlank c = false) : ReadsBehind names cs := by
  refine ⟨h, ?_⟩
  cases cs with
  | nil => exact h
  | cons c cs =>
    have hc := hblank c rfl
    rwa [Text.trimStart, List.dropWhile_cons_of_neg (by simp [hc])]

theorem readsBehind_nil : ReadsBehind [] [] := by
  refine ReadsNames.behind (fun list offset => ?_) (fun c hc => by cases hc)
  rw [Scanner.tokens, dif_pos rfl]
  rfl

theorem readsBehind_comma (h : ReadsBehind names rest) : ReadsBehind names (',' :: rest) := by
  refine ReadsNames.behind (fun list offset => ?_) (fun c hc => by cases hc; decide)
  obtain ⟨offset', htokens⟩ :=
    Scanner.tokens_listOptions (scanOne_comma listOptions false rest) offset
  rw [htokens]
  exact h.whole list offset'

/-- A blank is taken with those behind it. -/
theorem readsBehind_blank {c : Char} (hc : Text.isBlank c = true) (h : ReadsBehind names rest) :
    ReadsBehind names (c :: rest) := by
  have htrim : Text.trimStart (c :: rest) = Text.trimStart rest := by
    rw [Text.trimStart, List.dropWhile_cons_of_pos hc]
    rfl
  refine ⟨fun list offset => ?_, htrim ▸ h.trimmed⟩
  have hscan : scanOne listOptions false (c :: rest) =
      ⟨.whitespace, Text.takeBlank (c :: rest), Text.trimStart rest⟩ := by
    rw [scanOne, if_pos hc, htrim]
  obtain ⟨offset', htokens⟩ := Scanner.tokens_listOptions hscan offset
  rw [htokens]
  exact h.trimmed list offset'

theorem readsBehind_gap {gap : List Char} (hgap : ∀ c ∈ gap, isSeparator c = true)
    (h : ReadsBehind names rest) : ReadsBehind names (gap ++ rest) := by
  induction gap with
  | nil => exact h
  | cons c gap ih =>
    have hrest := ih fun d hd => hgap d (List.mem_cons_of_mem c hd)
    rcases isSeparator_iff.mp (hgap c List.mem_cons_self) with rfl | hblank
    · exact readsBehind_comma hrest
    · exact readsBehind_blank hblank hrest

theorem readsBehind_entry {name : String} (hname : IsEntry name)
    (hend : AtSeparator rest) (h : ReadsBehind names rest) :
    ReadsBehind (name :: names) (name.toList ++ rest) := by
  have hscan := scanOne_entry hname hend
  obtain ⟨c, cs, hcs⟩ := List.exists_cons_of_ne_nil (toList_ne_nil_of_isEntry hname)
  have hc : IsInert c := isInert_of_isEntry hname c (by simp [hcs])
  rw [hcs, List.cons_append] at hscan ⊢
  refine ReadsNames.behind (fun list offset => ?_) (fun d hd => ?_)
  · obtain ⟨offset', htokens⟩ := Scanner.tokens_listOptions hscan offset
    rw [htokens, Query.namesOf, h.whole list offset', ← hcs, String.ofList_toList]
    rfl
  · obtain rfl : c = d := Option.some.inj hd
    have hdelimiter := hc.not_delimiter
    simp only [isDelimiter, Bool.or_eq_false_iff] at hdelimiter
    exact hdelimiter.2

/-- The names that a text lists are read from it. -/
theorem readsBehind_of_listsNames {cs : List Char} (h : ListsNames names cs) :
    ReadsBehind names cs := by
  induction h with
  | @nil gap hgap =>
    rw [← List.append_nil gap]
    exact readsBehind_gap hgap readsBehind_nil
  | cons hgap hname hrest _ ih =>
    rw [List.append_assoc]
    exact readsBehind_gap hgap (readsBehind_entry hname hrest ih)

end Reading

/-- The names in a list are those that it lists, whatever stands between them. -/
theorem Query.names_of_listsNames {names : List String} {list : String}
    (h : ListsNames names list.toList) : Query.names list = .ok names :=
  (readsBehind_of_listsNames h).whole list 0

end TagSearch
