import TagSearch.Proofs.Pointing

/-!
# A scanner moves on

Whatever is asked of a scanner, it stands in its input.  The next token begins where it stands, and
takes it further on by a character at least; only at the end of input it stays where it is, and
says so again and again.  So there are no more tokens than characters, whatever the scanner is told
of values between them.

Main results:

- Theorem `suffix_scanOne`: a scan takes a piece from the front of a text, whatever the options are.
- Definitions `Scanner.after` and `Scanner.given`: where a sequence of calls takes a scanner, and
  the tokens that the calls give.
- Theorem `Scanner.StandsIn.call`: a call leaves a scanner in its text.
- Definition `Scanner.Tiles`: a scanner stands in a text, and its next call gives the token there.
- Theorem `Scanner.tiles_after`: so it is after every sequence of calls.
- Theorem `Scanner.length_given_le`: the number of tokens that calls can give.
- Theorem `Scanner.exists_calls`: the tokens of a whole text are given by calls that come to its
  end.
-/

namespace TagSearch

/-! ## What a scan takes, whatever the options are -/

theorem suffix_scanTag (options : ScanOptions) (st : TagState) (cs : List Char) :
    (scanTag options st cs).rest <:+ cs := by
  fun_induction scanTag options st cs with
  | case1 | case3 => exact List.suffix_rfl
  | case2 => exact List.suffix_cons _ _
  | case4 | case6 => exact List.nil_suffix
  | case5 _ _ _ _ hread _ _ ih =>
    exact (ih.trans (suffix_of_readQuoted hread)).trans (List.suffix_cons _ _)
  | case7 _ _ _ _ _ _ _ _ hread => exact (suffix_of_readBase64 hread).trans (List.suffix_cons _ _)
  | case8 _ _ _ _ _ _ _ _ hread _ _ _ ih | case9 _ _ _ _ _ _ _ _ hread _ ih =>
    exact (ih.trans (suffix_of_readBase64 hread)).trans (List.suffix_cons _ _)
  | case10 _ _ _ _ _ _ _ ih => exact ih.trans (List.suffix_cons _ _)

theorem suffix_scanWholeTag (options : ScanOptions) (asValue : Bool) (cs : List Char) :
    (scanWholeTag options asValue cs).rest <:+ cs := by
  unfold scanWholeTag
  simp only
  split
  · next body =>
    split
    · next text rest hsplit =>
      refine (suffix_scanTag options _ rest).trans ?_
      rw [eq_append_of_splitUnescaped hsplit]
      exact ⟨'/' :: text ++ ['/'], by simp⟩
    · exact suffix_scanTag options _ _
  · exact suffix_scanTag options _ _

/-- What is left behind a token is the end of the text. -/
theorem suffix_scanOne (options : ScanOptions) (asValue : Bool) (cs : List Char) :
    (scanOne options asValue cs).rest <:+ cs := by
  unfold scanOne
  split
  · exact List.suffix_rfl
  · next c cs =>
    split
    · exact List.dropWhile_suffix _
    split
    · exact List.suffix_cons _ _
    split
    · exact List.suffix_cons _ _
    split
    · exact List.suffix_cons _ _
    split
    · exact List.suffix_cons _ _
    split
    · exact List.drop_suffix _ _
    · exact suffix_scanWholeTag options asValue _

/-- The classes of the tokens that are scanned as tags. -/
def TokenKind.IsTag (kind : TokenKind) : Prop :=
  kind = .illegal ∨ kind = .tagCategory ∨ kind = .tagValue

theorem isTag_finish (options : ScanOptions) (st : TagState) (cs : List Char) :
    (st.finish options cs).kind.IsTag := by
  cases hcategories : options.categories with
  | true => exact .inr (.inl (by simp [TagState.finish, hcategories]))
  | false => exact .inr (.inr (by simp [TagState.finish, hcategories]))

theorem isTag_scanTag (options : ScanOptions) (st : TagState) (cs : List Char) :
    (scanTag options st cs).kind.IsTag := by
  fun_induction scanTag options st cs with
  | case1 | case3 => exact isTag_finish options _ _
  | case2 => exact .inr (.inl rfl)
  | case4 | case6 | case7 => exact .inl rfl
  | case5 _ _ _ _ _ _ _ ih => exact ih
  | case8 _ _ _ _ _ _ _ _ _ _ _ _ ih | case9 _ _ _ _ _ _ _ _ _ _ ih => exact ih
  | case10 _ _ _ _ _ _ _ ih => exact ih

theorem isTag_scanWholeTag (options : ScanOptions) (asValue : Bool) (cs : List Char) :
    (scanWholeTag options asValue cs).kind.IsTag := by
  unfold scanWholeTag
  simp only
  split
  · split
    · exact isTag_scanTag options _ _
    · exact isTag_scanTag options _ _
  · exact isTag_scanTag options _ _

/-- What the next token of a text that goes on can be: a tag, a keyword before its parenthesis, or
a mark. -/
theorem kind_scanOne_cons (options : ScanOptions) (asValue : Bool) (c : Char) (cs : List Char) :
    (scanOne options asValue (c :: cs)).kind.IsTag ∨
      ((scanOne options asValue (c :: cs)).kind = .keyword ∧
        ∃ inside, (scanOne options asValue (c :: cs)).rest = '(' :: inside) ∨
      (scanOne options asValue (c :: cs)).kind ∈
        [TokenKind.whitespace, .lParen, .rParen, .comma, .colon] := by
  rw [scanOne]
  split
  · simp
  split
  · simp
  split
  · simp
  split
  · simp
  split
  · simp
  split
  · next op hop =>
    obtain ⟨inside, hinside⟩ := eq_append_of_keywordAhead? hop
    refine .inr (.inl ⟨rfl, inside, ?_⟩)
    rw [hinside, ← String.length_toList, List.drop_left]
  · exact .inl (isTag_scanWholeTag options asValue _)

/-- Only at the end of a text its end is found. -/
theorem kind_scanOne_eq_eof_iff {options : ScanOptions} {asValue : Bool} {cs : List Char} :
    (scanOne options asValue cs).kind = .eof ↔ cs = [] := by
  cases cs with
  | nil => simp [scanOne]
  | cons c cs =>
    have hkind := kind_scanOne_cons options asValue c cs
    refine iff_of_false (fun heof => ?_) (List.cons_ne_nil c cs)
    rw [heof] at hkind
    simp [TokenKind.IsTag] at hkind

/-- Whatever the options are, a keyword is taken without its parenthesis. -/
theorem exists_rest_of_keyword {options : ScanOptions} {asValue : Bool} {cs : List Char}
    (hkeyword : (scanOne options asValue cs).kind = .keyword) :
    ∃ inside, (scanOne options asValue cs).rest = '(' :: inside := by
  cases cs with
  | nil => simp [scanOne] at hkeyword
  | cons c cs =>
    rcases kind_scanOne_cons options asValue c cs with htag | ⟨-, hrest⟩ | hmark
    · simp [hkeyword, TokenKind.IsTag] at htag
    · exact hrest
    · simp [hkeyword] at hmark

theorem scanOne_parenthesis (options : ScanOptions) (asValue : Bool) (inside : List Char) :
    scanOne options asValue ('(' :: inside) = ⟨.lParen, ['('], inside⟩ := by
  have hblank : Text.isBlank '(' = false := by decide
  rw [scanOne, hblank]
  simp

namespace Scanner

/-! ## Calls -/

/-- What can be asked of a scanner. -/
inductive Call where
  /-- The next token. -/
  | next
  /-- To scan the next tag as the value of a category. -/
  | expectValue
deriving DecidableEq, Repr

/-- The scanner after a call. -/
def call (s : Scanner) : Call → Scanner
  | .next => s.next.2
  | .expectValue => s.expectValue

/-- The scanner after a sequence of calls. -/
def after (s : Scanner) (calls : List Call) : Scanner :=
  calls.foldl call s

/-- The tokens that a sequence of calls gives. -/
def given (s : Scanner) : List Call → List Token
  | [] => []
  | .next :: calls => s.next.1 :: s.next.2.given calls
  | .expectValue :: calls => s.expectValue.given calls

variable {input : String} {options : ScanOptions} {s : Scanner}

@[simp] theorem after_nil (s : Scanner) : s.after [] = s := rfl

@[simp] theorem after_cons (s : Scanner) (c : Call) (calls : List Call) :
    s.after (c :: calls) = (s.call c).after calls := rfl

/-- A call leaves the scanner at a later place of the same text, or where it is. -/
theorem suffix_call (s : Scanner) (c : Call) : (s.call c).rest <:+ s.rest := by
  cases c with
  | next => exact suffix_scanOne s.options s.valueNext s.rest
  | expectValue => exact List.suffix_rfl

theorem offset_add_rest_call (s : Scanner) (c : Call) :
    (s.call c).offset + (s.call c).rest.length = s.offset + s.rest.length := by
  cases c with
  | next => exact offset_add_rest_next s
  | expectValue => rfl

/-! ## Where a scanner stands -/

/-- The characters that a scanner has still to read are those from its offset on. -/
structure StandsIn (input : String) (s : Scanner) : Prop where
  offset_le : s.offset ≤ input.length
  rest_eq : s.rest = input.toList.drop s.offset

theorem standsIn_ofString (input : String) (options : ScanOptions) :
    StandsIn input (ofString input options) where
  offset_le := Nat.zero_le _
  rest_eq := List.drop_zero.symm

theorem StandsIn.offset_add_rest (h : StandsIn input s) :
    s.offset + s.rest.length = input.length := by
  have hle := h.offset_le
  rw [h.rest_eq, List.length_drop, String.length_toList]
  omega

theorem StandsIn.rest_eq_nil_iff (h : StandsIn input s) :
    s.rest = [] ↔ s.offset = input.length := by
  have hsum := h.offset_add_rest
  rw [← List.length_eq_zero_iff]
  omega

/-- A call leaves the scanner in its text. -/
theorem StandsIn.call (h : StandsIn input s) (c : Call) : StandsIn input (s.call c) := by
  have hsum := (offset_add_rest_call s c).trans h.offset_add_rest
  refine ⟨by omega, ?_⟩
  have hsuffix : (s.call c).rest <:+ input.toList :=
    (suffix_call s c).trans (h.rest_eq ▸ List.drop_suffix _ _)
  rw [List.suffix_iff_eq_drop.mp hsuffix, String.length_toList]
  congr 1
  omega

theorem StandsIn.after (h : StandsIn input s) (calls : List Call) :
    StandsIn input (s.after calls) := by
  induction calls generalizing s with
  | nil => exact h
  | cons c calls ih => exact ih (h.call c)

/-! ## The tokens that calls give -/

theorem kind_next_eq_eof_iff : s.next.1.kind = .eof ↔ s.rest = [] :=
  kind_scanOne_eq_eof_iff

/-- At the end of its text a scanner stays, and gives nothing but the end. -/
theorem eof_of_given (hend : s.rest = []) (calls : List Call) :
    ∀ t ∈ s.given calls, t = ⟨.eof, "", s.offset⟩ := by
  induction calls generalizing s with
  | nil => simp [given]
  | cons c calls ih =>
    cases c with
    | next =>
      have hnext : s.next = (⟨.eof, "", s.offset⟩, { s with valueNext := false }) := by
        simp [next, scanOne, hend]
      rw [given, hnext]
      exact List.forall_mem_cons.mpr ⟨rfl, ih hend⟩
    | expectValue => exact ih hend

/-- The first token that calls give is the next one, of a value or not. -/
theorem exists_of_head?_given (s : Scanner) (calls : List Call) :
    ∀ t ∈ (s.given calls).head?, ∃ valueNext, t = (next { s with valueNext }).1 := by
  induction calls generalizing s with
  | nil => simp [given]
  | cons c calls ih =>
    cases c with
    | next =>
      intro t ht
      exact ⟨s.valueNext, (Option.some.inj ht).symm⟩
    | expectValue => exact ih s.expectValue

/-- A scanner stands in the text `input`, and its next call gives the token there, behind which it
goes on. -/
structure Tiles (input : String) (s : Scanner) : Prop where
  /-- The scanner does not run past the end. -/
  standsIn : StandsIn input s
  offset_next : s.next.1.offset = s.offset
  eof_iff : s.next.1.kind = .eof ↔ s.offset = input.length
  /-- The end of the text is given again and again. -/
  eof_repeats : s.next.1.kind = .eof →
    ∀ calls, ∀ t ∈ s.given calls, t = ⟨.eof, "", input.length⟩
  /-- Every token but the end takes a character at least. -/
  advances : s.next.1.kind ≠ .eof → s.offset < s.next.2.offset
  /-- A parenthesis is the first token behind a keyword. -/
  lParen_of_keyword : s.next.1.kind = .keyword →
    ∀ calls, ∀ t ∈ (s.next.2.given calls).head?, t.kind = .lParen

theorem StandsIn.tiles (h : StandsIn input s) : Tiles input s where
  standsIn := h
  offset_next := rfl
  eof_iff := kind_next_eq_eof_iff.trans h.rest_eq_nil_iff
  eof_repeats heof := by
    have hend := kind_next_eq_eof_iff.mp heof
    rw [← h.rest_eq_nil_iff.mp hend]
    exact eof_of_given hend
  advances hne := by
    have hlt := rest_next_lt (mt kind_next_eq_eof_iff.mpr hne)
    have hsum := offset_add_rest_next s
    omega
  lParen_of_keyword hkeyword calls t ht := by
    obtain ⟨inside, hinside⟩ := exists_rest_of_keyword hkeyword
    obtain ⟨valueNext, rfl⟩ := exists_of_head?_given s.next.2 calls t ht
    simp only [next, hinside, scanOne_parenthesis]

/-- After every sequence of calls a scanner stands in its text and goes on there. -/
theorem tiles_after (input : String) (options : ScanOptions) (calls : List Call) :
    Tiles input ((ofString input options).after calls) :=
  ((standsIn_ofString input options).after calls).tiles

/-! ## The number of tokens -/

/-- The tokens that calls give before the end of a text take as many characters at least. -/
theorem length_given_le (s : Scanner) (calls : List Call) :
    ((s.given calls).filter (·.kind ≠ .eof)).length + (s.after calls).rest.length ≤
      s.rest.length := by
  induction calls generalizing s with
  | nil => simp [given]
  | cons c calls ih =>
    cases c with
    | expectValue => exact ih s.expectValue
    | next =>
      have hrest := ih s.next.2
      have hle := (suffix_call s .next).length_le
      rw [given, List.filter_cons]
      split
      · next hkind =>
        have hne : s.rest ≠ [] := mt kind_next_eq_eof_iff.mpr (of_decide_eq_true hkind)
        have hlt := rest_next_lt hne
        simp only [List.length_cons, after_cons, call] at hrest ⊢
        omega
      · simp only [after_cons, call] at hrest hle ⊢
        omega

/-- The tokens of a whole text are given by calls that come to its end. -/
theorem exists_calls (valuesAfterCategories : Bool) (s : Scanner) :
    ∃ calls, s.given calls = s.tokens valuesAfterCategories ∧ (s.after calls).rest = [] ∧
      ∀ t ∈ s.given calls, t.kind ≠ .eof := by
  fun_induction tokens valuesAfterCategories s with
  | case1 s hend => exact ⟨[], rfl, hend, by simp [given]⟩
  | case2 s hend token after ih =>
    have hne : token.kind ≠ .eof := mt kind_next_eq_eof_iff.mp hend
    by_cases htold : (valuesAfterCategories && token.kind == .tagCategory) = true
    · rw [dif_pos htold] at ih
      obtain ⟨calls, hgiven, hafter, hkind⟩ := ih
      rw [if_pos htold]
      exact ⟨.next :: .expectValue :: calls, congrArg (token :: ·) hgiven, hafter,
        List.forall_mem_cons.mpr ⟨hne, hkind⟩⟩
    · rw [dif_neg htold] at ih
      obtain ⟨calls, hgiven, hafter, hkind⟩ := ih
      rw [if_neg htold]
      exact ⟨.next :: calls, congrArg (token :: ·) hgiven, hafter,
        List.forall_mem_cons.mpr ⟨hne, hkind⟩⟩

/-- There are no more tokens than characters. -/
theorem length_tokens_le (valuesAfterCategories : Bool) (s : Scanner) :
    (s.tokens valuesAfterCategories).length ≤ s.rest.length := by
  obtain ⟨calls, hgiven, hafter, hkind⟩ := exists_calls valuesAfterCategories s
  have hle := length_given_le s calls
  rwa [List.filter_eq_self.mpr fun t ht => decide_eq_true (hkind t ht), hafter, hgiven] at hle

end Scanner

end TagSearch
