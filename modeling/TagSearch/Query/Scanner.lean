import TagSearch.Text.Blank
import TagSearch.Query.Operator
import TagSearch.Query.Segment
import TagSearch.Query.Token

/-!
# Scanner

Cuts a search into tokens.  The scanner holds the characters still to be read; each step
takes one token from their front.  A tag is a run of characters up to a delimiter, in
which quoted text, a pattern between slashes and a base64 literal are read as wholes.

Main results:

- Theorem `rest_scanOne_lt`: on a text that is not empty, a token takes at least one
  character.
- Theorem `Scanner.offset_add_rest_next`: the characters read and the characters left
  always add up to the length of the input.
-/

namespace TagSearch

/-! ## Tags -/

/-- How a search is to be scanned. -/
structure ScanOptions where
  /-- Base64 literals are decoded in place. -/
  decodeBase64 : Bool := true
  /-- Every tag counts as a category, as in a plain list of field names. -/
  categories : Bool := false
deriving DecidableEq, Repr

/-- A delimiter ends a tag. -/
def isDelimiter (c : Char) : Bool :=
  c == '(' || c == ')' || c == ',' || Text.isBlank c

/-- The characters that were taken from the front of `before` to leave `after`. -/
def taken (before after : List Char) : List Char :=
  before.take (before.length - after.length)

/-- What a scan takes from the front of the input: the class of the token, its text, and
the characters that are left. -/
structure Scanned where
  kind : TokenKind
  literal : List Char
  rest : List Char
deriving DecidableEq, Repr

/-- Where a scan stands inside a tag. -/
structure TagState where
  /-- The characters of the input from the start of the tag. -/
  source : List Char
  /-- A colon belongs to the tag, which is the value of a category. -/
  asValue : Bool
  /-- The text of the tag so far. -/
  text : List Char
  /-- A base64 literal may open here: at the start, or directly after a bare wildcard. -/
  literalStart : Bool
deriving DecidableEq, Repr

namespace TagState

/-- The state after a segment that contributes `segment`. -/
def add (st : TagState) (segment : List Char) (literalStart : Bool) : TagState :=
  { st with text := st.text ++ segment, literalStart }

/-- The illegal token that ends where the characters `rest` begin. -/
def illegal (st : TagState) (rest : List Char) : Scanned :=
  ⟨.illegal, taken st.source rest, rest⟩

/-- The tag that ends where the characters `rest` begin. -/
def finish (st : TagState) (options : ScanOptions) (rest : List Char) : Scanned :=
  ⟨if options.categories then .tagCategory else .tagValue, st.text, rest⟩

end TagState

/-- Scans the characters of a tag up to its end. -/
def scanTag (options : ScanOptions) (st : TagState) : List Char → Scanned
  | [] => st.finish options []
  | c :: cs =>
    if c = ':' ∧ st.asValue = false then ⟨.tagCategory, st.text, cs⟩
    else if isDelimiter c then st.finish options (c :: cs)
    else if c = '"' then
      match _h : readQuoted cs with
      | none => st.illegal []
      | some (text, rest) => scanTag options (st.add text false) rest
    else if c = 'b' ∧ st.literalStart ∧ base64Ahead cs then
      match _h : readBase64 cs with
      | none => st.illegal []
      | some l =>
        if options.decodeBase64 then
          match l.decoded? with
          | none => st.illegal l.rest
          | some text => scanTag options (st.add text false) l.rest
        else scanTag options (st.add (taken (c :: cs) l.rest) false) l.rest
    else scanTag options (st.add [c] (c = '*' ∨ c = '?')) cs
termination_by cs => cs.length
decreasing_by
  · have := rest_of_readQuoted _h
    simp only [List.length_cons]
    omega
  · have := rest_of_readBase64 _h
    simp only [List.length_cons]
    omega
  · have := rest_of_readBase64 _h
    simp only [List.length_cons]
    omega
  · simp only [List.length_cons]
    omega

/-- Scans a tag from its start.  Only there a slash opens a pattern, provided that another
unescaped slash follows. -/
def scanWholeTag (options : ScanOptions) (asValue : Bool) (cs : List Char) : Scanned :=
  let st : TagState := ⟨cs, asValue, [], true⟩
  match cs with
  | '/' :: body =>
    match splitUnescaped '/' body with
    | some (text, rest) => scanTag options (st.add ('/' :: text ++ ['/']) false) rest
    | none => scanTag options st cs
  | _ => scanTag options st cs

/-! ## Tokens -/

/-- What follows the characters of `word` at the front of `cs`. -/
def afterWord? : List Char → List Char → Option (List Char)
  | [], cs => some cs
  | _ :: _, [] => none
  | w :: ws, c :: cs => if w = c then afterWord? ws cs else none

/-- The operator whose keyword, with an opening parenthesis directly after it, stands at
the front. -/
def keywordAhead? (cs : List Char) : Option Operator :=
  Operator.every.find? fun op => (afterWord? (op.keyword.toList ++ ['(']) cs).isSome

/-- Scans one token from the front. -/
def scanOne (options : ScanOptions) (asValue : Bool) : List Char → Scanned
  | [] => ⟨.eof, [], []⟩
  | c :: cs =>
    if Text.isBlank c then
      ⟨.whitespace, Text.takeBlank (c :: cs), Text.trimStart (c :: cs)⟩
    else if c = '(' then ⟨.lParen, ['('], cs⟩
    else if c = ')' then ⟨.rParen, [')'], cs⟩
    else if c = ',' then ⟨.comma, [','], cs⟩
    else if c = ':' ∧ asValue = false then ⟨.colon, [':'], cs⟩
    else
      match keywordAhead? (c :: cs) with
      | some op => ⟨.keyword, op.keyword.toList, (c :: cs).drop op.keyword.length⟩
      | none => scanWholeTag options asValue (c :: cs)

/-! ## Progress -/

theorem length_scanTag_le (options : ScanOptions) (st : TagState) (cs : List Char) :
    (scanTag options st cs).rest.length ≤ cs.length := by
  induction st, cs using scanTag.induct options with
  | case1 st => simp [scanTag, TagState.finish]
  | case2 st c cs h => rw [scanTag, if_pos h]; simp
  | case3 st c cs h₁ h₂ => rw [scanTag, if_neg h₁, if_pos h₂]; simp [TagState.finish]
  | case4 st cs h h₁ h₂ =>
    rw [scanTag, if_neg h₁, if_neg h₂, if_pos rfl]
    split
    · simp [TagState.illegal]
    · next heq => rw [h] at heq; cases heq
  | case5 st cs text rest h h₁ h₂ ih =>
    rw [scanTag, if_neg h₁, if_neg h₂, if_pos rfl]
    split
    · next heq => rw [h] at heq; cases heq
    · next heq =>
      rw [h] at heq
      cases heq
      have := rest_of_readQuoted h
      simp only [List.length_cons]
      omega
  | case6 st c cs h₁ h₂ h₃ h₄ h =>
    rw [scanTag, if_neg h₁, if_neg h₂, if_neg h₃, if_pos h₄]
    split
    · simp [TagState.illegal]
    · next heq => rw [h] at heq; cases heq
  | case7 st c cs h₁ h₂ h₃ h₄ l h h₅ h₆ =>
    rw [scanTag, if_neg h₁, if_neg h₂, if_neg h₃, if_pos h₄]
    split
    · next heq => rw [h] at heq; cases heq
    · next heq =>
      rw [h] at heq
      cases heq
      have := rest_of_readBase64 h
      rw [if_pos h₅, h₆]
      simp only [TagState.illegal, List.length_cons]
      omega
  | case8 st c cs h₁ h₂ h₃ h₄ l h h₅ text h₆ ih =>
    rw [scanTag, if_neg h₁, if_neg h₂, if_neg h₃, if_pos h₄]
    split
    · next heq => rw [h] at heq; cases heq
    · next heq =>
      rw [h] at heq
      cases heq
      have := rest_of_readBase64 h
      rw [if_pos h₅, h₆]
      simp only [List.length_cons]
      omega
  | case9 st c cs h₁ h₂ h₃ h₄ l h h₅ ih =>
    rw [scanTag, if_neg h₁, if_neg h₂, if_neg h₃, if_pos h₄]
    split
    · next heq => rw [h] at heq; cases heq
    · next heq =>
      rw [h] at heq
      cases heq
      have := rest_of_readBase64 h
      rw [if_neg h₅]
      simp only [List.length_cons]
      omega
  | case10 st c cs h₁ h₂ h₃ h₄ ih =>
    rw [scanTag, if_neg h₁, if_neg h₂, if_neg h₃, if_neg h₄]
    simp only [List.length_cons]
    omega

theorem length_scanTag_lt (options : ScanOptions) (st : TagState) {c : Char}
    (cs : List Char) (h : isDelimiter c = false) :
    (scanTag options st (c :: cs)).rest.length < (c :: cs).length := by
  rw [scanTag]
  split
  · simp
  · rw [if_neg (by simp [h])]
    split
    · split
      · simp [TagState.illegal]
      · next text rest heq =>
        have h₁ := rest_of_readQuoted heq
        have h₂ := length_scanTag_le options (st.add text false) rest
        simp only [List.length_cons]
        omega
    · split
      · split
        · simp [TagState.illegal]
        · next l heq =>
          have h₁ := rest_of_readBase64 heq
          split
          · split
            · simp only [TagState.illegal, List.length_cons]
              omega
            · next text _ =>
              have h₂ := length_scanTag_le options (st.add text false) l.rest
              simp only [List.length_cons]
              omega
          · have h₂ := length_scanTag_le options (st.add (taken (c :: cs) l.rest) false) l.rest
            simp only [List.length_cons]
            omega
      · have h₁ := length_scanTag_le options (st.add [c] (c = '*' ∨ c = '?')) cs
        simp only [List.length_cons]
        omega

theorem length_scanWholeTag_lt (options : ScanOptions) (asValue : Bool) {c : Char}
    (cs : List Char) (h : isDelimiter c = false) :
    (scanWholeTag options asValue (c :: cs)).rest.length < (c :: cs).length := by
  unfold scanWholeTag
  split
  · next body heq =>
    cases heq
    split
    · next text rest heq =>
      have h₁ := rest_of_splitUnescaped heq
      have h₂ := length_scanTag_le options
        (TagState.add ⟨'/' :: cs, asValue, [], true⟩ ('/' :: text ++ ['/']) false) rest
      simp only [List.length_cons]
      omega
    · exact length_scanTag_lt options _ _ h
  · exact length_scanTag_lt options _ _ h

/-- On a text that is not empty, a token takes at least one character. -/
theorem rest_scanOne_lt (options : ScanOptions) (asValue : Bool) (c : Char)
    (cs : List Char) :
    (scanOne options asValue (c :: cs)).rest.length < (c :: cs).length := by
  rw [scanOne]
  split
  · next hc =>
    have := length_dropWhile_le Text.isBlank cs
    simp only [Text.trimStart, List.dropWhile_cons, hc, if_true, List.length_cons]
    omega
  · next hblank =>
    split
    · simp
    · next h₁ =>
      split
      · simp
      · next h₂ =>
        split
        · simp
        · next h₃ =>
          split
          · simp
          · split
            · next op _ =>
              have hop : 0 < op.keyword.length := by
                cases op with
                | compare c => cases c <;> decide
                | _ => decide
              simp only [List.length_drop, List.length_cons]
              omega
            · exact length_scanWholeTag_lt options asValue cs (by
                simp [isDelimiter, h₁, h₂, h₃, hblank])

theorem rest_scanOne_le (options : ScanOptions) (asValue : Bool) (cs : List Char) :
    (scanOne options asValue cs).rest.length ≤ cs.length := by
  cases cs with
  | nil => simp [scanOne]
  | cons c cs => exact Nat.le_of_lt (rest_scanOne_lt options asValue c cs)

/-! ## Scanners -/

/-- A scanner between two tokens. -/
structure Scanner where
  options : ScanOptions
  /-- The characters still to be read. -/
  rest : List Char
  /-- The number of characters already read. -/
  offset : Nat
  /-- The next tag is the value of a category, to which colons belong.  Lasts until a
  token other than blanks is scanned. -/
  valueNext : Bool
deriving DecidableEq, Repr

namespace Scanner

/-- A scanner at the start of a text. -/
def ofString (s : String) (options : ScanOptions := {}) : Scanner :=
  ⟨options, s.toList, 0, false⟩

/-- Announces that the next tag is the value of a category. -/
def expectValue (s : Scanner) : Scanner :=
  { s with valueNext := true }

/-- The next token and the scanner after it. -/
def next (s : Scanner) : Token × Scanner :=
  let r := scanOne s.options s.valueNext s.rest
  (⟨r.kind, String.ofList r.literal, s.offset⟩,
    { s with
      rest := r.rest
      offset := s.offset + (s.rest.length - r.rest.length)
      valueNext := s.valueNext && r.kind == .whitespace })

/-- The characters read and the characters left always add up to the length of the
input. -/
theorem offset_add_rest_next (s : Scanner) :
    s.next.2.offset + s.next.2.rest.length = s.offset + s.rest.length := by
  have := rest_scanOne_le s.options s.valueNext s.rest
  simp only [next]
  omega

theorem rest_next_lt {s : Scanner} (h : s.rest ≠ []) :
    s.next.2.rest.length < s.rest.length := by
  obtain ⟨c, cs, hcs⟩ := List.exists_cons_of_ne_nil h
  simp only [next, hcs]
  exact rest_scanOne_lt s.options s.valueNext c cs

/-- The tokens up to the end of input.  With `valuesAfterCategories`, the tag after a
category, blanks aside, is scanned as that category's value. -/
def tokens (valuesAfterCategories : Bool) (s : Scanner) : List Token :=
  if _h : s.rest = [] then []
  else
    let token := s.next.1
    let after := s.next.2
    token ::
      tokens valuesAfterCategories
        (if valuesAfterCategories && token.kind == .tagCategory then after.expectValue
          else after)
termination_by s.rest.length
decreasing_by
  split
  · exact rest_next_lt _h
  · exact rest_next_lt _h

end Scanner

end TagSearch
