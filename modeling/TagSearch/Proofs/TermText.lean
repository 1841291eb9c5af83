import TagSearch.Proofs.Base64
import TagSearch.Proofs.Base64Literal
import TagSearch.Proofs.Quoting

/-!
# Reading a written term back

A term is written as a quoted text, as a pattern between slashes, or as a pattern in base64.
In each of the three forms the scanner reads the term back as one tag, whatever ends the tag
behind it.

Main results:

- Theorem `isHeld_ofTag`: every tag is read as a term that can be written.
- Theorem `readsTag_quoteLiteral`: a quoted text is read as the literal that was quoted.
- Theorem `readsTerm`: a written term is read back, whatever closes it.
- Theorems `ReadsTag.scanOne_value` and `ReadsTag.scanOne_category`: the token that the scanner
  makes of such a text at the end of an item, and of one before a colon.
-/

namespace TagSearch

namespace Term

/-- A term as a tag can hold it: a literal without the stand-in of a slash, or a pattern
without any stand-in. -/
def IsHeld : Term → Prop
  | literal s => quotedSlash ∉ s.toList
  | pattern p => ∀ c ∈ p.toList, isMarked c = false

/-- Every tag is read as a term that can be written. -/
theorem isHeld_ofTag (text : String) : (ofTag text).IsHeld := by
  unfold ofTag
  split
  · intro c hc
    rw [String.toList_ofList, List.mem_map] at hc
    obtain ⟨d, -, rfl⟩ := hc
    exact isMarked_unprotect d
  · intro hmem
    rw [String.toList_ofList, List.mem_map] at hmem
    obtain ⟨c, -, hc⟩ := hmem
    split at hc
    · exact absurd hc (by decide)
    · next hne => exact hne hc

/-- Only the empty tag is read as the empty literal. -/
theorem ofTag_ne_empty {text : String} (h : text ≠ "") : ofTag text ≠ literal "" := by
  unfold ofTag
  split
  · simp
  · intro heq
    rw [literal.injEq, ← String.toList_inj, String.toList_ofList] at heq
    exact h (String.toList_inj.mp (List.map_eq_nil_iff.mp heq))

/-- A pattern between slashes is read as the pattern. -/
theorem ofTag_slashes {p : String} (h : ∀ c ∈ p.toList, isMarked c = false) :
    ofTag (String.ofList ('/' :: p.toList ++ ['/'])) = pattern p := by
  have hdelimited : delimited? ('/' :: p.toList ++ ['/']) = some p.toList := by
    simp [delimited?]
  have hmap : String.ofList (p.toList.map unprotect) = p := restore_of_unmarked h
  rw [ofTag, String.toList_ofList, hdelimited]
  exact congrArg pattern hmap

end Term

/-! ## Scanning the three forms -/

theorem getLast?_ne_of_cons {c d : Char} {cs : List Char} (h : (c :: cs).getLast? ≠ some d) :
    cs.getLast? ≠ some d := by
  cases cs with
  | nil => simp
  | cons e es => rwa [List.getLast?_cons_cons] at h

/-- A pattern without a slash inside or a backslash at its end is closed by the slash behind
it. -/
theorem splitUnescaped_append {cs : List Char} (hslash : '/' ∉ cs)
    (hlast : cs.getLast? ≠ some '\\') (rest : List Char) :
    splitUnescaped '/' (cs ++ '/' :: rest) = some (cs, rest) := by
  induction cs using splitUnescaped.induct '/' with
  | case1 => simp [splitUnescaped]
  | case2 => simp at hlast
  | case3 c cs ih =>
    simp only [List.mem_cons, not_or] at hslash
    have hlast' := getLast?_ne_of_cons (getLast?_ne_of_cons hlast)
    simp only [List.cons_append, splitUnescaped, ih hslash.2.2 hlast', Option.map_some]
  | case4 cs => simp at hslash
  | case5 c cs hsingle hpair hne ih =>
    simp only [List.mem_cons, not_or] at hslash
    have hlast' := getLast?_ne_of_cons hlast
    have hc : c ≠ '\\' := by
      rintro rfl
      cases cs with
      | nil => exact hsingle rfl rfl
      | cons d ds => exact hpair d ds rfl rfl
    rw [List.cons_append, splitUnescaped, if_neg hne, ih hslash.2 hlast', Option.map_some]
    · exact fun heq => absurd heq hc
    · exact fun _ _ heq => absurd heq hc

/-- What stands at the front of a tag is scanned as a tag. -/
theorem scanOne_tag (options : ScanOptions) (asValue : Bool) {c : Char} {cs : List Char}
    (hdelimiter : isDelimiter c = false) (hcolon : c ≠ ':')
    (hkeyword : keywordAhead? (c :: cs) = none) :
    scanOne options asValue (c :: cs) = scanWholeTag options asValue (c :: cs) := by
  simp only [isDelimiter, Bool.or_eq_false_iff, beq_eq_false_iff_ne, ne_eq] at hdelimiter
  obtain ⟨⟨⟨hopen, hclose⟩, hcomma⟩, hblank⟩ := hdelimiter
  rw [scanOne]
  simp [hblank, hopen, hclose, hcomma, hcolon, hkeyword]

/-- A tag whose first character is no slash is scanned character by character. -/
theorem scanOne_tag_of_ne (options : ScanOptions) (asValue : Bool) {c : Char} {cs : List Char}
    (hdelimiter : isDelimiter c = false) (hcolon : c ≠ ':') (hslash : c ≠ '/')
    (hkeyword : keywordAhead? (c :: cs) = none) :
    scanOne options asValue (c :: cs) =
      scanTag options ⟨c :: cs, asValue, [], true⟩ (c :: cs) := by
  rw [scanOne_tag options asValue hdelimiter hcolon hkeyword]
  unfold scanWholeTag
  split
  · next heq => simp_all
  · rfl

/-- The scanner reads `text` as one tag up to `rest`: the scan leads to a tag that is read as
`term`. -/
def ReadsTag (options : ScanOptions) (asValue : Bool) (text : List Char) (term : Term)
    (rest : List Char) : Prop :=
  ∃ st : TagState, st.asValue = asValue ∧ Term.ofTag (String.ofList st.text) = term ∧
    scanOne options asValue (text ++ rest) = scanTag options st rest

/-- The scanner reads `term` as one tag up to `rest`: the scan of the written term leads to
the tag that is read as the term. -/
def ReadsTerm (asValue : Bool) (term : Term) (rest : List Char) : Prop :=
  ReadsTag {} asValue term.canonical.toList term rest

/-- Text in quotes is read as the tag of the text inside. -/
theorem readsTag_quoted (options : ScanOptions) (asValue : Bool) {text inside rest : List Char}
    (h : readQuoted (text ++ rest) = some (inside, rest)) :
    ReadsTag options asValue ('"' :: text) (.ofTag (String.ofList inside)) rest := by
  let st : TagState := ⟨'"' :: (text ++ rest), asValue, [], true⟩
  refine ⟨st.add inside false, rfl, rfl, ?_⟩
  have hkeyword := keywordAhead?_cons (text ++ rest) (.inl (Eq.refl '"'))
  rw [List.cons_append,
    scanOne_tag_of_ne options asValue (by decide) (by decide) (by decide) hkeyword]
  exact scanTag_quote options st h

/-- The empty literal is written as a pair of quotes. -/
theorem readsTag_empty (options : ScanOptions) (asValue : Bool) (rest : List Char) :
    ReadsTag options asValue (quoteLiteral "").toList (.literal "") rest := by
  have hread : readQuoted (['"'] ++ rest) = some ([], rest) := rfl
  exact readsTag_quoted options asValue hread

/-- The front of a quoted text opens a tag that is no pattern. -/
theorem front_quoteFrom (start : Bool) (c : Char) (cs : List Char) :
    ∃ d ds, quoteFrom false true start (c :: cs) = d :: ds ∧ isDelimiter d = false ∧
      d ≠ ':' ∧ d ≠ '/' := by
  cases hq : quotes true start c cs with
  | true =>
    exact ⟨'"', _, quoteFrom_cons_of_quotes hq, by decide, by decide, by decide⟩
  | false =>
    have hbare := bare_of_quotes hq
    refine ⟨c, _, quoteFrom_cons_of_bare hq, hbare.not_delimiter, hbare.not_colon, ?_⟩
    rintro rfl
    exact absurd hbare.held_eq (by decide)

/-- A quoted text is read as the literal that was quoted, whatever closes it. -/
theorem readsTag_quoteLiteral (options : ScanOptions) (asValue : Bool) {s : String}
    (hslash : quotedSlash ∉ s.toList) {rest : List Char} (hrest : Closes rest) :
    ReadsTag options asValue (quoteLiteral s).toList (.literal s) rest := by
  by_cases hs : s = ""
  · subst hs
    exact readsTag_empty options asValue rest
  have htext : (quoteLiteral s).toList = quoteFrom false true true s.toList := by
    simp [quoteLiteral, hs]
  obtain ⟨c, cs, hcs⟩ : ∃ c cs, s.toList = c :: cs := by
    cases h : s.toList with
    | nil => exact absurd (String.toList_eq_nil_iff.mp h) hs
    | cons c cs => exact ⟨c, cs, rfl⟩
  obtain ⟨d, ds, hfront, hdelimiter, hcolon, hpattern⟩ := front_quoteFrom true c cs
  have hkeyword := keywordAhead?_quoteFrom true true (c :: cs) hrest
  rw [hfront, List.cons_append] at hkeyword
  let st : TagState := ⟨d :: (ds ++ rest), asValue, [], true⟩
  obtain ⟨start, hscan⟩ := scanTag_quoteFrom options st true (c :: cs) hrest
  have htag : Term.ofTag (String.ofList (guarded true (c :: cs))) = .literal s := by
    rw [← hcs, ofTag_guarded hslash, String.ofList_toList]
  refine ⟨st.add (guarded true (c :: cs)) start, rfl, htag, ?_⟩
  rw [show quoteFrom false true st.literalStart (c :: cs) = d :: ds from hfront] at hscan
  rw [htext, hcs, hfront, List.cons_append,
    scanOne_tag_of_ne options asValue hdelimiter hcolon hpattern hkeyword]
  exact hscan

/-- A pattern that its slashes can hold is written between them. -/
theorem readsTerm_slashes (asValue : Bool) {p : String}
    (hp : ∀ c ∈ p.toList, isMarked c = false) (hslash : '/' ∉ p.toList)
    (hlast : p.toList.getLast? ≠ some '\\') (rest : List Char) :
    ReadsTerm asValue (.pattern p) rest := by
  have htext : (Term.pattern p).canonical.toList ++ rest = '/' :: (p.toList ++ '/' :: rest) := by
    simp [Term.canonical, hslash, hlast]
  have hsplit := splitUnescaped_append hslash hlast rest
  refine ⟨TagState.add ⟨'/' :: (p.toList ++ '/' :: rest), asValue, [], true⟩
    ('/' :: p.toList ++ ['/']) false, rfl, Term.ofTag_slashes hp, ?_⟩
  rw [htext, scanOne_tag {} asValue (by decide) (by decide)
    (keywordAhead?_cons _ (.inr (.inl rfl))), scanWholeTag, hsplit]

/-- A base64 literal that can be decoded adds its text. -/
theorem scanTag_base64 {options : ScanOptions} (hdecode : options.decodeBase64 = true)
    (st : TagState) {tail text : List Char} {l : Base64Literal} (hstart : st.literalStart = true)
    (hahead : base64Ahead tail = true) (hread : readBase64 tail = some l)
    (htext : l.decoded? = some text) :
    scanTag options st ('b' :: tail) = scanTag options (st.add text false) l.rest := by
  have hdelimiter : isDelimiter 'b' = false := by decide
  rw [scanTag, if_neg (by simp), if_neg (by simp [hdelimiter]), if_neg (by simp),
    if_pos ⟨rfl, hstart, hahead⟩]
  split
  · next heq => rw [hread] at heq; cases heq
  · next heq =>
    rw [hread] at heq
    cases heq
    rw [if_pos hdecode, htext]

/-- A base64 literal that can be decoded is read as the tag of its text. -/
theorem readsTag_base64 {options : ScanOptions} (hdecode : options.decodeBase64 = true)
    (asValue : Bool) {text inside rest : List Char} {l : Base64Literal}
    (hahead : base64Ahead (text ++ rest) = true) (hread : readBase64 (text ++ rest) = some l)
    (hrest : l.rest = rest) (hdecoded : l.decoded? = some inside) :
    ReadsTag options asValue ('b' :: text) (.ofTag (String.ofList inside)) rest := by
  subst hrest
  let st : TagState := ⟨'b' :: (text ++ l.rest), asValue, [], true⟩
  refine ⟨st.add inside false, rfl, rfl, ?_⟩
  have hkeyword := keywordAhead?_cons (text ++ l.rest) (.inr (.inr (Eq.refl 'b')))
  rw [List.cons_append,
    scanOne_tag_of_ne options asValue (by decide) (by decide) (by decide) hkeyword]
  exact scanTag_base64 hdecode st rfl hahead hread hdecoded

/-- Any other pattern is written in base64. -/
theorem readsTerm_base64 (asValue : Bool) {p : String}
    (hp : ∀ c ∈ p.toList, isMarked c = false)
    (hcoded : '/' ∈ p.toList ∨ p.toList.getLast? = some '\\') (rest : List Char) :
    ReadsTerm asValue (.pattern p) rest := by
  let payload := Base64.encodeString .urlSafe p
  let text := '[' :: 'u' :: 'r' :: 'l' :: ']' :: '/' :: (payload ++ ['/'])
  have htext : (Term.pattern p).canonical.toList = 'b' :: text := by
    simp [Term.canonical, hcoded, text, payload]
  have hread : readBase64 (text ++ rest) = some ⟨['u', 'r', 'l'], '/', payload, rest⟩ :=
    readBase64_of_readLabel (by simp [text, readLabel]) (Base64.slash_notMem_encodeString p)
  have hdecoded : Base64Literal.decoded? ⟨['u', 'r', 'l'], '/', payload, rest⟩ =
      some ('/' :: p.toList ++ ['/']) := by
    simp [Base64Literal.decoded?, Base64Literal.alphabet, payload,
      Base64.decodeString_encodeString]
  rw [ReadsTerm, htext, ← Term.ofTag_slashes hp]
  exact readsTag_base64 rfl asValue rfl hread rfl hdecoded

/-- A written term is read back, whatever closes it. -/
theorem readsTerm (asValue : Bool) {term : Term} (hterm : term.IsHeld) {rest : List Char}
    (hrest : Closes rest) : ReadsTerm asValue term rest := by
  cases term with
  | literal s => exact readsTag_quoteLiteral {} asValue hterm hrest
  | pattern p =>
    by_cases hcoded : '/' ∈ p.toList ∨ p.toList.getLast? = some '\\'
    · exact readsTerm_base64 asValue hterm hcoded rest
    · rw [not_or] at hcoded
      exact readsTerm_slashes asValue hterm hcoded.1 hcoded.2 rest

/-! ## Values and categories -/

/-- Nothing stands behind a condition or a group, or a character that ends it. -/
def EndsItem (rest : List Char) : Prop :=
  ∀ c ∈ rest.head?, c = ',' ∨ c = ')'

theorem EndsItem.closes {rest : List Char} (h : EndsItem rest) : Closes rest :=
  fun c hc => (h c hc).imp_right .inl

/-- A tag at the end of an item is scanned as a value. -/
theorem ReadsTag.scanOne_value {options : ScanOptions} {asValue : Bool} {text rest : List Char}
    {term : Term} (h : ReadsTag options asValue text term rest)
    (hcategories : options.categories = false) (hrest : EndsItem rest) :
    ∃ tag, Term.ofTag (String.ofList tag) = term ∧
      scanOne options asValue (text ++ rest) = ⟨.tagValue, tag, rest⟩ := by
  obtain ⟨st, -, htag, hscan⟩ := h
  refine ⟨st.text, htag, ?_⟩
  rw [hscan]
  cases rest with
  | nil => simp [scanTag, TagState.finish, hcategories]
  | cons c cs =>
    have hdelimiter : isDelimiter c = true := by
      rcases hrest c rfl with rfl | rfl <;> decide
    have hcolon : c ≠ ':' := by
      rcases hrest c rfl with rfl | rfl <;> decide
    rw [scanTag, if_neg (by simp [hcolon]), if_pos hdelimiter, TagState.finish, hcategories]
    rfl

/-- A tag before a colon is scanned as a category. -/
theorem ReadsTag.scanOne_category {options : ScanOptions} {text rest : List Char} {term : Term}
    (h : ReadsTag options false text term (':' :: rest)) :
    ∃ tag, Term.ofTag (String.ofList tag) = term ∧
      scanOne options false (text ++ ':' :: rest) = ⟨.tagCategory, tag, rest⟩ := by
  obtain ⟨st, hvalue, htag, hscan⟩ := h
  refine ⟨st.text, htag, ?_⟩
  rw [hscan, scanTag, if_pos ⟨rfl, hvalue⟩]

end TagSearch
