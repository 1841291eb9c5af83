import TagSearch.Proofs.Base64Literal
import TagSearch.Proofs.Grammar
import TagSearch.Proofs.Items

/-!
# Where syntax errors point

A syntax error holds an offset into the search and a literal.  The literal of a tag is rewritten as
it is scanned, but such a tag is never what an error quotes: the literal is the text at the offset,
or, for blanks behind a category, the name of the category, and the offset is that of the blanks.

What a scan takes is a piece from the front of the text, which for all tokens but tags is the
literal itself.  While the parser reads, the tokens are those that remain from some place of the
text on, and the keywords of the open groups stand in the text as they are written.

Main results:

- Definition `TakesFront`: what a scan can take from the front of a text.
- Theorem `takesFront_scanOne`: a scan takes nothing else.
- Theorem `Scanner.Reaches.exists_following`: a token takes the scanner from one place of a text to
  another.
- Definition `SyntaxError.PointsInto`: what it means that an error points into a search.
- Theorem `pointsInto_of_parseTokens`: wherever the parser fails, its error does.
- Theorem `Tree.pointsInto_of_parse`: the error of a search that is refused points into it.
-/

namespace TagSearch

/-! ## The rest of a segment -/

theorem suffix_of_readQuoted {cs text rest : List Char} (h : readQuoted cs = some (text, rest)) :
    rest <:+ cs := by
  fun_induction readQuoted cs generalizing text with
  | case1 => cases h
  | case2 cs =>
    cases h
    exact List.suffix_cons _ _
  | case3 cs ih =>
    obtain ⟨⟨text', rest'⟩, hread, hpair⟩ := Option.map_eq_some_iff.mp h
    cases hpair
    exact (ih hread).trans ⟨['\\', '"'], rfl⟩
  | case4 c cs _ _ ih =>
    obtain ⟨⟨text', rest'⟩, hread, hpair⟩ := Option.map_eq_some_iff.mp h
    cases hpair
    exact (ih hread).trans (List.suffix_cons _ _)

theorem suffix_of_readLabel (cs : List Char) : (readLabel cs).2 <:+ cs := by
  unfold readLabel
  split
  · exact ((List.drop_suffix _ _).trans (List.dropWhile_suffix _)).trans (List.suffix_cons _ _)
  · exact List.suffix_rfl

theorem suffix_of_readBase64 {cs : List Char} {l : Base64Literal} (h : readBase64 cs = some l) :
    l.rest <:+ cs := by
  have hlabel := suffix_of_readLabel cs
  unfold readBase64 at h
  split at h
  · cases h
  · next label delimiter body heq =>
    rw [heq] at hlabel
    split at h
    · cases h
    · next c rest hrest =>
      obtain rfl := Option.some.inj h
      have hbody : c :: rest <:+ body := hrest ▸ List.dropWhile_suffix _
      exact (((List.suffix_cons c rest).trans hbody).trans (List.suffix_cons _ _)).trans hlabel

/-! ## What one scan takes -/

/-- What a scan can take from the front of a text where tags are values.  A colon ends a category
and belongs to a value; every token but a tag is taken as it stands. -/
inductive TakesFront : List Char → Bool → Scanned → Prop where
  | eof {asValue : Bool} : TakesFront [] asValue ⟨.eof, [], []⟩
  | whitespace {blanks rest : List Char} {asValue : Bool} (hne : blanks ≠ [])
      (hblank : ∀ c ∈ blanks, Text.isBlank c = true) :
      TakesFront (blanks ++ rest) asValue ⟨.whitespace, blanks, rest⟩
  | lParen {rest : List Char} {asValue : Bool} :
      TakesFront ('(' :: rest) asValue ⟨.lParen, ['('], rest⟩
  | rParen {rest : List Char} {asValue : Bool} :
      TakesFront (')' :: rest) asValue ⟨.rParen, [')'], rest⟩
  | comma {rest : List Char} {asValue : Bool} :
      TakesFront (',' :: rest) asValue ⟨.comma, [','], rest⟩
  | colon {rest : List Char} : TakesFront (':' :: rest) false ⟨.colon, [':'], rest⟩
  | keyword {op : Operator} {rest : List Char} {asValue : Bool} :
      TakesFront (op.keyword.toList ++ '(' :: rest) asValue
        ⟨.keyword, op.keyword.toList, '(' :: rest⟩
  | illegal {text rest : List Char} {asValue : Bool} :
      TakesFront (text ++ rest) asValue ⟨.illegal, text, rest⟩
  | tagValue {text literal rest : List Char} {asValue : Bool} :
      TakesFront (text ++ rest) asValue ⟨.tagValue, literal, rest⟩
  | tagCategory {name literal rest : List Char} :
      TakesFront (name ++ ':' :: rest) false ⟨.tagCategory, literal, rest⟩

variable {options : ScanOptions} {asValue : Bool}

/-- How a tag can end whose characters from `cs` on are still to be scanned. -/
inductive EndsTag (st : TagState) (cs : List Char) : Scanned → Prop where
  | illegal {rest : List Char} (hrest : rest <:+ cs) : EndsTag st cs (st.illegal rest)
  | value {literal rest : List Char} (hrest : rest <:+ cs) :
      EndsTag st cs ⟨.tagValue, literal, rest⟩
  | category {literal rest : List Char} (hvalue : st.asValue = false) (hrest : ':' :: rest <:+ cs) :
      EndsTag st cs ⟨.tagCategory, literal, rest⟩

theorem EndsTag.of_suffix {st : TagState} {cs cs' segment : List Char} {start : Bool} {r : Scanned}
    (h : EndsTag (st.add segment start) cs' r) (hcs : cs' <:+ cs) : EndsTag st cs r := by
  cases h with
  | illegal hrest => exact .illegal (hrest.trans hcs)
  | value hrest => exact .value (hrest.trans hcs)
  | category hvalue hrest => exact .category hvalue (hrest.trans hcs)

theorem endsTag_finish (hcategories : options.categories = false) {st : TagState}
    {cs rest : List Char} (hrest : rest <:+ cs) : EndsTag st cs (st.finish options rest) := by
  rw [TagState.finish, hcategories]
  exact .value hrest

/-- A tag ends in no other way. -/
theorem endsTag_scanTag (hcategories : options.categories = false) (st : TagState)
    (cs : List Char) : EndsTag st cs (scanTag options st cs) := by
  fun_induction scanTag options st cs with
  | case1 | case3 => exact endsTag_finish hcategories List.suffix_rfl
  | case2 st c cs hcolon =>
    obtain ⟨rfl, hvalue⟩ := hcolon
    exact .category hvalue List.suffix_rfl
  | case4 | case6 => exact .illegal List.nil_suffix
  | case5 st cs text rest hread _ _ ih =>
    exact ih.of_suffix ((suffix_of_readQuoted hread).trans (List.suffix_cons _ _))
  | case7 st c cs _ _ _ _ l hread =>
    exact .illegal ((suffix_of_readBase64 hread).trans (List.suffix_cons _ _))
  | case8 st c cs _ _ _ _ l hread _ _ _ ih | case9 st c cs _ _ _ _ l hread _ ih =>
    exact ih.of_suffix ((suffix_of_readBase64 hread).trans (List.suffix_cons _ _))
  | case10 st c cs _ _ _ _ ih => exact ih.of_suffix (List.suffix_cons _ _)

theorem taken_append {before after : List Char} (h : after <:+ before) :
    taken before after ++ after = before := by
  obtain ⟨front, rfl⟩ := h
  rw [taken, List.length_append, Nat.add_sub_cancel, List.take_left]

/-- A tag is taken from the front of the text in which it starts. -/
theorem EndsTag.takesFront {st : TagState} {source cs : List Char} {r : Scanned}
    (h : EndsTag st cs r) (hsource : st.source = source) (hasValue : st.asValue = asValue)
    (hcs : cs <:+ source) : TakesFront source asValue r := by
  subst hsource hasValue
  cases h with
  | @illegal rest hrest =>
    have htakes : TakesFront (taken st.source rest ++ rest) st.asValue (st.illegal rest) := .illegal
    rwa [taken_append (hrest.trans hcs)] at htakes
  | value hrest =>
    obtain ⟨text, htext⟩ := hrest.trans hcs
    rw [← htext]
    exact .tagValue
  | category hvalue hrest =>
    obtain ⟨name, hname⟩ := hrest.trans hcs
    rw [← hname, hvalue]
    exact .tagCategory

theorem takesFront_scanWholeTag (hcategories : options.categories = false) (asValue : Bool)
    (cs : List Char) : TakesFront cs asValue (scanWholeTag options asValue cs) := by
  unfold scanWholeTag
  simp only
  split
  · next body =>
    split
    · next text rest hsplit =>
      refine (endsTag_scanTag hcategories _ rest).takesFront rfl rfl ?_
      rw [eq_append_of_splitUnescaped hsplit]
      exact ⟨'/' :: text ++ ['/'], by simp⟩
    · exact (endsTag_scanTag hcategories _ _).takesFront rfl rfl List.suffix_rfl
  · exact (endsTag_scanTag hcategories _ _).takesFront rfl rfl List.suffix_rfl

theorem eq_append_of_afterWord? {word cs rest : List Char} (h : afterWord? word cs = some rest) :
    cs = word ++ rest := by
  fun_induction afterWord? word cs with
  | case1 => exact Option.some.inj h
  | case2 => cases h
  | case3 w ws cs ih => rw [ih h, List.cons_append]
  | case4 => cases h

/-- A keyword is found before its parenthesis. -/
theorem eq_append_of_keywordAhead? {cs : List Char} {op : Operator}
    (h : keywordAhead? cs = some op) : ∃ rest, cs = op.keyword.toList ++ '(' :: rest := by
  have hword := List.find?_some h
  obtain ⟨rest, hrest⟩ := Option.isSome_iff_exists.mp hword
  refine ⟨rest, ?_⟩
  rw [eq_append_of_afterWord? hrest, List.append_assoc, List.singleton_append]

/-- What is taken from the front of a text. -/
theorem takesFront_scanOne (hcategories : options.categories = false) (asValue : Bool)
    (cs : List Char) : TakesFront cs asValue (scanOne options asValue cs) := by
  unfold scanOne
  split
  · exact .eof
  · next c cs =>
    split
    · next hblank =>
      have htakes : TakesFront (Text.takeBlank (c :: cs) ++ Text.trimStart (c :: cs)) asValue
          ⟨.whitespace, Text.takeBlank (c :: cs), Text.trimStart (c :: cs)⟩ := by
        refine .whitespace ?_ fun d hd => Text.isBlank_of_mem_takeBlank hd
        simp [Text.takeBlank, hblank]
      rwa [Text.takeBlank_append_trimStart] at htakes
    split
    · next h => subst h; exact .lParen
    split
    · next h => subst h; exact .rParen
    split
    · next h => subst h; exact .comma
    split
    · next h =>
      obtain ⟨rfl, rfl⟩ := h
      exact .colon
    split
    · next op hop =>
      obtain ⟨rest, hrest⟩ := eq_append_of_keywordAhead? hop
      rw [hrest, ← String.length_toList, List.drop_left]
      exact .keyword
    · exact takesFront_scanWholeTag hcategories asValue _

/-- What is left behind a token is the end of the text. -/
theorem TakesFront.rest_suffix {cs : List Char} {r : Scanned} (h : TakesFront cs asValue r) :
    r.rest <:+ cs := by
  cases h with
  | eof => exact List.suffix_rfl
  | whitespace | keyword | illegal | tagValue => exact List.suffix_append _ _
  | lParen | rParen | comma | colon => exact List.suffix_cons _ _
  | tagCategory => exact (List.suffix_cons _ _).trans (List.suffix_append _ _)

/-- A token other than a tag is taken as it stands. -/
theorem TakesFront.literal_prefix {cs : List Char} {r : Scanned} (h : TakesFront cs asValue r)
    (hvalue : r.kind ≠ .tagValue) (hcategory : r.kind ≠ .tagCategory) : r.literal <+: cs := by
  cases h with
  | eof => exact List.prefix_rfl
  | whitespace | keyword | illegal => exact List.prefix_append _ _
  | lParen | rParen | comma | colon => exact ⟨_, rfl⟩
  | tagValue => exact absurd rfl hvalue
  | tagCategory => exact absurd rfl hcategory

section Kinds

variable {cs literal rest : List Char}

theorem TakesFront.rest_of_keyword (h : TakesFront cs asValue ⟨.keyword, literal, rest⟩) :
    ∃ inside, rest = '(' :: inside := by
  cases h
  exact ⟨_, rfl⟩

/-- A colon ended the category, which is no value. -/
theorem TakesFront.colon_of_tagCategory (h : TakesFront cs asValue ⟨.tagCategory, literal, rest⟩) :
    asValue = false ∧ ∃ name, cs = name ++ ':' :: rest := by
  cases h
  exact ⟨rfl, _, rfl⟩

theorem TakesFront.blanks_of_whitespace (h : TakesFront cs asValue ⟨.whitespace, literal, rest⟩) :
    cs = literal ++ rest ∧ literal ≠ [] ∧ ∀ c ∈ literal, Text.isBlank c = true := by
  cases h with
  | whitespace hne hblank => exact ⟨rfl, hne, hblank⟩

/-- What is scanned as a terminator is one. -/
theorem TakesFront.endsItem {t : Token} (h : TakesFront cs asValue ⟨t.kind, literal, rest⟩)
    (ht : t.isTerminator = true) : EndsItem cs := by
  simp only [Token.isTerminator, Bool.or_eq_true, beq_iff_eq] at ht
  rcases ht with (ht | ht) | ht
  · rw [ht] at h
    cases h
    intro c hc
    cases hc
  · rw [ht] at h
    cases h
    intro c hc
    exact .inr (Option.some.inj hc).symm
  · rw [ht] at h
    cases h
    intro c hc
    exact .inl (Option.some.inj hc).symm

end Kinds

/-! ## Scanners on their way -/

namespace Scanner

/-- The scanner behind the next token, told what the parser tells it. -/
def following (s : Scanner) : Scanner :=
  if s.next.1.kind == .tagCategory then s.next.2.expectValue else s.next.2

theorem tokens_eq_cons {s : Scanner} (h : s.rest ≠ []) :
    s.tokens true = s.next.1 :: s.following.tokens true := by
  rw [tokens, dif_neg h]
  rfl

/-- A scanner has come to stand in the text `input`. -/
structure Reaches (input : String) (options : ScanOptions) (s : Scanner) : Prop where
  options_eq : s.options = options
  position : ∃ front, input.toList = front ++ s.rest ∧ s.offset = front.length
  tokens_suffix : s.tokens true <:+ (ofString input options).tokens true

variable {input : String} {options : ScanOptions} {s : Scanner} {t : Token} {ts : List Token}

theorem reaches_ofString (input : String) (options : ScanOptions) :
    Reaches input options (ofString input options) where
  options_eq := rfl
  position := ⟨[], rfl, rfl⟩
  tokens_suffix := List.suffix_rfl

/-- From a place in a text a token takes the scanner to a later one. -/
theorem Reaches.exists_following (hs : s.Reaches input options)
    (hcategories : options.categories = false) (htokens : s.tokens true = t :: ts) :
    ∃ s' : Scanner, s'.Reaches input options ∧ s'.tokens true = ts ∧ t.offset = s.offset ∧
      scanOne options s.valueNext s.rest = ⟨t.kind, t.literal.toList, s'.rest⟩ ∧
      s'.valueNext = (t.kind == .tagCategory || (s.valueNext && t.kind == .whitespace)) := by
  have hne : s.rest ≠ [] := by
    intro hnil
    rw [tokens, dif_pos hnil] at htokens
    cases htokens
  have hcons := tokens_eq_cons hne
  rw [htokens, List.cons.injEq] at hcons
  obtain ⟨rfl, rfl⟩ := hcons
  obtain ⟨front, hinput, hoffset⟩ := hs.position
  have htakes := takesFront_scanOne hcategories s.valueNext s.rest
  have hoptions := hs.options_eq
  obtain ⟨text, htext⟩ := htakes.rest_suffix
  have hstep : s.following.rest = (scanOne options s.valueNext s.rest).rest ∧
      s.following.offset = s.offset + (s.rest.length - s.following.rest.length) ∧
      s.following.options = s.options ∧
      s.following.valueNext = (s.next.1.kind == .tagCategory ||
        (s.valueNext && s.next.1.kind == .whitespace)) := by
    rw [← hoptions, following]
    split
    · next hkind =>
      rw [hkind]
      exact ⟨rfl, rfl, rfl, rfl⟩
    · next hkind =>
      rw [Bool.not_eq_true] at hkind
      rw [hkind]
      exact ⟨rfl, rfl, rfl, rfl⟩
  obtain ⟨hrest, hlater, hsame, hvalue⟩ := hstep
  refine ⟨s.following, ⟨hsame.trans hoptions, ⟨front ++ text, ?_, ?_⟩, ?_⟩, rfl, rfl, ?_, hvalue⟩
  · rw [hrest, hinput, List.append_assoc, htext]
  · have hlength : s.rest.length = text.length + s.following.rest.length := by
      rw [hrest, ← List.length_append, htext]
    rw [hlater, hlength, hoffset, List.length_append, Nat.add_sub_cancel]
  · refine List.IsSuffix.trans ?_ hs.tokens_suffix
    rw [tokens_eq_cons hne]
    exact List.suffix_cons _ _
  · rw [hrest]
    simp [next, hoptions]

end Scanner

/-! ## Errors -/

/-- A fault points at the text that it quotes, or at the blanks behind the category that it
names. -/
structure SyntaxError.PointsInto (e : SyntaxError) (options : ScanOptions) (input : String) :
    Prop where
  offset_le : e.offset ≤ input.length
  /-- The text that is quoted begins at the offset. -/
  quotes : e.fault ≠ .invalidWhitespace → e.literal.toList <+: input.toList.drop e.offset
  /-- The category is a token of the input, the colon that ends it stands directly before the
  offset, and blanks from there on reach a comma, a closing parenthesis or the end. -/
  names : e.fault = .invalidWhitespace → ∃ front name blanks rest,
    input.toList = front ++ name ++ ':' :: (blanks ++ rest) ∧
    e.offset = (front ++ name).length + 1 ∧
    Token.mk .tagCategory e.literal front.length ∈
      (Scanner.ofString input options).tokens true ∧
    scanOne options false (name ++ ':' :: (blanks ++ rest)) =
      ⟨.tagCategory, e.literal.toList, blanks ++ rest⟩ ∧
    blanks ≠ [] ∧ (∀ c ∈ blanks, Text.isBlank c = true) ∧ EndsItem rest

/-- A token stands in a text as it is written. -/
def Token.IsVerbatim (t : Token) (input : String) : Prop :=
  ∃ front, t.offset = front.length ∧ front ++ t.literal.toList <+: input.toList

variable {input primary : String} {options : ScanOptions} {t v w : Token}
  {groups : List OpenGroup} {comparison : Comparison} {done : List Node} {ts : List Token}
  {e : SyntaxError}

theorem SyntaxError.pointsInto_ofToken {fault : SyntaxFault} (hfault : fault ≠ .invalidWhitespace)
    (ht : t.IsVerbatim input) : (SyntaxError.ofToken fault t).PointsInto options input := by
  obtain ⟨front, hoffset, rest, hinput⟩ := ht
  refine ⟨?_, fun _ => ?_, fun h => absurd h hfault⟩
  · rw [ofToken, hoffset, ← String.length_toList, ← hinput]
    simp
  · rw [ofToken, hoffset, ← hinput, List.append_assoc, List.drop_left]
    exact List.prefix_append _ _

/-- The tokens are those that remain from some place of a text on. -/
def Remains (input : String) (options : ScanOptions) (ts : List Token) : Prop :=
  ∃ s : Scanner, s.Reaches input options ∧ s.tokens true = ts

namespace Remains

variable (hcategories : options.categories = false)

include hcategories

theorem tail (h : Remains input options (t :: ts)) : Remains input options ts := by
  obtain ⟨s, hs, htokens⟩ := h
  obtain ⟨s', hs', htokens', -⟩ := hs.exists_following hcategories htokens
  exact ⟨s', hs', htokens'⟩

/-- A token other than a tag stands as it is written. -/
theorem isVerbatim (h : Remains input options (t :: ts)) (hvalue : t.kind ≠ .tagValue)
    (hcategory : t.kind = .tagCategory → t.literal = "") : t.IsVerbatim input := by
  obtain ⟨s, hs, htokens⟩ := h
  obtain ⟨s', hs', -, hoffset, hscan, -⟩ := hs.exists_following hcategories htokens
  obtain ⟨front, hinput, hfront⟩ := hs.position
  refine ⟨front, hoffset.trans hfront, ?_⟩
  rw [hinput, List.prefix_append_right_inj]
  by_cases hkind : t.kind = .tagCategory
  · rw [hcategory hkind]
    exact List.nil_prefix
  · have htakes := takesFront_scanOne hcategories s.valueNext s.rest
    rw [hscan] at htakes
    exact htakes.literal_prefix hvalue hkind

/-- A parenthesis follows a keyword. -/
theorem behind_keyword (h : Remains input options (t :: v :: ts)) (ht : t.kind = .keyword) :
    v.kind = .lParen := by
  obtain ⟨s, hs, htokens⟩ := h
  obtain ⟨s₁, hs₁, htokens₁, -, hscan, -⟩ := hs.exists_following hcategories htokens
  obtain ⟨s₂, -, -, -, hscan₁, -⟩ := hs₁.exists_following hcategories htokens₁
  have htakes := takesFront_scanOne hcategories s.valueNext s.rest
  rw [hscan, ht] at htakes
  obtain ⟨inside, hinside⟩ := htakes.rest_of_keyword
  rw [hinside, scanOne, if_neg (by decide), if_pos rfl] at hscan₁
  exact (congrArg Scanned.kind hscan₁).symm

/-- The tag behind a category is no category. -/
theorem behind_category (h : Remains input options (t :: v :: ts)) (ht : t.kind = .tagCategory) :
    v.kind ≠ .tagCategory := by
  obtain ⟨s, hs, htokens⟩ := h
  obtain ⟨s₁, hs₁, htokens₁, -, -, hnext⟩ := hs.exists_following hcategories htokens
  obtain ⟨s₂, -, -, -, hscan₁, -⟩ := hs₁.exists_following hcategories htokens₁
  have htakes := takesFront_scanOne hcategories s₁.valueNext s₁.rest
  intro hv
  rw [hscan₁, hv] at htakes
  rw [htakes.colon_of_tagCategory.1, ht] at hnext
  cases hnext

/-- Nor is the tag behind the blanks behind a category. -/
theorem behind_blank (h : Remains input options (t :: v :: w :: ts)) (ht : t.kind = .tagCategory)
    (hv : v.kind = .whitespace) : w.kind ≠ .tagCategory := by
  obtain ⟨s, hs, htokens⟩ := h
  obtain ⟨s₁, hs₁, htokens₁, -, -, hnext⟩ := hs.exists_following hcategories htokens
  obtain ⟨s₂, hs₂, htokens₂, -, -, hnext₁⟩ := hs₁.exists_following hcategories htokens₁
  obtain ⟨s₃, -, -, -, hscan₂, -⟩ := hs₂.exists_following hcategories htokens₂
  have htakes := takesFront_scanOne hcategories s₂.valueNext s₂.rest
  intro hw
  rw [hscan₂, hw] at htakes
  rw [htakes.colon_of_tagCategory.1, hnext, ht, hv] at hnext₁
  cases hnext₁

/-- Blanks that end the input or stand before a terminator, behind a category. -/
theorem names (h : Remains input options (t :: v :: ts)) (ht : t.kind = .tagCategory)
    (hv : v.kind = .whitespace) (hend : ∀ w ∈ ts.head?, w.isTerminator = true) :
    (SyntaxError.mk .invalidWhitespace t.literal v.offset).PointsInto options input := by
  obtain ⟨s, hs, htokens⟩ := h
  obtain ⟨s₁, hs₁, htokens₁, hoffset, hscan, -⟩ := hs.exists_following hcategories htokens
  obtain ⟨s₂, hs₂, htokens₂, hoffset₁, hscan₁, -⟩ := hs₁.exists_following hcategories htokens₁
  obtain ⟨front, hinput, hfront⟩ := hs.position
  obtain ⟨front₁, hinput₁, hfront₁⟩ := hs₁.position
  have htakes := takesFront_scanOne hcategories s.valueNext s.rest
  rw [hscan, ht] at htakes
  obtain ⟨hvalue, name, hname⟩ := htakes.colon_of_tagCategory
  have htakes₁ := takesFront_scanOne hcategories s₁.valueNext s₁.rest
  rw [hscan₁, hv] at htakes₁
  obtain ⟨hblanks, hne, hblank⟩ := htakes₁.blanks_of_whitespace
  have hends : EndsItem s₂.rest := by
    cases ts with
    | nil =>
      have hnil : s₂.rest = [] := by
        by_contra hne
        rw [Scanner.tokens_eq_cons hne] at htokens₂
        cases htokens₂
      rw [hnil]
      exact fun c hc => nomatch hc
    | cons w ts =>
      obtain ⟨s₃, -, -, -, hscan₂, -⟩ := hs₂.exists_following hcategories htokens₂
      have htakes₂ := takesFront_scanOne hcategories s₂.valueNext s₂.rest
      rw [hscan₂] at htakes₂
      exact htakes₂.endsItem (hend w rfl)
  have hlast : (front ++ name).length + 1 = v.offset := by
    have hlength := congrArg List.length (hinput.symm.trans hinput₁)
    rw [hname, List.length_append, List.length_append, List.length_append, List.length_cons]
      at hlength
    rw [hoffset₁, hfront₁, List.length_append]
    omega
  rw [hblanks] at hname
  refine ⟨?_, fun hfault => absurd rfl hfault, fun _ => ?_⟩
  · rw [← String.length_toList, hinput₁, hoffset₁, hfront₁, List.length_append]
    exact Nat.le_add_right _ _
  · refine ⟨front, name, v.literal.toList, s₂.rest, ?_, hlast.symm, ?_, ?_, hne, hblank, hends⟩
    · rw [hinput, hname, List.append_assoc]
    · have hmem : t ∈ s.tokens true := by
        rw [htokens]
        exact List.mem_cons_self
      have htoken : Token.mk .tagCategory t.literal front.length = t := by
        rw [← ht, ← hfront, ← hoffset]
      rw [htoken]
      exact hs.tokens_suffix.mem hmem
    · rw [← hname, ← hvalue, hscan, ht, hblanks]

/-- A fault at the first of the tokens that remain. -/
theorem pointsInto {fault : SyntaxFault} (h : Remains input options (t :: ts))
    (hfault : fault ≠ .invalidWhitespace) (hvalue : t.kind ≠ .tagValue)
    (hcategory : t.kind = .tagCategory → t.literal = "")
    (herror : (Except.error (.ofToken fault t) : Except SyntaxError (List Node)) = .error e) :
    e.PointsInto options input := by
  rw [← Except.error.inj herror]
  exact SyntaxError.pointsInto_ofToken hfault (h.isVerbatim hcategories hvalue hcategory)

end Remains

/-- A group without members is reported at its keyword. -/
theorem pointsInto_of_close {g : OpenGroup} (hg : g.keyword.IsVerbatim input)
    (h : g.close done = .error e) : e.PointsInto options input := by
  rw [OpenGroup.close] at h
  split at h
  · rw [← Except.error.inj h]
    exact SyntaxError.pointsInto_ofToken (by decide) hg
  · cases h

theorem pointsInto_of_closeAll (hgroups : ∀ g ∈ groups, g.keyword.IsVerbatim input)
    (h : closeAll groups done = .error e) : e.PointsInto options input := by
  induction groups generalizing done with
  | nil => cases h
  | cons g gs ih =>
    rw [closeAll] at h
    cases hclose : g.close done with
    | error e' =>
      rw [hclose] at h
      rw [← Except.error.inj h]
      exact pointsInto_of_close (hgroups g List.mem_cons_self) hclose
    | ok closed =>
      rw [hclose] at h
      exact ih (fun g' hg' => hgroups g' (List.mem_cons_of_mem g hg')) h

/-- Wherever the parser fails, its error points into the text. -/
theorem pointsInto_of_parseTokens (hcategories : options.categories = false)
    (hgroups : ∀ g ∈ groups, g.keyword.IsVerbatim input) (hts : Remains input options ts)
    (h : parseTokens primary groups comparison done ts = .error e) :
    e.PointsInto options input := by
  fun_induction parseTokens primary groups comparison done ts with
  | case1 => exact pointsInto_of_closeAll hgroups h
  -- separators
  | case2 _ _ _ _ _ _ ih | case3 _ _ _ _ _ _ ih => exact ih hgroups (hts.tail hcategories) h
  -- a group closes
  | case4 _ _ t _ ht =>
    exact hts.pointsInto hcategories (by decide) (by simp [ht]) (by simp [ht]) h
  | case5 _ _ _ _ _ g gs e' hclose =>
    rw [← Except.error.inj h]
    exact pointsInto_of_close (hgroups g List.mem_cons_self) hclose
  | case6 _ _ _ _ _ g gs _ _ ih =>
    exact ih (fun g' hg' => hgroups g' (List.mem_cons_of_mem g hg')) (hts.tail hcategories) h
  -- a group opens
  | case7 _ _ _ t ht _ p _ _ _ ih =>
    refine ih ?_ ((hts.tail hcategories).tail hcategories) h
    refine List.forall_mem_cons.mpr ⟨?_, hgroups⟩
    exact hts.isVerbatim hcategories (by simp [ht]) (by simp [ht])
  | case8 _ _ _ t ht _ p _ _ hp => exact absurd (hts.behind_keyword hcategories ht) hp
  | case9 _ _ _ t _ ht =>
    exact hts.pointsInto hcategories (by decide) (by simp [ht]) (by simp [ht]) h
  -- a value, and a category with what may follow it
  | case10 _ _ _ _ _ _ _ ih => exact ih hgroups (hts.tail hcategories) h
  | case11 _ _ _ t _ ht hempty =>
    exact hts.pointsInto hcategories (by decide) (by simp [ht]) (fun _ => hempty) h
  | case12 => exact pointsInto_of_closeAll hgroups h
  | case13 _ _ _ _ _ _ _ _ _ _ ih =>
    exact ih hgroups ((hts.tail hcategories).tail hcategories) h
  | case14 _ _ _ _ _ _ _ _ _ _ ih | case15 _ _ _ _ _ _ _ _ _ _ ih =>
    exact ih hgroups (hts.tail hcategories) h
  | case16 _ _ _ t ht _ v hv =>
    rw [← Except.error.inj h]
    exact hts.names hcategories ht hv fun w hw => by cases hw
  | case17 _ _ _ t ht _ v hv w _ hw =>
    rw [← Except.error.inj h]
    refine hts.names hcategories ht hv fun w' hw' => ?_
    rw [← Option.some.inj hw']
    exact hw
  | case18 _ _ _ _ _ _ _ _ _ _ _ _ _ ih =>
    exact ih hgroups (((hts.tail hcategories).tail hcategories).tail hcategories) h
  | case19 _ _ _ t ht _ v hv w _ _ hw =>
    have hcategory := hts.behind_blank hcategories ht hv
    exact ((hts.tail hcategories).tail hcategories).pointsInto hcategories (by decide) hw
      (fun hkind => absurd hkind hcategory) h
  | case20 _ _ _ t ht _ v _ hv =>
    have hcategory := hts.behind_category hcategories ht
    exact (hts.tail hcategories).pointsInto hcategories (by decide) hv
      (fun hkind => absurd hkind hcategory) h
  -- any other token
  | case21 _ _ _ t _ _ _ _ _ hvalue hcategory =>
    exact hts.pointsInto hcategories (by decide) hvalue (fun hkind => absurd hkind hcategory) h

/-- A search that is refused is refused with an error that points into it. -/
theorem Tree.pointsInto_of_parse (hcategories : options.categories = false)
    (h : Tree.parse input primary options = .error e) : e.PointsInto options input := by
  have hstart : Remains input options ((Scanner.ofString input options).tokens true) :=
    ⟨_, Scanner.reaches_ofString input options, rfl⟩
  rw [parse] at h
  generalize (if primary = "" then defaultPrimary else primary) = name at h
  cases hparse : parseTokens name [] .equal [] ((Scanner.ofString input options).tokens true) with
  | error e' =>
    rw [hparse] at h
    rw [← Except.error.inj h]
    exact pointsInto_of_parseTokens hcategories (List.forall_mem_nil _) hstart hparse
  | ok nodes =>
    rw [hparse] at h
    cases h

/-- Blanks behind a category whose name is quoted, after a value in base64 that is not ASCII. -/
theorem Tree.pointsInto_of_parse_blanks :
    let input := "é,b\"w6k=\",\"n?\": \t)"
    let e : SyntaxError := ⟨.invalidWhitespace, "n\ue001", 15⟩
    Tree.parse input = .error e ∧ e.PointsInto {} input := by
  intro input e
  have hparse : Tree.parse input = .error e := by decide +kernel
  exact ⟨hparse, pointsInto_of_parse rfl hparse⟩

end TagSearch
