import TagSearch.Query.Canonical

/-!
# Reading a quoted text back

A text that was quoted for a search is scanned as one tag, which ends where the quoted text
ends and holds the text that was quoted.  Only a slash at the front is held by its stand-in,
so that it opens no pattern.

Main results:

- Theorem `scanTag_quoteFrom`: inside a tag, a quoted text adds exactly the text that was
  quoted.
- Theorem `keywordAhead?_quoteFrom`: a quoted text is never read as a keyword.
- Theorem `ofTag_guarded`: the tag of a quoted text is the literal that was quoted.
-/

namespace TagSearch

/-! ## What stands behind a term -/

/-- Nothing stands behind a term, or a character that ends every term. -/
def Closes (rest : List Char) : Prop :=
  ∀ c ∈ rest.head?, c = ',' ∨ c = ')' ∨ c = ':'

theorem closes_cons {c : Char} (rest : List Char) (h : c = ',' ∨ c = ')' ∨ c = ':') :
    Closes (c :: rest) := by
  simpa [Closes] using h

theorem Closes.head_ne {rest : List Char} (h : Closes rest) {c d : Char} {cs : List Char}
    (heq : rest = c :: cs) (hd : d ≠ ',' ∧ d ≠ ')' ∧ d ≠ ':') : c ≠ d := by
  subst heq
  rintro rfl
  rcases h c rfl with hc | hc | hc
  · exact hd.1 hc
  · exact hd.2.1 hc
  · exact hd.2.2 hc

theorem Closes.base64Ahead {rest : List Char} (h : Closes rest) : base64Ahead rest = false := by
  cases rest with
  | nil => rfl
  | cons c cs =>
    rcases h c rfl with rfl | rfl | rfl <;> rfl

/-! ## Characters in quotes and outside -/

/-- How a tag holds a character of a text that was quoted: a slash at the front by its
stand-in, any other character as it is. -/
def held (first : Bool) (c : Char) : Char :=
  if first = true ∧ c = '/' then quotedSlash else c

/-- How a tag holds a text that was quoted. -/
def guarded (first : Bool) : List Char → List Char
  | [] => []
  | c :: cs => held first c :: cs

theorem guarded_false (cs : List Char) : guarded false cs = cs := by
  cases cs <;> simp [guarded, held]

/-- A character in quotes is neither a wildcard nor a backslash. -/
theorem ne_of_quotes {first start : Bool} {c : Char} {cs : List Char}
    (h : quotes first start c cs = true) : c ≠ '*' ∧ c ≠ '?' ∧ c ≠ '\\' := by
  unfold quotes at h
  split at h
  · simp at h
  · next hne => simpa [not_or] using hne

/-- A slash in quotes stands at the front. -/
theorem first_of_quotes_slash {first start : Bool} {cs : List Char}
    (h : quotes first start '/' cs = true) : first = true := by
  simpa [quotes] using h

/-- In quotes a character is read as it stands, also a backslash unless a quote follows it. -/
theorem readQuoted_cons {c : Char} {tail : List Char} (hquote : c ≠ '"')
    (hnext : c = '\\' → ∀ rest, tail ≠ '"' :: rest) :
    readQuoted (c :: tail) =
      (readQuoted tail).map fun (text, rest) => (protect c :: text, rest) := by
  rw [readQuoted]
  · exact hquote
  · exact fun rest hc => hnext hc rest

/-- In quotes, a written character is read as the tag holds it. -/
theorem readQuoted_written {first start : Bool} {c : Char} {cs : List Char}
    (hq : quotes first start c cs = true) (tail : List Char) :
    readQuoted (written c ++ tail) =
      (readQuoted tail).map fun (text, rest) => (held first c :: text, rest) := by
  obtain ⟨hstar, hquestion, hback⟩ := ne_of_quotes hq
  by_cases hquote : c = '"'
  · subst hquote
    simp [written, readQuoted, held]
  by_cases hs : c = quotedStar
  · subst hs
    simp [written, readQuoted, held, protect, quotedStar]
  by_cases hqm : c = quotedQuestion
  · subst hqm
    simp [written, readQuoted, held, protect, quotedStar, quotedQuestion]
  have hw : written c = [c] := by simp [written, hquote, hs, hqm]
  have hp : protect c = held first c := by
    by_cases hslash : c = '/'
    · subst hslash
      simp [held, protect, first_of_quotes_slash hq]
    · simp [held, protect, hstar, hquestion, hslash]
  rw [hw, List.singleton_append, readQuoted_cons hquote (fun heq => absurd heq hback), hp]

/-- What is known of a character outside quotes. -/
structure Bare (first : Bool) (c : Char) : Prop where
  not_quote : c ≠ '"'
  not_colon : c ≠ ':'
  not_delimiter : isDelimiter c = false
  written_eq : written c = [c]
  held_eq : held first c = c

theorem bare_of_quotes {first start : Bool} {c : Char} {cs : List Char}
    (h : quotes first start c cs = false) : Bare first c := by
  by_cases hspecial : c = '*' ∨ c = '?' ∨ c = '\\' ∨ c = 'b'
  · rcases hspecial with rfl | rfl | rfl | rfl <;>
      exact ⟨by decide, by decide, by decide, by decide, by simp [held]⟩
  · simp only [not_or] at hspecial
    obtain ⟨hstar, hquestion, hback, hb⟩ := hspecial
    by_cases hslash : c = '/'
    · subst hslash
      have hfirst : first = false := by simpa [quotes] using h
      exact ⟨by decide, by decide, by decide, by decide, by simp [held, hfirst]⟩
    · have hneeds : needsQuote c = false := by
        simpa [quotes, hstar, hquestion, hback, hb, hslash] using h
      simp only [needsQuote, Bool.or_eq_false_iff, beq_eq_false_iff_ne, ne_eq] at hneeds
      obtain ⟨⟨⟨⟨⟨⟨⟨hblank, hopen⟩, hclose⟩, hcomma⟩, hcolon⟩, hquote⟩, hs⟩, hqm⟩ := hneeds
      exact ⟨hquote, hcolon, by simp [isDelimiter, hopen, hclose, hcomma, hblank],
        by simp [written, hquote, hs, hqm], by simp [held, hslash]⟩

/-! ## The front of a quoted text -/

/-- A quoted text opens with a quote or with its first character. -/
theorem quoteFrom_cons_of_quotes {first start : Bool} {c : Char} {cs : List Char}
    (h : quotes first start c cs = true) :
    quoteFrom false first start (c :: cs) =
      '"' :: (written c ++ quoteFrom true false (c = '*' ∨ c = '?') cs) := by
  simp [quoteFrom, h]

theorem quoteFrom_cons_of_bare {first start : Bool} {c : Char} {cs : List Char}
    (h : quotes first start c cs = false) :
    quoteFrom false first start (c :: cs) = c :: quoteFrom false false (c = '*' ∨ c = '?') cs := by
  simp [quoteFrom, h, (bare_of_quotes h).written_eq]

/-- A quote that is open closes before the first character outside. -/
theorem quoteFrom_true_of_bare {first start : Bool} {c : Char} {cs : List Char}
    (h : quotes first start c cs = false) :
    quoteFrom true first start (c :: cs) = '"' :: quoteFrom false first start (c :: cs) := by
  simp [quoteFrom, h]

theorem quoteFrom_true_of_quotes {first start : Bool} {c : Char} {cs : List Char}
    (h : quotes first start c cs = true) :
    quoteFrom true first start (c :: cs) =
      written c ++ quoteFrom true false (c = '*' ∨ c = '?') cs := by
  simp [quoteFrom, h]

/-- No base64 literal opens at a `b` outside quotes. -/
theorem base64Ahead_quoteFrom {first : Bool} {cs rest : List Char}
    (h : quotes first true 'b' cs = false) (hrest : Closes rest) :
    base64Ahead (quoteFrom false false false cs ++ rest) = false := by
  cases cs with
  | nil => simpa [quoteFrom] using hrest.base64Ahead
  | cons n ns =>
    simp only [quotes, Bool.true_and, Char.reduceEq, or_self, if_false, if_true,
      Bool.or_eq_false_iff, beq_eq_false_iff_ne, ne_eq] at h
    obtain ⟨⟨hslash, hbracket⟩, hneeds⟩ := h
    have hq : quotes false false n ns = false := by
      simp [quotes, hneeds, hslash]
    have hquote := (bare_of_quotes hq).not_quote
    rw [quoteFrom_cons_of_bare hq, List.cons_append]
    unfold base64Ahead
    split <;> simp_all

/-! ## Scanning a quoted text -/

@[simp] theorem TagState.add_add (st : TagState) (a b : List Char) (p q : Bool) :
    (st.add a p).add b q = st.add (a ++ b) q := by
  simp [TagState.add]

@[simp] theorem TagState.literalStart_add (st : TagState) (a : List Char) (p : Bool) :
    (st.add a p).literalStart = p := rfl

/-- A character outside quotes is added as it is, unless it opens a base64 literal. -/
theorem scanTag_bare (options : ScanOptions) (st : TagState) {first : Bool} {c : Char}
    {tail : List Char} (h : Bare first c)
    (hb : c = 'b' → st.literalStart = true → base64Ahead tail = false) :
    scanTag options st (c :: tail) =
      scanTag options (st.add [c] (c = '*' ∨ c = '?')) tail := by
  have hliteral : ¬(c = 'b' ∧ st.literalStart = true ∧ base64Ahead tail = true) := by
    rintro ⟨hc, hstart, hahead⟩
    rw [hb hc hstart] at hahead
    cases hahead
  rw [scanTag, if_neg (by simp [h.not_colon]), if_neg (by simp [h.not_delimiter]),
    if_neg h.not_quote, if_neg hliteral]

/-- A quote that closes adds the text inside. -/
theorem scanTag_quote (options : ScanOptions) (st : TagState) {tail text rest : List Char}
    (h : readQuoted tail = some (text, rest)) :
    scanTag options st ('"' :: tail) = scanTag options (st.add text false) rest := by
  have hdelimiter : isDelimiter '"' = false := by decide
  rw [scanTag, if_neg (by simp), if_neg (by simp [hdelimiter]), if_pos rfl]
  split
  · next heq => rw [h] at heq; cases heq
  · next heq => rw [h] at heq; cases heq; rfl

/-- Text that stands in an open quote is read up to where the quote closes, and the scan of
what is left adds the rest. -/
def ReadsOn (cs rest : List Char) : Prop :=
  ∃ text left, readQuoted (quoteFrom true false false cs ++ rest) = some (text, left) ∧
    ∀ (options : ScanOptions) (st : TagState), ∃ start,
      scanTag options (st.add text false) left = scanTag options (st.add cs start) rest

/-- Text that stands outside quotes is added as it is held. -/
def ScansOn (cs rest : List Char) : Prop :=
  ∀ (first : Bool) (options : ScanOptions) (st : TagState), ∃ start,
    scanTag options st (quoteFrom false first st.literalStart cs ++ rest) =
      scanTag options (st.add (guarded first cs) start) rest

theorem scansOn_cons {c : Char} {cs rest : List Char} (hrest : Closes rest)
    (hscan : ScansOn cs rest) (hread : ReadsOn cs rest) : ScansOn (c :: cs) rest := by
  intro first options st
  cases hq : quotes first st.literalStart c cs with
  | true =>
    obtain ⟨hstar, hquestion, -⟩ := ne_of_quotes hq
    obtain ⟨text, left, hreads, hleft⟩ := hread
    have hreads' : readQuoted (written c ++ (quoteFrom true false false cs ++ rest)) =
        some (held first c :: text, left) := by
      rw [readQuoted_written hq, hreads]
      rfl
    obtain ⟨start, hstart⟩ := hleft options (st.add [held first c] false)
    refine ⟨start, ?_⟩
    have hclosed : (decide (c = '*' ∨ c = '?')) = false := by simp [hstar, hquestion]
    rw [quoteFrom_cons_of_quotes hq, hclosed, List.cons_append, List.append_assoc,
      scanTag_quote options st hreads']
    simpa [guarded] using hstart
  | false =>
    have hbare := bare_of_quotes hq
    have hahead : c = 'b' → st.literalStart = true →
        base64Ahead (quoteFrom false false (c = '*' ∨ c = '?') cs ++ rest) = false := by
      rintro rfl hstart
      rw [hstart] at hq
      exact base64Ahead_quoteFrom hq hrest
    obtain ⟨start, hstart⟩ := hscan false options (st.add [c] (c = '*' ∨ c = '?'))
    refine ⟨start, ?_⟩
    rw [quoteFrom_cons_of_bare hq, List.cons_append, scanTag_bare options st hbare hahead]
    rw [TagState.literalStart_add, guarded_false, TagState.add_add] at hstart
    rw [hstart, guarded, hbare.held_eq]
    rfl

theorem readsOn_cons {c : Char} {cs rest : List Char} (hscan : ScansOn (c :: cs) rest)
    (hread : ReadsOn cs rest) : ReadsOn (c :: cs) rest := by
  cases hq : quotes false false c cs with
  | true =>
    obtain ⟨hstar, hquestion, -⟩ := ne_of_quotes hq
    obtain ⟨text, left, hreads, hleft⟩ := hread
    have hclosed : (decide (c = '*' ∨ c = '?')) = false := by simp [hstar, hquestion]
    refine ⟨c :: text, left, ?_, ?_⟩
    · rw [quoteFrom_true_of_quotes hq, hclosed, List.append_assoc, readQuoted_written hq, hreads]
      simp [held]
    · intro options st
      obtain ⟨start, hstart⟩ := hleft options (st.add [c] false)
      exact ⟨start, by simpa using hstart⟩
  | false =>
    refine ⟨[], quoteFrom false false false (c :: cs) ++ rest, ?_, ?_⟩
    · rw [quoteFrom_true_of_bare hq, List.cons_append, readQuoted]
    · intro options st
      obtain ⟨start, hstart⟩ := hscan false options (st.add [] false)
      exact ⟨start, by simpa [guarded_false] using hstart⟩

/-- Both readings of a quoted text go together: each one hands over to the other where the
text passes into or out of quotes. -/
theorem scansOn_and_readsOn (cs : List Char) {rest : List Char} (hrest : Closes rest) :
    ScansOn cs rest ∧ ReadsOn cs rest := by
  induction cs with
  | nil =>
    constructor
    · intro first options st
      exact ⟨st.literalStart, by simp [quoteFrom, guarded, TagState.add]⟩
    · exact ⟨[], rest, by simp [quoteFrom, readQuoted], fun options st => ⟨false, rfl⟩⟩
  | cons c cs ih =>
    have hscan := scansOn_cons (c := c) hrest ih.1 ih.2
    exact ⟨hscan, readsOn_cons hscan ih.2⟩

/-- Inside a tag, a quoted text adds exactly the text that was quoted. -/
theorem scanTag_quoteFrom (options : ScanOptions) (st : TagState) (first : Bool)
    (cs : List Char) {rest : List Char} (hrest : Closes rest) :
    ∃ start, scanTag options st (quoteFrom false first st.literalStart cs ++ rest) =
      scanTag options (st.add (guarded first cs) start) rest :=
  (scansOn_and_readsOn cs hrest).1 first options st

/-! ## Keywords -/

/-- A keyword is written in small letters. -/
theorem isLower_of_mem_keyword {op : Operator} {c : Char} (h : c ∈ op.keyword.toList) :
    c.isLower = true := by
  have hall : op.keyword.toList.all Char.isLower = true := by
    cases op with
    | compare comparison => cases comparison <;> decide
    | _ => decide
  exact List.all_eq_true.mp hall c h

theorem keywordAhead?_eq_none {cs : List Char}
    (h : ∀ op : Operator, afterWord? (op.keyword.toList ++ ['(']) cs = none) :
    keywordAhead? cs = none := by
  rw [keywordAhead?, List.find?_eq_none]
  intro op _
  simp [h op]

/-- No word of small letters with an opening parenthesis behind it stands at the front of a
quoted text: the parenthesis would be in quotes. -/
theorem afterWord?_quoteFrom {word : List Char} (hword : ∀ c ∈ word, c.isLower = true)
    (first start : Bool) (cs : List Char) {rest : List Char} (hrest : Closes rest) :
    afterWord? (word ++ ['(']) (quoteFrom false first start cs ++ rest) = none := by
  induction word generalizing first start cs with
  | nil =>
    cases cs with
    | nil =>
      cases rest with
      | nil => rfl
      | cons d ds =>
        have hd : '(' ≠ d := (hrest.head_ne rfl (by decide)).symm
        simp [quoteFrom, afterWord?, hd]
    | cons c cs =>
      cases hq : quotes first start c cs with
      | true => simp [quoteFrom_cons_of_quotes hq, afterWord?]
      | false =>
        have hc : '(' ≠ c := by
          rintro rfl
          exact absurd (bare_of_quotes hq).not_delimiter (by decide)
        simp [quoteFrom_cons_of_bare hq, afterWord?, hc]
  | cons w ws ih =>
    have hw : w.isLower = true := hword w List.mem_cons_self
    have hws : ∀ c ∈ ws, c.isLower = true := fun c hc => hword c (List.mem_cons_of_mem w hc)
    cases cs with
    | nil =>
      cases rest with
      | nil => rfl
      | cons d ds =>
        have hd : w ≠ d := by
          rintro rfl
          rcases hrest w rfl with rfl | rfl | rfl <;> exact absurd hw (by decide)
        simp [quoteFrom, afterWord?, hd]
    | cons c cs =>
      cases hq : quotes first start c cs with
      | true =>
        have hquote : w ≠ '"' := by
          rintro rfl
          exact absurd hw (by decide)
        simp [quoteFrom_cons_of_quotes hq, afterWord?, hquote]
      | false =>
        rw [quoteFrom_cons_of_bare hq, List.cons_append, List.cons_append, afterWord?]
        split
        · exact ih hws false (c = '*' ∨ c = '?') cs
        · rfl

/-- A quoted text is never read as a keyword. -/
theorem keywordAhead?_quoteFrom (first start : Bool) (cs : List Char) {rest : List Char}
    (hrest : Closes rest) :
    keywordAhead? (quoteFrom false first start cs ++ rest) = none :=
  keywordAhead?_eq_none fun _ =>
    afterWord?_quoteFrom (fun _ hc => isLower_of_mem_keyword hc) first start cs hrest

/-- No keyword begins with one of the characters that open a quote, a pattern or a base64
literal. -/
theorem keywordAhead?_cons {c : Char} (cs : List Char) (h : c = '"' ∨ c = '/' ∨ c = 'b') :
    keywordAhead? (c :: cs) = none := by
  apply keywordAhead?_eq_none
  intro op
  rcases h with rfl | rfl | rfl <;>
    cases op with
    | compare comparison => cases comparison <;> rfl
    | _ => rfl

/-! ## Tags of quoted texts -/

/-- A text that was quoted becomes the literal that it was. -/
theorem ofTag_guarded {cs : List Char} (h : quotedSlash ∉ cs) :
    Term.ofTag (String.ofList (guarded true cs)) = .literal (String.ofList cs) := by
  have hplain : ∀ ds : List Char, quotedSlash ∉ ds →
      ds.map (fun c => if c = quotedSlash then '/' else c) = ds := by
    intro ds hds
    refine List.map_congr_left (fun c hc => ?_) |>.trans (List.map_id ds)
    simp [ne_of_mem_of_not_mem hc hds]
  cases cs with
  | nil => rfl
  | cons c cs =>
    rw [List.mem_cons, not_or] at h
    have hrest := hplain cs h.2
    by_cases hslash : c = '/'
    · subst hslash
      have hheld : guarded true ('/' :: cs) = quotedSlash :: cs := by simp [guarded, held]
      have hdelimited : Term.delimited? (quotedSlash :: cs) = none := by
        simp [Term.delimited?, quotedSlash]
      simp [Term.ofTag, hheld, hdelimited, hrest]
    · have hdelimited : Term.delimited? (c :: cs) = none := by
        unfold Term.delimited?
        split
        · next heq => simp_all
        · rfl
      simp [Term.ofTag, hdelimited, guarded, held, hslash, Ne.symm h.1, hrest]

end TagSearch
