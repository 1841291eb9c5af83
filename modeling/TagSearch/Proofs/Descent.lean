import TagSearch.Proofs.Progress

/-!
# Descent

A search can be parsed by descent: a reader holds one token, asks its scanner for the next one, and
tells it of values between them; a list is read in a loop, and a group reads the list inside it.  No
such loop runs on for ever.  Each round takes a token at least, so that one round more than the
search has characters is enough, and what is read is what the parser reads from all the tokens.

Main results:

- Definitions `Reader.readList` and `Tree.descend`: the descent, in a given number of rounds.
- Definitions `Leads` and `Reads`: a reader takes the tokens as the parser does.
- Theorem `reads_readList`: so it is with a list, in one round more than characters are left.
- Theorem `Tree.descend_eq_parse`: the descent ends with the result of the parser.
- Theorem `Scanner.tiles_and_descend_eq_parse`: whatever it is asked, a scanner tiles its input, and
  the descent ends with the result of the parser.
-/

namespace TagSearch

/-! ## Readers -/

/-- A parser that takes its tokens from a scanner, one at a time. -/
structure Reader where
  /-- The scanner, behind the current token. -/
  scanner : Scanner
  current : Token
  /-- The number of tokens that the scanner was asked for. -/
  asked : Nat
deriving DecidableEq, Repr

/-- What makes a reader stop early. -/
structure Halt where
  /-- What is wrong with the search; nothing, if the rounds were used up. -/
  error? : Option SyntaxError
  /-- The number of tokens that the scanner was asked for. -/
  asked : Nat
deriving DecidableEq, Repr

namespace Reader

/-- The reader whose current token is the next one of the scanner. -/
def before (s : Scanner) (asked : Nat) : Reader :=
  ⟨s.next.2, s.next.1, asked⟩

/-- Asks for the next token. -/
def advance (r : Reader) : Reader :=
  before r.scanner (r.asked + 1)

/-- Announces that the next tag is the value of a category. -/
def expectValue (r : Reader) : Reader :=
  { r with scanner := r.scanner.expectValue }

/-- Stops with an error. -/
def refuse {α : Type} (r : Reader) (e : SyntaxError) : Except Halt α :=
  .error ⟨some e, r.asked⟩

/-- Advances to a token other than blanks. -/
def skipBlanks : Nat → Reader → Except Halt Reader
  | 0, r => .error ⟨none, r.asked⟩
  | rounds + 1, r =>
    if r.current.kind = .whitespace then r.advance.skipBlanks rounds else .ok r

/-- Reads a condition from what stands behind its category, which is `tag`. -/
def readValue (comparison : Comparison) (tag : Token) (r : Reader) :
    Except Halt (Node × Reader) :=
  match r.current.kind with
  | .tagValue =>
    .ok (.leaf ⟨comparison, .ofTag tag.literal, some (.ofTag r.current.literal)⟩, r.advance)
  | .eof | .rParen | .comma => .ok (.leaf ⟨comparison, .ofTag tag.literal, none⟩, r)
  | _ => r.refuse (.ofToken .illegalToken r.current)

/-- Reads a condition from its category on. -/
def readTag (comparison : Comparison) (r : Reader) : Except Halt (Node × Reader) :=
  let tag := r.current
  let behind := r.expectValue.advance
  if tag.literal = "" then r.refuse (.ofToken .illegalToken tag)
  else if behind.current.kind = .whitespace then
    if behind.advance.current.isTerminator then
      behind.advance.refuse ⟨.invalidWhitespace, tag.literal, behind.current.offset⟩
    else behind.advance.readValue comparison tag
  else behind.readValue comparison tag

/-- Ends a group behind its members. -/
def closeGroup (keyword : Token) (op : Operator) (inner : Comparison) (members : List Node)
    (r : Reader) : Except Halt (Node × Reader) :=
  if members = [] then r.refuse (.ofToken .emptyGroup keyword)
  else .ok (.group op inner members, if r.current.kind = .rParen then r.advance else r)

/-- Reads a group from its keyword on, with `list` for what is inside. -/
def readGroup (list : Comparison → Reader → Except Halt (List Node × Reader))
    (comparison : Comparison) (r : Reader) : Except Halt (Node × Reader) :=
  match Operator.ofKeyword? r.current.literal with
  | none => r.refuse (.ofToken .illegalToken r.current)
  | some op =>
    if r.advance.current.kind = .lParen then
      (list (op.inner comparison) r.advance.advance).bind fun (members, behind) =>
        behind.closeGroup r.current op (op.inner comparison) members
    else r.advance.refuse (.ofToken .illegalToken r.advance.current)

/-- Reads an item, with `list` for what is inside a group. -/
def readItem (primary : String)
    (list : Comparison → Reader → Except Halt (List Node × Reader))
    (comparison : Comparison) (r : Reader) : Except Halt (Node × Reader) :=
  match r.current.kind with
  | .keyword => r.readGroup list comparison
  | .tagValue =>
    .ok (.leaf ⟨comparison, .literal primary, some (.ofTag r.current.literal)⟩, r.advance)
  | .tagCategory => r.readTag comparison
  | _ => r.refuse (.ofToken .illegalToken r.current)

/-- Reads the items of a list behind the nodes `done`, up to a closing parenthesis or the end of
input. -/
def readList (primary : String) :
    Nat → Comparison → List Node → Reader → Except Halt (List Node × Reader)
  | 0, _, _, r => .error ⟨none, r.asked⟩
  | rounds + 1, comparison, done, r =>
    (r.skipBlanks (rounds + 1)).bind fun r =>
      match r.current.kind with
      | .eof | .rParen => .ok (done, r)
      | .comma => readList primary rounds comparison done r.advance
      | _ =>
        (r.readItem primary (fun inner => readList primary rounds inner []) comparison).bind
          fun (node, r) => readList primary rounds comparison (done ++ [node]) r

end Reader

/-- How a descent ends. -/
structure Descent where
  /-- The tree or the error; nothing, if the rounds were used up. -/
  result? : Option (Except SyntaxError Tree)
  /-- The number of tokens that the scanner was asked for. -/
  asked : Nat

/-- Parses a search by descent; an empty name stands for the default primary field. -/
def Tree.descend (rounds : Nat) (input primary : String) (options : ScanOptions) : Descent :=
  let name := if primary = "" then defaultPrimary else primary
  match Reader.readList name rounds .equal [] (.before (.ofString input options) 1) with
  | .error halt => ⟨halt.error?.map .error, halt.asked⟩
  | .ok (members, r) =>
    if r.current.kind = .rParen then
      ⟨some (.error (.ofToken .unexpectedTerminator r.current)), r.asked⟩
    else ⟨some (.ok (.ofMembers members)), r.asked⟩

/-! ## Where a reader stands -/

/-- A place in a list: before the next token of a scanner, with some nodes read. -/
structure Standpoint where
  scanner : Scanner
  asked : Nat
  /-- The nodes before the place in its list. -/
  done : List Node

namespace Standpoint

variable {p q : Standpoint} {done : List Node}

/-- The reader at a place. -/
def reader (p : Standpoint) : Reader :=
  .before p.scanner p.asked

/-- The token at a place. -/
def token (p : Standpoint) : Token :=
  p.scanner.next.1

/-- The tokens from a place on. -/
def tokens (p : Standpoint) : List Token :=
  p.scanner.tokens true

/-- The tokens asked for and the characters left: no more tokens will be asked for in all. -/
def count (p : Standpoint) : Nat :=
  p.asked + p.scanner.rest.length

/-- The place behind the next token, with the nodes `done`. -/
def onward (p : Standpoint) (done : List Node) : Standpoint :=
  ⟨p.scanner.following, p.asked + 1, done⟩

@[simp] theorem current_reader (p : Standpoint) : p.reader.current = p.token := rfl

theorem rest_following (s : Scanner) : s.following.rest = s.next.2.rest := by
  rw [Scanner.following]
  split
  · rfl
  · rfl

theorem tokens_of_eof (heof : p.token.kind = .eof) : p.tokens = [] := by
  rw [tokens, Scanner.tokens, dif_pos (Scanner.kind_next_eq_eof_iff.mp heof)]

/-- Between two places stand the tokens `ts`, each of a character at least. -/
structure Passes (p : Standpoint) (ts : List Token) (q : Standpoint) : Prop where
  tokens_eq : p.tokens = ts ++ q.tokens
  asked_eq : q.asked = p.asked + ts.length
  count_le : q.count ≤ p.count

/-- The end of input aside, the next token can be passed. -/
theorem passes_onward (hne : p.token.kind ≠ .eof) (done : List Node) :
    p.Passes [p.token] (p.onward done) := by
  have hrest : p.scanner.rest ≠ [] := mt Scanner.kind_next_eq_eof_iff.mpr hne
  refine ⟨Scanner.tokens_eq_cons hrest, rfl, ?_⟩
  have hlt := Scanner.rest_next_lt hrest
  simp only [count, onward, rest_following]
  omega

theorem Passes.trans {p' : Standpoint} {ts us : List Token} (h : p.Passes ts p')
    (h' : p'.Passes us q) : p.Passes (ts ++ us) q where
  tokens_eq := by rw [h.tokens_eq, h'.tokens_eq, List.append_assoc]
  asked_eq := by rw [h'.asked_eq, h.asked_eq, List.length_append, Nat.add_assoc]
  count_le := h'.count_le.trans h.count_le

theorem Passes.asked_lt {t : Token} {ts : List Token} (h : p.Passes (t :: ts) q) :
    p.asked < q.asked := by
  rw [h.asked_eq, List.length_cons]
  omega

theorem Passes.rest_lt {t : Token} {ts : List Token} (h : p.Passes (t :: ts) q) :
    q.scanner.rest.length < p.scanner.rest.length := by
  have hasked := h.asked_lt
  have hcount := h.count_le
  simp only [count] at hcount
  omega

theorem advance_reader (hkind : p.token.kind ≠ .tagCategory) (done : List Node) :
    p.reader.advance = (p.onward done).reader := by
  have hfollowing : p.scanner.following = p.scanner.next.2 := if_neg (by simpa [token] using hkind)
  rw [reader, onward, hfollowing]
  rfl

theorem expectValue_advance_reader (hkind : p.token.kind = .tagCategory) (done : List Node) :
    p.reader.expectValue.advance = (p.onward done).reader := by
  have hfollowing : p.scanner.following = p.scanner.next.2.expectValue :=
    if_pos (by simpa [token] using hkind)
  rw [reader, onward, hfollowing]
  rfl

/-- Behind a keyword stands its parenthesis. -/
theorem token_onward_of_keyword (hkeyword : p.token.kind = .keyword) (done : List Node) :
    (p.onward done).token.kind = .lParen := by
  obtain ⟨inside, hinside⟩ := exists_rest_of_keyword hkeyword
  have hrest : (p.onward done).scanner.rest = '(' :: inside := (rest_following _).trans hinside
  simp [token, Scanner.next, hrest, scanOne_parenthesis]

end Standpoint

/-! ## What is read -/

/-- A reader comes from one place to another.  To the parser of tokens the two are the same, every
node that is read took a token, and the bound on the tokens asked for still stands. -/
structure Leads (primary : String) (comparison : Comparison) (p q : Standpoint) : Prop where
  parse_eq : ∀ groups, parseTokens primary groups comparison p.done p.tokens =
    parseTokens primary groups comparison q.done q.tokens
  nodes_le : p.asked + q.done.length ≤ q.asked + p.done.length
  count_le : q.count ≤ p.count

/-- What comes of reading a list from a place on is what the parser makes of the tokens there, and
the rounds were not used up. -/
inductive Reads (primary : String) (comparison : Comparison) (p : Standpoint) :
    Except Halt (List Node × Reader) → Prop where
  | ok {q : Standpoint} (hleads : Leads primary comparison p q) :
      Reads primary comparison p (.ok (q.done, q.reader))
  | error {e : SyntaxError} {asked : Nat} (hasked : asked ≤ p.count)
      (hparse : ∀ groups, parseTokens primary groups comparison p.done p.tokens = .error e) :
      Reads primary comparison p (.error ⟨some e, asked⟩)

variable {primary : String} {comparison : Comparison} {p q : Standpoint} {done : List Node}

theorem Leads.refl (p : Standpoint) : Leads primary comparison p p :=
  ⟨fun _ => rfl, Nat.le_refl _, Nat.le_refl _⟩

theorem Leads.trans {p' : Standpoint} (h : Leads primary comparison p p')
    (h' : Leads primary comparison p' q) : Leads primary comparison p q where
  parse_eq groups := (h.parse_eq groups).trans (h'.parse_eq groups)
  nodes_le := by
    have hnodes := h.nodes_le
    have hnodes' := h'.nodes_le
    omega
  count_le := h'.count_le.trans h.count_le

/-- A node is read from one token at least. -/
theorem Leads.rest_lt (h : Leads primary comparison p q) (hdone : p.done.length < q.done.length) :
    q.scanner.rest.length < p.scanner.rest.length := by
  have hnodes := h.nodes_le
  have hcount := h.count_le
  simp only [Standpoint.count] at hcount
  omega

theorem Leads.rest_le (h : Leads primary comparison p q) (hdone : q.done = p.done) :
    q.scanner.rest.length ≤ p.scanner.rest.length := by
  have hnodes := h.nodes_le
  have hcount := h.count_le
  rw [hdone] at hnodes
  simp only [Standpoint.count] at hcount
  omega

/-- Blanks and commas are passed over. -/
theorem leads_separator (hseparator : p.token.IsSeparator) :
    Leads primary comparison p (p.onward p.done) := by
  have hne : p.token.kind ≠ .eof := by rcases hseparator with h | h <;> simp [h]
  have hpass := Standpoint.passes_onward hne p.done
  refine ⟨fun groups => ?_, Nat.add_le_add_right hpass.asked_lt.le _, hpass.count_le⟩
  rw [hpass.tokens_eq]
  exact parseTokens_separator hseparator _

theorem Reads.of_leads {result : Except Halt (List Node × Reader)}
    (hleads : Leads primary comparison p q) (h : Reads primary comparison q result) :
    Reads primary comparison p result := by
  cases h with
  | ok hbehind => exact .ok (hleads.trans hbehind)
  | error hasked hparse =>
    exact .error (hasked.trans hleads.count_le) fun groups =>
      (hleads.parse_eq groups).trans (hparse groups)

/-- An error at a later place. -/
theorem reads_refuse {e : SyntaxError} (hcount : q.count ≤ p.count)
    (hparse : ∀ groups, parseTokens primary groups comparison p.done p.tokens = .error e) :
    Reads primary comparison p (q.reader.refuse e) :=
  .error ((Nat.le_add_right _ _).trans hcount) hparse

/-! ## Loops and items -/

/-- The loop over blanks ends in one round more than there are characters left. -/
theorem exists_skipBlanks (primary : String) (comparison : Comparison) {rounds : Nat}
    (hrounds : p.scanner.rest.length < rounds) :
    ∃ q, p.reader.skipBlanks rounds = .ok q.reader ∧ q.token.kind ≠ .whitespace ∧
      q.done = p.done ∧ Leads primary comparison p q := by
  induction rounds generalizing p with
  | zero => omega
  | succ rounds ih =>
    rw [Reader.skipBlanks, Standpoint.current_reader]
    split
    · next hblank =>
      have hlt := (Standpoint.passes_onward (p := p) (by simp [hblank]) p.done).rest_lt
      obtain ⟨q, hskip, hkind, hdone, hleads⟩ := ih (p := p.onward p.done) (by omega)
      rw [Standpoint.advance_reader (by simp [hblank]) p.done]
      exact ⟨q, hskip, hkind, hdone, (leads_separator (.inl hblank)).trans hleads⟩
    · next hblank => exact ⟨p, rfl, hblank, rfl, .refl p⟩

/-- The result of an item, as the result of the list up to and with it. -/
def pushed (done : List Node) (result : Except Halt (Node × Reader)) :
    Except Halt (List Node × Reader) :=
  result.map fun (node, r) => (done ++ [node], r)

/-- An item that is read takes the reader from its first place to the one behind it. -/
theorem reads_item {node : Node} (hcount : q.count ≤ p.count) (hasked : p.asked < q.asked)
    (hparse : ∀ groups, parseTokens primary groups comparison p.done p.tokens =
      parseTokens primary groups comparison (p.done ++ [node]) q.tokens) :
    Reads primary comparison p (pushed p.done (.ok (node, q.reader))) := by
  have hleads : Leads primary comparison p { q with done := p.done ++ [node] } :=
    ⟨hparse, by simp only [List.length_append, List.length_singleton]; omega, hcount⟩
  exact .ok hleads

/-- Behind an item the list goes on. -/
theorem Reads.bind_item {result : Except Halt (Node × Reader)}
    {go : Node × Reader → Except Halt (List Node × Reader)}
    (h : Reads primary comparison p (pushed p.done result))
    (hgo : ∀ node b, b.done = p.done ++ [node] →
      b.scanner.rest.length < p.scanner.rest.length →
      Reads primary comparison b (go (node, b.reader))) :
    Reads primary comparison p (result.bind go) := by
  cases result with
  | error halt =>
    cases h with
    | error hasked hparse => exact .error hasked hparse
  | ok item =>
    obtain ⟨node, r⟩ := item
    generalize hpushed : pushed p.done (.ok (node, r)) = list at h
    cases h with
    | error => cases hpushed
    | @ok q hleads =>
      have hpair := Prod.mk.inj (Except.ok.inj hpushed)
      have hlt := hleads.rest_lt (by rw [← hpair.1, List.length_append]; simp)
      obtain rfl : r = q.reader := hpair.2
      exact (hgo node q hpair.1.symm hlt).of_leads hleads

theorem reads_bare (hv : p.token.kind = .tagValue) :
    Reads primary comparison p (pushed p.done (.ok (.leaf ⟨comparison, .literal primary,
      some (.ofTag p.token.literal)⟩, p.reader.advance))) := by
  have hpass := Standpoint.passes_onward (p := p) (by simp [hv]) p.done
  rw [Standpoint.advance_reader (by simp [hv]) p.done]
  refine reads_item hpass.count_le hpass.asked_lt fun groups => ?_
  rw [hpass.tokens_eq]
  exact parseTokens_bare hv _

/-- Behind a category, and maybe a blank, no other token is allowed than a value or, without the
blank, the end of the item. -/
theorem parseTokens_illegal_value {groups : List OpenGroup} {tag v : Token} {blank : List Token}
    (htag : tag.kind = .tagCategory) (hname : tag.literal ≠ "") (hvalue : v.kind ≠ .tagValue)
    (hend : v.isTerminator = false)
    (hblank : (blank = [] ∧ v.kind ≠ .whitespace) ∨ ∃ w, blank = [w] ∧ w.kind = .whitespace)
    (following : List Token) :
    parseTokens primary groups comparison done (tag :: (blank ++ v :: following)) =
      .error (.ofToken .illegalToken v) := by
  rw [parseTokens.eq_def]
  rcases hblank with ⟨rfl, hv⟩ | ⟨w, rfl, hw⟩
  · simp only [Token.isTerminator, Bool.or_eq_false_iff, beq_eq_false_iff_ne] at hend
    simp only [htag, hname, if_false, List.nil_append]
    split
    · next h => exact absurd h hvalue
    · next h => exact absurd h hend.1.2
    · next h => exact absurd h hend.2
    · next h => exact absurd h hv
    · rfl
  · simp only [htag, hname, if_false, List.singleton_append, hw, hend, hvalue, Bool.false_eq_true]

/-- What stands behind a category, and maybe a blank, is read as the parser reads it. -/
theorem reads_readValue {tag : Token} {blank : List Token} (htag : tag.kind = .tagCategory)
    (hname : tag.literal ≠ "") (hpass : p.Passes (tag :: blank) q)
    (hblank : (blank = [] ∧ q.token.kind ≠ .whitespace) ∨
      ∃ w, blank = [w] ∧ w.kind = .whitespace ∧ q.token.isTerminator = false) :
    Reads primary comparison p (pushed p.done (q.reader.readValue comparison tag)) := by
  have hpresent (hend : q.token.isTerminator = true) (hends : EndsCategory q.tokens) :
      Reads primary comparison p
        (pushed p.done (.ok (.leaf ⟨comparison, .ofTag tag.literal, none⟩, q.reader))) := by
    refine reads_item hpass.count_le hpass.asked_lt fun groups => ?_
    rcases hblank with ⟨rfl, -⟩ | ⟨w, -, -, hno⟩
    · rw [hpass.tokens_eq]
      exact parseTokens_present htag hname hends
    · simp [hno] at hend
  have hspace : blank = [] ∨ ∃ w, blank = [w] ∧ w.kind = .whitespace :=
    hblank.imp (·.1) fun ⟨w, hw, hkind, _⟩ => ⟨w, hw, hkind⟩
  rw [Reader.readValue, Standpoint.current_reader]
  split
  · next hv =>
    have hvalue := Standpoint.passes_onward (p := q) (by simp [hv]) q.done
    have hboth := hpass.trans hvalue
    rw [Standpoint.advance_reader (by simp [hv]) q.done]
    refine reads_item hboth.count_le hboth.asked_lt fun groups => ?_
    rw [hpass.tokens_eq, hvalue.tokens_eq]
    exact parseTokens_condition htag hname hspace hv _
  · next hend =>
    exact hpresent (by simp [Token.isTerminator, hend]) (.inl (Standpoint.tokens_of_eof hend))
  · next hend =>
    exact hpresent (by simp [Token.isTerminator, hend])
      (.inr ⟨_, _, (Standpoint.passes_onward (by simp [hend]) q.done).tokens_eq, .inr hend⟩)
  · next hend =>
    exact hpresent (by simp [Token.isTerminator, hend])
      (.inr ⟨_, _, (Standpoint.passes_onward (by simp [hend]) q.done).tokens_eq, .inl hend⟩)
  · next hvalue heof hparen hcomma =>
    have hend : q.token.isTerminator = false := by
      simp only [Token.isTerminator, Bool.or_eq_false_iff, beq_eq_false_iff_ne]
      exact ⟨⟨heof, hparen⟩, hcomma⟩
    refine reads_refuse hpass.count_le fun groups => ?_
    rw [hpass.tokens_eq, (Standpoint.passes_onward heof q.done).tokens_eq]
    exact parseTokens_illegal_value htag hname hvalue hend
      (hblank.imp_right fun ⟨w, hw, hkind, _⟩ => ⟨w, hw, hkind⟩) _

/-- A condition is read as the parser reads it. -/
theorem reads_readTag (htag : p.token.kind = .tagCategory) :
    Reads primary comparison p (pushed p.done (p.reader.readTag comparison)) := by
  have hpass := Standpoint.passes_onward (p := p) (by simp [htag]) p.done
  have hreader := Standpoint.expectValue_advance_reader htag p.done
  generalize p.onward p.done = b at hpass hreader
  simp only [Reader.readTag, hreader, Standpoint.current_reader]
  split
  · next hname =>
    refine reads_refuse (Nat.le_refl _) fun groups => ?_
    rw [hpass.tokens_eq, List.singleton_append, parseTokens.eq_def]
    simp only [htag, hname, if_true]
  · next hname =>
  split
  · next hspace =>
    have hblank := hpass.trans (Standpoint.passes_onward (p := b) (by simp [hspace]) b.done)
    rw [Standpoint.advance_reader (by simp [hspace]) b.done]
    generalize b.onward b.done = w at hblank
    rw [Standpoint.current_reader]
    split
    · next hend =>
      refine reads_refuse hblank.count_le fun groups => ?_
      rw [hblank.tokens_eq, List.append_assoc, List.singleton_append, List.singleton_append,
        parseTokens.eq_def]
      simp only [htag, hname, if_false, hspace]
      by_cases heof : w.token.kind = .eof
      · rw [Standpoint.tokens_of_eof heof]
      · rw [(Standpoint.passes_onward heof w.done).tokens_eq]
        simp only [List.singleton_append, hend, if_true]
    · next hend =>
      exact reads_readValue htag hname hblank
        (.inr ⟨_, rfl, hspace, eq_false_of_ne_true hend⟩)
  · next hspace => exact reads_readValue htag hname hpass (.inl ⟨rfl, hspace⟩)

/-- A list ends before a closing parenthesis or at the end of input. -/
def Reader.AtEnd (r : Reader) : Prop :=
  r.current.kind = .eof ∨ r.current.kind = .rParen

/-- A group that ends without members is refused. -/
theorem parseTokens_empty_group {g : OpenGroup} {groups : List OpenGroup}
    (hend : q.reader.AtEnd) :
    parseTokens primary (g :: groups) comparison [] q.tokens =
      .error (.ofToken .emptyGroup g.keyword) := by
  have hclose : g.close [] = .error (.ofToken .emptyGroup g.keyword) := if_pos rfl
  rcases hend with heof | hparen
  · rw [Standpoint.tokens_of_eof heof, parseTokens, closeAll, hclose]
    rfl
  · have hparen : q.token.kind = .rParen := hparen
    rw [(Standpoint.passes_onward (by simp [hparen]) q.done).tokens_eq, List.singleton_append,
      parseTokens.eq_def]
    simp only [hparen, hclose]

/-- Behind its members a group is ended as the parser ends it. -/
theorem reads_closeGroup {keyword : Token} {op : Operator}
    (hread : ∀ groups, parseTokens primary groups comparison p.done p.tokens =
      parseTokens primary (⟨keyword, op, comparison, p.done⟩ :: groups) (op.inner comparison)
        q.done q.tokens)
    (hcount : q.count ≤ p.count) (hasked : p.asked < q.asked) (hend : q.reader.AtEnd) :
    Reads primary comparison p
      (pushed p.done (q.reader.closeGroup keyword op (op.inner comparison) q.done)) := by
  rw [Reader.closeGroup]
  split
  · next hempty =>
    refine reads_refuse hcount fun groups => ?_
    rw [hread, hempty]
    exact parseTokens_empty_group hend
  · next hmembers =>
    rw [Standpoint.current_reader]
    split
    · next hclose =>
      have hpass := Standpoint.passes_onward (p := q) (by simp [hclose]) q.done
      rw [Standpoint.advance_reader (by simp [hclose]) q.done]
      refine reads_item (hpass.count_le.trans hcount) (hasked.trans hpass.asked_lt) fun groups => ?_
      rw [hread, hpass.tokens_eq]
      exact parseTokens_close hmembers (.inl ⟨_, rfl, hclose⟩)
    · next hclose =>
      have htokens := Standpoint.tokens_of_eof (hend.resolve_right hclose)
      refine reads_item hcount hasked fun groups => ?_
      rw [hread, htokens]
      exact parseTokens_close hmembers (.inr ⟨rfl, rfl⟩)

/-- A group is read as the parser reads it, if the list inside it is. -/
theorem reads_readGroup {list : Comparison → Reader → Except Halt (List Node × Reader)}
    (hkeyword : p.token.kind = .keyword)
    (hlist : ∀ inner b, b.done = [] → b.scanner.rest.length < p.scanner.rest.length →
      Reads primary inner b (list inner b.reader))
    (hends : ∀ inner r members r', list inner r = .ok (members, r') → r'.AtEnd) :
    Reads primary comparison p (pushed p.done (p.reader.readGroup list comparison)) := by
  have hpass := Standpoint.passes_onward (p := p) (by simp [hkeyword]) p.done
  have hparen := Standpoint.token_onward_of_keyword hkeyword p.done
  rw [Reader.readGroup, Standpoint.advance_reader (by simp [hkeyword]) p.done]
  generalize p.onward p.done = a at hpass hparen
  have hinto := hpass.trans (Standpoint.passes_onward (p := a) (by simp [hparen]) [])
  have hdone : (a.onward []).done = [] := rfl
  rw [Standpoint.advance_reader (by simp [hparen]) [], Standpoint.current_reader,
    Standpoint.current_reader]
  generalize a.onward [] = b at hinto hdone
  split
  · next hop =>
    refine reads_refuse (Nat.le_refl _) fun groups => ?_
    rw [hpass.tokens_eq, List.singleton_append, parseTokens.eq_def]
    simp only [hkeyword, hop]
  · next op hop =>
    have hopen (groups : List OpenGroup) :
        parseTokens primary groups comparison p.done p.tokens =
          parseTokens primary (⟨p.token, op, comparison, p.done⟩ :: groups)
            (op.inner comparison) b.done b.tokens := by
      rw [hinto.tokens_eq, hdone]
      exact parseTokens_open hkeyword (Operator.eq_keyword_of_ofKeyword? hop) hparen _
    have hinside := hlist (op.inner comparison) b hdone hinto.rest_lt
    have hend := hends (op.inner comparison) b.reader
    -- Only before its parenthesis a keyword is scanned: it is never missing.
    rw [if_pos hparen]
    generalize list (op.inner comparison) b.reader = result at hinside hend
    cases hinside with
    | error hasked hparse =>
      exact .error (hasked.trans hinto.count_le) fun groups => (hopen groups).trans (hparse _)
    | @ok q hleads =>
      have hasked : b.asked ≤ q.asked := by
        have hnodes := hleads.nodes_le
        rw [hdone, List.length_nil] at hnodes
        omega
      exact reads_closeGroup (fun groups => (hopen groups).trans (hleads.parse_eq _))
        (hleads.count_le.trans hinto.count_le) (hinto.asked_lt.trans_le hasked) (hend _ _ rfl)

/-- An item is read as the parser reads it, if the lists inside it are. -/
theorem reads_readItem {list : Comparison → Reader → Except Halt (List Node × Reader)}
    (hseparator : ¬ p.token.IsSeparator) (hend : ¬ p.reader.AtEnd)
    (hlist : ∀ inner b, b.done = [] → b.scanner.rest.length < p.scanner.rest.length →
      Reads primary inner b (list inner b.reader))
    (hends : ∀ inner r members r', list inner r = .ok (members, r') → r'.AtEnd) :
    Reads primary comparison p (pushed p.done (p.reader.readItem primary list comparison)) := by
  rw [Reader.readItem, Standpoint.current_reader]
  split
  · next hkeyword => exact reads_readGroup hkeyword hlist hends
  · next hv => exact reads_bare hv
  · next htag => exact reads_readTag htag
  · next hkeyword hv htag =>
    refine reads_refuse (Nat.le_refl _) fun groups => ?_
    have hne : p.token.kind ≠ .eof := fun heof => hend (.inl heof)
    rw [(Standpoint.passes_onward hne p.done).tokens_eq, List.singleton_append, parseTokens.eq_def]
    dsimp only
    split
    · next h => exact absurd (.inl h) hseparator
    · next h => exact absurd (.inr h) hseparator
    · next h => exact absurd (.inr h) hend
    · next h => exact absurd h hkeyword
    · next h => exact absurd h hv
    · next h => exact absurd h htag
    · rfl

/-- A list that is read is read up to its end. -/
theorem atEnd_of_readList {rounds : Nat} {members : List Node} {r r' : Reader}
    (h : r.readList primary rounds comparison done = .ok (members, r')) : r'.AtEnd := by
  induction rounds generalizing comparison done r with
  | zero => cases h
  | succ rounds ih =>
    rw [Reader.readList] at h
    cases hskip : r.skipBlanks (rounds + 1) with
    | error halt =>
      rw [hskip] at h
      cases h
    | ok s =>
      rw [hskip] at h
      simp only [Except.bind] at h
      split at h
      · next heof =>
        cases h
        exact .inl heof
      · next hparen =>
        cases h
        exact .inr hparen
      · exact ih h
      · cases hitem : s.readItem primary (fun inner => Reader.readList primary rounds inner [])
          comparison with
        | error halt =>
          rw [hitem] at h
          cases h
        | ok item =>
          rw [hitem] at h
          exact ih h

/-- A list is read as the parser reads it, in one round more than there are characters left. -/
theorem reads_readList {rounds : Nat} (hrounds : p.scanner.rest.length < rounds) :
    Reads primary comparison p (p.reader.readList primary rounds comparison p.done) := by
  -- A round takes a token at least, so that the rounds left stay ahead of the characters left, in
  -- the loop as well as inside a group.
  induction rounds generalizing comparison p with
  | zero => omega
  | succ rounds ih =>
    obtain ⟨q, hskip, hblank, hdone, hleads⟩ := exists_skipBlanks primary comparison hrounds
    have hrest := hleads.rest_le hdone
    rw [Reader.readList, hskip]
    simp only [Except.bind, Standpoint.current_reader]
    refine Reads.of_leads hleads ?_
    rw [← hdone]
    split
    · exact .ok (.refl q)
    · exact .ok (.refl q)
    · next hcomma =>
      have hlt := (Standpoint.passes_onward (p := q) (by simp [hcomma]) q.done).rest_lt
      rw [Standpoint.advance_reader (by simp [hcomma]) q.done]
      exact (ih (p := q.onward q.done) (by omega)).of_leads (leads_separator (.inr hcomma))
    · next heof hparen hcomma =>
      have hitem : Reads primary comparison q (pushed q.done (q.reader.readItem primary
          (fun inner => Reader.readList primary rounds inner []) comparison)) := by
        refine reads_readItem (fun h => h.elim hblank hcomma) (fun h => h.elim heof hparen)
          (fun inner b hb hlt => ?_) fun inner r members r' h => atEnd_of_readList h
        rw [← hb]
        exact ih (by omega)
      refine hitem.bind_item fun node b hb hlt => ?_
      rw [← hb]
      exact ih (by omega)

/-! ## Whole searches -/

/-- In one round more than a search has characters the descent ends with the result of the parser,
and it asks for one token more than there are characters at most. -/
theorem Tree.descend_eq_parse (input primary : String) (options : ScanOptions) (more : Nat) :
    (Tree.descend (input.length + 1 + more) input primary options).result? =
        some (Tree.parse input primary options) ∧
      (Tree.descend (input.length + 1 + more) input primary options).asked ≤ input.length + 1 := by
  rw [descend, parse]
  generalize (if primary = "" then defaultPrimary else primary) = name
  have hrest : (Scanner.ofString input options).rest.length = input.length := String.length_toList
  let start : Standpoint := ⟨.ofString input options, 1, []⟩
  have htokens : (Scanner.ofString input options).tokens true = start.tokens := rfl
  have hreader : Reader.before (.ofString input options) 1 = start.reader := rfl
  have hcount : start.count ≤ input.length + 1 := by
    simp only [start, Standpoint.count, hrest]
    omega
  have hread : Reads name .equal start
      (Reader.readList name (input.length + 1 + more) .equal [] start.reader) :=
    reads_readList (by simp only [start, hrest]; omega)
  have hend {members : List Node} {r : Reader} :=
    @atEnd_of_readList name .equal [] (input.length + 1 + more) members start.reader r
  rw [htokens, hreader]
  generalize Reader.readList name (input.length + 1 + more) .equal [] start.reader = result
    at hread hend
  cases hread with
  | error hasked hparse =>
    rw [hparse []]
    exact ⟨rfl, hasked.trans hcount⟩
  | @ok q hleads =>
    have hasked : q.asked ≤ input.length + 1 :=
      ((Nat.le_add_right _ _).trans hleads.count_le).trans hcount
    rw [hleads.parse_eq []]
    rcases hend rfl with heof | hparen
    · have heof : q.token.kind = .eof := heof
      rw [Standpoint.tokens_of_eof heof, parseTokens, closeAll]
      simp only [Standpoint.current_reader, heof]
      exact ⟨rfl, hasked⟩
    · have hparen : q.token.kind = .rParen := hparen
      rw [(Standpoint.passes_onward (by simp [hparen]) q.done).tokens_eq, List.singleton_append,
        parseTokens.eq_def]
      simp only [Standpoint.current_reader, hparen]
      exact ⟨rfl, hasked⟩

namespace Scanner

/-- Whatever it is asked, a scanner tiles its input from the first character to the end.  So it
gives no more tokens than there are characters, and a parser that asks it for one token after the
other comes to an end. -/
theorem tiles_and_descend_eq_parse (input : String) (options : ScanOptions) :
    (∀ calls, Tiles input ((ofString input options).after calls)) ∧
      (∀ calls, ∀ t ∈ ((ofString input options).given calls).head?, t.offset = 0) ∧
      (∀ calls, (((ofString input options).given calls).filter (·.kind ≠ .eof)).length ≤
        input.length) ∧
      (∀ valuesAfterCategories, ∃ calls,
        (ofString input options).given calls =
            (ofString input options).tokens valuesAfterCategories ∧
          ((ofString input options).after calls).offset = input.length ∧
          ((ofString input options).tokens valuesAfterCategories).length ≤ input.length) ∧
      ∀ primary more,
        (Tree.descend (input.length + 1 + more) input primary options).result? =
            some (Tree.parse input primary options) ∧
          (Tree.descend (input.length + 1 + more) input primary options).asked ≤
            input.length + 1 := by
  have hrest : (ofString input options).rest.length = input.length := String.length_toList
  refine ⟨tiles_after input options, fun calls t ht => ?_, fun calls => ?_,
    fun valuesAfterCategories => ?_, fun primary more =>
      Tree.descend_eq_parse input primary options more⟩
  · obtain ⟨valueNext, rfl⟩ := exists_of_head?_given _ calls t ht
    rfl
  · have hle := length_given_le (ofString input options) calls
    omega
  · obtain ⟨calls, hgiven, hafter, -⟩ := exists_calls valuesAfterCategories (ofString input options)
    have hle := length_tokens_le valuesAfterCategories (ofString input options)
    have hend := (tiles_after input options calls).standsIn.rest_eq_nil_iff.mp hafter
    exact ⟨calls, hgiven, hend, hrest ▸ hle⟩

end Scanner

end TagSearch
