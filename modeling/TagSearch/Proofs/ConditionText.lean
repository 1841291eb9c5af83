import TagSearch.Proofs.Framing
import TagSearch.Proofs.Logic

/-!
# Reading the text of a condition

The condition of a statement can be read back from its text.  The tests of single fields stand in
it as they are written one by one; they are known by their texts, and nobody looks into them.  What
stands between them are parentheses and the signs of the connectives.  A test may begin with a
parenthesis of its own, and its names are whatever the schema says, but it is never mistaken for
the signs before it, because each test has a character that these do not have.

Main results:

- Definition `Symbol.scan`: the symbols of a text.
- Definition `Logic.readText`: the truth value of a text.
- Theorem `Symbol.scan_of_read`: symbols that can be read are the symbols of their text.
- Theorem `Formula.IsReadable.readText_eq`: the text of a formula has its truth value.
-/

namespace TagSearch

variable {α β V : Type}

/-! ## The reader -/

namespace Symbol

/-- A symbol with another content. -/
def map (g : α → β) : Symbol α → Symbol β
  | atom a => atom (g a)
  | lParen => lParen
  | rParen => rParen
  | conj => conj
  | disj => disj
  | neg => neg

/-- The content of a symbol that is no sign. -/
def atom? : Symbol α → Option α
  | atom a => some a
  | _ => none

/-- The symbols of a text.  The flag tells whether an operand has to come next.  The operands are
given by their texts, in the order in which they stand there, with what is known of each. -/
def scan : Bool → List (String × α) → List Char → Option (List (Symbol α))
  | true, (operand, a) :: operands, text =>
    if operand.toList.isPrefixOf text then
      (scan false operands (text.drop operand.toList.length)).map (atom a :: ·)
    else match text with
      | '(' :: rest => (scan true ((operand, a) :: operands) rest).map (lParen :: ·)
      | 'N' :: 'O' :: 'T' :: ' ' :: rest =>
        (scan true ((operand, a) :: operands) rest).map (neg :: ·)
      | _ => none
  | false, operands, ')' :: rest => (scan false operands rest).map (rParen :: ·)
  | false, operands, ' ' :: 'A' :: 'N' :: 'D' :: ' ' :: rest =>
    (scan true operands rest).map (conj :: ·)
  | false, operands, ' ' :: 'O' :: 'R' :: ' ' :: rest =>
    (scan true operands rest).map (disj :: ·)
  | false, [], [] => some []
  | _, _, _ => none
termination_by _ operands text => operands.length + text.length

end Symbol

/-- The truth value of a text in which operands with given truth values stand, if it is well
formed. -/
def Logic.readText (L : Logic V) (operands : List (String × V)) (text : String) : Option V := do
  let symbols ← Symbol.scan true operands text.toList
  L.read id true [] L.opened symbols

/-! ## Signs before an operand -/

/-- A list that stands again behind some of its own elements is made of these elements. -/
theorem mem_of_isPrefix_shift {p u r : List α} (hu : u ≠ []) (h : p <+: u ++ (p ++ r)) :
    ∀ a ∈ p, a ∈ u := by
  have hindex : ∀ i (hi : i < p.length), p[i] ∈ u := by
    intro i
    induction i using Nat.strongRecOn with
    | _ i ih =>
      intro hi
      have hget := h.getElem hi
      by_cases hlt : i < u.length
      · rw [hget, List.getElem_append_left hlt]
        exact List.getElem_mem hlt
      · have hpos := List.length_pos_iff.mpr hu
        have hshift : i - u.length < p.length := by omega
        rw [hget, List.getElem_append_right (by omega), List.getElem_append_left hshift]
        exact ih (i - u.length) (by omega) hshift
  intro a ha
  obtain ⟨i, hi, rfl⟩ := List.getElem_of_mem ha
  exact hindex i hi

namespace Symbol

/-- The characters of the signs that may stand before an operand. -/
def openingChars : List Char :=
  "(NOT ".toList

theorem mem_openingChars_of_lParen : ∀ ch ∈ "(".toList, ch ∈ openingChars := by
  simp [openingChars]

theorem mem_openingChars_of_neg : ∀ ch ∈ "NOT ".toList, ch ∈ openingChars := by
  simp [openingChars]

/-- A sign that may stand before an operand. -/
def IsOpening (s : Symbol α) : Prop :=
  s = lParen ∨ s = neg

end Symbol

/-- A part of a statement that no sign before an operand has. -/
def Piece.IsMark : Piece → Prop
  | text s => ∃ ch ∈ s.toList, ch ∉ Symbol.openingChars
  | param _ => True

/-- A text has a character that no sign before an operand has, if one of its parts has. -/
theorem Piece.IsMark.exists_char {p : Piece} (h : p.IsMark) {ps : List Piece} (hp : p ∈ ps)
    (number : Nat) : ∃ ch ∈ (textFrom number ps).toList, ch ∉ Symbol.openingChars := by
  obtain ⟨front, rest, rfl⟩ := List.append_of_mem hp
  rw [textFrom_append, String.toList_append]
  cases p with
  | text s =>
    obtain ⟨ch, hch, hother⟩ := h
    refine ⟨ch, List.mem_append_right _ ?_, hother⟩
    rw [textFrom, String.toList_append]
    exact List.mem_append_left _ hch
  | param p =>
    refine ⟨'$', List.mem_append_right _ ?_, by simp [Symbol.openingChars]⟩
    rw [textFrom, placeholder, String.toList_append, String.toList_append]
    exact List.mem_append_left _ (List.mem_append_left _ (List.mem_singleton_self '$'))

/-- A test of a text binds its pattern. -/
theorem PatternTest.exists_param (test : PatternTest) : ∃ p, .param p ∈ test.pieces := by
  cases test with
  | like p => exact ⟨.text p, by simp [pieces]⟩
  | expression p => exact ⟨.text p, by simp [pieces]⟩

/-- Every condition has a part that no sign before an operand has: its parameter, or the words
that ask whether there is a value. -/
theorem Condition.exists_mark (c : Condition) : ∃ p ∈ c.pieces, p.IsMark := by
  cases c with
  | present o =>
    exact ⟨.text " IS NOT NULL", by simp [pieces], 'I', by simp, by simp [Symbol.openingChars]⟩
  | absent o =>
    exact ⟨.text " IS NULL", by simp [pieces], 'I', by simp, by simp [Symbol.openingChars]⟩
  | compare o comparison p => exact ⟨.param p, by simp [pieces], trivial⟩
  | compareNumber o comparison d => exact ⟨.param (.numeric d), by simp [pieces], trivial⟩
  | fits o test =>
    obtain ⟨p, hp⟩ := test.exists_param
    exact ⟨.param p, by simp [pieces, hp], trivial⟩
  | hasItem s item => exact ⟨.param (.text item), by simp [pieces], trivial⟩
  | someItem s test =>
    obtain ⟨p, hp⟩ := test.exists_param
    exact ⟨.param p, by simp [pieces, hp], trivial⟩

/-! ## Symbols and their text -/

open TagSearch.Frame

/-- Conditions as operands of a text in which they are written one after the other. -/
def Frame.operands (frame : Frame) (g : Condition → α) (conditions : List Condition) :
    List (String × α) :=
  (frame.texts (conditions.map Condition.pieces)).zip (conditions.map g)

namespace Symbol

variable {L : Logic V} {truth : Condition → V} {outer : List (Logic.Level V)} {l : Logic.Level V}
  {v : V} {symbols : List (Symbol Condition)}

theorem operands_cons (frame : Frame) (g : Condition → α) (c : Condition) (cs : List Condition) :
    frame.operands g (c :: cs) =
      (frame.text c.pieces, g c) :: (frame.after c.pieces []).operands g cs := by
  rw [Frame.operands, List.map_cons, List.map_cons, texts_cons _ _ _ [], List.zip_cons_cons]
  rfl

section Scan

variable (operand : String) (a : α) (operands : List (String × α)) (text : List Char)

theorem scan_atom :
    scan true ((operand, a) :: operands) (operand.toList ++ text) =
      (scan false operands text).map (atom a :: ·) := by
  have hprefix : operand.toList.isPrefixOf (operand.toList ++ text) = true :=
    List.isPrefixOf_iff_prefix.mpr (List.prefix_append _ _)
  rw [scan.eq_def]
  simp only [if_pos hprefix, List.drop_left]

variable {operand text}

theorem scan_lParen (h : ¬ operand.toList <+: "(".toList ++ text) :
    scan true ((operand, a) :: operands) ("(".toList ++ text) =
      (scan true ((operand, a) :: operands) text).map (lParen :: ·) := by
  rw [scan.eq_def]
  exact if_neg fun hprefix => h (List.isPrefixOf_iff_prefix.mp hprefix)

theorem scan_neg (h : ¬ operand.toList <+: "NOT ".toList ++ text) :
    scan true ((operand, a) :: operands) ("NOT ".toList ++ text) =
      (scan true ((operand, a) :: operands) text).map (neg :: ·) := by
  rw [scan.eq_def]
  exact if_neg fun hprefix => h (List.isPrefixOf_iff_prefix.mp hprefix)

variable (text)

theorem scan_rParen :
    scan false operands (")".toList ++ text) = (scan false operands text).map (rParen :: ·) := by
  change scan false operands (')' :: text) = _
  rw [scan]

theorem scan_conj :
    scan false operands (" AND ".toList ++ text) = (scan true operands text).map (conj :: ·) := by
  change scan false operands (' ' :: 'A' :: 'N' :: 'D' :: ' ' :: text) = _
  rw [scan]

theorem scan_disj :
    scan false operands (" OR ".toList ++ text) = (scan true operands text).map (disj :: ·) := by
  change scan false operands (' ' :: 'O' :: 'R' :: ' ' :: text) = _
  rw [scan]

theorem scan_nil : scan false ([] : List (String × α)) [] = some [] := by
  rw [scan]

end Scan

/-- Where an operand has to come, signs lead to a condition. -/
theorem exists_first_of_read (h : L.read truth true outer l symbols = some v) :
    ∃ opening c rest, symbols = opening ++ atom c :: rest ∧ ∀ s ∈ opening, s.IsOpening := by
  induction symbols generalizing outer l with
  | nil => cases h
  | cons s rest ih =>
    have hbehind : ∀ {outer l}, s.IsOpening → L.read truth true outer l rest = some v →
        ∃ opening c rest', s :: rest = opening ++ atom c :: rest' ∧ ∀ s ∈ opening, s.IsOpening := by
      intro outer l hs h
      obtain ⟨opening, c, rest', rfl, hopening⟩ := ih h
      exact ⟨s :: opening, c, rest', rfl, List.forall_mem_cons.mpr ⟨hs, hopening⟩⟩
    cases s with
    | atom c => exact ⟨[], c, rest, rfl, List.forall_mem_nil _⟩
    | lParen => exact hbehind (.inl rfl) h
    | neg => exact hbehind (.inr rfl) h
    | rParen | conj | disj => cases h

/-- Signs before an operand bind nothing, and their text has their characters only. -/
theorem exists_text_of_opening {opening : List (Symbol Condition)}
    (h : ∀ s ∈ opening, s.IsOpening) :
    ∃ signs : String, (∀ ch ∈ signs.toList, ch ∈ openingChars) ∧
      opening.filterMap atom? = [] ∧ ∀ (frame : Frame) (ps : List Piece),
        frame.text (opening.flatMap pieces ++ ps) = signs ++ frame.text ps := by
  induction opening with
  | nil =>
    refine ⟨"", List.forall_mem_nil _, rfl, fun frame ps => ?_⟩
    rw [List.flatMap_nil, List.nil_append, String.empty_append]
  | cons s rest ih =>
    obtain ⟨hs, hrest⟩ := List.forall_mem_cons.mp h
    obtain ⟨signs, hchars, hatoms, htext⟩ := ih hrest
    rcases hs with rfl | rfl
    · refine ⟨"(" ++ signs, ?_, hatoms, fun frame ps => ?_⟩
      · rw [String.toList_append]
        exact List.forall_mem_append.mpr ⟨mem_openingChars_of_lParen, hchars⟩
      · rw [String.append_assoc, ← htext]
        rfl
    · refine ⟨"NOT " ++ signs, ?_, hatoms, fun frame ps => ?_⟩
      · rw [String.toList_append]
        exact List.forall_mem_append.mpr ⟨mem_openingChars_of_neg, hchars⟩
      · rw [String.append_assoc, ← htext]
        rfl

/-- The first condition of symbols that can be read is not found where a sign stands before
them. -/
theorem exists_first_not_prefix (h : L.read truth true outer l symbols = some v) (frame : Frame) :
    ∃ c cs, symbols.filterMap atom? = c :: cs ∧ ∀ sign : List Char, sign ≠ [] →
      (∀ ch ∈ sign, ch ∈ openingChars) →
      ¬ (frame.text c.pieces).toList <+: sign ++ (frame.text (symbols.flatMap pieces)).toList := by
  obtain ⟨opening, c, rest, rfl, hopening⟩ := exists_first_of_read h
  obtain ⟨signs, hchars, hatoms, htext⟩ := exists_text_of_opening hopening
  refine ⟨c, rest.filterMap atom?, ?_, ?_⟩
  · rw [List.filterMap_append, hatoms]
    rfl
  · intro sign hne hsign hprefix
    have hbehind : frame.text ((opening ++ atom c :: rest).flatMap pieces) =
        signs ++ (frame.text c.pieces ++ (frame.after c.pieces []).text (rest.flatMap pieces)) := by
      rw [List.flatMap_append, htext, List.flatMap_cons, text_append _ _ _ []]
      rfl
    rw [hbehind, String.toList_append, String.toList_append, ← List.append_assoc] at hprefix
    have hshift := mem_of_isPrefix_shift (List.append_ne_nil_of_left_ne_nil hne _) hprefix
    obtain ⟨p, hp, hmark⟩ := c.exists_mark
    obtain ⟨ch, hch, hother⟩ := hmark.exists_char hp (frame.params.length + 1)
    exact hother ((List.forall_mem_append.mpr ⟨hsign, hchars⟩) ch (hshift ch hch))

/-- A sign takes its own text and no condition. -/
theorem text_sign (frame : Frame) (s : Symbol Condition) (sign : String)
    (rest : List (Symbol Condition)) (hs : s.pieces = [.text sign]) (hatom : s.atom? = none) :
    (frame.text ((s :: rest).flatMap pieces)).toList =
        sign.toList ++ (frame.text (rest.flatMap pieces)).toList ∧
      (s :: rest).filterMap atom? = rest.filterMap atom? := by
  refine ⟨?_, List.filterMap_cons_none hatom⟩
  rw [List.flatMap_cons, hs, List.singleton_append, text_text, String.toList_append]

/-- Symbols that can be read are the symbols of their text, if the conditions are taken for what
is known of them. -/
theorem scan_of_read {operand : Bool} (h : L.read truth operand outer l symbols = some v)
    (frame : Frame) (g : Condition → α) :
    scan operand (frame.operands g (symbols.filterMap atom?))
      (frame.text (symbols.flatMap pieces)).toList = some (symbols.map (map g)) := by
  induction symbols generalizing operand outer l frame with
  | nil =>
    cases operand with
    | true => cases h
    | false => exact scan_nil
  | cons s rest ih =>
    cases operand with
    | true =>
      cases s with
      | atom c =>
        have htext : frame.text ((atom c :: rest).flatMap pieces) =
            frame.text c.pieces ++ (frame.after c.pieces []).text (rest.flatMap pieces) := by
          rw [List.flatMap_cons, text_append _ _ _ []]
          rfl
        have hatoms : (atom c :: rest).filterMap atom? = c :: rest.filterMap atom? := rfl
        rw [htext, String.toList_append, hatoms, operands_cons, scan_atom, ih h]
        rfl
      | lParen =>
        have hread : L.read truth true (l :: outer) L.opened rest = some v := h
        have hrest := ih hread frame
        obtain ⟨c, cs, hatoms, hother⟩ := exists_first_not_prefix hread frame
        obtain ⟨htext, hnone⟩ := text_sign frame .lParen "(" rest rfl rfl
        rw [hatoms, operands_cons] at hrest
        have hbegins := hother "(".toList (by simp) mem_openingChars_of_lParen
        rw [htext, hnone, hatoms, operands_cons, scan_lParen _ _ hbegins, hrest]
        rfl
      | neg =>
        have hread : L.read truth true outer l.negate rest = some v := h
        have hrest := ih hread frame
        obtain ⟨c, cs, hatoms, hother⟩ := exists_first_not_prefix hread frame
        obtain ⟨htext, hnone⟩ := text_sign frame .neg "NOT " rest rfl rfl
        rw [hatoms, operands_cons] at hrest
        have hbegins := hother "NOT ".toList (by simp) mem_openingChars_of_neg
        rw [htext, hnone, hatoms, operands_cons, scan_neg _ _ hbegins, hrest]
        rfl
      | rParen | conj | disj => cases h
    | false =>
      cases s with
      | rParen =>
        obtain ⟨htext, hnone⟩ := text_sign frame .rParen ")" rest rfl rfl
        cases outer with
        | nil => cases h
        | cons around outer =>
          rw [htext, hnone, scan_rParen, ih h]
          rfl
      | conj =>
        obtain ⟨htext, hnone⟩ := text_sign frame .conj " AND " rest rfl rfl
        rw [htext, hnone, scan_conj, ih h]
        rfl
      | disj =>
        obtain ⟨htext, hnone⟩ := text_sign frame .disj " OR " rest rfl rfl
        rw [htext, hnone, scan_disj, ih h]
        rfl
      | atom | lParen | neg => cases h

end Symbol

/-- Signs bind nothing: symbols leave in a frame what their conditions leave. -/
theorem Frame.after_symbols (frame : Frame) (symbols : List (Symbol Condition))
    (ss : List Source) :
    frame.after (symbols.flatMap Symbol.pieces) ss =
      frame.after ((symbols.filterMap Symbol.atom?).flatMap Condition.pieces) ss := by
  have hparams : (symbols.flatMap Symbol.pieces).filterMap Piece.param? =
      ((symbols.filterMap Symbol.atom?).flatMap Condition.pieces).filterMap Piece.param? := by
    induction symbols with
    | nil => rfl
    | cons s rest ih =>
      cases s with
      | atom c =>
        have hatoms : (Symbol.atom c :: rest).filterMap Symbol.atom? =
            c :: rest.filterMap Symbol.atom? := rfl
        rw [List.flatMap_cons, hatoms, List.flatMap_cons, List.filterMap_append,
          List.filterMap_append, ih]
        rfl
      | lParen | rParen | conj | disj | neg => exact ih
  rw [Frame.after, Frame.after, hparams]

/-! ## Truth values of texts -/

/-- Symbols have the truth value that they have with the truth values of their conditions in the
place of these. -/
theorem Logic.read_map (L : Logic V) (truth : α → V) (operand : Bool) (outer : List (Level V))
    (l : Level V) (symbols : List (Symbol α)) :
    L.read id operand outer l (symbols.map (Symbol.map truth)) =
      L.read truth operand outer l symbols := by
  induction symbols generalizing operand outer l with
  | nil =>
    cases operand with
    | true => rfl
    | false => cases outer <;> rfl
  | cons s rest ih =>
    rw [List.map_cons]
    cases operand with
    | true =>
      cases s with
      | atom a => exact ih false outer (L.take l (truth a))
      | neg => exact ih true outer l.negate
      | lParen => exact ih true (l :: outer) L.opened
      | rParen | conj | disj => rfl
    | false =>
      cases s with
      | conj => exact ih true outer l
      | disj => exact ih true outer (L.alternative l)
      | rParen =>
        cases outer with
        | nil => rfl
        | cons around outer => exact ih false outer (L.take around (L.levelValue l))
      | atom | neg | lParen => rfl

/-- The text of symbols that can be read has their truth value. -/
theorem Logic.readText_of_read {L : Logic V} {truth : Condition → V} {v : V}
    {symbols : List (Symbol Condition)} (h : L.read truth true [] L.opened symbols = some v)
    (frame : Frame) :
    L.readText (frame.operands truth (symbols.filterMap Symbol.atom?))
      (frame.text (symbols.flatMap Symbol.pieces)) = some v := by
  rw [readText, Symbol.scan_of_read h frame truth, ← h]
  exact L.read_map truth true [] L.opened symbols

/-- Signs between several parts are no conditions. -/
theorem Symbol.filterMap_separated {sign : Symbol α} (hsign : sign.atom? = none)
    (parts : List (List (Symbol α))) :
    (separated sign parts).filterMap atom? = parts.flatMap fun part => part.filterMap atom? := by
  induction parts with
  | nil => rfl
  | cons part rest ih =>
    cases rest with
    | nil => rw [separated, List.flatMap_singleton]
    | cons next rest =>
      have hparts : separated sign (part :: next :: rest) =
          part ++ sign :: separated sign (next :: rest) := rfl
      rw [hparts, List.filterMap_append, List.filterMap_cons_none hsign, ih]
      rfl

namespace Formula

mutual

/-- The symbols of a formula have its conditions, from left to right. -/
theorem filterMap_symbols : (f : Formula α) → f.symbols.filterMap Symbol.atom? = f.atoms
  | atom _ => rfl
  | conj parts => by
    rw [symbols, atoms, List.cons_append, List.filterMap_cons_none rfl, List.filterMap_append,
      Symbol.filterMap_separated rfl, filterMap_symbolsOfAll parts]
    exact List.append_nil _
  | disj parts => by
    rw [symbols, atoms, List.cons_append, List.filterMap_cons_none rfl, List.filterMap_append,
      Symbol.filterMap_separated rfl, filterMap_symbolsOfAll parts]
    exact List.append_nil _
  | neg part => by
    rw [symbols, atoms, List.cons_append, List.cons_append, List.filterMap_cons_none rfl,
      List.filterMap_cons_none rfl, List.filterMap_append, filterMap_symbols part]
    exact List.append_nil _

theorem filterMap_symbolsOfAll : (parts : List (Formula α)) →
    (symbolsOfAll parts).flatMap (fun part => part.filterMap Symbol.atom?) = atomsOfAll parts
  | [] => rfl
  | part :: rest => by
    rw [symbolsOfAll, atomsOfAll, List.flatMap_cons, filterMap_symbols part,
      filterMap_symbolsOfAll rest]

end

/-- The text of a formula has its truth value, whatever the truth values of the conditions are. -/
theorem IsReadable.readText_eq {f : Formula Condition} (h : f.IsReadable) (L : Logic V)
    (truth : Condition → V) (frame : Frame) :
    L.readText (frame.operands truth f.atoms) (frame.text f.pieces) =
      some (f.value L truth) := by
  rw [← f.filterMap_symbols]
  exact Logic.readText_of_read (h.read_value L truth) frame

end Formula

end TagSearch
