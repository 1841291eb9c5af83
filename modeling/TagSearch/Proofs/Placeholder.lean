import TagSearch.Sql.Statement

/-!
# Placeholders in the text of a statement

A text is read for its placeholders alone: every dollar sign counts, with the digits behind it.
Pieces are legible when no fixed text holds a dollar sign and the text behind a parameter does
not begin with a digit.  The placeholders in the text of legible pieces are then numbered from
left to right, one for each parameter.

Main results:

- Theorem `Placeholder.readAll_placeholder`: a placeholder is read back.
- Theorem `Piece.Legible.append`: legible pieces stay so behind one another.
- Theorem `Statement.placeholders_ofPieces`: the placeholders of legible pieces number their
  parameters.
-/

namespace TagSearch

/-! ## Plain text -/

/-- A text without any dollar sign. -/
def IsPlain (s : String) : Prop :=
  '$' ∉ s.toList

namespace IsPlain

instance (s : String) : Decidable (IsPlain s) :=
  inferInstanceAs (Decidable ('$' ∉ s.toList))

theorem append_iff {a b : String} : IsPlain (a ++ b) ↔ IsPlain a ∧ IsPlain b := by
  rw [IsPlain, String.toList_append, List.mem_append, not_or]
  rfl

theorem append {a b : String} (ha : IsPlain a) (hb : IsPlain b) : IsPlain (a ++ b) :=
  append_iff.mpr ⟨ha, hb⟩

theorem join {texts : List String} (h : ∀ s ∈ texts, IsPlain s) : IsPlain (String.join texts) := by
  rw [IsPlain, String.toList_join, List.mem_flatMap]
  rintro ⟨s, hs, hmem⟩
  exact h s hs hmem

theorem intercalate {separator : String} {texts : List String} (hseparator : IsPlain separator)
    (h : ∀ s ∈ texts, IsPlain s) : IsPlain (separator.intercalate texts) := by
  induction texts with
  | nil => exact List.not_mem_nil
  | cons s rest ih =>
    have hs := h s List.mem_cons_self
    have hrest := ih fun s' hs' => h s' (List.mem_cons_of_mem s hs')
    cases rest with
    | nil =>
      rw [String.intercalate_singleton]
      exact hs
    | cons t ts =>
      rw [String.intercalate_cons_cons]
      exact (hs.append hseparator).append hrest

theorem toString_nat (n : Nat) : IsPlain (toString n) := by
  intro hmem
  rw [Nat.toString_eq_ofList_toDigits, String.toList_ofList] at hmem
  have hdigit := Nat.isDigit_of_mem_toDigits (by decide) (by decide) hmem
  exact absurd hdigit (by decide)

theorem toString_int (i : Int) : IsPlain (toString i) := by
  cases i with
  | ofNat n => exact toString_nat n
  | negSucc n => exact append (a := "-") (by decide) (toString_nat (n + 1))

end IsPlain

/-! ## Reading placeholders -/

namespace Placeholder

/-- The placeholders in a text from left to right: every dollar sign with the digits behind
it. -/
def readAll : List Char → List String
  | [] => []
  | c :: cs =>
    if c = '$' then String.ofList ('$' :: cs.takeWhile Char.isDigit) :: readAll cs
    else readAll cs

/-- Plain text in front holds no placeholder. -/
theorem readAll_append {a : List Char} (h : '$' ∉ a) (b : List Char) :
    readAll (a ++ b) = readAll b := by
  induction a with
  | nil => rfl
  | cons c cs ih =>
    rw [List.mem_cons, not_or] at h
    rw [List.cons_append, readAll, if_neg (Ne.symm h.1), ih h.2]

/-- A placeholder is read back, unless more digits follow it. -/
theorem readAll_placeholder (number : Nat) {rest : List Char}
    (hrest : ∀ c ∈ rest.head?, c.isDigit = false) :
    readAll ((Piece.placeholder number).toList ++ rest) =
      Piece.placeholder number :: readAll rest := by
  have hchars : (Piece.placeholder number).toList = '$' :: Nat.toDigits 10 number := by
    rw [Piece.placeholder, String.toList_append, Nat.toString_eq_ofList_toDigits]
    exact congrArg ('$' :: ·) String.toList_ofList
  have hdigits : ∀ c ∈ Nat.toDigits 10 number, c.isDigit = true := by
    intro c hc
    exact Nat.isDigit_of_mem_toDigits (by decide) (by decide) hc
  have hstop : rest.takeWhile Char.isDigit = [] := by
    cases rest with
    | nil => rfl
    | cons c cs => rw [List.takeWhile_cons_of_neg (by rw [hrest c rfl]; decide)]
  have htake : (Nat.toDigits 10 number ++ rest).takeWhile Char.isDigit =
      Nat.toDigits 10 number := by
    rw [List.takeWhile_append_of_pos hdigits, hstop, List.append_nil]
  have hplain : '$' ∉ Nat.toDigits 10 number := by
    intro hmem
    exact absurd (hdigits '$' hmem) (by decide)
  rw [hchars, List.cons_append, readAll, if_pos rfl, htake, readAll_append hplain, ← hchars,
    String.ofList_toList]

end Placeholder

theorem Piece.placeholder_injective {m n : Nat} (h : Piece.placeholder m = Piece.placeholder n) :
    m = n := by
  have hlist := congrArg String.toList h
  simp only [placeholder, String.toList_append, Nat.toString_eq_ofList_toDigits,
    String.toList_ofList] at hlist
  have hdigits : Nat.toDigits 10 m = Nat.toDigits 10 n := List.append_cancel_left hlist
  rw [← Nat.ofDigitChars_ten_toDigits (n := m), hdigits, Nat.ofDigitChars_ten_toDigits]

/-! ## Legible pieces -/

namespace Piece

/-- Whether a piece ends the number of a placeholder in front of it. -/
def isStop : Piece → Bool
  | text s => s.toList.head?.any fun c => !c.isDigit
  | param _ => false

theorem isStop_append {a b : String} (h : (text a).isStop = true) :
    (text (a ++ b)).isStop = true := by
  rw [isStop, Option.any_eq_true] at h
  obtain ⟨c, hc, hdigit⟩ := h
  rw [isStop, String.toList_append, List.head?_append, hc, Option.some_or, Option.any_some]
  exact hdigit

/-- Pieces whose placeholders stand out from the text: no text holds a dollar sign, and what
stands behind a parameter ends its number. -/
def Legible : List Piece → Prop
  | [] => True
  | text s :: rest => IsPlain s ∧ Legible rest
  | param _ :: rest => (∀ q ∈ rest.head?, q.isStop = true) ∧ Legible rest

namespace Legible

variable {ps qs : List Piece}

theorem text {s : String} (h : IsPlain s) : Legible [.text s] :=
  ⟨h, trivial⟩

theorem param (p : Param) : Legible [.param p] := by
  refine ⟨?_, trivial⟩
  intro q hq
  cases hq

/-- Legible pieces stay so behind one another if the later ones begin with a stop. -/
theorem append (hps : Legible ps) (hqs : Legible qs) (hstop : ∀ q ∈ qs.head?, q.isStop = true) :
    Legible (ps ++ qs) := by
  induction ps with
  | nil => exact hqs
  | cons p rest ih =>
    cases p with
    | text s => exact ⟨hps.1, ih hps.2⟩
    | param a =>
      refine ⟨?_, ih hps.2⟩
      cases rest with
      | nil => exact hstop
      | cons r rs => exact hps.1

/-- Text is legible between any pieces, if it is a stop. -/
theorem append_text {s : String} (hps : Legible ps) (hs : IsPlain s)
    (hstop : (Piece.text s).isStop = true) (hqs : Legible qs) : Legible (ps ++ .text s :: qs) := by
  refine hps.append ⟨hs, hqs⟩ ?_
  intro q hq
  cases hq
  exact hstop

theorem separated {separator : String} (hseparator : IsPlain separator)
    (hstop : (Piece.text separator).isStop = true) {parts : List (List Piece)}
    (h : ∀ part ∈ parts, Legible part) : Legible (Piece.separated separator parts) := by
  induction parts with
  | nil => trivial
  | cons part rest ih =>
    have hpart := h part List.mem_cons_self
    have hrest := ih fun other hother => h other (List.mem_cons_of_mem part hother)
    cases rest with
    | nil => exact hpart
    | cons next others => exact hpart.append_text hseparator hstop hrest

end Legible

/-- What follows a parameter among legible pieces does not lengthen its placeholder. -/
theorem not_isDigit_of_isStop {rest : List Piece} {number : Nat}
    (hstop : ∀ q ∈ rest.head?, q.isStop = true) :
    ∀ c ∈ (textFrom number rest).toList.head?, c.isDigit = false := by
  intro c hc
  cases rest with
  | nil => cases hc
  | cons q qs =>
    have hq := hstop q rfl
    cases q with
    | param p => cases hq
    | text s =>
      rw [isStop, Option.any_eq_true] at hq
      obtain ⟨d, hd, hdigit⟩ := hq
      rw [textFrom, String.toList_append, List.head?_append, hd, Option.some_or] at hc
      cases hc
      simpa using hdigit

/-- The placeholders of legible pieces are numbered from left to right. -/
theorem readAll_textFrom {ps : List Piece} (h : Legible ps) (number : Nat) :
    Placeholder.readAll (textFrom number ps).toList =
      (List.range' number (ps.filterMap param?).length).map placeholder := by
  induction ps generalizing number with
  | nil => rfl
  | cons p rest ih =>
    cases p with
    | text s =>
      have hparams : (Piece.text s :: rest).filterMap param? = rest.filterMap param? := rfl
      rw [textFrom, String.toList_append, Placeholder.readAll_append h.1, ih h.2, hparams]
    | param a =>
      have hparams : ((Piece.param a :: rest).filterMap param?).length =
          (rest.filterMap param?).length + 1 := rfl
      rw [textFrom, String.toList_append,
        Placeholder.readAll_placeholder number (not_isDigit_of_isStop h.1), ih h.2, hparams,
        List.range'_succ, List.map_cons]

end Piece

/-! ## Statements -/

namespace Statement

/-- The placeholders in the text of a statement from left to right. -/
def placeholders (st : Statement) : List String :=
  Placeholder.readAll st.sql.toList

/-- The placeholders of a statement are one for each parameter, in order. -/
def IsNumbered (st : Statement) : Prop :=
  st.placeholders = (List.range' 1 st.params.length).map Piece.placeholder

/-- Each of the placeholders occurs once. -/
theorem IsNumbered.nodup {st : Statement} (h : st.IsNumbered) : st.placeholders.Nodup := by
  have hrange : (List.range' 1 st.params.length).Nodup := List.nodup_range'
  rw [h]
  refine List.Pairwise.map Piece.placeholder ?_ hrange
  intro m n hne heq
  exact hne (Piece.placeholder_injective heq)

theorem placeholders_ofPieces {ps : List Piece} (h : Piece.Legible ps) :
    (ofPieces ps).IsNumbered :=
  Piece.readAll_textFrom h 1

end Statement

end TagSearch
