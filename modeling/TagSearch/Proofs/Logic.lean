import TagSearch.Sql.Formula

/-!
# Reading formulas in a logic

A logic has truth values and connectives.  In any logic a condition can be read as the store
reads it, from left to right: a negation belongs to the operand behind it, conjunctions bind
more tightly than disjunctions, and parentheses stand as written.  The reading keeps one level
for each open parenthesis, and relies on a few laws of the connectives only.

Main results:

- Definition `Logic.read`: the truth value of symbols.
- Theorem `Formula.IsReadable.readsAsOperand`: a written formula is safe in every context.
- Theorem `Formula.IsReadable.read_value`: the symbols of a formula have its truth value.
-/

namespace TagSearch

/-- Truth values with connectives, and the laws on which a reading from left to right
relies. -/
structure Logic (V : Type) where
  yes : V
  no : V
  conj : V → V → V
  disj : V → V → V
  neg : V → V
  conj_assoc : ∀ a b c, conj (conj a b) c = conj a (conj b c)
  yes_conj : ∀ a, conj yes a = a
  conj_yes : ∀ a, conj a yes = a
  disj_assoc : ∀ a b c, disj (disj a b) c = disj a (disj b c)
  no_disj : ∀ a, disj no a = a
  disj_no : ∀ a, disj a no = a
  neg_neg : ∀ a, neg (neg a) = a

variable {α V : Type}

/-! ## Truth values of formulas -/

namespace Formula

mutual

/-- The truth value of a formula, given the truth values of its conditions. -/
def value (L : Logic V) (truth : α → V) : Formula α → V
  | atom a => truth a
  | conj parts => allValue L truth parts
  | disj parts => anyValue L truth parts
  | neg part => L.neg (value L truth part)

/-- The truth value of the conjunction of several formulas. -/
def allValue (L : Logic V) (truth : α → V) : List (Formula α) → V
  | [] => L.yes
  | part :: rest => L.conj (value L truth part) (allValue L truth rest)

/-- The truth value of the disjunction of several formulas. -/
def anyValue (L : Logic V) (truth : α → V) : List (Formula α) → V
  | [] => L.no
  | part :: rest => L.disj (value L truth part) (anyValue L truth rest)

end

end Formula

/-! ## The reader -/

namespace Logic

variable (L : Logic V)

/-- What was read so far between two parentheses. -/
structure Level (V : Type) where
  /-- The disjunction of the alternatives before the last disjunction sign. -/
  any : V
  /-- The conjunction of the operands since then. -/
  all : V
  /-- The next operand is negated. -/
  negated : Bool

/-- Nothing was read so far. -/
def opened : Level V :=
  ⟨L.no, L.yes, false⟩

/-- The truth value of what was read. -/
def levelValue (l : Level V) : V :=
  L.disj l.any l.all

/-- An operand was read. -/
def take (l : Level V) (operand : V) : Level V :=
  { l with all := L.conj l.all (if l.negated then L.neg operand else operand), negated := false }

/-- A disjunction sign was read. -/
def alternative (l : Level V) : Level V :=
  ⟨L.levelValue l, L.yes, false⟩

/-- A negation sign was read. -/
def Level.negate (l : Level V) : Level V :=
  { l with negated := !l.negated }

/-- The truth value of symbols, if they are well formed.  The flag tells whether an operand
has to come next; the levels are those outside of the parentheses that are still open. -/
def read (truth : α → V) : Bool → List (Level V) → Level V → List (Symbol α) → Option V
  | true, outer, l, .atom a :: rest => read truth false outer (L.take l (truth a)) rest
  | true, outer, l, .neg :: rest => read truth true outer l.negate rest
  | true, outer, l, .lParen :: rest => read truth true (l :: outer) L.opened rest
  | false, outer, l, .conj :: rest => read truth true outer l rest
  | false, outer, l, .disj :: rest => read truth true outer (L.alternative l) rest
  | false, around :: outer, l, .rParen :: rest =>
    read truth false outer (L.take around (L.levelValue l)) rest
  | false, [], l, [] => some (L.levelValue l)
  | _, _, _, _ => none

theorem take_opened (operand : V) : L.take L.opened operand = ⟨L.no, operand, false⟩ := by
  rw [take, opened]
  exact congrArg (Level.mk L.no · false) (L.yes_conj operand)

/-- A negation sign before an operand negates the operand. -/
theorem take_negate (l : Level V) (operand : V) :
    L.take l.negate operand = L.take l (L.neg operand) := by
  cases hnegated : l.negated with
  | true => simp [take, Level.negate, hnegated, L.neg_neg]
  | false => simp [take, Level.negate, hnegated]

/-- Operands that are read one after the other are read as their conjunction. -/
theorem take_take {l : Level V} (hl : l.negated = false) (a b : V) :
    L.take (L.take l a) b = L.take l (L.conj a b) := by
  simp [take, hl, L.conj_assoc]

end Logic

namespace Formula

variable {L : Logic V} {truth : α → V} {parts : List (Formula α)} {f : Formula α}

/-! ## Formulas that can be written -/

/-- Every connective of the formula connects something. -/
inductive IsReadable : Formula α → Prop where
  | atom (a : α) : IsReadable (.atom a)
  | conj {parts : List (Formula α)} (hne : parts ≠ [])
      (hparts : ∀ f ∈ parts, IsReadable f) : IsReadable (.conj parts)
  | disj {parts : List (Formula α)} (hne : parts ≠ [])
      (hparts : ∀ f ∈ parts, IsReadable f) : IsReadable (.disj parts)
  | neg {part : Formula α} (hpart : IsReadable part) : IsReadable (.neg part)

theorem isReadable_of_all? (hparts : ∀ p ∈ parts, p.IsReadable) (h : all? parts = some f) :
    f.IsReadable := by
  cases parts with
  | nil => cases h
  | cons p rest =>
    cases rest with
    | nil =>
      cases h
      exact hparts _ List.mem_cons_self
    | cons q rest =>
      cases h
      exact .conj (List.cons_ne_nil p (q :: rest)) hparts

theorem isReadable_of_any? (hparts : ∀ p ∈ parts, p.IsReadable) (h : any? parts = some f) :
    f.IsReadable := by
  cases parts with
  | nil => cases h
  | cons p rest =>
    cases rest with
    | nil =>
      cases h
      exact hparts _ List.mem_cons_self
    | cons q rest =>
      cases h
      exact .disj (List.cons_ne_nil p (q :: rest)) hparts

/-! ## Written formulas -/

/-- The symbols of a formula are read as one operand, whatever stands around them. -/
def ReadsAsOperand (L : Logic V) (truth : α → V) (f : Formula α) : Prop :=
  ∀ (outer : List (Logic.Level V)) (l : Logic.Level V) (rest : List (Symbol α)),
    L.read truth true outer l (f.symbols ++ rest) =
      L.read truth false outer (L.take l (f.value L truth)) rest

/-- Operands with conjunction signs between them are read as the conjunction of all. -/
theorem read_conj (hparts : ∀ p ∈ parts, p.ReadsAsOperand L truth) (hne : parts ≠ [])
    (outer : List (Logic.Level V)) {l : Logic.Level V} (hl : l.negated = false)
    (rest : List (Symbol α)) :
    L.read truth true outer l (Symbol.separated .conj (symbolsOfAll parts) ++ rest) =
      L.read truth false outer (L.take l (allValue L truth parts)) rest := by
  induction parts generalizing l with
  | nil => exact absurd rfl hne
  | cons p ps ih =>
    have hp := hparts p List.mem_cons_self
    cases ps with
    | nil =>
      have hone : allValue L truth [p] = p.value L truth := by
        rw [allValue, allValue, L.conj_yes]
      rw [hone]
      exact hp outer l rest
    | cons q qs =>
      have hrest := ih (fun x hx => hparts x (List.mem_cons_of_mem p hx))
        (List.cons_ne_nil q qs) (l := L.take l (p.value L truth)) rfl
      have hsymbols : Symbol.separated .conj (symbolsOfAll (p :: q :: qs)) ++ rest =
          p.symbols ++ .conj :: (Symbol.separated .conj (symbolsOfAll (q :: qs)) ++ rest) := by
        simp [symbolsOfAll, Symbol.separated]
      rw [allValue, ← L.take_take hl, ← hrest, hsymbols, hp outer l]
      rfl

/-- Operands with disjunction signs between them are read as alternatives. -/
theorem read_disj (hparts : ∀ p ∈ parts, p.ReadsAsOperand L truth) (hne : parts ≠ [])
    (outer : List (Logic.Level V)) (any : V) (rest : List (Symbol α)) :
    ∃ l : Logic.Level V, L.levelValue l = L.disj any (anyValue L truth parts) ∧
      L.read truth true outer ⟨any, L.yes, false⟩
          (Symbol.separated .disj (symbolsOfAll parts) ++ rest) =
        L.read truth false outer l rest := by
  induction parts generalizing any with
  | nil => exact absurd rfl hne
  | cons p ps ih =>
    have hp := hparts p List.mem_cons_self
    have htake : L.levelValue (L.take ⟨any, L.yes, false⟩ (p.value L truth)) =
        L.disj any (p.value L truth) := by
      simp [Logic.levelValue, Logic.take, L.yes_conj]
    cases ps with
    | nil =>
      refine ⟨L.take ⟨any, L.yes, false⟩ (p.value L truth), ?_, hp outer ⟨any, L.yes, false⟩ rest⟩
      rw [htake, anyValue, anyValue, L.disj_no]
    | cons q qs =>
      obtain ⟨l, hvalue, hread⟩ := ih (fun x hx => hparts x (List.mem_cons_of_mem p hx))
        (List.cons_ne_nil q qs) (L.disj any (p.value L truth))
      refine ⟨l, ?_, ?_⟩
      · rw [hvalue, L.disj_assoc]
        rfl
      · have hsymbols : Symbol.separated .disj (symbolsOfAll (p :: q :: qs)) ++ rest =
            p.symbols ++ .disj :: (Symbol.separated .disj (symbolsOfAll (q :: qs)) ++ rest) := by
          simp [symbolsOfAll, Symbol.separated]
        rw [hsymbols, hp outer, ← hread, ← htake]
        rfl

namespace IsReadable

/-- A written formula is safe in every context. -/
theorem readsAsOperand (h : f.IsReadable) (L : Logic V) (truth : α → V) :
    f.ReadsAsOperand L truth := by
  induction h with
  | atom a =>
    intro outer l rest
    rfl
  | @conj parts hne _ ih =>
    intro outer l rest
    have hsymbols : (Formula.conj parts).symbols ++ rest =
        .lParen :: (Symbol.separated .conj (symbolsOfAll parts) ++ .rParen :: rest) := by
      simp [symbols]
    rw [hsymbols, Logic.read, read_conj ih hne (l :: outer) rfl, L.take_opened, Logic.read,
      Logic.levelValue, L.no_disj, value]
  | @disj parts hne _ ih =>
    intro outer l rest
    have hsymbols : (Formula.disj parts).symbols ++ rest =
        .lParen :: (Symbol.separated .disj (symbolsOfAll parts) ++ .rParen :: rest) := by
      simp [symbols]
    obtain ⟨inner, hvalue, hread⟩ := read_disj ih hne (l :: outer) L.no (.rParen :: rest)
    rw [hsymbols, Logic.read, Logic.opened, hread, Logic.read, hvalue, L.no_disj, value]
  | @neg part _ ih =>
    intro outer l rest
    have hsymbols : (Formula.neg part).symbols ++ rest =
        .neg :: .lParen :: (part.symbols ++ .rParen :: rest) := by
      simp [symbols]
    rw [hsymbols, Logic.read, Logic.read, ih, L.take_opened, Logic.read, L.take_negate,
      Logic.levelValue, L.no_disj, value]

/-- The symbols of a formula have its truth value. -/
theorem read_value (h : f.IsReadable) (L : Logic V) (truth : α → V) :
    L.read truth true [] L.opened f.symbols = some (f.value L truth) := by
  have hread := h.readsAsOperand L truth [] L.opened []
  rw [List.append_nil] at hread
  rw [hread, L.take_opened, Logic.read, Logic.levelValue, L.no_disj]

end IsReadable

end Formula

end TagSearch
