/-!
# Formulas

Truth-functional combinations of conditions, and the symbols that write them.  Every
conjunction or disjunction of several parts stands in parentheses, and so does what is
negated, so that the symbols can be read with the usual precedence.

Main results:

- Theorem `Formula.all?_eq_none_iff` and `Formula.any?_eq_none_iff`: only a combination of
  no parts at all has no formula.
-/

namespace TagSearch

/-- A combination of conditions. -/
inductive Formula (α : Type) where
  | atom (condition : α)
  | conj (parts : List (Formula α))
  | disj (parts : List (Formula α))
  | neg (part : Formula α)

/-- A symbol of a written formula. -/
inductive Symbol (α : Type) where
  | atom (condition : α)
  | lParen
  | rParen
  | conj
  | disj
  | neg
deriving Repr

/-- The symbols of several parts with a connective between any two. -/
def Symbol.separated {α : Type} (connective : Symbol α) : List (List (Symbol α)) → List (Symbol α)
  | [] => []
  | [part] => part
  | part :: rest => part ++ connective :: separated connective rest

namespace Formula

variable {α : Type}

/-- The formula that holds when all parts do.  No parts make no formula, and a single part
is itself the formula. -/
def all? : List (Formula α) → Option (Formula α)
  | [] => none
  | [part] => some part
  | parts => some (conj parts)

/-- The formula that holds when some part does.  No parts make no formula, and a single
part is itself the formula. -/
def any? : List (Formula α) → Option (Formula α)
  | [] => none
  | [part] => some part
  | parts => some (disj parts)

mutual

/-- The symbols that write a formula. -/
def symbols : Formula α → List (Symbol α)
  | atom a => [.atom a]
  | conj parts => .lParen :: Symbol.separated .conj (symbolsOfAll parts) ++ [.rParen]
  | disj parts => .lParen :: Symbol.separated .disj (symbolsOfAll parts) ++ [.rParen]
  | neg part => .neg :: .lParen :: symbols part ++ [.rParen]

/-- The symbols of each of several formulas. -/
def symbolsOfAll : List (Formula α) → List (List (Symbol α))
  | [] => []
  | part :: rest => symbols part :: symbolsOfAll rest

end

mutual

/-- The conditions of a formula from left to right. -/
def atoms : Formula α → List α
  | atom a => [a]
  | conj parts => atomsOfAll parts
  | disj parts => atomsOfAll parts
  | neg part => atoms part

/-- The conditions of several formulas from left to right. -/
def atomsOfAll : List (Formula α) → List α
  | [] => []
  | part :: rest => atoms part ++ atomsOfAll rest

end

mutual

/-- The truth value of a formula, given the truth values of its conditions. -/
def holds (truth : α → Bool) : Formula α → Bool
  | atom a => truth a
  | conj parts => allHold truth parts
  | disj parts => anyHolds truth parts
  | neg part => !holds truth part

/-- Whether all of several formulas hold. -/
def allHold (truth : α → Bool) : List (Formula α) → Bool
  | [] => true
  | part :: rest => holds truth part && allHold truth rest

/-- Whether some of several formulas holds. -/
def anyHolds (truth : α → Bool) : List (Formula α) → Bool
  | [] => false
  | part :: rest => holds truth part || anyHolds truth rest

end

theorem atomsOfAll_eq (parts : List (Formula α)) : atomsOfAll parts = parts.flatMap atoms := by
  induction parts with
  | nil => rfl
  | cons p ps ih => rw [atomsOfAll, ih, List.flatMap_cons]

theorem atomsOfAll_append (fs gs : List (Formula α)) :
    atomsOfAll (fs ++ gs) = atomsOfAll fs ++ atomsOfAll gs := by
  rw [atomsOfAll_eq, atomsOfAll_eq, atomsOfAll_eq, List.flatMap_append]

/-- The conditions of a conjunction are those of its parts. -/
theorem atomsOfAll_all? (parts : List (Formula α)) :
    atomsOfAll (all? parts).toList = atomsOfAll parts :=
  match parts with
  | [] => rfl
  | [_] => rfl
  | _ :: _ :: _ => List.append_nil _

/-- The conditions of a disjunction are those of its parts. -/
theorem atomsOfAll_any? (parts : List (Formula α)) :
    atomsOfAll (any? parts).toList = atomsOfAll parts :=
  match parts with
  | [] => rfl
  | [_] => rfl
  | _ :: _ :: _ => List.append_nil _

theorem all?_eq_none_iff {parts : List (Formula α)} : all? parts = none ↔ parts = [] := by
  unfold all?
  split <;> simp_all

theorem any?_eq_none_iff {parts : List (Formula α)} : any? parts = none ↔ parts = [] := by
  unfold any?
  split <;> simp_all

theorem holds_of_all?_eq_some {truth : α → Bool} {parts : List (Formula α)} {f : Formula α}
    (h : all? parts = some f) : f.holds truth = allHold truth parts := by
  unfold all? at h
  split at h
  · simp at h
  · simp only [Option.some.injEq] at h
    subst h
    simp [allHold]
  · simp only [Option.some.injEq] at h
    subst h
    simp [holds]

theorem holds_of_any?_eq_some {truth : α → Bool} {parts : List (Formula α)} {f : Formula α}
    (h : any? parts = some f) : f.holds truth = anyHolds truth parts := by
  unfold any? at h
  split at h
  · simp at h
  · simp only [Option.some.injEq] at h
    subst h
    simp [anyHolds]
  · simp only [Option.some.injEq] at h
    subst h
    simp [holds]

end Formula

end TagSearch
