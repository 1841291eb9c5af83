import TagSearch.Proofs.Emission
import TagSearch.Proofs.Logic

/-!
# The logic of three truth values

On a row that holds nothing in some columns, the store finds that a condition holds, that it
fails, or that neither is known.  A verdict that is known is the truth value that a formula has
under two truth values as well, whatever the unknown conditions are taken to be.  The converse
needs a reservation: where unknown conditions are taken to fail, a formula that holds may be
unknown to the store, but only on account of a condition below an odd number of negations.

Main results:

- Definition `Logic.threeValued`: the connectives of the store.
- Theorem `Formula.value_agrees`: a known verdict is the truth value of the formula.
- Theorem `Formula.value_of_settled`: when the verdict on a formula that holds is known.
-/

namespace TagSearch

/-- What the store finds of a condition on a row. -/
inductive Verdict where
  | holds
  | fails
  | unknown
deriving DecidableEq, Repr

namespace Verdict

/-- A verdict that is known. -/
def ofBool : Bool → Verdict
  | true => holds
  | false => fails

/-- The verdict on a negation. -/
def neg : Verdict → Verdict
  | holds => fails
  | fails => holds
  | unknown => unknown

/-- The verdict on a conjunction: it fails as soon as one side does. -/
def conj : Verdict → Verdict → Verdict
  | fails, _ => fails
  | _, fails => fails
  | holds, holds => holds
  | _, _ => unknown

/-- The verdict on a disjunction: it holds as soon as one side does. -/
def disj : Verdict → Verdict → Verdict
  | holds, _ => holds
  | _, holds => holds
  | fails, fails => fails
  | _, _ => unknown

/-- The store keeps a row only if the verdict is that the condition holds. -/
def keeps : Verdict → Bool
  | holds => true
  | fails => false
  | unknown => false

/-- A verdict that is known names the truth value. -/
def Agrees : Verdict → Bool → Prop
  | holds, b => b = true
  | fails, b => b = false
  | unknown, _ => True

variable {v w : Verdict} {a b : Bool}

theorem agrees_keeps (v : Verdict) : v.Agrees v.keeps := by
  cases v with
  | holds => rfl
  | fails => rfl
  | unknown => trivial

theorem keeps_ofBool (b : Bool) : (ofBool b).keeps = b := by
  cases b with
  | true => rfl
  | false => rfl

theorem ofBool_ne_unknown (b : Bool) : ofBool b ≠ unknown := by
  cases b with
  | true => simp [ofBool]
  | false => simp [ofBool]

theorem keeps_eq_true : v.keeps = true ↔ v = holds := by
  cases v with
  | holds => simp [keeps]
  | fails => simp [keeps]
  | unknown => simp [keeps]

theorem keeps_eq_false_of_agrees (h : v.Agrees false) : v.keeps = false := by
  cases v with
  | holds => cases h
  | fails => rfl
  | unknown => rfl

theorem agrees_neg (h : v.Agrees a) : v.neg.Agrees (!a) := by
  cases v with
  | holds => simp_all [Agrees, neg]
  | fails => simp_all [Agrees, neg]
  | unknown => trivial

theorem agrees_conj (hv : v.Agrees a) (hw : w.Agrees b) : (v.conj w).Agrees (a && b) := by
  cases v <;> cases w <;> simp_all [Agrees, conj]

theorem agrees_disj (hv : v.Agrees a) (hw : w.Agrees b) : (v.disj w).Agrees (a || b) := by
  cases v <;> cases w <;> simp_all [Agrees, disj]

theorem conj_fails (v : Verdict) : v.conj fails = fails := by
  cases v <;> rfl

theorem disj_holds (v : Verdict) : v.disj holds = holds := by
  cases v <;> rfl

end Verdict

/-- The logic in which the store reads conditions. -/
def Logic.threeValued : Logic Verdict where
  yes := .holds
  no := .fails
  conj := .conj
  disj := .disj
  neg := .neg
  conj_assoc a b c := by cases a <;> cases b <;> cases c <;> rfl
  yes_conj a := by cases a <;> rfl
  conj_yes a := by cases a <;> rfl
  disj_assoc a b c := by cases a <;> cases b <;> cases c <;> rfl
  no_disj a := by cases a <;> rfl
  disj_no a := by cases a <;> rfl
  neg_neg a := by cases a <;> rfl

namespace Formula

variable {α : Type} {truth : α → Verdict}

/-! ## Known verdicts -/

section Agreement

variable {taken : α → Bool}

mutual

/-- A known verdict is the truth value of the formula, whatever the unknown conditions are
taken to be. -/
theorem value_agrees (h : ∀ a, (truth a).Agrees (taken a)) :
    (f : Formula α) → (f.value Logic.threeValued truth).Agrees (f.holds taken)
  | atom a => h a
  | conj parts => allValue_agrees h parts
  | disj parts => anyValue_agrees h parts
  | neg part => Verdict.agrees_neg (value_agrees h part)

theorem allValue_agrees (h : ∀ a, (truth a).Agrees (taken a)) :
    (parts : List (Formula α)) →
      (allValue Logic.threeValued truth parts).Agrees (allHold taken parts)
  | [] => rfl
  | part :: rest => by
    rw [allValue, allHold]
    exact Verdict.agrees_conj (value_agrees h part) (allValue_agrees h rest)

theorem anyValue_agrees (h : ∀ a, (truth a).Agrees (taken a)) :
    (parts : List (Formula α)) →
      (anyValue Logic.threeValued truth parts).Agrees (anyHolds taken parts)
  | [] => rfl
  | part :: rest => by
    rw [anyValue, anyHolds]
    exact Verdict.agrees_disj (value_agrees h part) (anyValue_agrees h rest)

end

end Agreement

/-! ## Formulas whose verdict is known -/

/-- No condition that occurs below an odd number of negations is unknown. -/
def Settled (truth : α → Verdict) (occurrences : List (Bool × α)) : Prop :=
  ∀ a, (true, a) ∈ occurrences → truth a ≠ .unknown

theorem settled_append {xs ys : List (Bool × α)} (h : Settled truth (xs ++ ys)) :
    Settled truth xs ∧ Settled truth ys :=
  ⟨fun a ha => h a (List.mem_append_left ys ha), fun a ha => h a (List.mem_append_right xs ha)⟩

/-- The verdict on a condition that is taken to fail unless it holds. -/
theorem ofBool_of_keeps {v : Verdict} {negated : Bool} (hknown : negated = true → v ≠ .unknown)
    (hv : v.keeps = !negated) : v = .ofBool (!negated) := by
  cases negated with
  | false => exact Verdict.keeps_eq_true.mp hv
  | true =>
    cases v with
    | holds => cases hv
    | fails => rfl
    | unknown => exact absurd rfl (hknown rfl)

mutual

/-- Where unknown conditions are taken to fail, the verdict on a formula that holds is known,
unless a condition below an odd number of negations is unknown.  Inside a negation the same is
said of a formula that fails. -/
theorem value_of_settled (negated : Bool) :
    (f : Formula α) → Settled truth (f.signed negated) →
      f.holds (fun a => (truth a).keeps) = !negated →
      f.value Logic.threeValued truth = .ofBool (!negated)
  | atom a, hsettled, hholds => by
    refine ofBool_of_keeps ?_ hholds
    intro hnegated
    refine hsettled a ?_
    rw [hnegated]
    exact List.mem_singleton_self _
  | conj parts, hsettled, hholds => allValue_of_settled negated parts hsettled hholds
  | disj parts, hsettled, hholds => anyValue_of_settled negated parts hsettled hholds
  | neg part, hsettled, hholds => by
    have hpart : part.holds (fun a => (truth a).keeps) = !(!negated) := by
      rw [← hholds, holds, Bool.not_not]
    rw [value, value_of_settled (!negated) part hsettled hpart]
    cases negated with
    | true => rfl
    | false => rfl

theorem allValue_of_settled (negated : Bool) :
    (parts : List (Formula α)) → Settled truth (signedAll negated parts) →
      allHold (fun a => (truth a).keeps) parts = !negated →
      allValue Logic.threeValued truth parts = .ofBool (!negated)
  | [], _, hholds => congrArg Verdict.ofBool hholds
  | part :: rest, hsettled, hholds => by
    rw [signedAll] at hsettled
    obtain ⟨hhead, hrest⟩ := settled_append hsettled
    rw [allHold] at hholds
    rw [allValue]
    cases negated with
    | false =>
      obtain ⟨hpart, hparts⟩ := Bool.and_eq_true_iff.mp hholds
      rw [value_of_settled false part hhead hpart, allValue_of_settled false rest hrest hparts]
      rfl
    | true =>
      -- a conjunction that fails has a part whose failure is known, whatever the others are
      rcases Bool.and_eq_false_iff.mp hholds with hpart | hparts
      · rw [value_of_settled true part hhead hpart]
        rfl
      · rw [allValue_of_settled true rest hrest hparts]
        exact Verdict.conj_fails _

theorem anyValue_of_settled (negated : Bool) :
    (parts : List (Formula α)) → Settled truth (signedAll negated parts) →
      anyHolds (fun a => (truth a).keeps) parts = !negated →
      anyValue Logic.threeValued truth parts = .ofBool (!negated)
  | [], _, hholds => congrArg Verdict.ofBool hholds
  | part :: rest, hsettled, hholds => by
    rw [signedAll] at hsettled
    obtain ⟨hhead, hrest⟩ := settled_append hsettled
    rw [anyHolds] at hholds
    rw [anyValue]
    cases negated with
    | false =>
      -- dually, a disjunction that holds has a part that is known to hold
      rcases Bool.or_eq_true_iff.mp hholds with hpart | hparts
      · rw [value_of_settled false part hhead hpart]
        rfl
      · rw [anyValue_of_settled false rest hrest hparts]
        exact Verdict.disj_holds _
    | true =>
      obtain ⟨hpart, hparts⟩ := Bool.or_eq_false_iff.mp hholds
      rw [value_of_settled true part hhead hpart, anyValue_of_settled true rest hrest hparts]
      rfl

end

end Formula

end TagSearch
