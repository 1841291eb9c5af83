import Mathlib.Data.List.Forall2

/-!
# Computations that succeed

What a computation that may fail has done if it succeeded, step by step.

Main results:

- Theorem `exists_of_bind_eq_ok`: both steps of a successful sequence succeeded.
- Theorem `forall₂_of_mapM_eq_ok`: so did every step of a successful pass over a list.
-/

namespace TagSearch

variable {ε α β : Type}

theorem ok_bind (a : α) (f : α → Except ε β) : (.ok a >>= f) = f a := rfl

theorem exists_of_bind_eq_ok {x : Except ε α} {f : α → Except ε β} {b : β}
    (h : x >>= f = .ok b) : ∃ a, x = .ok a ∧ f a = .ok b := by
  cases x with
  | error e => cases h
  | ok a => exact ⟨a, rfl, h⟩

theorem bind_eq_ok_iff {x : Except ε α} {f : α → Except ε β} {b : β} :
    x >>= f = .ok b ↔ ∃ a, x = .ok a ∧ f a = .ok b := by
  refine ⟨exists_of_bind_eq_ok, ?_⟩
  rintro ⟨a, rfl, h⟩
  exact h

theorem exists_of_isOk {x : Except ε α} (h : x.isOk = true) : ∃ a, x = .ok a := by
  cases x with
  | error e => cases h
  | ok a => exact ⟨a, rfl⟩

theorem exists_of_map_eq_ok {x : Except ε α} {f : α → β} {b : β} (h : x.map f = .ok b) :
    ∃ a, x = .ok a ∧ f a = b := by
  cases x with
  | error e => cases h
  | ok a => exact ⟨a, rfl, Except.ok.inj h⟩

theorem eq_ok_of_toOption {x : Except ε α} {a : α} (h : x.toOption = some a) : x = .ok a := by
  cases x with
  | error e => cases h
  | ok a' => rw [Option.some.inj h]

theorem exists_of_toOption_map {x : Except ε α} {f : α → β} {b : β}
    (h : (x.map f).toOption = some b) : ∃ a, x = .ok a ∧ f a = b :=
  exists_of_map_eq_ok (eq_ok_of_toOption h)

theorem forall₂_of_mapM_eq_ok {f : α → Except ε β} {xs : List α} {ys : List β}
    (h : xs.mapM f = .ok ys) : List.Forall₂ (fun x y => f x = .ok y) xs ys := by
  induction xs generalizing ys with
  | nil =>
    cases h
    exact .nil
  | cons x xs ih =>
    rw [List.mapM_cons] at h
    obtain ⟨y, hy, h⟩ := exists_of_bind_eq_ok h
    obtain ⟨rest, hrest, h⟩ := exists_of_bind_eq_ok h
    cases h
    exact .cons hy (ih hrest)

/-- A pass over a list succeeds exactly if each step does. -/
theorem mapM_eq_ok_iff {f : α → Except ε β} {r : α → β → Prop} {xs : List α} {ys : List β}
    (hf : ∀ x ∈ xs, ∀ y, f x = .ok y ↔ r x y) :
    xs.mapM f = .ok ys ↔ List.Forall₂ r xs ys := by
  induction xs generalizing ys with
  | nil =>
    rw [List.forall₂_nil_left_iff]
    exact ⟨fun h => (Except.ok.inj h).symm, fun h => by rw [h]; rfl⟩
  | cons x xs ih =>
    have hrest : ∀ rest, xs.mapM f = .ok rest ↔ List.Forall₂ r xs rest :=
      fun _ => ih fun x' hx' => hf x' (List.mem_cons_of_mem x hx')
    rw [List.mapM_cons, List.forall₂_cons_left_iff, bind_eq_ok_iff]
    constructor
    · rintro ⟨y, hy, h⟩
      obtain ⟨rest, hmap, h⟩ := exists_of_bind_eq_ok h
      cases h
      exact ⟨y, rest, (hf x List.mem_cons_self y).mp hy, (hrest rest).mp hmap, rfl⟩
    · rintro ⟨y, rest, hy, hmap, rfl⟩
      exact ⟨y, (hf x List.mem_cons_self y).mpr hy,
        bind_eq_ok_iff.mpr ⟨rest, (hrest rest).mpr hmap, rfl⟩⟩

/-- Whatever a pass over a list gave, it gave for a member of the list. -/
theorem exists_of_forall₂ {r : α → β → Prop} {xs : List α} {ys : List β}
    (h : List.Forall₂ r xs ys) {y : β} (hy : y ∈ ys) : ∃ x ∈ xs, r x y := by
  induction h with
  | nil => cases hy
  | cons hr _ ih =>
    rcases List.mem_cons.mp hy with hy | hy
    · rw [hy]
      exact ⟨_, List.mem_cons_self, hr⟩
    · obtain ⟨x, hx, hr⟩ := ih hy
      exact ⟨x, List.mem_cons_of_mem _ hx, hr⟩

end TagSearch
