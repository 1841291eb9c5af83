import TagSearch.Proofs.Compilation
import TagSearch.Proofs.Outline
import TagSearch.Proofs.Skeleton

/-!
# Conditions that are written alike

Conditions are written alike when they have one outline and read one source.  Conditions of a
search that have one shape compile to such conditions, whatever their values say.

Main results:

- Theorem `Leaf.alike_of_conditionOn`: conditions on one field are written alike.
- Theorem `Leaf.outline_of_shape`: so are all conditions of one shape.
-/

namespace TagSearch

/-! ## Operands and conditions -/

/-- Operands that are written alike. -/
def Operand.Alike (o o' : Operand) : Prop :=
  Piece.outline o.pieces = Piece.outline o'.pieces ∧ o.source = o'.source

theorem Operand.alike_refl (o : Operand) : o.Alike o :=
  ⟨rfl, rfl⟩

/-- Steps of one shape are written alike, whatever members they name. -/
theorem Operand.outline_stepPieces {steps steps' : List Segment}
    (h : steps.map Segment.shape = steps'.map Segment.shape) :
    Piece.outline (stepPieces steps) = Piece.outline (stepPieces steps') := by
  induction steps generalizing steps' with
  | nil =>
    cases steps' with
    | nil => rfl
    | cons s' rest' => cases h
  | cons s rest ih =>
    cases steps' with
    | nil => cases h
    | cons s' rest' =>
      rw [List.map_cons, List.map_cons, List.cons.injEq] at h
      obtain ⟨hhead, hrest⟩ := h
      have hstep : Piece.outline s.pieces = Piece.outline s'.pieces := by
        cases s with
        | field name =>
          cases s' with
          | field name' => rfl
          | index i => cases hhead
        | index i =>
          cases s' with
          | field name' => cases hhead
          | index i' =>
            cases hhead
            rfl
      cases rest with
      | nil =>
        cases rest' with
        | nil => exact congrArg (some "->>" :: ·) hstep
        | cons t' ts' => cases hrest
      | cons t ts =>
        cases rest' with
        | nil => cases hrest
        | cons t' ts' =>
          have hsteps : ∀ (u v : Segment) (vs : List Segment),
              stepPieces (u :: v :: vs) = .text "->" :: (u.pieces ++ stepPieces (v :: vs)) :=
            fun _ _ _ => rfl
          rw [hsteps, hsteps]
          refine congrArg (some "->" :: ·) ?_
          rw [← Piece.outline, ← Piece.outline, Piece.outline_append, Piece.outline_append, hstep,
            ih hrest]

theorem Operand.alike_below {steps steps' : List Segment}
    (h : steps.map Segment.shape = steps'.map Segment.shape) (s : Source) :
    (Operand.below s steps).Alike (.below s steps') :=
  ⟨congrArg (some s.text :: ·) (outline_stepPieces h), rfl⟩

/-- Conditions that are written alike. -/
def Condition.Alike (c c' : Condition) : Prop :=
  Piece.outline c.pieces = Piece.outline c'.pieces ∧ c.source = c'.source

namespace Condition

variable {o o' : Operand}

theorem alike_present (ho : o.Alike o') : (present o).Alike (present o') := by
  refine ⟨?_, ho.2⟩
  rw [pieces, pieces, Piece.outline_append, Piece.outline_append, ho.1]

theorem alike_absent (ho : o.Alike o') : (absent o).Alike (absent o') := by
  refine ⟨?_, ho.2⟩
  rw [pieces, pieces, Piece.outline_append, Piece.outline_append, ho.1]

theorem alike_compare (ho : o.Alike o') (comparison : Comparison) (p q : Param) :
    (compare o comparison p).Alike (compare o' comparison q) := by
  refine ⟨?_, ho.2⟩
  rw [pieces, pieces, Piece.outline_append, Piece.outline_append, ho.1]
  rfl

theorem alike_compareNumber (ho : o.Alike o') (comparison : Comparison) (d e : Decimal) :
    (compareNumber o comparison d).Alike (compareNumber o' comparison e) := by
  refine ⟨?_, ho.2⟩
  rw [pieces, pieces, Piece.outline_append, Piece.outline_append]
  exact congrArg (some "(" :: · ++ _) ho.1

theorem alike_like (ho : o.Alike o') (p q : String) :
    (fits o (.like p)).Alike (fits o' (.like q)) := by
  refine ⟨?_, ho.2⟩
  rw [pieces, pieces, Piece.outline_append, Piece.outline_append, ho.1]
  rfl

theorem alike_expression (ho : o.Alike o') (p q : String) :
    (fits o (.expression p)).Alike (fits o' (.expression q)) := by
  refine ⟨?_, ho.2⟩
  rw [pieces, pieces, Piece.outline_append, Piece.outline_append, ho.1]
  rfl

end Condition

namespace Leaf

variable {l m : Leaf} {c c' : Condition}

/-- Tests against expressions are written alike. -/
theorem alike_of_expressionTest {build build' : PatternTest → Condition} {p q : String}
    (hbuild : (build (.expression p)).Alike (build' (.expression q)))
    (hc : (expressionTest p).map build = .ok c) (hc' : (expressionTest q).map build' = .ok c') :
    c.Alike c' := by
  obtain ⟨test, htest, hc⟩ := exists_of_map_eq_ok hc
  obtain ⟨test', htest', hc'⟩ := exists_of_map_eq_ok hc'
  obtain ⟨_, _, htest⟩ := exists_of_map_eq_ok htest
  obtain ⟨_, _, htest'⟩ := exists_of_map_eq_ok htest'
  rw [← hc, ← hc', ← htest, ← htest']
  exact hbuild

theorem alike_of_textCondition {o o' : Operand} (ho : o.Alike o')
    (hcomparison : l.comparison = m.comparison) (hvalue : Term.SameValue l.value m.value)
    (hnumeric : l.comparison ≠ .equal → l.isNumeric = m.isNumeric)
    (hc : l.textCondition o = .ok c) (hc' : m.textCondition o' = .ok c') : c.Alike c' := by
  generalize hl : l.value = a at hvalue
  generalize hm : m.value = b at hvalue
  cases hvalue with
  | absent =>
    simp only [textCondition, hl] at hc
    simp only [textCondition, hm] at hc'
    cases hc
    cases hc'
    exact Condition.alike_present ho
  | pattern p q =>
    simp only [textCondition, hl] at hc
    simp only [textCondition, hm] at hc'
    by_cases hequal : l.comparison = .equal
    · rw [if_pos hequal] at hc
      rw [if_pos (hcomparison ▸ hequal)] at hc'
      exact alike_of_expressionTest (Condition.alike_expression ho p q) hc hc'
    · rw [if_neg hequal] at hc
      cases hc
  | @literal v w hshape =>
    simp only [textCondition, hl] at hc
    simp only [textCondition, hm, ← isNullText_of_textShape hshape, ← hcomparison] at hc'
    cases hnull : isNullText v with
    | true =>
      simp only [hnull, if_true] at hc hc'
      cases hc
      cases hc'
      exact Condition.alike_absent ho
    | false =>
      simp only [← hasWildcard_of_textShape hshape hnull, hnull, Bool.false_eq_true,
        if_false] at hc hc'
      by_cases hequal : l.comparison = .equal
      · rw [if_neg (not_not_intro hequal)] at hc hc'
        cases hwildcard : hasWildcard v with
        | true =>
          simp only [hwildcard, if_true] at hc hc'
          cases hc
          cases hc'
          exact Condition.alike_like ho _ _
        | false =>
          simp only [hwildcard, Bool.false_eq_true, if_false] at hc hc'
          cases hc
          cases hc'
          exact Condition.alike_compare ho _ _ _
      · rw [if_pos hequal] at hc hc'
        have hdecimal :
            (Decimal.parse (restore v)).isSome = (Decimal.parse (restore w)).isSome := by
          have h := hnumeric hequal
          rw [isNumeric, isNumeric, hl, hm] at h
          exact h
        cases hd : Decimal.parse (restore v) with
        | none =>
          cases hd' : Decimal.parse (restore w) with
          | none =>
            rw [hd] at hc
            rw [hd'] at hc'
            cases hc
            cases hc'
            exact Condition.alike_compare ho _ _ _
          | some d' =>
            rw [hd, hd'] at hdecimal
            cases hdecimal
        | some d =>
          cases hd' : Decimal.parse (restore w) with
          | none =>
            rw [hd, hd'] at hdecimal
            cases hdecimal
          | some d' =>
            rw [hd] at hc
            rw [hd'] at hc'
            cases hc
            cases hc'
            exact Condition.alike_compareNumber ho _ _ _

theorem alike_of_arrayCondition {f : Field} {s : Source} (hcomparison : l.comparison = m.comparison)
    (hvalue : Term.SameValue l.value m.value) (hc : l.arrayCondition f s = .ok c)
    (hc' : m.arrayCondition f s = .ok c') : c.Alike c' := by
  generalize hl : l.value = a at hvalue
  generalize hm : m.value = b at hvalue
  cases hvalue with
  | absent =>
    simp only [arrayCondition, hl] at hc
    simp only [arrayCondition, hm] at hc'
    cases hc
    cases hc'
    exact ⟨rfl, rfl⟩
  | pattern p q =>
    simp only [arrayCondition, hl] at hc
    simp only [arrayCondition, hm, ← hcomparison] at hc'
    by_cases hequal : l.comparison = .equal
    · rw [if_pos hequal] at hc hc'
      have halike : (Condition.someItem s (.expression p)).Alike (.someItem s (.expression q)) :=
        ⟨rfl, rfl⟩
      exact alike_of_expressionTest halike hc hc'
    · rw [if_neg hequal] at hc
      cases hc
  | @literal v w hshape =>
    simp only [arrayCondition, hl] at hc
    simp only [arrayCondition, hm, ← isNullText_of_textShape hshape, ← hcomparison] at hc'
    cases hnull : isNullText v with
    | true =>
      simp only [hnull, if_true] at hc hc'
      cases hc
      cases hc'
      exact ⟨rfl, rfl⟩
    | false =>
      simp only [← hasWildcard_of_textShape hshape hnull, hnull, Bool.false_eq_true,
        if_false] at hc hc'
      by_cases hequal : l.comparison = .equal
      · rw [if_neg (not_not_intro hequal)] at hc hc'
        cases hwildcard : hasWildcard v with
        | true =>
          simp only [hwildcard, if_true] at hc hc'
          cases hc
          cases hc'
          exact ⟨rfl, rfl⟩
        | false =>
          simp only [hwildcard, Bool.false_eq_true, if_false] at hc hc'
          cases hc
          cases hc'
          exact ⟨rfl, rfl⟩
      · rw [if_pos hequal] at hc
        cases hc

theorem alike_of_scalarCondition {f : Field} {s : Source}
    (hcomparison : l.comparison = m.comparison)
    (hvalue : Term.SameValue l.value m.value) (hc : l.scalarCondition f s = .ok c)
    (hc' : m.scalarCondition f s = .ok c') : c.Alike c' := by
  generalize hl : l.value = a at hvalue
  generalize hm : m.value = b at hvalue
  cases hvalue with
  | absent =>
    simp only [scalarCondition, hl] at hc
    simp only [scalarCondition, hm] at hc'
    cases hc
    cases hc'
    exact ⟨rfl, rfl⟩
  | pattern p q =>
    simp only [scalarCondition, hl] at hc
    simp only [scalarCondition, hm, ← hcomparison] at hc'
    by_cases hequal : l.comparison = .equal
    · rw [if_pos hequal] at hc hc'
      exact alike_of_expressionTest
        (Condition.alike_expression (Operand.alike_refl (fieldText f s)) p q) hc hc'
    · rw [if_neg hequal] at hc
      cases hc
  | @literal v w hshape =>
    simp only [scalarCondition, hl] at hc
    simp only [scalarCondition, hm, ← isNullText_of_textShape hshape, ← hcomparison] at hc'
    cases hnull : isNullText v with
    | true =>
      simp only [hnull, if_true] at hc hc'
      cases hc
      cases hc'
      exact ⟨rfl, rfl⟩
    | false =>
      simp only [← hasWildcard_of_textShape hshape hnull, hnull, Bool.false_eq_true,
        if_false] at hc hc'
      by_cases hlike : l.comparison = .equal ∧ hasWildcard v = true
      · rw [if_pos hlike] at hc hc'
        cases hc
        cases hc'
        exact Condition.alike_like (Operand.alike_refl _) _ _
      · rw [if_neg hlike] at hc hc'
        obtain ⟨value, _, hcompare⟩ := exists_of_map_eq_ok hc
        obtain ⟨value', _, hcompare'⟩ := exists_of_map_eq_ok hc'
        rw [← hcompare, ← hcompare']
        exact Condition.alike_compare (Operand.alike_refl _) _ _ _

theorem alike_of_fieldCondition {f : Field} {s : Source} {category category' : String}
    {steps steps' : List Segment} (hsteps : steps.map Segment.shape = steps'.map Segment.shape)
    (hcomparison : l.comparison = m.comparison) (hvalue : Term.SameValue l.value m.value)
    (hnumeric : f.kind = .json → l.comparison ≠ .equal → l.isNumeric = m.isNumeric)
    (hc : l.fieldCondition f s category steps = .ok c)
    (hc' : m.fieldCondition f s category' steps' = .ok c') : c.Alike c' := by
  cases hkind : f.kind with
  | json =>
    cases steps with
    | nil =>
      cases steps' with
      | cons t' ts' => cases hsteps
      | nil =>
        simp only [fieldCondition, hkind] at hc hc'
        exact alike_of_textCondition (Operand.alike_refl _) hcomparison hvalue (hnumeric hkind)
          hc hc'
    | cons t ts =>
      cases steps' with
      | nil => cases hsteps
      | cons t' ts' =>
        simp only [fieldCondition, hkind] at hc hc'
        exact alike_of_textCondition (Operand.alike_below hsteps s) hcomparison hvalue
          (hnumeric hkind) hc hc'
  | array =>
    cases steps with
    | cons t ts =>
      simp only [fieldCondition, hkind] at hc
      cases hc
    | nil =>
      cases steps' with
      | cons t' ts' => cases hsteps
      | nil =>
        simp only [fieldCondition, hkind] at hc hc'
        exact alike_of_arrayCondition hcomparison hvalue hc hc'
  | string | int | float | bool | time | duration =>
    cases steps with
    | cons t ts =>
      simp only [fieldCondition, hkind] at hc
      cases hc
    | nil =>
      cases steps' with
      | cons t' ts' => cases hsteps
      | nil =>
        simp only [fieldCondition, hkind] at hc hc'
        exact alike_of_scalarCondition hcomparison hvalue hc hc'

variable {schema : Schema}

/-- Conditions on categories that lead to one field by steps of one shape are written alike. -/
theorem alike_of_conditionOn {category category' : String} {path path' : Path}
    (hpath : Path.parse? category = some path) (hpath' : Path.parse? category' = some path')
    (hfield : path.field = path'.field)
    (hsteps : path.segments.map Segment.shape = path'.segments.map Segment.shape)
    (hcomparison : l.comparison = m.comparison) (hvalue : Term.SameValue l.value m.value)
    (hnumeric : schema.holdsDocuments path.field = true → l.comparison ≠ .equal →
      l.isNumeric = m.isNumeric)
    (hc : l.conditionOn schema category = .ok c)
    (hc' : m.conditionOn schema category' = .ok c') : c.Alike c' := by
  obtain ⟨p, f, s, hp, hf, hs, hcondition⟩ := path_of_conditionOn hc
  obtain ⟨p', f', s', hp', hf', hs', hcondition'⟩ := path_of_conditionOn hc'
  rw [hpath, Option.some.injEq] at hp
  rw [hpath', Option.some.injEq] at hp'
  subst hp
  subst hp'
  have hsame : f = f' := by
    rw [hfield, hf', Option.some.injEq] at hf
    exact hf.symm
  subst hsame
  have hsource : s = s' := by
    rw [hs, Except.ok.injEq] at hs'
    exact hs'
  subst hsource
  refine alike_of_fieldCondition hsteps hcomparison hvalue ?_ hcondition hcondition'
  intro hkind hne
  refine hnumeric ?_ hne
  rw [Schema.holdsDocuments, hf, Option.any_some, hkind]
  rfl

theorem outline_eq_of_alike (h : c.Alike c') :
    (Formula.atom c).outline = (Formula.atom c').outline := by
  rw [Formula.outline_atom, Formula.outline_atom, h.1, h.2]

/-- The conditions on the fields that a pattern matches are written alike, field by field. -/
theorem outline_of_fieldFormulas {fields : List Field} {parts parts' : List (Formula Condition)}
    (halike : ∀ f ∈ fields, ∀ c c', l.conditionOn schema f.name = .ok c →
      m.conditionOn schema f.name = .ok c' → c.Alike c')
    (h : l.FieldFormulas schema fields parts) (h' : m.FieldFormulas schema fields parts') :
    parts.map Formula.outline = parts'.map Formula.outline := by
  induction h generalizing parts' with
  | nil =>
    cases h'
    rfl
  | @cons f part fs parts hpart _ ih =>
    cases h' with
    | cons hpart' hrest' =>
      obtain ⟨c, hc, hatom⟩ := hpart
      obtain ⟨c', hc', hatom'⟩ := hpart'
      have hhead := outline_eq_of_alike (halike f List.mem_cons_self c c' hc hc')
      have hrest := ih (fun g hg => halike g (List.mem_cons_of_mem f hg)) hrest'
      rw [List.map_cons, List.map_cons, hrest, hatom, hatom', hhead]

/-- Conditions of a search that have one shape are written alike. -/
theorem outline_of_shape {f g : Formula Condition} (hshape : l.shape schema = m.shape schema)
    (hf : l.formula schema = .ok f) (hg : m.formula schema = .ok g) : f.outline = g.outline := by
  obtain ⟨hcomparison, hcategory, hvalue, hnumeric⟩ := shape_eq hshape
  cases hl : l.category with
  | literal name =>
    obtain ⟨c, hc, hatom⟩ := condition_of_formula hl hf
    obtain ⟨path, _, _, hpath, _, _, _⟩ := path_of_conditionOn hc
    rw [hl, Term.categoryShape, hpath] at hcategory hnumeric
    cases hm : m.category with
    | pattern p' =>
      rw [hm] at hcategory
      cases hcategory
    | literal name' =>
      obtain ⟨c', hc', hatom'⟩ := condition_of_formula hm hg
      obtain ⟨path', _, _, hpath', _, _, _⟩ := path_of_conditionOn hc'
      rw [hm, Term.categoryShape, hpath'] at hcategory
      obtain ⟨hfield, hsteps⟩ := CategoryShape.path.inj hcategory
      rw [hatom, hatom']
      exact outline_eq_of_alike (alike_of_conditionOn hpath hpath' hfield hsteps hcomparison
        hvalue hnumeric hc hc')
  | pattern p =>
    cases hm : m.category with
    | literal name' =>
      obtain ⟨c', hc', _⟩ := condition_of_formula hm hg
      obtain ⟨path', _, _, hpath', _, _, _⟩ := path_of_conditionOn hc'
      rw [hl, hm, Term.categoryShape, Term.categoryShape, hpath'] at hcategory
      cases hcategory
    | pattern p' =>
      rw [hl, hm] at hcategory
      have hp : p = p' := CategoryShape.pattern.inj hcategory
      subst hp
      obtain ⟨r, parts, hr, hparts, hany⟩ := parts_of_formula hl hf
      obtain ⟨r', parts', hr', hparts', hany'⟩ := parts_of_formula hm hg
      rw [hr, Except.ok.injEq] at hr'
      subst hr'
      have halike : ∀ f ∈ schema.fields.filter fun f => r.isMatch f.name, ∀ c c',
          l.conditionOn schema f.name = .ok c → m.conditionOn schema f.name = .ok c' →
          c.Alike c' := by
        intro f hf c c' hc hc'
        obtain ⟨path, _, _, hpath, _, _, _⟩ := path_of_conditionOn hc
        refine alike_of_conditionOn hpath hpath rfl rfl hcomparison hvalue ?_ hc hc'
        intro hdocuments
        refine hnumeric ?_
        rw [hl, Term.categoryShape, CategoryShape.testsDocuments, hr]
        refine List.any_eq_true.mpr ⟨f, hf, ?_⟩
        rw [hpath]
        exact hdocuments
      have houtline : some f.outline = some g.outline := by
        rw [← Option.map_some, ← Option.map_some, ← hany, ← hany', Formula.outline_any?,
          Formula.outline_any?, outline_of_fieldFormulas halike hparts hparts']
      exact Option.some.inj houtline

end Leaf

end TagSearch
