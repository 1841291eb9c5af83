import TagSearch.Sql.Select

/-!
# Outlines

What is left of a piece of a statement when the parameters are left out: the texts, with a gap
in the place of each parameter.  The text of a statement depends on its outline only.

Main results:

- Theorem `Piece.textFrom_congr`: pieces with one outline have one text.
- Theorems `Formula.outline_conj`, `Formula.outline_disj` and `Formula.outline_neg`: the
  outline of a formula is composed of the outlines of its parts.
- Theorem `Select.sql_of_alike`: a selection depends on its condition by the outline of it.
-/

namespace TagSearch

/-! ## Pieces -/

namespace Piece

/-- The text of a piece, or a gap for a parameter. -/
def text? : Piece → Option String
  | text s => some s
  | param _ => none

/-- The texts of pieces with a gap for each parameter. -/
def outline (ps : List Piece) : List (Option String) :=
  ps.map text?

theorem outline_append (ps qs : List Piece) : outline (ps ++ qs) = outline ps ++ outline qs := by
  rw [outline, List.map_append, outline, outline]

/-- Pieces with one outline have one text. -/
theorem textFrom_congr {ps qs : List Piece} (h : outline ps = outline qs) (number : Nat) :
    textFrom number ps = textFrom number qs := by
  induction ps generalizing qs number with
  | nil =>
    cases qs with
    | nil => rfl
    | cons q qs => cases h
  | cons p ps ih =>
    cases qs with
    | nil => cases h
    | cons q qs =>
      rw [outline, outline, List.map_cons, List.map_cons, List.cons.injEq] at h
      obtain ⟨hhead, hrest⟩ := h
      cases p with
      | text s =>
        cases q with
        | text s' =>
          cases hhead
          rw [textFrom, textFrom, ih hrest number]
        | param b => cases hhead
      | param a =>
        cases q with
        | text s' => cases hhead
        | param b => rw [textFrom, textFrom, ih hrest (number + 1)]

/-- Pieces with one outline bind equally many parameters. -/
theorem length_params_congr {ps qs : List Piece} (h : outline ps = outline qs) :
    (ps.filterMap param?).length = (qs.filterMap param?).length := by
  induction ps generalizing qs with
  | nil =>
    cases qs with
    | nil => rfl
    | cons q qs => cases h
  | cons p ps ih =>
    cases qs with
    | nil => cases h
    | cons q qs =>
      rw [outline, outline, List.map_cons, List.map_cons, List.cons.injEq] at h
      obtain ⟨hhead, hrest⟩ := h
      cases p with
      | text s =>
        cases q with
        | text s' =>
          have hlength := ih hrest
          exact hlength
        | param b => cases hhead
      | param a =>
        cases q with
        | text s' => cases hhead
        | param b =>
          have hlength := ih hrest
          exact congrArg Nat.succ hlength

end Piece

/-! ## Formulas -/

/-- The outlines of several parts with a text between any two. -/
def Piece.joined (connective : String) : List (List (Option String)) → List (Option String)
  | [] => []
  | [part] => part
  | part :: rest => part ++ some connective :: joined connective rest

namespace Formula

/-- The outline of a formula, and the sources that it reads. -/
def outline (f : Formula Condition) : List (Option String) × List Source :=
  (Piece.outline f.pieces, f.atoms.map Condition.source)

theorem outline_separated (sign : String) (parts : List (List Piece)) :
    Piece.outline (Piece.separated sign parts) = Piece.joined sign (parts.map Piece.outline) := by
  induction parts with
  | nil => rfl
  | cons p ps ih =>
    cases ps with
    | nil => rfl
    | cons q qs =>
      have hparts : Piece.separated sign (p :: q :: qs) =
          p ++ .text sign :: Piece.separated sign (q :: qs) := rfl
      rw [hparts, Piece.outline_append]
      exact congrArg (Piece.outline p ++ some sign :: ·) ih

/-- A group of parts with a sign between any two, in parentheses. -/
def grouped (sign : String) (parts : List (List (Option String) × List Source)) :
    List (Option String) × List Source :=
  (some "(" :: (Piece.joined sign (parts.map Prod.fst) ++ [some ")"]), parts.flatMap Prod.snd)

theorem outline_connected {f : Formula Condition} {parts : List (Formula Condition)}
    {sign : String}
    (hpieces : f.pieces = .text "(" :: (Piece.separated sign (parts.map pieces) ++ [.text ")"]))
    (hatoms : f.atoms = atomsOfAll parts) : f.outline = grouped sign (parts.map outline) := by
  have houtline : Piece.outline f.pieces =
      some "(" :: (Piece.joined sign (parts.map fun p => p.outline.1) ++ [some ")"]) := by
    rw [hpieces]
    refine congrArg (some "(" :: ·) ((Piece.outline_append _ _).trans ?_)
    rw [outline_separated, List.map_map]
    rfl
  rw [outline, houtline, grouped, List.map_map, hatoms, atomsOfAll_eq, List.map_flatMap,
    List.flatMap_map]
  rfl

theorem outline_conj (parts : List (Formula Condition)) :
    (Formula.conj parts).outline = grouped " AND " (parts.map outline) :=
  outline_connected (pieces_conj parts) rfl

theorem outline_disj (parts : List (Formula Condition)) :
    (Formula.disj parts).outline = grouped " OR " (parts.map outline) :=
  outline_connected (pieces_disj parts) rfl

/-- A part behind a negation sign, in parentheses. -/
def negated (part : List (Option String) × List Source) : List (Option String) × List Source :=
  (some "NOT " :: some "(" :: (part.1 ++ [some ")"]), part.2)

theorem outline_neg (part : Formula Condition) :
    (Formula.neg part).outline = negated part.outline := by
  rw [outline, pieces_neg, outline, Piece.outline, List.map_cons, List.map_cons, List.map_append]
  rfl

theorem outline_map_neg (o : Option (Formula Condition)) :
    (o.map .neg).map outline = (o.map outline).map negated := by
  cases o with
  | none => rfl
  | some f => exact congrArg some (outline_neg f)

theorem outline_atom (c : Condition) :
    (Formula.atom c).outline = (Piece.outline c.pieces, [c.source]) := by
  rw [outline, pieces_atom]
  rfl

/-- A group, unless there are no parts, or only one. -/
def grouped? (sign : String) :
    List (List (Option String) × List Source) → Option (List (Option String) × List Source)
  | [] => none
  | [part] => some part
  | parts => some (grouped sign parts)

theorem outline_all? (parts : List (Formula Condition)) :
    (all? parts).map outline = grouped? " AND " (parts.map outline) :=
  match parts with
  | [] => rfl
  | [_] => rfl
  | f :: g :: rest => congrArg some (outline_conj (f :: g :: rest))

theorem outline_any? (parts : List (Formula Condition)) :
    (any? parts).map outline = grouped? " OR " (parts.map outline) :=
  match parts with
  | [] => rfl
  | [_] => rfl
  | f :: g :: rest => congrArg some (outline_disj (f :: g :: rest))

end Formula

/-! ## Selections -/

namespace Select

/-- The outline of the condition of a selection, from that of its formula. -/
def conditionOutline : Option (List (Option String) × List Source) → List (Option String)
  | none => []
  | some outline => some " WHERE " :: outline.1

theorem outline_pieces (s : Select) :
    Piece.outline s.pieces =
      some ("SELECT " ++ Output.listText s.outputs ++ s.extent.outputText ++ " FROM " ++
          s.table ++ Join.listText s.joins) ::
        (conditionOutline (s.condition.map Formula.outline) ++ [some s.extent.text]) := by
  have hcondition : Piece.outline s.conditionPieces =
      conditionOutline (s.condition.map Formula.outline) := by
    rw [conditionPieces]
    cases s.condition with
    | none => rfl
    | some f => rfl
  rw [pieces, Piece.outline_append, ← hcondition]
  rfl

/-- Selections that differ in their conditions at most, which are written alike. -/
structure Alike (s s' : Select) : Prop where
  table : s'.table = s.table
  outputs : s'.outputs = s.outputs
  joins : s'.joins = s.joins
  extent : s'.extent = s.extent
  condition : s.condition.map Formula.outline = s'.condition.map Formula.outline

/-- The text of a selection depends on its condition by the outline of it. -/
theorem sql_of_alike {s s' : Select} (h : s.Alike s') :
    s'.statement.sql = s.statement.sql ∧
      s'.statement.params.length = s.statement.params.length := by
  have hpieces : Piece.outline s'.pieces = Piece.outline s.pieces := by
    rw [outline_pieces, outline_pieces, h.table, h.outputs, h.joins, h.extent, h.condition]
  exact ⟨Piece.textFrom_congr hpieces 1, Piece.length_params_congr hpieces⟩

end Select

end TagSearch
