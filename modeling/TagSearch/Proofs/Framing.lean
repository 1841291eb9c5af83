import TagSearch.Compiler.Plan
import TagSearch.Proofs.Success

/-!
# Frames write what plans say

A construction that starts from any frame puts the text of the pieces of its plan together, with
their parameters numbered after those that were bound before, and leaves these parameters, and the
relations that have to be joined for the sources of the plan, in the frame.  No parameter is bound
and dropped, used twice, or put in the place of another.

Main results:

- Theorem `Piece.textFrom_append`: a part of a statement numbers its parameters after those of the
  parts before it.
- Theorem `Condition.run_write`: a condition is written as its pieces.
- Theorem `Node.run_predicate`: a node of a search is written as its formula.
- Theorems `Compiler.selectTree_eq`, `Compiler.insert_eq`, `Compiler.update_eq` and
  `Compiler.delete_eq`: the statement of a request is that of its plan.
-/

namespace TagSearch

/-! ## Numbering parts of a statement -/

namespace Piece

/-- A part of a statement numbers its parameters after those of the parts before it. -/
theorem textFrom_append (ps qs : List Piece) (number : Nat) :
    textFrom number (ps ++ qs) =
      textFrom number ps ++ textFrom (number + (ps.filterMap param?).length) qs := by
  induction ps generalizing number with
  | nil => rw [List.nil_append, textFrom, String.empty_append]; rfl
  | cons p ps ih =>
    cases p with
    | text s =>
      rw [List.cons_append, textFrom, textFrom, ih, String.append_assoc]
      rfl
    | param p =>
      have hcount : ((param p :: ps).filterMap param?).length =
          (ps.filterMap param?).length + 1 := rfl
      rw [List.cons_append, textFrom, textFrom, ih, String.append_assoc, hcount,
        Nat.add_right_comm, Nat.add_assoc]

/-- The texts of several parts of a statement, of which the first has the given number for its
first parameter. -/
def textsFrom : (number : Nat) → List (List Piece) → List String
  | _, [] => []
  | number, ps :: rest =>
    textFrom number ps :: textsFrom (number + (ps.filterMap param?).length) rest

end Piece

namespace Frame

/-- The text of pieces whose parameters are bound next. -/
def text (frame : Frame) (ps : List Piece) : String :=
  Piece.textFrom (frame.params.length + 1) ps

/-- The texts of several parts whose parameters are bound next. -/
def texts (frame : Frame) (parts : List (List Piece)) : List String :=
  Piece.textsFrom (frame.params.length + 1) parts

/-- A frame in which the parameters of pieces were bound and sources were read. -/
def after (frame : Frame) (ps : List Piece) (ss : List Source) : Frame :=
  ⟨frame.params ++ ps.filterMap Piece.param?, frame.tables ++ ss.filterMap Source.joinedTable?⟩

@[simp]
theorem text_nil (frame : Frame) : frame.text [] = "" := rfl

@[simp]
theorem text_text (frame : Frame) (s : String) (ps : List Piece) :
    frame.text (.text s :: ps) = s ++ frame.text ps := rfl

/-- Later parts of a statement number their parameters after those of earlier ones, whatever
sources these read. -/
theorem text_append (frame : Frame) (ps qs : List Piece) (ss : List Source) :
    frame.text (ps ++ qs) = frame.text ps ++ (frame.after ps ss).text qs := by
  rw [text, Piece.textFrom_append, text, text, after, List.length_append, Nat.add_right_comm]

@[simp]
theorem text_param_cons (frame : Frame) (p : Param) (q : Piece) (ps : List Piece) :
    frame.text (.param p :: q :: ps) =
      frame.text [.param p] ++ (frame.after [.param p] []).text (q :: ps) :=
  text_append frame [.param p] (q :: ps) []

@[simp]
theorem texts_nil (frame : Frame) : frame.texts [] = [] := rfl

theorem texts_cons (frame : Frame) (ps : List Piece) (parts : List (List Piece))
    (ss : List Source) :
    frame.texts (ps :: parts) = frame.text ps :: (frame.after ps ss).texts parts := by
  rw [texts, Piece.textsFrom, text, texts, after, List.length_append, Nat.add_right_comm]

@[simp]
theorem after_nil (frame : Frame) : frame.after [] [] = frame := by
  simp [after]

@[simp]
theorem after_text (frame : Frame) (s : String) (ps : List Piece) (ss : List Source) :
    frame.after (.text s :: ps) ss = frame.after ps ss := rfl

/-- The parameters of later parts are bound after those of earlier ones. -/
theorem after_append (frame : Frame) (ps qs : List Piece) (ss ts : List Source) :
    frame.after (ps ++ qs) (ss ++ ts) = (frame.after ps ss).after qs ts := by
  simp [after]

theorem after_append_left (frame : Frame) (ps qs : List Piece) (ss : List Source) :
    frame.after (ps ++ qs) ss = (frame.after ps ss).after qs [] := by
  rw [← after_append, List.append_nil]

@[simp]
theorem after_param_cons (frame : Frame) (p : Param) (q : Piece) (ps : List Piece)
    (ss : List Source) :
    frame.after (.param p :: q :: ps) ss = (frame.after [.param p] ss).after (q :: ps) [] :=
  after_append_left frame [.param p] (q :: ps) ss

/-- Sources that were read before bind nothing. -/
@[simp]
theorem after_sources (frame : Frame) (ps : List Piece) (ss : List Source) :
    (frame.after [] ss).after ps [] = frame.after ps ss := by
  rw [← after_append_left, List.nil_append]

/-- Reading changes no numbers. -/
@[simp]
theorem text_after_nil (frame : Frame) (ss : List Source) (ps : List Piece) :
    (frame.after [] ss).text ps = frame.text ps := by
  rw [← String.empty_append (s := (frame.after [] ss).text ps), ← text_nil frame, ← text_append,
    List.nil_append]

/-- A parameter is bound as a piece. -/
@[simp]
theorem run_bind_eq (p : Param) (frame : Frame) :
    (bind p).run frame = pure (frame.text [.param p], frame.after [.param p] []) := by
  rw [run_bind, text, Piece.textFrom, Piece.textFrom, String.append_empty]
  simp [after, Piece.param?]
  rfl

/-- A source is read as a piece. -/
@[simp]
theorem run_read_eq (s : Source) (frame : Frame) :
    (read s).run frame = pure (s.text, frame.after [] [s]) := by
  rw [run_read, after]
  cases hjoined : s.joinedTable? <;> simp [hjoined] <;> rfl

end Frame

/-! ## Expressions and conditions -/

open TagSearch.Frame

@[simp]
theorem Segment.run_write (s : Segment) (frame : Frame) :
    s.write.run frame = pure (frame.text s.pieces, frame.after s.pieces []) := by
  cases s with
  | field name => simp [write, pieces]
  | index i => simp [write, pieces]

namespace Operand

@[simp]
theorem run_writeSteps (front : String) (steps : List Segment) (frame : Frame) :
    (writeSteps front steps).run frame =
      pure (front ++ frame.text (stepPieces steps), frame.after (stepPieces steps) []) := by
  induction steps generalizing front frame with
  | nil => simp [writeSteps, stepPieces]
  | cons s rest ih =>
    cases rest with
    | nil => simp [writeSteps, stepPieces, String.append_assoc]
    | cons t ts =>
      simp [writeSteps, stepPieces, ih, text_append _ s.pieces _ [], after_append_left,
        String.append_assoc]

@[simp]
theorem run_write (o : Operand) (frame : Frame) :
    o.write.run frame = pure (frame.text o.pieces, frame.after o.pieces [o.source]) := by
  cases o with
  | plain s => simp [write, pieces, source]
  | textOf s => simp [write, pieces, source]
  | below s steps => simp [write, pieces, source]

end Operand

/-- A test is written behind the text that is tested. -/
@[simp]
theorem PatternTest.run_write (tested : String) (test : PatternTest) (frame : Frame) :
    (test.write tested).run frame =
      pure (tested ++ frame.text test.pieces, frame.after test.pieces []) := by
  cases test with
  | like p => simp [write, pieces, String.append_assoc]
  | expression p => simp [write, pieces, String.append_assoc]

/-- A condition is written as its pieces. -/
@[simp]
theorem Condition.run_write (c : Condition) (frame : Frame) :
    c.write.run frame = pure (frame.text c.pieces, frame.after c.pieces [c.source]) := by
  cases c with
  | present o =>
    simp [write, pieces, source, text_append _ o.pieces _ [o.source], after_append_left]
  | absent o =>
    simp [write, pieces, source, text_append _ o.pieces _ [o.source], after_append_left]
  | compare o comparison p =>
    simp [write, pieces, source, text_append _ o.pieces _ [o.source], after_append_left,
      String.append_assoc]
  | compareNumber o comparison d =>
    simp [write, pieces, source, text_append _ o.pieces _ [o.source], after_append_left,
      String.append_assoc]
  | fits o test =>
    simp [write, pieces, source, text_append _ o.pieces _ [o.source], after_append_left]
  | hasItem s item =>
    -- the source is read before the item is bound, and stands behind it
    simp [write, pieces, source, String.append_assoc]
  | someItem s test =>
    have htext (rest : String) :
        ") AS elem WHERE elem" ++ rest = ") AS elem WHERE " ++ ("elem" ++ rest) := by
      rw [← String.append_assoc]
      rfl
    simp [write, pieces, source, text_append _ test.pieces _ [], after_append_left, htext,
      String.append_assoc]

/-! ## Items and equations -/

@[simp]
theorem Output.run_write (o : Output) (frame : Frame) :
    o.write.run frame = pure (o.text, frame.after [] [o.source]) := by
  cases halias : o.alias? with
  | none => simp [write, text, halias]
  | some name => simp [write, text, halias]

@[simp]
theorem OrderKey.run_write (k : OrderKey) (frame : Frame) :
    k.write.run frame = pure (k.text, frame.after [] [k.source]) := by
  cases hdescending : k.descending with
  | true => simp [write, text, hdescending]
  | false => simp [write, text, hdescending]

@[simp]
theorem StoredValue.run_write (v : StoredValue) (frame : Frame) :
    v.write.run frame = pure (frame.text v.pieces, frame.after v.pieces []) := by
  cases v with
  | plain p => simp [write, pieces]
  | keyOf table column p => simp [write, pieces, String.append_assoc]

@[simp]
theorem Equation.run_write (e : Equation) (frame : Frame) :
    e.write.run frame = pure (frame.text e.pieces, frame.after e.pieces []) := by
  simp [write, pieces, String.append_assoc]

/-! ## Lists -/

section Lists

variable {α β : Type} {write : α → Framed String}

/-- What is written for the members of a list, if each is written as its plan says. -/
theorem run_mapM {plan : α → Except Error β} {pieces : β → List Piece} {sources : β → List Source}
    (h : ∀ a frame, (write a).run frame = do
      let b ← plan a
      return (frame.text (pieces b), frame.after (pieces b) (sources b)))
    (xs : List α) (frame : Frame) :
    (xs.mapM write).run frame = do
      let bs ← xs.mapM plan
      return (frame.texts (bs.map pieces),
        frame.after (bs.flatMap pieces) (bs.flatMap sources)) := by
  induction xs generalizing frame with
  | nil => simp
  | cons x xs ih =>
    simp only [List.mapM_cons, StateT.run_bind, StateT.run_pure, h, ih, bind_assoc, pure_bind]
    refine bind_congr fun b => bind_congr fun bs => ?_
    rw [List.map_cons, List.flatMap_cons, List.flatMap_cons, texts_cons _ _ _ (sources b),
      after_append]

/-- What is written for the members of a list, if writing any of them succeeds. -/
theorem run_mapM_pure {pieces : α → List Piece} {sources : α → List Source}
    (h : ∀ a frame, (write a).run frame =
      pure (frame.text (pieces a), frame.after (pieces a) (sources a)))
    (xs : List α) (frame : Frame) :
    (xs.mapM write).run frame =
      pure (frame.texts (xs.map pieces), frame.after (xs.flatMap pieces) (xs.flatMap sources)) := by
  have hplan : ∀ a frame, (write a).run frame = do
      let b ← (pure a : Except Error α)
      return (frame.text (pieces b), frame.after (pieces b) (sources b)) := by
    intro a frame
    rw [h, pure_bind]
  rw [run_mapM hplan, List.mapM_pure, pure_bind, List.map_id']

/-- What is written for the members of a list, if nothing is read for any of them. -/
theorem run_mapM_bound {pieces : α → List Piece}
    (h : ∀ a frame, (write a).run frame =
      pure (frame.text (pieces a), frame.after (pieces a) []))
    (xs : List α) (frame : Frame) :
    (xs.mapM write).run frame =
      pure (frame.texts (xs.map pieces), frame.after (xs.flatMap pieces) []) := by
  have hsources : xs.flatMap (fun _ => ([] : List Source)) = [] :=
    List.flatMap_eq_nil_iff.mpr fun _ _ => rfl
  exact (run_mapM_pure h xs frame).trans (by rw [hsources])

/-- What is written for the members of a list, if nothing is bound for any of them. -/
theorem run_mapM_text {text : α → String} {source : α → Source}
    (h : ∀ a frame, (write a).run frame = pure (text a, Frame.after frame [] [source a]))
    (xs : List α) (frame : Frame) :
    (xs.mapM write).run frame = pure (xs.map text, frame.after [] (xs.map source)) := by
  induction xs generalizing frame with
  | nil => simp
  | cons x xs ih =>
    rw [List.mapM_cons, StateT.run_bind, h, pure_bind, StateT.run_bind, ih, pure_bind,
      ← after_append]
    rfl

end Lists

/-- The texts of parts with a separator between any two. -/
theorem Frame.intercalate_texts (separator : String) (parts : List (List Piece)) (frame : Frame) :
    separator.intercalate (frame.texts parts) =
      frame.text (Piece.separated separator parts) := by
  induction parts generalizing frame with
  | nil => rfl
  | cons ps rest ih =>
    cases rest with
    | nil => simp [texts_cons _ _ _ [], Piece.separated]
    | cons qs rest =>
      have hrest := ih (frame.after ps [])
      rw [texts_cons _ _ _ []] at hrest
      rw [texts_cons _ _ _ [], texts_cons _ _ _ [], String.intercalate_cons_cons, hrest]
      simp [Piece.separated, text_append _ ps _ [], String.append_assoc]

/-- What is left in a frame by the parts of a statement is left by all of it. -/
theorem Frame.after_separated (frame : Frame) (separator : String) (parts : List (List Piece))
    (ss : List Source) :
    frame.after (Piece.separated separator parts) ss = frame.after parts.flatten ss := by
  have hparams : (Piece.separated separator parts).filterMap Piece.param? =
      parts.flatten.filterMap Piece.param? := by
    induction parts with
    | nil => rfl
    | cons ps rest ih =>
      cases rest with
      | nil => rw [Piece.separated, List.flatten_cons, List.flatten_nil, List.append_nil]
      | cons qs rest =>
        have hparts : Piece.separated separator (ps :: qs :: rest) =
            ps ++ .text separator :: Piece.separated separator (qs :: rest) := rfl
        rw [hparts, List.flatten_cons, List.filterMap_append, List.filterMap_append, ← ih]
        rfl
  rw [after, hparams, after]

/-! ## Formulas -/

namespace Formula

/-- The sources that several formulas read. -/
def sourcesOfAll (fs : List (Formula Condition)) : List Source :=
  fs.flatMap fun f => f.atoms.map Condition.source

/-- The pieces of an optional formula. -/
def pieces? : Option (Formula Condition) → List Piece
  | none => []
  | some f => f.pieces

end Formula

namespace Compiler

/-- A formula reads what its parts read. -/
theorem formulaSources_of_atoms {f : Formula Condition} {fs : List (Formula Condition)}
    (h : f.atoms = Formula.atomsOfAll fs) :
    formulaSources (some f) = Formula.sourcesOfAll fs := by
  rw [formulaSources, h, Formula.atomsOfAll_eq, List.map_flatMap, Formula.sourcesOfAll]

theorem formulaSources_any? (fs : List (Formula Condition)) :
    formulaSources (Formula.any? fs) = Formula.sourcesOfAll fs :=
  match fs with
  | [] => rfl
  | [_] => (List.append_nil _).symm
  | _ :: _ :: _ => formulaSources_of_atoms rfl

theorem formulaSources_all? (fs : List (Formula Condition)) :
    formulaSources (Formula.all? fs) = Formula.sourcesOfAll fs :=
  match fs with
  | [] => rfl
  | [_] => (List.append_nil _).symm
  | _ :: _ :: _ => formulaSources_of_atoms rfl

theorem formulaSources_neg (o : Option (Formula Condition)) :
    formulaSources (o.map .neg) = formulaSources o := by
  cases o with
  | none => rfl
  | some f => rfl

end Compiler

open Compiler

/-- A frame in which a formula was written. -/
def Frame.afterFormula (frame : Frame) (o : Option (Formula Condition)) : Frame :=
  frame.after (Formula.pieces? o) (formulaSources o)

theorem Frame.afterFormula_none (frame : Frame) : frame.afterFormula none = frame :=
  frame.after_nil

/-- A negated formula leaves in a frame what the formula leaves. -/
theorem Frame.afterFormula_neg (frame : Frame) (o : Option (Formula Condition)) :
    frame.afterFormula (o.map .neg) = frame.afterFormula o := by
  rw [afterFormula, formulaSources_neg]
  cases o with
  | none => rfl
  | some f =>
    rw [Option.map_some, Formula.pieces?, Formula.pieces_neg, after_text, after_text,
      after_append_left, after_text, after_nil]
    rfl

theorem Frame.text_neg (frame : Frame) (f : Formula Condition) :
    frame.text (Formula.neg f).pieces = "NOT (" ++ frame.text f.pieces ++ ")" := by
  have hsign : "NOT (" = "NOT " ++ "(" := rfl
  rw [Formula.pieces_neg, text_text, text_text, text_append _ _ _ [], text_text, text_nil,
    String.append_empty, hsign, String.append_assoc, String.append_assoc]

/-- Several parts are joined as the formula that is made of them is written. -/
theorem Frame.joinParts_texts {sign : String} {fs : List (Formula Condition)}
    {f : Formula Condition}
    (hpieces : f.pieces =
      .text "(" :: (Piece.separated sign (fs.map Formula.pieces) ++ [.text ")"])) (frame : Frame) :
    "(" ++ sign.intercalate (frame.texts (fs.map Formula.pieces)) ++ ")" = frame.text f.pieces := by
  rw [intercalate_texts, hpieces, text_text, text_append _ _ _ [], text_text, text_nil,
    String.append_empty, String.append_assoc]

theorem Frame.after_of_pieces {sign : String} {fs : List (Formula Condition)}
    {f : Formula Condition}
    (hpieces : f.pieces =
      .text "(" :: (Piece.separated sign (fs.map Formula.pieces) ++ [.text ")"]))
    (frame : Frame) (ss : List Source) :
    frame.after f.pieces ss = frame.after (fs.flatMap Formula.pieces) ss := by
  rw [hpieces, after_text, after_append_left, after_text, after_nil, after_separated,
    List.flatMap_def]

/-- The parts of a disjunction are joined as the disjunction is written. -/
theorem Frame.joinParts_any? (fs : List (Formula Condition)) (frame : Frame) :
    joinParts " OR " (frame.texts (fs.map Formula.pieces)) =
        (Formula.any? fs).map (frame.text ·.pieces) ∧
      frame.after (fs.flatMap Formula.pieces) (Formula.sourcesOfAll fs) =
        frame.afterFormula (Formula.any? fs) := by
  rw [afterFormula, formulaSources_any?]
  match fs with
  | [] => exact ⟨rfl, rfl⟩
  | [f] => exact ⟨rfl, by rw [List.flatMap_singleton]; rfl⟩
  | f :: g :: rest =>
    have hpieces := Formula.pieces_disj (f :: g :: rest)
    exact ⟨congrArg some (frame.joinParts_texts hpieces),
      (frame.after_of_pieces hpieces _).symm⟩

/-- The parts of a conjunction are joined as the conjunction is written. -/
theorem Frame.joinParts_all? (fs : List (Formula Condition)) (frame : Frame) :
    joinParts " AND " (frame.texts (fs.map Formula.pieces)) =
        (Formula.all? fs).map (frame.text ·.pieces) ∧
      frame.after (fs.flatMap Formula.pieces) (Formula.sourcesOfAll fs) =
        frame.afterFormula (Formula.all? fs) := by
  rw [afterFormula, formulaSources_all?]
  match fs with
  | [] => exact ⟨rfl, rfl⟩
  | [f] => exact ⟨rfl, by rw [List.flatMap_singleton]; rfl⟩
  | f :: g :: rest =>
    have hpieces := Formula.pieces_conj (f :: g :: rest)
    exact ⟨congrArg some (frame.joinParts_texts hpieces),
      (frame.after_of_pieces hpieces _).symm⟩

namespace Leaf

/-- The condition on what a category names is written as its formula. -/
theorem run_writeOn (l : Leaf) (schema : Schema) (category : String) (frame : Frame) :
    (l.writeOn schema category).run frame = do
      let f ← (l.conditionOn schema category).map Formula.atom
      return (frame.text f.pieces, frame.after f.pieces (f.atoms.map Condition.source)) := by
  rw [writeOn]
  cases hcondition : l.conditionOn schema category with
  | error e => rfl
  | ok c =>
    refine (Condition.run_write c frame).trans ?_
    rw [← Formula.pieces_atom]
    rfl

/-- A condition of a search is written as its formula. -/
theorem run_predicate (l : Leaf) (schema : Schema) (frame : Frame) :
    (l.predicate schema).run frame = do
      let f ← l.formula schema
      return (frame.text f.pieces, frame.afterFormula (some f)) := by
  cases hcategory : l.category with
  | literal name =>
    simp only [predicate, formula, hcategory]
    exact run_writeOn l schema name frame
  | pattern p =>
    simp only [predicate, formula, hcategory]
    cases compilePattern p with
    | error e => rfl
    | ok r =>
      have hparts := run_mapM (fun (f : Field) frame => l.run_writeOn schema f.name frame)
        (schema.fields.filter fun f => r.isMatch f.name) frame
      simp only [StateT.run_bind, StateT.run_monadLift, monadLift_self, ok_bind, pure_bind,
        hparts, bind_assoc]
      refine bind_congr fun parts => ?_
      obtain ⟨htext, hafter⟩ := frame.joinParts_any? parts
      rw [htext, ← Formula.sourcesOfAll, hafter]
      cases Formula.any? parts with
      | none => rfl
      | some f => rfl

end Leaf

namespace Node

mutual

/-- A node of a search is written as its formula. -/
theorem run_predicate (schema : Schema) :
    (n : Node) → ∀ frame : Frame, (n.predicate schema).run frame = do
      let o ← n.formula? schema
      return (o.map (frame.text ·.pieces), frame.afterFormula o)
  | leaf l, frame => by
    rw [predicate, StateT.run_bind, Leaf.run_predicate, formula?]
    cases l.formula schema with
    | error e => rfl
    | ok f => rfl
  | group .disj _ members, frame => by
    rw [predicate, formula?, StateT.run_bind, run_predicates schema members]
    simp only [bind_assoc, pure_bind, StateT.run_pure]
    refine bind_congr fun fs => ?_
    obtain ⟨htext, hafter⟩ := frame.joinParts_any? fs
    rw [htext, hafter]
  | group .neg _ [n], frame => by
    rw [predicate, formula?, StateT.run_bind, run_predicate schema n]
    simp only [bind_assoc, pure_bind, StateT.run_pure]
    refine bind_congr fun o => ?_
    rw [afterFormula_neg]
    cases o with
    | none => rfl
    | some f =>
      rw [Option.map_some, Option.map_some, Option.map_some, Option.map_some, frame.text_neg]
  | group .neg _ [], frame => rfl
  | group .neg _ (_ :: _ :: _), frame => rfl
  | group .conj _ members, frame => by
    simp only [predicate, formula?, StateT.run_bind, run_predicates schema members, bind_assoc,
      pure_bind, StateT.run_pure]
    refine bind_congr fun fs => ?_
    obtain ⟨htext, hafter⟩ := frame.joinParts_all? fs
    rw [htext, hafter]
  | group (.compare _) _ members, frame => by
    simp only [predicate, formula?, StateT.run_bind, run_predicates schema members, bind_assoc,
      pure_bind, StateT.run_pure]
    refine bind_congr fun fs => ?_
    obtain ⟨htext, hafter⟩ := frame.joinParts_all? fs
    rw [htext, hafter]

/-- Nodes are written as their formulas. -/
theorem run_predicates (schema : Schema) :
    (ns : List Node) → ∀ frame : Frame, (predicates schema ns).run frame = do
      let fs ← formulas schema ns
      return (frame.texts (fs.map Formula.pieces),
        frame.after (fs.flatMap Formula.pieces) (Formula.sourcesOfAll fs))
  | [], frame => by
    rw [predicates, formulas, ok_bind, List.flatMap_nil, Formula.sourcesOfAll, List.flatMap_nil,
      after_nil]
    rfl
  | n :: rest, frame => by
    rw [predicates, formulas, StateT.run_bind, run_predicate schema n]
    simp only [bind_assoc, pure_bind, StateT.run_bind, run_predicates schema rest, StateT.run_pure]
    refine bind_congr fun o => bind_congr fun fs => ?_
    cases o with
    | none => rw [afterFormula_none]; rfl
    | some f =>
      have hafter :
          frame.after ((f :: fs).flatMap Formula.pieces) (Formula.sourcesOfAll (f :: fs)) =
          (frame.afterFormula (some f)).after (fs.flatMap Formula.pieces)
            (Formula.sourcesOfAll fs) :=
        after_append frame _ _ _ _
      have htexts : frame.texts ((f :: fs).map Formula.pieces) =
          frame.text f.pieces :: (frame.afterFormula (some f)).texts (fs.map Formula.pieces) :=
        texts_cons frame _ _ _
      rw [Option.toList_some, List.singleton_append, hafter, htexts]
      rfl

end

end Node

/-! ## Requests -/

namespace Select

/-- The text of the pieces of a selection. -/
theorem text_pieces (s : Select) :
    Frame.text {} s.pieces = "SELECT " ++ Output.listText s.outputs ++ s.extent.outputText ++
      " FROM " ++ s.table ++ Join.listText s.joins ++
      whereClause (s.condition.map (Frame.text {} ·.pieces)) ++ s.extent.text := by
  cases ho : s.condition with
  | none => simp [pieces, conditionPieces, ho, whereClause, String.append_assoc]
  | some f =>
    simp [pieces, conditionPieces, ho, whereClause, String.append_assoc,
      text_append _ f.pieces _ []]

/-- The text of the statement of a selection. -/
theorem sql_statement (s : Select) :
    s.statement.sql = "SELECT " ++ Output.listText s.outputs ++ s.extent.outputText ++ " FROM " ++
      s.table ++ Join.listText s.joins ++
      whereClause (s.condition.map (Piece.textFrom 1 ·.pieces)) ++ s.extent.text :=
  s.text_pieces

/-- Of a selection only the condition binds parameters. -/
theorem after_pieces (s : Select) (ss : List Source) :
    Frame.after {} s.pieces ss = Frame.after {} (Formula.pieces? s.condition) ss := by
  rw [pieces, List.cons_append, after_text, after_append_left, after_text, after_nil,
    conditionPieces]
  cases s.condition with
  | none => rfl
  | some f => rfl

end Select

/-- The text of the statement of a write. -/
theorem Mutation.sql_statement (m : Mutation) :
    m.statement.sql = "WITH affected AS (" ++ Piece.textFrom 1 (m.write.pieces m.table) ++
      " RETURNING *) SELECT " ++ Output.listText m.outputs ++ " FROM affected AS " ++ m.table ++
      Join.listText m.joins := by
  rw [statement, Statement.ofPieces, pieces, List.cons_append, Piece.textFrom,
    Piece.textFrom_append, Piece.textFrom, Piece.textFrom, String.append_empty]
  simp only [String.append_assoc]

/-- The statement of what is written as a plan says. -/
theorem Framed.statement_eq {α : Type} {m : Framed String} {plan : Except Error α}
    {pieces : α → List Piece} (sources : α → List Source)
    (h : m.run {} = do
      let a ← plan
      return (Frame.text {} (pieces a), Frame.after {} (pieces a) (sources a))) :
    m.statement = plan.map fun a => .ofPieces (pieces a) := by
  rw [statement, h]
  cases plan with
  | error e => rfl
  | ok a => rfl

namespace Compiler

variable (c : Compiler)

theorem run_projection (frame : Frame) :
    c.projection.run frame = do
      let items ← c.outputs
      return (Output.listText items, frame.after [] (items.map (·.source))) := by
  rw [projection]
  cases c.outputs with
  | error e => rfl
  | ok items =>
    have hitems := run_mapM_text Output.run_write items frame
    exact congrArg (· >>= fun out => pure (", ".intercalate out.1, out.2)) hitems

theorem run_joinClauses (frame : Frame) :
    c.joinClauses.run frame = pure (Join.listText (c.joinsTouching frame.tables), frame) := rfl

theorem joinsTouching_after (ps : List Piece) (ss : List Source) :
    c.joinsTouching (Frame.after {} ps ss).tables = c.joins ss := by
  rw [joins, after]
  rfl

/-- A page is written as its plan says. -/
theorem run_page (t : Tree) (q : Query) :
    (c.page t q).run {} = do
      let s ← c.pagePlan t q
      return (Frame.text {} s.pieces, Frame.after {} s.pieces
        (s.outputs.map (·.source) ++ formulaSources s.condition ++ s.extent.sources)) := by
  rw [page, pagePlan]
  cases c.pageSize q.size with
  | error e => rfl
  | ok size =>
    by_cases hskip : maxRowCount < q.skip
    · simp only [if_pos hskip]
      rfl
    · simp only [if_neg hskip, StateT.run_bind, run_projection, Tree.predicate, Tree.formula?,
        Node.run_predicate, StateT.run_monadLift, monadLift_self,
        run_mapM_text OrderKey.run_write, run_joinClauses, StateT.run_pure, bind_assoc, pure_bind,
        ok_bind]
      refine bind_congr fun items => bind_congr fun o => bind_congr fun keys => ?_
      have hframe : ((Frame.after {} [] (items.map (·.source))).afterFormula o).after []
          (keys.map (·.source)) = Frame.after {} (Formula.pieces? o)
            (items.map (·.source) ++ formulaSources o ++ keys.map (·.source)) := by
        rw [afterFormula, ← after_append, ← after_append, List.nil_append, List.append_nil,
          List.append_assoc]
      rw [hframe, joinsTouching_after, Select.after_pieces, Select.text_pieces]
      simp only [Extent.text, Extent.outputText, Extent.sources, text_after_nil,
        String.append_empty, String.append_assoc, List.isEmpty_map]

/-- A count of rows by groups is written as its plan says. -/
theorem run_summary (t : Tree) (names : List String) :
    (c.summary t names).run {} = do
      let s ← c.groupPlan t names
      return (Frame.text {} s.pieces, Frame.after {} s.pieces
        (formulaSources s.condition ++ s.outputs.map (·.source))) := by
  simp only [summary, groupPlan, StateT.run_bind, Tree.predicate, Tree.formula?,
    Node.run_predicate, StateT.run_monadLift, monadLift_self, run_mapM_text Output.run_write,
    run_joinClauses, StateT.run_pure, bind_assoc, pure_bind]
  refine bind_congr fun o => bind_congr fun items => ?_
  have hframe : (Frame.afterFormula {} o).after [] (items.map (·.source)) =
      Frame.after {} (Formula.pieces? o) (formulaSources o ++ items.map (·.source)) := by
    rw [afterFormula, ← after_append, List.append_nil]
  rw [hframe, joinsTouching_after, Select.after_pieces, Select.text_pieces]
  simp [Extent.text, Extent.outputText, Output.listText, String.append_assoc, Function.comp_def]

/-- The statement of a selection is that of its plan. -/
theorem selectTree_eq (t : Tree) (q : Query) :
    c.selectTree t q = (c.selectPlan t q).map Select.statement := by
  rw [selectTree, selectPlan]
  cases Query.names q.summary with
  | error e => rfl
  | ok names =>
    rw [ok_bind, ok_bind]
    split
    · exact Framed.statement_eq _ (c.run_page t q)
    · exact Framed.statement_eq _ (c.run_summary t names)

end Compiler

/-- Equations are written one by one. -/
theorem run_equations (equations : List Equation) (frame : Frame) :
    (equations.mapM Equation.write).run frame =
      pure (frame.texts (equations.map Equation.pieces),
        frame.after (equations.flatMap Equation.pieces) []) :=
  run_mapM_bound Equation.run_write equations frame

theorem run_values (row : List Equation) (frame : Frame) :
    StateT.run (row.mapM fun (e : Equation) => e.value.write) frame =
      pure (frame.texts (row.map fun e => e.value.pieces),
        frame.after (row.flatMap fun e => e.value.pieces) []) :=
  run_mapM_bound (fun (e : Equation) => e.value.run_write) row frame

namespace Compiler

variable (c : Compiler)

/-- A write that returns its rows is written as its plan says. -/
theorem run_returning {write : Write} {frame : Frame}
    (hframe : frame = Frame.after {} (write.pieces c.schema.table) []) :
    (c.returning (Frame.text {} (write.pieces c.schema.table))).run frame = do
      let m ← c.mutation write
      return (Frame.text {} m.pieces, Frame.after {} m.pieces (m.outputs.map (·.source))) := by
  simp only [returning, mutation, StateT.run_bind, run_projection, run_joinClauses, StateT.run_pure,
    bind_assoc, pure_bind]
  refine bind_congr fun items => ?_
  rw [hframe, ← after_append, List.append_nil, List.nil_append, joinsTouching_after]
  simp [Mutation.pieces, text_append _ (write.pieces c.schema.table) _ [], after_append_left,
    String.append_assoc]

/-- The text of the pieces of an insert. -/
theorem text_insert (table : String) (row : List Equation) (conflict : Option Conflict) :
    Frame.text {} ((Write.insert row conflict).pieces table) =
      "INSERT INTO " ++ table ++ " (" ++ ", ".intercalate (row.map (·.column)) ++ ") VALUES (" ++
        ", ".intercalate (Frame.texts {} (row.map (·.value.pieces))) ++ ")" ++
        Conflict.text? conflict := by
  rw [Write.pieces, List.cons_append, text_text, text_append _ _ _ [], intercalate_texts]
  simp [String.append_assoc]

/-- The text of the pieces of an update. -/
theorem text_update (table : String) (assignments keys : List Equation) (ss : List Source) :
    Frame.text {} ((Write.update assignments keys).pieces table) =
      "UPDATE " ++ table ++ " SET " ++
        ", ".intercalate (Frame.texts {} (assignments.map Equation.pieces)) ++ " WHERE " ++
        " AND ".intercalate ((Frame.after {} (assignments.flatMap Equation.pieces) ss).texts
          (keys.map Equation.pieces)) := by
  rw [Write.pieces, List.cons_append, text_text, text_append _ _ _ ss, text_text,
    intercalate_texts, intercalate_texts, after_separated, List.flatMap_def, Equation.conjPieces]
  simp [String.append_assoc]

/-- The statement of an insert is that of its plan. -/
theorem insert_eq (set : List String) (params : List Param) :
    c.insert set params = (c.insertPlan set params).map Mutation.statement := by
  rw [insert, insertPlan]
  cases expectParams .insert set.length params.length with
  | error e => rfl
  | ok u =>
    by_cases hset : set.isEmpty = true
    · simp only [if_pos hset]
      rfl
    · simp only [if_neg hset]
      refine Framed.statement_eq (fun m => m.outputs.map (·.source)) ?_
      simp only [StateT.run_bind, StateT.run_monadLift, monadLift_self, run_values, bind_assoc,
        pure_bind]
      refine bind_congr fun row => bind_congr fun conflict => ?_
      rw [← text_insert]
      refine c.run_returning ?_
      rw [Write.pieces, List.cons_append, after_text, after_append_left, after_text, after_nil,
        after_separated, List.flatMap_def]

/-- The statement of an update is that of its plan. -/
theorem update_eq (set keys : List String) (params : List Param) :
    c.update set keys params = (c.updatePlan set keys params).map Mutation.statement := by
  rw [update, updatePlan]
  cases expectParams .update (set.length + keys.length) params.length with
  | error e => rfl
  | ok u =>
    by_cases hset : set.isEmpty = true
    · simp only [if_pos hset]
      rfl
    · by_cases hkeys : keys.isEmpty = true
      · simp only [if_neg hset, if_pos hkeys]
        rfl
      · simp only [if_neg hset, if_neg hkeys]
        refine Framed.statement_eq (fun m => m.outputs.map (·.source)) ?_
        simp only [keyCondition, StateT.run_bind, StateT.run_monadLift, monadLift_self,
          run_equations, bind_assoc, pure_bind]
        refine bind_congr fun assignments => bind_congr fun conditions => ?_
        rw [← text_update]
        refine c.run_returning ?_
        rw [Write.pieces, List.cons_append, after_text, after_append_left, after_text,
          after_separated, Equation.conjPieces, after_separated, List.flatMap_def, List.flatMap_def]

/-- The statement of a deletion is that of its plan. -/
theorem delete_eq (keys : List String) (params : List Param) :
    c.delete keys params = (c.deletePlan keys params).map Delete.statement := by
  rw [delete, deletePlan]
  by_cases hempty : (keys.isEmpty || params.isEmpty) = true
  · simp only [if_pos hempty]
    rfl
  · simp only [if_neg hempty]
    cases expectParams .delete keys.length params.length with
    | error e => rfl
    | ok u =>
      refine Framed.statement_eq (fun _ => []) ?_
      simp only [keyCondition, StateT.run_bind, StateT.run_monadLift, monadLift_self,
        run_equations, StateT.run_pure, bind_assoc, pure_bind]
      refine bind_congr fun conditions => ?_
      rw [Delete.pieces, Equation.conjPieces, text_text, after_text, after_separated,
        intercalate_texts, List.flatMap_def]

variable {c} {set keys : List String} {params : List Param} {st : Statement}

/-- A selection that compiles has a plan. -/
theorem plan_of_selectTree {t : Tree} {q : Query} (h : c.selectTree t q = .ok st) :
    ∃ s, c.selectPlan t q = .ok s ∧ s.statement = st := by
  rw [selectTree_eq] at h
  exact exists_of_map_eq_ok h

/-- An insert that compiles has a plan. -/
theorem plan_of_insert (h : c.insert set params = .ok st) :
    ∃ m, c.insertPlan set params = .ok m ∧ m.statement = st := by
  rw [insert_eq] at h
  exact exists_of_map_eq_ok h

/-- An update that compiles has a plan. -/
theorem plan_of_update (h : c.update set keys params = .ok st) :
    ∃ m, c.updatePlan set keys params = .ok m ∧ m.statement = st := by
  rw [update_eq] at h
  exact exists_of_map_eq_ok h

/-- A deletion that compiles has a plan. -/
theorem plan_of_delete (h : c.delete keys params = .ok st) :
    ∃ d, c.deletePlan keys params = .ok d ∧ d.statement = st := by
  rw [delete_eq] at h
  exact exists_of_map_eq_ok h

end Compiler

end TagSearch
