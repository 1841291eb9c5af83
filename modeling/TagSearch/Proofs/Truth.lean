import Mathlib
import TagSearch.Proofs.Compilation
import TagSearch.Proofs.Emission
import TagSearch.Proofs.Precedence
import TagSearch.Proofs.Scoping

/-!
# Compiling keeps the truth value

The text that a search is compiled to has the truth value that the evaluation of the search
gives, whatever the truth values of the conditions are that stand in it.

Main results:

- Theorem `Leaf.formula_ways`: the formula of a condition of a search.
- Theorem `Node.IsScoped.formula_ways`: the formula of a node.
- Theorem `Node.conditions_of_formula?`: the conditions that are written for a node.
- Theorem `Tree.predicate_truth`: the text of a search, read with the usual precedence, has the
  truth value of the search.
-/

namespace TagSearch

/-! ## Conditions of a search -/

namespace Leaf

variable {l : Leaf} {schema : Schema}

/-- The conditions that are emitted for a condition of a search: the one on what its category
names, or those on the fields whose names match. -/
def conditions (l : Leaf) (schema : Schema) : Except Error (List Condition) :=
  match l.category with
  | .literal name => do return [← l.conditionOn schema name]
  | .pattern p => do
    let r ← compilePattern p
    (schema.fields.filter fun f => r.isMatch f.name).mapM fun f => l.conditionOn schema f.name

/-- The truth value of a condition of a search: whether some condition that is emitted for it
holds. -/
def holds (l : Leaf) (schema : Schema) (truth : Condition → Bool) : Bool :=
  match l.conditions schema with
  | .ok conditions => conditions.any truth
  | .error _ => false

theorem holds_of_conditions {conditions : List Condition}
    (h : l.conditions schema = .ok conditions) (truth : Condition → Bool) :
    l.holds schema truth = conditions.any truth := by
  rw [holds, h]

theorem conditions_of_literal {name : String} {c : Condition} (hl : l.category = .literal name)
    (hc : l.conditionOn schema name = .ok c) : l.conditions schema = .ok [c] := by
  simp only [conditions, hl, hc]
  rfl

/-- The conditions on several fields. -/
theorem fieldFormulas_ways {fields : List Field} {parts : List (Formula Condition)}
    (h : l.FieldFormulas schema fields parts) :
    (∀ p ∈ parts, p.IsReadable) ∧
      (fields.mapM fun f => l.conditionOn schema f.name) = .ok (Formula.atomsOfAll parts) ∧
      ∀ truth : Condition → Bool,
        Formula.anyHolds truth parts = (Formula.atomsOfAll parts).any truth := by
  induction h with
  | nil => exact ⟨List.forall_mem_nil _, rfl, fun truth => rfl⟩
  | cons hpart _ ih =>
    obtain ⟨c, hc, rfl⟩ := hpart
    obtain ⟨hreadable, hfields, hholds⟩ := ih
    refine ⟨List.forall_mem_cons.mpr ⟨.atom c, hreadable⟩, ?_, ?_⟩
    · rw [List.mapM_cons, hc, hfields]
      rfl
    · intro truth
      rw [Formula.anyHolds, hholds]
      rfl

/-- The formula of a condition is made of the conditions that are emitted for it, and has its
truth value. -/
theorem formula_ways {f : Formula Condition} (h : l.formula schema = .ok f) :
    f.IsReadable ∧ l.conditions schema = .ok f.atoms ∧
      ∀ truth : Condition → Bool, f.holds truth = l.holds schema truth := by
  cases hcategory : l.category with
  | literal name =>
    obtain ⟨c, hc, rfl⟩ := condition_of_formula hcategory h
    have hconditions := conditions_of_literal hcategory hc
    refine ⟨.atom c, hconditions, fun truth => ?_⟩
    rw [holds_of_conditions hconditions]
    exact (Bool.or_false _).symm
  | pattern p =>
    obtain ⟨r, parts, hr, hparts, hany⟩ := parts_of_formula hcategory h
    obtain ⟨hreadable, hfields, hholds⟩ := fieldFormulas_ways hparts
    have hatoms : Formula.atomsOfAll parts = f.atoms := by
      rw [← Formula.atomsOfAll_any?, hany]
      exact List.append_nil _
    rw [hatoms] at hfields hholds
    have hconditions : l.conditions schema = .ok f.atoms := by
      simp only [conditions, hcategory, hr]
      exact hfields
    refine ⟨Formula.isReadable_of_any? hreadable hany, hconditions, fun truth => ?_⟩
    rw [Formula.holds_of_any?_eq_some hany, hholds, holds_of_conditions hconditions]

end Leaf

/-! ## Nodes -/

namespace Node

/-- The evaluation of conditions from the truth values of what they are compiled to. -/
def test (schema : Schema) (truth : Condition → Bool) (l : Leaf) : ExceptT Error Id Bool :=
  pure (l.holds schema truth)

/-- A node compiles to a formula that can be written and has the truth value of the node. -/
def CompilesTo (schema : Schema) (n : Node) (f : Formula Condition) : Prop :=
  f.IsReadable ∧ ∀ truth : Condition → Bool, n.eval (test schema truth) = pure (f.holds truth)

variable {schema : Schema}

/-- The members of a group compile to one formula each. -/
theorem formulas_ways {members : List Node} {fs : List (Formula Condition)}
    (hmembers : ∀ n ∈ members, ∀ o, n.formula? schema = .ok o →
      ∃ f, o = some f ∧ n.CompilesTo schema f)
    (h : formulas schema members = .ok fs) :
    List.Forall₂ (CompilesTo schema) members fs := by
  induction members generalizing fs with
  | nil =>
    cases h
    exact .nil
  | cons n rest ih =>
    rw [formulas] at h
    obtain ⟨o, ho, h⟩ := exists_of_bind_eq_ok h
    obtain ⟨fs', hrest, h⟩ := exists_of_bind_eq_ok h
    obtain ⟨f, hf, hn⟩ := hmembers n List.mem_cons_self o ho
    subst hf
    cases h
    exact .cons hn (ih (fun m hm => hmembers m (List.mem_cons_of_mem n hm)) hrest)

theorem readable_of_compilesTo {members : List Node} {fs : List (Formula Condition)}
    (h : List.Forall₂ (CompilesTo schema) members fs) : ∀ f ∈ fs, f.IsReadable := by
  induction h with
  | nil =>
    intro f hf
    cases hf
  | cons hn _ ih =>
    intro f hf
    rcases List.mem_cons.mp hf with hf | hf
    · rw [hf]
      exact hn.1
    · exact ih f hf

/-- Stopping at the first member that fails gives the conjunction of all. -/
theorem evalAll_eq {members : List Node} {fs : List (Formula Condition)}
    (h : List.Forall₂ (CompilesTo schema) members fs) (truth : Condition → Bool) :
    evalAll (test schema truth) members = pure (Formula.allHold truth fs) := by
  induction h with
  | nil => rfl
  | @cons n f rest fs hn _ ih =>
    rw [evalAll, hn.2 truth, pure_bind, ih, Formula.allHold]
    cases f.holds truth with
    | true => rfl
    | false => rfl

/-- Stopping at the first member that holds gives the disjunction of all. -/
theorem evalAny_eq {members : List Node} {fs : List (Formula Condition)}
    (h : List.Forall₂ (CompilesTo schema) members fs) (truth : Condition → Bool) :
    evalAny (test schema truth) members = pure (Formula.anyHolds truth fs) := by
  induction h with
  | nil => rfl
  | @cons n f rest fs hn _ ih =>
    rw [evalAny, hn.2 truth, pure_bind, ih, Formula.anyHolds]
    cases f.holds truth with
    | true => rfl
    | false => rfl

/-- All groups but disjunctions and negations are conjunctions. -/
theorem eval_of_ne {op : Operator} (hdisj : op ≠ .disj) (hneg : op ≠ .neg)
    (test : Leaf → ExceptT Error Id Bool) (comparison : Comparison) (members : List Node) :
    (group op comparison members).eval test = evalAll test members := by
  cases op with
  | disj => exact absurd rfl hdisj
  | neg => exact absurd rfl hneg
  | conj => simp [eval]
  | compare c => simp [eval]

/-- A group of members that are not empty compiles to a formula with its truth value. -/
theorem group_ways {op : Operator} {comparison : Comparison} {members : List Node}
    (hne : members ≠ [])
    (hmembers : ∀ n ∈ members, ∀ o, n.formula? schema = .ok o →
      ∃ f, o = some f ∧ n.CompilesTo schema f)
    {o : Option (Formula Condition)}
    (h : (group op comparison members).formula? schema = .ok o) :
    ∃ f, o = some f ∧ (group op comparison members).CompilesTo schema f := by
  by_cases hneg : op = .neg
  · subst hneg
    obtain ⟨n, inner, hmember, hinner, ho⟩ := member_of_formula? h
    subst hmember
    subst ho
    obtain ⟨f, hf, hreadable, heval⟩ := hmembers n List.mem_cons_self inner hinner
    subst hf
    refine ⟨.neg f, rfl, .neg hreadable, ?_⟩
    intro truth
    rw [eval, heval truth, pure_bind, Formula.holds]
  · obtain ⟨fs, hfs, ho⟩ := formulas_of_formula? hneg h
    have hcompile := formulas_ways hmembers hfs
    have hreadable := readable_of_compilesTo hcompile
    have hsome : fs ≠ [] := by
      intro hnil
      rw [hnil] at hcompile
      exact hne (List.forall₂_nil_right_iff.mp hcompile)
    by_cases hdisj : op = .disj
    · rw [if_pos hdisj] at ho
      cases hany : Formula.any? fs with
      | none => exact absurd (Formula.any?_eq_none_iff.mp hany) hsome
      | some f =>
        refine ⟨f, ho.trans hany, Formula.isReadable_of_any? hreadable hany, ?_⟩
        intro truth
        rw [hdisj, eval, evalAny_eq hcompile truth, Formula.holds_of_any?_eq_some hany]
    · rw [if_neg hdisj] at ho
      cases hall : Formula.all? fs with
      | none => exact absurd (Formula.all?_eq_none_iff.mp hall) hsome
      | some f =>
        refine ⟨f, ho.trans hall, Formula.isReadable_of_all? hreadable hall, ?_⟩
        intro truth
        rw [eval_of_ne hdisj hneg, evalAll_eq hcompile truth,
          Formula.holds_of_all?_eq_some hall]

/-- A node of a parsed search compiles to a formula with its truth value, if at all. -/
theorem IsScoped.formula_ways {primary : String} {comparison : Comparison} {n : Node}
    (hn : n.IsScoped primary comparison) {o : Option (Formula Condition)}
    (h : n.formula? schema = .ok o) : ∃ f, o = some f ∧ n.CompilesTo schema f := by
  induction hn generalizing o with
  | @leaf _ l _ _ =>
    rw [formula?] at h
    obtain ⟨f, hf, hsome⟩ := exists_of_map_eq_ok h
    obtain ⟨hreadable, _, hholds⟩ := Leaf.formula_ways hf
    refine ⟨f, hsome.symm, hreadable, ?_⟩
    intro truth
    rw [eval, test, hholds truth]
  | group hne _ ih => exact group_ways hne (fun m hm o ho => ih m hm ho) h

end Node

/-! ## The conditions that are written -/

namespace Leaf

variable {schema : Schema}

/-- The conditions that are emitted for conditions of a search, one after the other. -/
def conditionsOfAll (schema : Schema) (ls : List Leaf) : Except Error (List Condition) := do
  return (← ls.mapM (Leaf.conditions · schema)).flatten

theorem conditionsOfAll_singleton {l : Leaf} {conditions : List Condition}
    (h : l.conditions schema = .ok conditions) : conditionsOfAll schema [l] = .ok conditions := by
  rw [conditionsOfAll, List.mapM_cons, h]
  exact congrArg Except.ok (List.append_nil conditions)

theorem conditionsOfAll_append {ls ls' : List Leaf} {conditions conditions' : List Condition}
    (h : conditionsOfAll schema ls = .ok conditions)
    (h' : conditionsOfAll schema ls' = .ok conditions') :
    conditionsOfAll schema (ls ++ ls') = .ok (conditions ++ conditions') := by
  obtain ⟨parts, hparts, h⟩ := exists_of_bind_eq_ok h
  obtain ⟨parts', hparts', h'⟩ := exists_of_bind_eq_ok h'
  cases h
  cases h'
  rw [conditionsOfAll, List.mapM_append, hparts, hparts', ← List.flatten_append]
  rfl

end Leaf

namespace Node

mutual

/-- The formula of a node is made of the conditions that are emitted for its conditions, from left
to right. -/
theorem conditions_of_formula? (schema : Schema) :
    (n : Node) → ∀ {o : Option (Formula Condition)}, n.formula? schema = .ok o →
      Leaf.conditionsOfAll schema n.leaves = .ok (Formula.atomsOfAll o.toList)
  | leaf l, o, h => by
    rw [formula?] at h
    obtain ⟨f, hf, rfl⟩ := exists_of_map_eq_ok h
    have hatoms : Formula.atomsOfAll (some f).toList = f.atoms := List.append_nil _
    rw [hatoms]
    exact Leaf.conditionsOfAll_singleton (Leaf.formula_ways hf).2.1
  | group op comparison members, o, h => by
    rw [leaves_group]
    by_cases hneg : op = .neg
    · subst hneg
      obtain ⟨n, inner, rfl, hinner, rfl⟩ := member_of_formula? h
      rw [List.flatMap_singleton, conditions_of_formula? schema n hinner]
      cases inner with
      | none => rfl
      | some f => rfl
    · obtain ⟨fs, hfs, rfl⟩ := formulas_of_formula? hneg h
      rw [conditions_of_formulas schema members hfs]
      split
      · rw [Formula.atomsOfAll_any?]
      · rw [Formula.atomsOfAll_all?]

theorem conditions_of_formulas (schema : Schema) :
    (ms : List Node) → ∀ {fs : List (Formula Condition)}, formulas schema ms = .ok fs →
      Leaf.conditionsOfAll schema (ms.flatMap leaves) = .ok (Formula.atomsOfAll fs)
  | [], fs, h => by
    cases h
    rfl
  | n :: rest, fs, h => by
    rw [formulas] at h
    obtain ⟨o, ho, h⟩ := exists_of_bind_eq_ok h
    obtain ⟨tail, htail, h⟩ := exists_of_bind_eq_ok h
    cases h
    rw [List.flatMap_cons, Formula.atomsOfAll_append]
    exact Leaf.conditionsOfAll_append (conditions_of_formula? schema n ho)
      (conditions_of_formulas schema rest htail)

end

end Node

/-! ## Searches -/

namespace Tree

variable {input primary : String} {options : ScanOptions} {t : Tree} {schema : Schema}
  {condition : Option (Formula Condition)} {frame frame' : Frame} {text? : Option String}

/-- The conditions that are emitted for the conditions of a search, from left to right. -/
def conditions (t : Tree) (schema : Schema) : Except Error (List Condition) :=
  Leaf.conditionsOfAll schema t.root.leaves

/-- A parsed search compiles to nothing if it is empty, and else to a formula with its truth
value. -/
theorem formula_ways (hparse : parse input primary options = .ok t)
    (h : t.formula? schema = .ok condition) :
    (t = empty ∧ condition = none) ∨
      (t.isEmpty = false ∧ ∃ f, condition = some f ∧ t.root.CompilesTo schema f) := by
  obtain ⟨members, ht, hmembers⟩ := exists_members_of_parse hparse
  subst ht
  cases members with
  | nil =>
    rw [show ofMembers [] = empty from rfl, formula?_empty] at h
    exact .inl ⟨rfl, (Except.ok.inj h).symm⟩
  | cons n rest =>
    exact .inr ⟨rfl, Node.group_ways (List.cons_ne_nil n rest)
      (fun m hm o ho => (hmembers m hm).formula_ways ho) h⟩

/-- A search that is written has a formula, whose text and parameters these are. -/
theorem formula?_of_predicate (h : (t.predicate schema).run frame = .ok (text?, frame')) :
    ∃ o, t.formula? schema = .ok o ∧ text? = o.map (frame.text ·.pieces) ∧
      frame' = frame.afterFormula o := by
  rw [predicate, Node.run_predicate] at h
  obtain ⟨o, ho, h⟩ := exists_of_bind_eq_ok h
  cases h
  exact ⟨o, ho, rfl, rfl⟩

/-- A formula leaves in a frame what its conditions leave there, written one by one. -/
theorem run_conditions (frame : Frame) (o : Option (Formula Condition)) :
    ((Formula.atomsOfAll o.toList).mapM Condition.write).run frame =
      .ok (frame.texts ((Formula.atomsOfAll o.toList).map Condition.pieces),
        frame.afterFormula o) := by
  rw [run_mapM_pure Condition.run_write]
  cases o with
  | none => rfl
  | some f =>
    have hatoms : Formula.atomsOfAll (some f).toList = f.atoms := List.append_nil _
    have hsources : f.atoms.flatMap (fun c => [c.source]) = f.atoms.map Condition.source :=
      List.map_eq_flatMap.symm
    have hafter : frame.afterFormula (some f) =
        frame.after (f.atoms.flatMap Condition.pieces) (f.atoms.map Condition.source) := by
      rw [← f.filterMap_symbols, ← Frame.after_symbols, f.filterMap_symbols]
      rfl
    rw [hatoms, hsources, hafter]
    rfl

/-- Compiling keeps the truth value of a parsed search.  Its text is absent exactly when the
search is empty, which is true then.  Else the conditions that are emitted for its conditions stand
in the text, written one after the other from the same frame, and the text has the truth value of
the search, whatever the truth values of the conditions are. -/
theorem predicate_truth {input primary : String} {options : ScanOptions} {t : Tree}
    {schema : Schema} {frame frame' : Frame} {text? : Option String}
    (hparse : parse input primary options = .ok t)
    (h : (t.predicate schema).run frame = .ok (text?, frame')) :
    (text? = none ↔ t.isEmpty = true) ∧
      (t.isEmpty = true → ∀ test : Leaf → ExceptT Error Id Bool, t.eval test = pure true) ∧
      ∃ conditions texts, t.conditions schema = .ok conditions ∧
        (conditions.mapM Condition.write).run frame = .ok (texts, frame') ∧
        ∀ text, text? = some text → ∀ truth : Condition → Bool, ∃ b,
          Logic.twoValued.readText (texts.zip (conditions.map truth)) text = some b ∧
            t.eval (fun l => pure (l.holds schema truth) : Leaf → ExceptT Error Id Bool) =
              pure b := by
  obtain ⟨o, ho, rfl, rfl⟩ := formula?_of_predicate h
  have hconditions := t.root.conditions_of_formula? schema ho
  have hwritten := run_conditions frame o
  rcases formula_ways hparse ho with ⟨rfl, rfl⟩ | ⟨hempty, f, rfl, hreadable, heval⟩
  · refine ⟨⟨fun _ => rfl, fun _ => rfl⟩, fun _ test => eval_empty test, _, _, hconditions,
      hwritten, ?_⟩
    intro text htext
    cases htext
  · rw [hempty]
    refine ⟨⟨?_, ?_⟩, ?_, _, _, hconditions, hwritten, ?_⟩
    · intro hnone
      cases hnone
    · intro hempty
      cases hempty
    · intro hempty
      cases hempty
    rintro text ⟨⟩ truth
    have hatoms : Formula.atomsOfAll (some f).toList = f.atoms := List.append_nil _
    rw [hatoms]
    exact ⟨f.holds truth, hreadable.readText_holds truth frame, heval truth⟩

/-- A relation with a key and two tags. -/
def taggedTasks : Schema where
  table := "tasks"
  fields := [{ name := "id", kind := .string, primary := true },
    { name := "tag_a", kind := .string }, { name := "tag_b", kind := .string }]

/-- A disjunction that stands for a pattern, in a conjunction, in a negation, in a disjunction.  The
text has the truth value that it spells. -/
theorem predicate_truth_nested :
    let equals (column value : String) : Condition :=
      .compare (.plain (.own none column)) .equal (.text value)
    let text := "(id = $1 OR NOT (((tag_a = $2 OR tag_b = $3) AND id = $4)))"
    ∃ t frame, parse "or(id:a,not(and(/^tag_/:b,x)))" "id" = .ok t ∧
      (t.predicate taggedTasks).run {} = .ok (some text, frame) ∧
      ∀ truth : Condition → Bool, ∃ b,
        b = (truth (equals "id" "a") ||
          !((truth (equals "tag_a" "b") || truth (equals "tag_b" "b")) &&
            truth (equals "id" "x"))) ∧
        Logic.twoValued.readText [("id = $1", truth (equals "id" "a")),
          ("tag_a = $2", truth (equals "tag_a" "b")), ("tag_b = $3", truth (equals "tag_b" "b")),
          ("id = $4", truth (equals "id" "x"))] text = some b ∧
        t.eval (fun l => pure (l.holds taggedTasks truth) : Leaf → ExceptT Error Id Bool) =
          pure b := by
  intro equals text
  have hparse : parse "or(id:a,not(and(/^tag_/:b,x)))" "id" = .ok (ofMembers [
      .group .disj .equal [.leaf ⟨.equal, .literal "id", some (.literal "a")⟩,
        .group .neg .equal [.group .conj .equal [
          .leaf ⟨.equal, .pattern "^tag_", some (.literal "b")⟩,
          .leaf ⟨.equal, .literal "id", some (.literal "x")⟩]]]]) := by cbv
  have hformula : (ofMembers [
      .group .disj .equal [.leaf ⟨.equal, .literal "id", some (.literal "a")⟩,
        .group .neg .equal [.group .conj .equal [
          .leaf ⟨.equal, .pattern "^tag_", some (.literal "b")⟩,
          .leaf ⟨.equal, .literal "id", some (.literal "x")⟩]]]]).formula? taggedTasks =
      .ok (some (.disj [.atom (equals "id" "a"), .neg (.conj [
        .disj [.atom (equals "tag_a" "b"), .atom (equals "tag_b" "b")],
        .atom (equals "id" "x")])])) := by cbv
  have hpredicate := Node.run_predicate taggedTasks (ofMembers [
      .group .disj .equal [.leaf ⟨.equal, .literal "id", some (.literal "a")⟩,
        .group .neg .equal [.group .conj .equal [
          .leaf ⟨.equal, .pattern "^tag_", some (.literal "b")⟩,
          .leaf ⟨.equal, .literal "id", some (.literal "x")⟩]]]]).root {}
  rw [← formula?, hformula] at hpredicate
  have hemitted := Node.conditions_of_formula? taggedTasks _ hformula
  let emitted := [equals "id" "a", equals "tag_a" "b", equals "tag_b" "b", equals "id" "x"]
  have htexts : Frame.texts {} (emitted.map Condition.pieces) =
      ["id = $1", "tag_a = $2", "tag_b = $3", "id = $4"] := by decide +kernel
  have hspelled : ∀ v w x y : Bool,
      Logic.twoValued.readText [("id = $1", v), ("tag_a = $2", w), ("tag_b = $3", x),
        ("id = $4", y)] text = some (v || !((w || x) && y)) := by decide +kernel
  refine ⟨_, _, hparse, hpredicate, fun truth => ?_⟩
  obtain ⟨_, _, conditions, texts, hconditions, hwritten, htruth⟩ :=
    predicate_truth hparse hpredicate
  obtain ⟨b, hread, heval⟩ := htruth text rfl truth
  cases hconditions.symm.trans hemitted
  cases hwritten.symm.trans (run_conditions {} _)
  change Logic.twoValued.readText
    ((Frame.texts {} (emitted.map Condition.pieces)).zip (emitted.map truth)) text = some b at hread
  rw [htexts] at hread
  exact ⟨b, Option.some.inj (hread.symm.trans (hspelled _ _ _ _)), hread, heval⟩

end Tree

end TagSearch
