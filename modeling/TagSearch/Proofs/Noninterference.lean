import Mathlib.Data.List.Permutation
import TagSearch.Proofs.Alike

/-!
# What users write stays out of the text

Searches with one skeleton are compiled to statements with one text.  What a user writes in
the place of a value or of the name of a member is bound as a parameter, and never becomes
part of the text.

Main results:

- Theorem `Node.outline_of_skeleton`: nodes of one skeleton are written alike.
- Theorem `Compiler.sql_of_skeleton`: requests whose searches have one skeleton differ in
  their parameters only.
-/

namespace TagSearch

/-! ## Nodes -/

namespace Node

mutual

/-- Nodes of one skeleton are written alike. -/
theorem outline_of_skeleton (schema : Schema) :
    (n n' : Node) → n.skeleton schema = n'.skeleton schema →
      ∀ {o o' : Option (Formula Condition)}, n.formula? schema = .ok o →
        n'.formula? schema = .ok o' → o.map Formula.outline = o'.map Formula.outline
  | leaf l, leaf l', hskeleton, o, o', h, h' => by
    rw [skeleton, skeleton] at hskeleton
    rw [formula?] at h h'
    obtain ⟨f, hf, hsome⟩ := exists_of_map_eq_ok h
    obtain ⟨g, hg, hsome'⟩ := exists_of_map_eq_ok h'
    rw [← hsome, ← hsome', Option.map_some, Option.map_some,
      Leaf.outline_of_shape (Skeleton.leaf.inj hskeleton) hf hg]
  | group op comparison members, group op' comparison' members', hskeleton, o, o', h, h' => by
    rw [skeleton, skeleton] at hskeleton
    obtain ⟨hop, _, hmembers⟩ := Skeleton.group.inj hskeleton
    subst hop
    by_cases hneg : op = .neg
    · subst hneg
      obtain ⟨n, inner, hn, hinner, ho⟩ := member_of_formula? h
      obtain ⟨n', inner', hn', hinner', ho'⟩ := member_of_formula? h'
      have hfs : formulas schema members = .ok (inner.toList ++ []) := by
        rw [hn, formulas, hinner]
        rfl
      have hfs' : formulas schema members' = .ok (inner'.toList ++ []) := by
        rw [hn', formulas, hinner']
        rfl
      have houtlines := outlines_of_skeletons schema members members' hmembers hfs hfs'
      rw [List.append_nil, List.append_nil, ← Option.toList_map, ← Option.toList_map] at houtlines
      have hinners : inner.map Formula.outline = inner'.map Formula.outline := by
        rw [← Option.head?_toList (o := inner.map Formula.outline), houtlines,
          Option.head?_toList]
      rw [ho, ho', Formula.outline_map_neg, Formula.outline_map_neg, hinners]
    · obtain ⟨fs, hfs, ho⟩ := formulas_of_formula? hneg h
      obtain ⟨gs, hgs, ho'⟩ := formulas_of_formula? hneg h'
      have houtlines := outlines_of_skeletons schema members members' hmembers hfs hgs
      rw [ho, ho']
      by_cases hdisj : op = .disj
      · rw [if_pos hdisj, if_pos hdisj, Formula.outline_any?, Formula.outline_any?, houtlines]
      · rw [if_neg hdisj, if_neg hdisj, Formula.outline_all?, Formula.outline_all?, houtlines]
  | leaf _, group .., hskeleton, _, _, _, _ => by
    rw [skeleton, skeleton] at hskeleton
    cases hskeleton
  | group .., leaf _, hskeleton, _, _, _, _ => by
    rw [skeleton, skeleton] at hskeleton
    cases hskeleton

theorem outlines_of_skeletons (schema : Schema) :
    (ms ms' : List Node) → skeletons schema ms = skeletons schema ms' →
      ∀ {fs fs' : List (Formula Condition)}, formulas schema ms = .ok fs →
        formulas schema ms' = .ok fs' → fs.map Formula.outline = fs'.map Formula.outline
  | [], [], _, fs, fs', h, h' => by
    rw [formulas] at h h'
    rw [← Except.ok.inj h, ← Except.ok.inj h']
  | n :: rest, n' :: rest', hskeletons, fs, fs', h, h' => by
    rw [skeletons, skeletons, List.cons.injEq] at hskeletons
    rw [formulas] at h h'
    obtain ⟨o, ho, h⟩ := exists_of_bind_eq_ok h
    obtain ⟨tail, htail, h⟩ := exists_of_bind_eq_ok h
    obtain ⟨o', ho', h'⟩ := exists_of_bind_eq_ok h'
    obtain ⟨tail', htail', h'⟩ := exists_of_bind_eq_ok h'
    have hhead := outline_of_skeleton schema n n' hskeletons.1 ho ho'
    have hrest := outlines_of_skeletons schema rest rest' hskeletons.2 htail htail'
    have hlist : o.toList.map Formula.outline = o'.toList.map Formula.outline := by
      rw [← Option.toList_map, ← Option.toList_map, hhead]
    rw [← Except.ok.inj h, ← Except.ok.inj h', List.map_append, List.map_append, hlist, hrest]
  | [], _ :: _, hskeletons, _, _, _, _ => by
    rw [skeletons, skeletons] at hskeletons
    cases hskeletons
  | _ :: _, [], hskeletons, _, _, _, _ => by
    rw [skeletons, skeletons] at hskeletons
    cases hskeletons

end

end Node

/-! ## Requests -/

namespace Compiler

variable {c : Compiler} {t t' : Tree} {q q' : Query} {st st' : Statement}

/-- Formulas with one outline read from the same sources. -/
theorem formulaSources_congr {o o' : Option (Formula Condition)}
    (h : o.map Formula.outline = o'.map Formula.outline) :
    formulaSources o = formulaSources o' := by
  have hsources : ∀ x : Option (Formula Condition),
      formulaSources x = ((x.map Formula.outline).map Prod.snd).getD [] := by
    intro x
    cases x with
    | none => rfl
    | some f => rfl
  rw [hsources o, hsources o', h]

/-- Requests that differ in their searches at most, which have one skeleton, have plans that
are written alike. -/
theorem alike_of_selectPlan (hskeleton : t.root.skeleton c.schema = t'.root.skeleton c.schema)
    (hsize : q.size = q'.size) (hskip : q.skip = q'.skip) (hsort : q.sort = q'.sort)
    (hsummary : q.summary = q'.summary) {s s' : Select} (hs : c.selectPlan t q = .ok s)
    (hs' : c.selectPlan t' q' = .ok s') : s.Alike s' := by
  have houtline : ∀ {o o' : Option (Formula Condition)}, t.formula? c.schema = .ok o →
      t'.formula? c.schema = .ok o' → o.map Formula.outline = o'.map Formula.outline :=
    Node.outline_of_skeleton c.schema t.root t'.root hskeleton
  obtain ⟨names, hnames, hs⟩ := exists_of_bind_eq_ok hs
  obtain ⟨names', hnames', hs'⟩ := exists_of_bind_eq_ok hs'
  rw [← hsummary, hnames, Except.ok.injEq] at hnames'
  subst hnames'
  cases hempty : names.isEmpty with
  | true =>
    rw [hempty, if_pos rfl] at hs hs'
    obtain ⟨size, items, o, keys, hsize₁, hitems, ho, hkeys, hplan⟩ := page_of_pagePlan hs
    obtain ⟨size', items', o', keys', hsize₂, hitems', ho', hkeys', hplan'⟩ :=
      page_of_pagePlan hs'
    rw [← hsize, hsize₁, Except.ok.injEq] at hsize₂
    rw [hitems, Except.ok.injEq] at hitems'
    rw [← hsort, hkeys, Except.ok.injEq] at hkeys'
    subst hsize₂
    subst hitems'
    subst hkeys'
    have hconditions := houtline ho ho'
    rw [hplan, hplan', ← hskip, ← formulaSources_congr hconditions]
    exact ⟨rfl, rfl, rfl, rfl, hconditions⟩
  | false =>
    rw [hempty, if_neg Bool.false_ne_true] at hs hs'
    obtain ⟨o, items, ho, hitems, hplan⟩ := groups_of_groupPlan hs
    obtain ⟨o', items', ho', hitems', hplan'⟩ := groups_of_groupPlan hs'
    rw [hitems, Except.ok.injEq] at hitems'
    subst hitems'
    have hconditions := houtline ho ho'
    rw [hplan, hplan', ← formulaSources_congr hconditions]
    exact ⟨rfl, rfl, rfl, rfl, hconditions⟩

/-- What a user writes never becomes part of the text of a statement: requests that differ in
their searches at most, which have one skeleton, are compiled to statements that differ in
their parameters at most. -/
theorem sql_of_skeleton (q q' : Query) (hsize : q.size = q'.size) (hskip : q.skip = q'.skip)
    (hsort : q.sort = q'.sort) (hsummary : q.summary = q'.summary)
    (ht : c.parse q.search = .ok t) (ht' : c.parse q'.search = .ok t')
    (hskeleton : t.root.skeleton c.schema = t'.root.skeleton c.schema)
    (hst : c.select q = .ok st) (hst' : c.select q' = .ok st') :
    st' = { st with params := st'.params } ∧ st'.params.length = st.params.length := by
  rw [select, ht] at hst
  rw [select, ht'] at hst'
  obtain ⟨s, hs, hstatement⟩ := plan_of_selectTree hst
  obtain ⟨s', hs', hstatement'⟩ := plan_of_selectTree hst'
  have halike := alike_of_selectPlan hskeleton hsize hskip hsort hsummary hs hs'
  obtain ⟨hsql, hparams⟩ := Select.sql_of_alike halike
  rw [hstatement, hstatement'] at hsql hparams
  refine ⟨?_, hparams⟩
  rw [← hsql]

/-- A relation with a column of texts and a column of documents. -/
def documents : Compiler where
  schema := {
    table := "tasks"
    fields := [{ name := "id", kind := .string, primary := true },
      { name := "data", kind := .json }] }

/-- Another member, another number, and a quoted value that pretends to be a condition. -/
theorem sql_of_skeleton_quoted :
    ∃ st st', documents.select { search := "gte(data.a[0]:10),id:x*" } = .ok st ∧
      documents.select { search := "gte(data.b[0]:2.5),id:\"' OR 1=1\"*" } = .ok st' ∧
      st' = { st with params := st'.params } ∧ st'.params.length = st.params.length := by
  have ht : documents.parse "gte(data.a[0]:10),id:x*" = .ok (.ofMembers [
      .group (.compare .atLeast) .atLeast [
        .leaf ⟨.atLeast, .literal "data.a[0]", some (.literal "10")⟩],
      .leaf ⟨.equal, .literal "id", some (.literal "x*")⟩]) := by cbv
  have ht' : documents.parse "gte(data.b[0]:2.5),id:\"' OR 1=1\"*" = .ok (.ofMembers [
      .group (.compare .atLeast) .atLeast [
        .leaf ⟨.atLeast, .literal "data.b[0]", some (.literal "2.5")⟩],
      .leaf ⟨.equal, .literal "id", some (.literal "' OR 1=1*")⟩]) := by cbv
  have hnumber : (Leaf.mk .atLeast (.literal "data.a[0]") (some (.literal "10"))).shape
        documents.schema =
      (Leaf.mk .atLeast (.literal "data.b[0]") (some (.literal "2.5"))).shape
        documents.schema := by decide +kernel
  have htext : (Leaf.mk .equal (.literal "id") (some (.literal "x*"))).shape documents.schema =
      (Leaf.mk .equal (.literal "id") (some (.literal "' OR 1=1*"))).shape
        documents.schema := by decide +kernel
  have hok : (documents.select { search := "gte(data.a[0]:10),id:x*" }).isOk = true := by
    decide +kernel
  have hok' :
      (documents.select { search := "gte(data.b[0]:2.5),id:\"' OR 1=1\"*" }).isOk = true := by
    decide +kernel
  obtain ⟨st, hst⟩ := exists_of_isOk hok
  obtain ⟨st', hst'⟩ := exists_of_isOk hok'
  refine ⟨st, st', hst, hst', sql_of_skeleton { search := "gte(data.a[0]:10),id:x*" }
    { search := "gte(data.b[0]:2.5),id:\"' OR 1=1\"*" } rfl rfl rfl rfl ht ht' ?_ hst hst'⟩
  simp only [Tree.ofMembers, Node.skeleton, Node.skeletons, hnumber, htext]

end Compiler

end TagSearch
