import TagSearch.Proofs.Disclosure
import TagSearch.Proofs.Outline

/-!
# Joined relations

A statement joins the relations that are joined without an option or by one that is enabled, and
those that own a field that it reads.  Every field is read as the compilation reaches it, in the
items, in the conditions, and in the keys; what is joined follows from the sources of all of them
together.

Main results:

- Definition `Compiler.fieldsRead`: the fields that a request reads.
- Theorem `Node.readFrom_of_formula?`: the conditions of a search read the fields that it names, one
  by one.
- Theorems `Compiler.joinsFor_of_selectPlan` and `Compiler.joinsFor_of_mutation`: what is joined for
  a selection, and for a write.
- Theorem `Compiler.joins_exactly`: the same of the text of statements, whose columns are qualified
  by relations that are joined, and that no field is read without a join.
-/

namespace TagSearch

/-! ## Fields and their sources -/

namespace Schema

/-- The relation that owns the column of a field, if it is not the base relation and the field is
no reference. -/
def foreignTable? (s : Schema) (f : Field) : Option String :=
  if f.isReference then none else f.table.filter (· != s.table)

variable {s : Schema} {f : Field} {source : Source} {fields : List Field} {sources : List Source}

/-- What a field is read from: a column of the relation that owns it, for which a join is declared,
or a column of the base relation, or a reference. -/
theorem source_cases (h : s.source f = .ok source) :
    (∃ table, s.foreignTable? f = some table ∧ (∃ j ∈ s.joins, j.table = table) ∧
      source = .joined table f.columnName) ∨
    (s.foreignTable? f = none ∧ (source = .own s.qualifier f.columnName ∨
      ∃ table key, source = .reference table f.columnName s.table key)) := by
  rw [Schema.source] at h
  cases htable : f.table with
  | none =>
    rw [htable] at h
    cases h
    refine .inr ⟨?_, .inl rfl⟩
    rw [foreignTable?, htable, Option.filter_none, ite_self]
  | some table =>
    cases hkey : f.key with
    | some key =>
      rw [htable, hkey] at h
      cases h
      refine .inr ⟨?_, .inr ⟨table, key, rfl⟩⟩
      rw [foreignTable?, Field.isReference, hkey, Option.isSome_some, if_pos rfl]
    | none =>
      have hforeign : s.foreignTable? f = (some table).filter (· != s.table) := by
        rw [foreignTable?, Field.isReference, hkey, htable]
        rfl
      rw [htable, hkey] at h
      by_cases hbase : table = s.table
      · simp only [if_pos hbase] at h
        cases h
        refine .inr ⟨?_, .inl rfl⟩
        rw [hforeign, hbase]
        simp
      · simp only [if_neg hbase] at h
        split at h
        · next hjoin =>
          cases h
          obtain ⟨j, hj, hname⟩ := List.any_eq_true.mp hjoin
          refine .inl ⟨table, ?_, ⟨j, hj, beq_iff_eq.mp hname⟩, rfl⟩
          rw [hforeign]
          simp [hbase]
        · cases h

/-- What has to be joined for a field is the relation that owns its column. -/
theorem joinedTable?_of_source (h : s.source f = .ok source) :
    source.joinedTable? = s.foreignTable? f := by
  rcases source_cases h with
    ⟨table, hforeign, _, rfl⟩ | ⟨hforeign, rfl | ⟨table, key, rfl⟩⟩
  · exact hforeign.symm
  · exact hforeign.symm
  · exact hforeign.symm

/-- The relations that have to be joined for fields are those that own their columns. -/
theorem ReadFrom.filterMap_joinedTable? (h : s.ReadFrom fields sources) :
    sources.filterMap Source.joinedTable? = fields.filterMap s.foreignTable? := by
  induction h with
  | nil => rfl
  | cons hsource _ ih =>
    rw [List.filterMap_cons, List.filterMap_cons, joinedTable?_of_source hsource, ih]

/-- Every field has a source. -/
theorem ReadFrom.exists_source (h : s.ReadFrom fields sources) (hf : f ∈ fields) :
    ∃ source, s.source f = .ok source := by
  obtain ⟨source, _, hsource⟩ := exists_of_forall₂ h.flip hf
  exact ⟨source, hsource⟩

/-- The field that a category is about. -/
def named? (s : Schema) (category : String) : Option Field :=
  (Path.parse? category).bind fun path => s.field? path.field

end Schema

/-! ## Conditions -/

namespace Leaf

variable {l : Leaf} {schema : Schema}

/-- The fields that a condition of a search reads: the one that its category is about, or those that
the fields whose names match are about. -/
def fieldsRead (l : Leaf) (schema : Schema) : List Field :=
  match l.category with
  | .literal name => (schema.named? name).toList
  | .pattern p =>
    match compilePattern p with
    | .ok r =>
      (schema.fields.filter fun f => r.isMatch f.name).flatMap fun f =>
        (schema.named? f.name).toList
    | .error _ => []

theorem readFrom_of_conditionOn {category : String} {c : Condition}
    (h : l.conditionOn schema category = .ok c) :
    schema.ReadFrom (schema.named? category).toList [c.source] := by
  obtain ⟨path, f, s, hpath, hf, hs, hc⟩ := path_of_conditionOn h
  rw [Schema.named?, hpath, Option.bind_some, hf, source_of_fieldCondition hc]
  exact .cons hs .nil

end Leaf

open Compiler

/-- The formula of a condition of a search reads the fields that the condition reads. -/
theorem Leaf.readFrom_of_formula {l : Leaf} {schema : Schema} {f : Formula Condition}
    (h : l.formula schema = .ok f) :
    schema.ReadFrom (l.fieldsRead schema) (formulaSources (some f)) := by
  cases hcategory : l.category with
  | literal name =>
    obtain ⟨c, hc, rfl⟩ := condition_of_formula hcategory h
    rw [fieldsRead, hcategory]
    exact readFrom_of_conditionOn hc
  | pattern p =>
    obtain ⟨r, parts, hr, hparts, hany⟩ := parts_of_formula hcategory h
    rw [← hany, formulaSources_any?, fieldsRead, hcategory]
    simp only [hr]
    refine List.rel_flatMap hparts ?_
    rintro f part ⟨c, hc, rfl⟩
    exact readFrom_of_conditionOn hc

namespace Node

mutual

/-- The formula of a node reads the fields that its conditions read, one by one. -/
theorem readFrom_of_formula? (schema : Schema) :
    (n : Node) → ∀ {o : Option (Formula Condition)}, n.formula? schema = .ok o →
      schema.ReadFrom (n.leaves.flatMap (Leaf.fieldsRead · schema)) (formulaSources o)
  | leaf l, o, h => by
    rw [formula?] at h
    obtain ⟨f, hf, rfl⟩ := exists_of_map_eq_ok h
    have hleaves : (leaf l).leaves.flatMap (Leaf.fieldsRead · schema) = l.fieldsRead schema :=
      List.append_nil _
    rw [hleaves]
    exact Leaf.readFrom_of_formula hf
  | group op comparison members, o, h => by
    rw [leaves_group]
    by_cases hneg : op = .neg
    · subst hneg
      obtain ⟨n, inner, rfl, hinner, rfl⟩ := member_of_formula? h
      rw [formulaSources_neg, List.flatMap_singleton]
      exact readFrom_of_formula? schema n hinner
    · obtain ⟨fs, hfs, rfl⟩ := formulas_of_formula? hneg h
      have hsources : formulaSources (if op = .disj then Formula.any? fs else Formula.all? fs) =
          Formula.sourcesOfAll fs := by
        split
        · exact formulaSources_any? fs
        · exact formulaSources_all? fs
      rw [hsources]
      exact readFrom_of_formulas schema members hfs

theorem readFrom_of_formulas (schema : Schema) :
    (ms : List Node) → ∀ {fs : List (Formula Condition)}, formulas schema ms = .ok fs →
      schema.ReadFrom ((ms.flatMap leaves).flatMap (Leaf.fieldsRead · schema))
        (Formula.sourcesOfAll fs)
  | [], fs, h => by
    cases h
    exact .nil
  | n :: rest, fs, h => by
    rw [formulas] at h
    obtain ⟨o, ho, h⟩ := exists_of_bind_eq_ok h
    obtain ⟨tail, htail, h⟩ := exists_of_bind_eq_ok h
    cases h
    have hfirst : Formula.sourcesOfAll o.toList = formulaSources o := by
      cases o with
      | none => rfl
      | some f => exact List.append_nil _
    rw [Formula.sourcesOfAll, List.flatMap_append, List.flatMap_cons, List.flatMap_append]
    refine List.rel_append ?_ (readFrom_of_formulas schema rest htail)
    rw [← Formula.sourcesOfAll, hfirst]
    exact readFrom_of_formula? schema n ho

end

end Node

/-! ## Requests -/

/-- The fields that a search reads. -/
def Tree.fieldsRead (t : Tree) (schema : Schema) : List Field :=
  t.root.leaves.flatMap (Leaf.fieldsRead · schema)

namespace Compiler

/-- The fields that a request reads.  A page reads the visible fields, those of the search, and
those of the order; a count by groups reads those of the search and those that the groups are
named by. -/
def fieldsRead (c : Compiler) (t : Tree) (q : Query) : List Field :=
  match listed q.summary with
  | [] => c.schema.visible c.options ++ t.fieldsRead c.schema ++ c.sortFields (listed q.sort)
  | names => t.fieldsRead c.schema ++ names.flatMap fun name => (c.schema.field? name).toList

variable {c : Compiler} {t : Tree} {q : Query} {items : List Output}

theorem readFrom_of_groupOutputs {names : List String} (h : names.mapM c.groupOutput = .ok items) :
    c.schema.ReadFrom (names.flatMap fun name => (c.schema.field? name).toList)
      (items.map (·.source)) := by
  apply Schema.readFrom_of_named
  refine (columns_of_groupOutputs h).imp ?_
  rintro name o ⟨f, hf, hs, _⟩
  exact ⟨f, hf, hs⟩

end Compiler

/-! ## Plans -/

/-- The sources that a selection reads. -/
def Select.sources (s : Select) : List Source :=
  s.outputs.map (·.source) ++ formulaSources s.condition ++ s.extent.sources

/-- The sources that a write reads to return the rows that it wrote.  The columns that it writes to
bear no qualifier. -/
def Mutation.sources (m : Mutation) : List Source :=
  m.outputs.map (·.source)

/-- A field of another relation for which no join is declared. -/
def Schema.LacksJoin (s : Schema) (f : Field) : Prop :=
  ∃ table ∈ s.foreignTable? f, ∀ j ∈ s.joins, j.table ≠ table

namespace Compiler

/-- How a field is read where some relations are joined: by the name of a column alone, if no join
is declared; by one that is qualified by the base relation, or by a relation that is joined; or by a
selection of its own from the relation that it refers to. -/
inductive IsExpression (c : Compiler) (joins : List Join) : String → Prop where
  | column (name : String) (h : c.schema.joins = []) : IsExpression c joins name
  | base (name : String) : IsExpression c joins (c.schema.table ++ "." ++ name)
  | joined {j : Join} (hj : j ∈ joins) (name : String) :
      IsExpression c joins (j.table ++ "." ++ name)
  | reference (table name key : String) : IsExpression c joins
      ("(SELECT " ++ table ++ "." ++ name ++ " FROM " ++ table ++ " WHERE " ++ table ++ "." ++
        surrogateKey ++ " = " ++ c.schema.table ++ "." ++ key ++ ")")

/-- What is joined for a statement that reads given fields from given sources. -/
structure JoinsFor (c : Compiler) (fields : List Field) (sources : List Source)
    (joins : List Join) : Prop where
  /-- In the order of their declaration, the joins without an option, those with an enabled one,
  and those whose relation owns a field that is read. -/
  exactly : joins = c.schema.joins.filter fun j =>
    enables c.options j.option || fields.any fun f => c.schema.foreignTable? f == some j.table
  /-- The relations that own the fields are joined. -/
  complete : ∀ f ∈ fields, ∀ table ∈ c.schema.foreignTable? f, ∃ j ∈ joins, j.table = table
  /-- Columns are qualified by the base relation or by one that is joined. -/
  qualified : ∀ source ∈ sources, c.IsExpression joins source.text

variable {c : Compiler} {t : Tree} {q : Query} {fields : List Field} {sources read : List Source}

theorem joins_eq_of_readFrom (h : c.schema.ReadFrom fields sources) :
    c.joins sources = c.schema.joins.filter fun j =>
      enables c.options j.option ||
        fields.any fun f => c.schema.foreignTable? f == some j.table := by
  have hneeded : ∀ j : Join, (fields.filterMap c.schema.foreignTable?).contains j.table =
      fields.any fun f => c.schema.foreignTable? f == some j.table := by
    intro j
    rw [Bool.eq_iff_iff, List.contains_iff_mem, List.mem_filterMap, List.any_eq_true]
    simp only [beq_iff_eq]
  simp only [joins, joinsTouching, h.filterMap_joinedTable?, hneeded]

/-- What is joined for all sources of some fields lets a statement read any of them. -/
theorem joinsFor_of_readFrom (h : c.schema.ReadFrom fields sources) (hread : read ⊆ sources) :
    c.JoinsFor fields read (c.joins sources) := by
  have hexactly := joins_eq_of_readFrom h
  have hcomplete : ∀ f ∈ fields, ∀ table ∈ c.schema.foreignTable? f,
      ∃ j ∈ c.joins sources, j.table = table := by
    intro f hf table htable
    obtain ⟨source, hsource⟩ := h.exists_source hf
    rcases Schema.source_cases hsource with ⟨table', htable', ⟨j, hj, hname⟩, _⟩ | ⟨hnone, _⟩
    · have hsame : table' = table := Option.some.inj (htable'.symm.trans htable)
      rw [hsame] at htable' hname
      refine ⟨j, ?_, hname⟩
      rw [hexactly, List.mem_filter, Bool.or_eq_true, List.any_eq_true]
      exact ⟨hj, .inr ⟨f, hf, by rw [htable', hname, beq_self_eq_true]⟩⟩
    · rw [hnone] at htable
      cases htable
  refine ⟨hexactly, hcomplete, ?_⟩
  intro source hsource
  obtain ⟨f, hf, hs⟩ := exists_of_forall₂ h (hread hsource)
  rcases Schema.source_cases hs with ⟨table, htable, _, rfl⟩ | ⟨_, rfl | ⟨table, key, rfl⟩⟩
  · obtain ⟨j, hj, rfl⟩ := hcomplete f hf table htable
    exact .joined hj f.columnName
  · rw [Schema.qualifier]
    split
    · next hnone => exact .column _ (List.isEmpty_iff.mp hnone)
    · exact .base f.columnName
  · exact .reference table f.columnName key

/-- No field that a statement reads lacks a join. -/
theorem JoinsFor.not_lacksJoin {joins : List Join} (h : c.JoinsFor fields read joins) {f : Field}
    (hf : f ∈ fields) : ¬ c.schema.LacksJoin f := by
  rintro ⟨table, htable, hlacks⟩
  obtain ⟨j, hj, hname⟩ := h.complete f hf table htable
  rw [h.exactly] at hj
  exact hlacks j (List.mem_filter.mp hj).1 hname

/-- A selection joins what the fields of its request call for. -/
theorem joinsFor_of_selectPlan {s : Select} (h : c.selectPlan t q = .ok s) :
    c.JoinsFor (c.fieldsRead t q) s.sources s.joins := by
  obtain ⟨names, hnames, ⟨rfl, hpage⟩ | ⟨hne, hgroups⟩⟩ := plan_of_selectPlan h
  · obtain ⟨size, items, condition, keys, _, hitems, hcondition, hkeys, rfl⟩ :=
      page_of_pagePlan hpage
    have hread : c.schema.ReadFrom (c.fieldsRead t q)
        (items.map (·.source) ++ formulaSources condition ++ keys.map (·.source)) := by
      rw [fieldsRead, listed, hnames]
      exact List.rel_append (List.rel_append (readFrom_of_outputs hitems)
        (t.root.readFrom_of_formula? c.schema hcondition)) (readFrom_of_order hkeys)
    exact joinsFor_of_readFrom hread (List.Subset.refl _)
  · obtain ⟨condition, items, hcondition, hitems, rfl⟩ := groups_of_groupPlan hgroups
    have hread : c.schema.ReadFrom (c.fieldsRead t q)
        (formulaSources condition ++ items.map (·.source)) := by
      obtain ⟨name, rest, rfl⟩ := List.exists_cons_of_ne_nil hne
      rw [fieldsRead, listed, hnames]
      exact List.rel_append (t.root.readFrom_of_formula? c.schema hcondition)
        (readFrom_of_groupOutputs hitems)
    -- the keys of the groups are the sources of the items
    refine joinsFor_of_readFrom hread ?_
    intro source hsource
    simp only [Select.sources, Extent.sources, List.mem_append] at hsource ⊢
    tauto

/-- A write joins what the fields that it returns call for. -/
theorem joinsFor_of_mutation {write : Write} {m : Mutation} (h : c.mutation write = .ok m) :
    c.JoinsFor (c.schema.visible c.options) m.sources m.joins := by
  obtain ⟨items, hitems, rfl⟩ := items_of_mutation h
  exact joinsFor_of_readFrom (readFrom_of_outputs hitems) (List.Subset.refl _)

theorem joinsFor_of_insertPlan {set : List String} {params : List Param} {m : Mutation}
    (h : c.insertPlan set params = .ok m) :
    c.JoinsFor (c.schema.visible c.options) m.sources m.joins := by
  obtain ⟨row, conflict, _, _, h⟩ := row_of_insertPlan h
  exact joinsFor_of_mutation h

theorem joinsFor_of_updatePlan {set keys : List String} {params : List Param} {m : Mutation}
    (h : c.updatePlan set keys params = .ok m) :
    c.JoinsFor (c.schema.visible c.options) m.sources m.joins := by
  obtain ⟨assignments, conditions, _, _, h⟩ := equations_of_updatePlan h
  exact joinsFor_of_mutation h

/-- The text that selects items from a table and the relations that are joined to it. -/
def joinedSelection (items table : String) (joins : List Join) : String :=
  "SELECT " ++ items ++ " FROM " ++ table ++
    String.join (joins.map fun j => " LEFT JOIN " ++ j.table ++ " ON " ++ j.condition)

theorem joinedSelection_eq (items table : String) (joins : List Join) :
    joinedSelection items table joins =
      "SELECT " ++ items ++ " FROM " ++ table ++ Join.listText joins := rfl

/-- A statement writes what a plan says, and ends by selecting the items of the plan from the rows
that were written and the relations that are joined to them. -/
def ReturnsJoined (c : Compiler) (m : Mutation) (st : Statement) : Prop :=
  st.sql = "WITH affected AS (" ++ Piece.textFrom 1 (m.write.pieces c.schema.table) ++
    " RETURNING *) " ++
    joinedSelection (Output.listText m.outputs) ("affected AS " ++ c.schema.table) m.joins

theorem returnsJoined_of_mutation {write : Write} {m : Mutation} (h : c.mutation write = .ok m) :
    c.ReturnsJoined m m.statement := by
  obtain ⟨items, _, rfl⟩ := items_of_mutation h
  have hselect : " RETURNING *) SELECT " = " RETURNING *) " ++ "SELECT " := rfl
  have hfrom : " FROM affected AS " = " FROM " ++ "affected AS " := rfl
  rw [ReturnsJoined, Mutation.sql_statement, joinedSelection_eq, hselect, hfrom]
  simp only [String.append_assoc]

theorem returnsJoined_of_insertPlan {set : List String} {params : List Param} {m : Mutation}
    (h : c.insertPlan set params = .ok m) : c.ReturnsJoined m m.statement := by
  obtain ⟨row, conflict, _, _, h⟩ := row_of_insertPlan h
  exact returnsJoined_of_mutation h

theorem returnsJoined_of_updatePlan {set keys : List String} {params : List Param} {m : Mutation}
    (h : c.updatePlan set keys params = .ok m) : c.ReturnsJoined m m.statement := by
  obtain ⟨assignments, conditions, _, _, h⟩ := equations_of_updatePlan h
  exact returnsJoined_of_mutation h

/-- A selection is made from the base relation. -/
theorem table_of_selectPlan {s : Select} (h : c.selectPlan t q = .ok s) :
    s.table = c.schema.table := by
  obtain ⟨names, _, ⟨_, hpage⟩ | ⟨_, hgroups⟩⟩ := plan_of_selectPlan h
  · obtain ⟨size, items, condition, keys, _, _, _, _, rfl⟩ := page_of_pagePlan hpage
    rfl
  · obtain ⟨condition, items, _, _, rfl⟩ := groups_of_groupPlan hgroups
    rfl

theorem isOk_eq_false {result : Except Error Statement} (h : ∀ st, result ≠ .ok st) :
    result.isOk = false := by
  cases result with
  | error e => rfl
  | ok st => exact absurd rfl (h st)

/-- The statement of a selection joins exactly the relations that are enabled and those that own a
field which its request reads: in the order in which they are declared, a clause for each of them
stands behind the table.  Whatever it reads is a column that is qualified by the base relation or by
one that is joined, or a selection of its own.  So do inserts, updates and patches, which read the
visible fields to return them.  Nothing compiles that would read a field of another relation without
a declared join. -/
theorem joins_exactly (c : Compiler) :
    (∀ t q st, c.selectTree t q = .ok st → ∃ s, c.selectPlan t q = .ok s ∧
      c.JoinsFor (c.fieldsRead t q) s.sources s.joins ∧
      st.sql = joinedSelection (Output.listText s.outputs ++ s.extent.outputText) c.schema.table
        s.joins ++ whereClause (s.condition.map (Piece.textFrom 1 ·.pieces)) ++ s.extent.text) ∧
    (∀ set params st, c.insert set params = .ok st → ∃ m, c.insertPlan set params = .ok m ∧
      c.JoinsFor (c.schema.visible c.options) m.sources m.joins ∧ c.ReturnsJoined m st) ∧
    (∀ set keys params st, c.update set keys params = .ok st →
      ∃ m, c.updatePlan set keys params = .ok m ∧
        c.JoinsFor (c.schema.visible c.options) m.sources m.joins ∧ c.ReturnsJoined m st) ∧
    (∀ values keys params st, c.patch values keys params = .ok st → ∃ m : Mutation,
      c.JoinsFor (c.schema.visible c.options) m.sources m.joins ∧ c.ReturnsJoined m st) ∧
    (∀ t q, ∀ f ∈ c.fieldsRead t q, c.schema.LacksJoin f → (c.selectTree t q).isOk = false) ∧
    (∀ f ∈ c.schema.visible c.options, c.schema.LacksJoin f →
      (∀ set params, (c.insert set params).isOk = false) ∧
      (∀ set keys params, (c.update set keys params).isOk = false) ∧
      ∀ values keys params, (c.patch values keys params).isOk = false) := by
  have hupdate : ∀ set keys params st, c.update set keys params = .ok st →
      ∃ m, c.updatePlan set keys params = .ok m ∧
        c.JoinsFor (c.schema.visible c.options) m.sources m.joins ∧ c.ReturnsJoined m st := by
    intro set keys params st h
    obtain ⟨m, hm, rfl⟩ := plan_of_update h
    exact ⟨m, hm, joinsFor_of_updatePlan hm, returnsJoined_of_updatePlan hm⟩
  refine ⟨?_, ?_, hupdate, ?_, ?_, ?_⟩
  · intro t q st h
    obtain ⟨s, hs, rfl⟩ := plan_of_selectTree h
    refine ⟨s, hs, joinsFor_of_selectPlan hs, ?_⟩
    rw [Select.sql_statement, table_of_selectPlan hs, joinedSelection_eq]
    simp only [String.append_assoc]
  · intro set params st h
    obtain ⟨m, hm, rfl⟩ := plan_of_insert h
    exact ⟨m, hm, joinsFor_of_insertPlan hm, returnsJoined_of_insertPlan hm⟩
  · intro values keys params st h
    obtain ⟨m, _, hjoins, hreturns⟩ := hupdate _ _ _ _ h
    exact ⟨m, hjoins, hreturns⟩
  · intro t q f hf hlacks
    refine isOk_eq_false fun st hst => ?_
    obtain ⟨s, hs, _⟩ := plan_of_selectTree hst
    exact (joinsFor_of_selectPlan hs).not_lacksJoin hf hlacks
  · intro f hf hlacks
    have hrefused : ∀ set keys params, (c.update set keys params).isOk = false := by
      intro set keys params
      refine isOk_eq_false fun st hst => ?_
      obtain ⟨m, hm, _⟩ := plan_of_update hst
      exact (joinsFor_of_updatePlan hm).not_lacksJoin hf hlacks
    refine ⟨fun set params => ?_, hrefused, fun values keys params => hrefused _ _ _⟩
    refine isOk_eq_false fun st hst => ?_
    obtain ⟨m, hm, _⟩ := plan_of_insert hst
    exact (joinsFor_of_insertPlan hm).not_lacksJoin hf hlacks

/-- Tasks with an owner, who is visible if asked for, and with a project and a stage, which are only
searched.  No join is declared for the stage. -/
def tasksOf (options : List String) : Compiler where
  schema := {
    table := "task"
    fields := [{ name := "title", kind := .string, primary := true },
      { name := "owner", kind := .string, table := some "person", column := some "name",
        option := some "people" },
      { name := "project", kind := .string, table := some "project", hidden := true },
      { name := "stage", kind := .string, table := some "stage", hidden := true }]
    joins := [⟨"project", "project.id = task.project_id", some "projects"⟩,
      ⟨"audit", "audit.task_id = task.id", none⟩,
      ⟨"person", "person.id = task.owner_id", some "people"⟩] }
  options := options

/-- A search for a project joins its relation, and the one without an option; a write joins the
relation for which an option is enabled.  A search for a stage would need a relation without a
join. -/
theorem joins_exactly_tasks :
    let search (name : String) : Tree :=
      .ofMembers [.leaf ⟨.equal, .literal name, some (.literal "x")⟩]
    (∃ st s, (tasksOf []).selectTree (search "project") {} = .ok st ∧
      (tasksOf []).selectPlan (search "project") {} = .ok s ∧
      st.sql = "SELECT task.title FROM task LEFT JOIN project ON project.id = task.project_id " ++
        "LEFT JOIN audit ON audit.task_id = task.id WHERE project.project = $1 " ++
        "ORDER BY task.title LIMIT 101 OFFSET 0" ∧
      s.joins.map (·.table) = ["project", "audit"]) ∧
    (∃ st m, (tasksOf ["people"]).insert ["title"] [.text "x"] = .ok st ∧
      (tasksOf ["people"]).insertPlan ["title"] [.text "x"] = .ok m ∧
      st.sql = "WITH affected AS (INSERT INTO task (title) VALUES ($1) RETURNING *) " ++
        "SELECT task.title, person.name AS owner FROM affected AS task " ++
        "LEFT JOIN audit ON audit.task_id = task.id " ++
        "LEFT JOIN person ON person.id = task.owner_id" ∧
      m.joins.map (·.table) = ["audit", "person"]) ∧
    ((tasksOf []).selectTree (search "stage") {}).isOk = false := by
  intro search
  have hselect : (((tasksOf []).selectTree (search "project") {}).map Statement.sql).toOption =
      some ("SELECT task.title FROM task LEFT JOIN project ON project.id = task.project_id " ++
        "LEFT JOIN audit ON audit.task_id = task.id WHERE project.project = $1 " ++
        "ORDER BY task.title LIMIT 101 OFFSET 0") := by
    decide +kernel
  have hinsert : (((tasksOf ["people"]).insert ["title"] [.text "x"]).map Statement.sql).toOption =
      some ("WITH affected AS (INSERT INTO task (title) VALUES ($1) RETURNING *) " ++
        "SELECT task.title, person.name AS owner FROM affected AS task " ++
        "LEFT JOIN audit ON audit.task_id = task.id " ++
        "LEFT JOIN person ON person.id = task.owner_id") := by
    decide +kernel
  obtain ⟨selection, hselection, htext⟩ := exists_of_toOption_map hselect
  obtain ⟨insertion, hinsertion, htext'⟩ := exists_of_toOption_map hinsert
  obtain ⟨hselects, _, _, _, hrefused, _⟩ := joins_exactly (tasksOf [])
  obtain ⟨_, hinserts, _⟩ := joins_exactly (tasksOf ["people"])
  obtain ⟨s, hplan, hs, _⟩ := hselects _ _ _ hselection
  obtain ⟨m, hplan', hm, _⟩ := hinserts _ _ _ hinsertion
  refine ⟨⟨selection, s, hselection, hplan, htext, ?_⟩,
    ⟨insertion, m, hinsertion, hplan', htext', ?_⟩, ?_⟩
  · rw [hs.exactly]
    decide +kernel
  · rw [hm.exactly]
    decide +kernel
  · refine hrefused _ _ { name := "stage", kind := .string, table := some "stage", hidden := true }
      ?_ ⟨"stage", by decide, by decide⟩
    decide +kernel

end Compiler

end TagSearch
