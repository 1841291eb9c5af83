import TagSearch.Compiler.Change

/-!
# Plans of statements

A plan says what the statement of a request is composed of: the items, the condition as a
formula, the order or the groups, the rows that are written, and the joins that all of these call
for.  It leaves open how parameters come to their numbers and when the joins are known.

Main results:

- Theorem `Tree.formula?_empty`: an empty search puts no condition on the rows.
-/

namespace TagSearch

/-- The formula of a condition of a search. -/
def Leaf.formula (l : Leaf) (schema : Schema) : Except Error (Formula Condition) :=
  match l.category with
  | .literal name => (l.conditionOn schema name).map .atom
  | .pattern p => do
    let r ← compilePattern p
    let parts ← (schema.fields.filter fun f => r.isMatch f.name).mapM fun f =>
      (l.conditionOn schema f.name).map Formula.atom
    match Formula.any? parts with
    | some f => .ok f
    | none => .error (.invalidRequest (.noMatchingField p schema.table))

namespace Node

mutual

/-- The formula of a node, if there is anything below it. -/
def formula? (schema : Schema) : Node → Except Error (Option (Formula Condition))
  | leaf l => (l.formula schema).map some
  | group .disj _ members => do return Formula.any? (← formulas schema members)
  | group .neg _ [n] => do return (← n.formula? schema).map .neg
  | group .neg _ members => .error (negationArity members)
  | group _ _ members => do return Formula.all? (← formulas schema members)

/-- The formulas of nodes. -/
def formulas (schema : Schema) : List Node → Except Error (List (Formula Condition))
  | [] => .ok []
  | n :: rest => do
    let f ← n.formula? schema
    let fs ← formulas schema rest
    return f.toList ++ fs

end

end Node

namespace Tree

/-- The formula of a search, unless it is empty. -/
def formula? (t : Tree) (schema : Schema) : Except Error (Option (Formula Condition)) :=
  t.root.formula? schema

theorem formula?_empty (schema : Schema) : empty.formula? schema = .ok none := rfl

end Tree

namespace Compiler

/-- The joins that are enabled, and those that some source needs. -/
def joins (c : Compiler) (sources : List Source) : List Join :=
  c.joinsTouching (sources.filterMap Source.joinedTable?)

/-- The sources that an optional formula reads. -/
def formulaSources : Option (Formula Condition) → List Source
  | none => []
  | some f => f.atoms.map Condition.source

/-- The plan of a page of rows. -/
def pagePlan (c : Compiler) (t : Tree) (q : Query) : Except Error Select := do
  let size ← c.pageSize q.size
  if maxRowCount < q.skip then throw (.invalidRequest (.skipOutOfRange q.skip))
  let items ← c.outputs
  let condition ← t.formula? c.schema
  let keys ← c.order q.sort
  let sources := items.map (·.source) ++ formulaSources condition ++ keys.map (·.source)
  return ⟨c.schema.table, items, c.joins sources, condition,
    .page keys (rowLimit size) q.skip⟩

/-- The plan of a count of rows by groups. -/
def groupPlan (c : Compiler) (t : Tree) (names : List String) : Except Error Select := do
  let condition ← t.formula? c.schema
  let items ← names.mapM c.groupOutput
  let keys := items.map (·.source)
  return ⟨c.schema.table, items, c.joins (formulaSources condition ++ keys), condition,
    .groups keys⟩

/-- The plan of a request whose search is parsed already. -/
def selectPlan (c : Compiler) (t : Tree) (q : Query) : Except Error Select := do
  let names ← Query.names q.summary
  if names.isEmpty then c.pagePlan t q else c.groupPlan t names

/-- The plan of a write that returns the rows it wrote. -/
def mutation (c : Compiler) (write : Write) : Except Error Mutation := do
  let items ← c.outputs
  return ⟨c.schema.table, write, items, c.joins (items.map (·.source))⟩

/-- The plan of an insert of fields, each with its parameter. -/
def insertPlan (c : Compiler) (set : List String) (params : List Param) :
    Except Error Mutation := do
  expectParams .insert set.length params.length
  if set.isEmpty then throw (.invalidRequest (.setsNoFields .insert))
  let row ← c.schema.equations set params
  let conflict ← c.schema.conflict
  c.mutation (.insert row conflict)

/-- The plan of an update of fields of the rows that the keys select. -/
def updatePlan (c : Compiler) (set keys : List String) (params : List Param) :
    Except Error Mutation := do
  expectParams .update (set.length + keys.length) params.length
  if set.isEmpty then throw (.invalidRequest (.setsNoFields .update))
  if keys.isEmpty then throw (.invalidRequest (.requiresKey .update))
  let assignments ← c.schema.equations set params
  let conditions ← c.schema.equations keys (params.drop set.length)
  c.mutation (.update assignments conditions)

/-- The plan of a deletion of the rows that the keys select. -/
def deletePlan (c : Compiler) (keys : List String) (params : List Param) :
    Except Error Delete := do
  if keys.isEmpty || params.isEmpty then throw (.invalidRequest (.requiresKey .delete))
  expectParams .delete keys.length params.length
  return ⟨c.schema.table, ← c.schema.equations keys params⟩

end Compiler

end TagSearch
