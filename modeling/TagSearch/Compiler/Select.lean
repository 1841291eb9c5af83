import TagSearch.Compiler.Basic
import TagSearch.Compiler.Condition

/-!
# Compiling selections

A search request becomes a page of rows in order, or a count of rows by groups.

Main results:

- Theorem `Compiler.le_maxPageSize`: a size that was asked for and granted is at most the
  largest size of the configuration.
-/

namespace TagSearch

namespace Compiler

/-- The visible fields as items that a statement returns.  An item whose column is not
called like its field is given the name of the field. -/
def outputs (c : Compiler) : Except Error (List Output) := do
  let items ← (c.schema.visible c.options).mapM fun f => do
    let source ← c.schema.source f
    return ⟨source, if f.isReference || f.columnName != f.name then some f.name else none⟩
  if items.isEmpty then throw (.config (.noVisibleFields c.schema.table))
  return items

/-- Writes the items of the visible fields. -/
def projection (c : Compiler) : Framed String := do
  return ", ".intercalate (← (← c.outputs).mapM Output.write)

/-- The joins that are enabled, and those whose relations are among given ones. -/
def joinsTouching (c : Compiler) (tables : List String) : List Join :=
  c.schema.joins.filter fun j => enables c.options j.option || tables.contains j.table

/-- Writes the joins that are enabled, and those of the relations that were read. -/
def joinClauses (c : Compiler) : Framed String := do
  return Join.listText (c.joinsTouching (← get).tables)

/-- The size of a page. -/
def pageSize (c : Compiler) : Option Nat → Except Error Nat
  | none => .ok c.config.defaultPageSize
  | some size =>
    if c.config.maxPageSize < size ∨ maxRowCount ≤ size then
      .error (.invalidRequest (.pageTooLarge size (min c.config.maxPageSize (maxRowCount - 1))))
    else .ok size

/-- The number of rows to ask for: one more than the page holds, so that a further page
shows, within what 64 bits can count. -/
def rowLimit (size : Nat) : Nat :=
  min (size + 1) (twoTo 64 - 1)

/-- An item of a sort list: a minus sign turns the order round. -/
def orderKey (c : Compiler) (name : String) : Except Error OrderKey := do
  let (plainName, descending) :=
    match name.toList with
    | '-' :: rest => (String.ofList rest, true)
    | _ => (name, false)
  let f ← c.schema.require plainName
  let source ← c.schema.source f
  return ⟨source, descending⟩

/-- The order of the rows when a request names none: by the primary field if there is
one. -/
def standardOrder (c : Compiler) : Except Error (List OrderKey) :=
  match c.schema.field? c.primary with
  | none => .ok []
  | some f => (c.schema.source f).map fun source => [⟨source, false⟩]

/-- The order of the rows that a sort list asks for. -/
def order (c : Compiler) (sort : String) : Except Error (List OrderKey) := do
  let names ← Query.names sort
  if names.isEmpty then c.standardOrder else names.mapM c.orderKey

/-- The condition of a selection behind the relations that it reads. -/
def whereClause : Option String → String
  | none => ""
  | some condition => " WHERE " ++ condition

/-- Writes a page of rows.  The joins stand before the condition and the order, and are written
when these have been. -/
def page (c : Compiler) (t : Tree) (q : Query) : Framed String := do
  let size ← c.pageSize q.size
  if maxRowCount < q.skip then throw (.invalidRequest (.skipOutOfRange q.skip))
  let projection ← c.projection
  let condition ← t.predicate c.schema
  let order ← (← c.order q.sort).mapM OrderKey.write
  let joins ← c.joinClauses
  return "SELECT " ++ projection ++ " FROM " ++ c.schema.table ++ joins ++ whereClause condition ++
    (if order.isEmpty then "" else " ORDER BY " ++ ", ".intercalate order) ++
    " LIMIT " ++ toString (rowLimit size) ++ " OFFSET " ++ toString q.skip

/-- A field by which rows are grouped, as an item that a statement returns. -/
def groupOutput (c : Compiler) (name : String) : Except Error Output := do
  let f ← c.schema.require name
  let source ← c.schema.source f
  return ⟨source, if source.text = f.name then none else some f.name⟩

/-- Writes a count of rows by groups. -/
def summary (c : Compiler) (t : Tree) (names : List String) : Framed String := do
  let condition ← t.predicate c.schema
  let items ← (names.mapM c.groupOutput : Except Error (List Output))
  let columns ← items.mapM Output.write
  let joins ← c.joinClauses
  return "SELECT " ++ ", ".intercalate columns ++ ", count(*) AS count FROM " ++ c.schema.table ++
    joins ++ whereClause condition ++ " GROUP BY " ++
    ", ".intercalate (items.map (·.source.text))

/-- The statement of a request whose search is parsed already.  With names to group by, the
size, the order and the rows to skip count nothing. -/
def selectTree (c : Compiler) (t : Tree) (q : Query) : Except Error Statement := do
  let names ← Query.names q.summary
  Framed.statement (if names.isEmpty then c.page t q else c.summary t names)

/-- The statement of a request. -/
def select (c : Compiler) (q : Query) : Except Error Statement := do
  c.selectTree (← c.parse q.search) q

theorem le_maxPageSize {c : Compiler} {size granted : Nat}
    (h : c.pageSize (some size) = .ok granted) :
    granted = size ∧ size ≤ c.config.maxPageSize ∧ size < maxRowCount := by
  simp only [pageSize] at h
  split at h
  · simp at h
  · simp only [Except.ok.injEq] at h
    omega

end Compiler

end TagSearch
