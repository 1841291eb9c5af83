import TagSearch.Compiler.Select

/-!
# Compiling changes

Names of fields with parameters become inserts, updates and deletions.  A reference takes
the business key and stores the surrogate key that belongs to it.

Main results:

- Theorem `Compiler.delete_nil`: a deletion without keys is always refused.
-/

namespace TagSearch

namespace Schema

/-- The column of the base relation that a field is written to. -/
def storedColumn (s : Schema) (f : Field) : Except Error String :=
  if s.isBase f then .ok (f.key.getD f.columnName)
  else .error (.config (.notWritable f.name (f.table.getD "")))

/-- A parameter as the value that is stored for a field. -/
def storedValue (f : Field) (p : Param) : StoredValue :=
  match f.table, f.key with
  | some table, some _ => .keyOf table f.columnName p
  | _, _ => .plain p

/-- The column of a field with the value stored for a parameter. -/
def equation (s : Schema) (name : String) (p : Param) : Except Error Equation := do
  let f ← s.require name
  let column ← s.storedColumn f
  return ⟨column, storedValue f p⟩

/-- The columns of fields with the values stored for their parameters. -/
def equations (s : Schema) (names : List String) (params : List Param) :
    Except Error (List Equation) :=
  (names.zip params).mapM fun (name, p) => s.equation name p

/-- The columns of the base relation that fields are written to. -/
def storedColumns (s : Schema) (names : List String) : Except Error (List String) :=
  names.mapM fun name => do s.storedColumn (← s.require name)

/-- What an insert does about rows that are already there. -/
def conflict (s : Schema) : Except Error (Option Conflict) :=
  match s.upsert with
  | none => .ok none
  | some u => do return some ⟨← s.storedColumns u.target, ← s.storedColumns u.update⟩

end Schema

namespace Compiler

/-- Checks the number of parameters of a change. -/
def expectParams (change : ChangeKind) (expected got : Nat) : Except Error Unit :=
  if expected = got then .ok ()
  else .error (.invalidRequest (.parameterCount change expected got))

/-- Writes the rows that a write returns, behind the write. -/
def returning (c : Compiler) (write : String) : Framed String := do
  let projection ← c.projection
  let joins ← c.joinClauses
  return "WITH affected AS (" ++ write ++ " RETURNING *) SELECT " ++ projection ++
    " FROM affected AS " ++ c.schema.table ++ joins

/-- Writes the condition that selects rows by keys. -/
def keyCondition (c : Compiler) (keys : List String) (params : List Param) : Framed String := do
  return " AND ".intercalate (← (← c.schema.equations keys params).mapM Equation.write)

/-- The statement that inserts a row of fields, each with its parameter. -/
def insert (c : Compiler) (set : List String) (params : List Param) :
    Except Error Statement := do
  expectParams .insert set.length params.length
  if set.isEmpty then throw (.invalidRequest (.setsNoFields .insert))
  Framed.statement do
    let row ← c.schema.equations set params
    let values ← row.mapM (·.value.write)
    let conflict ← c.schema.conflict
    c.returning ("INSERT INTO " ++ c.schema.table ++ " (" ++
      ", ".intercalate (row.map (·.column)) ++ ") VALUES (" ++ ", ".intercalate values ++ ")" ++
      Conflict.text? conflict)

/-- The statement that updates fields of the rows that the keys select.  The parameters of
the fields go before those of the keys. -/
def update (c : Compiler) (set keys : List String) (params : List Param) :
    Except Error Statement := do
  expectParams .update (set.length + keys.length) params.length
  if set.isEmpty then throw (.invalidRequest (.setsNoFields .update))
  if keys.isEmpty then throw (.invalidRequest (.requiresKey .update))
  Framed.statement do
    let assignments ← (← c.schema.equations set params).mapM Equation.write
    let condition ← c.keyCondition keys (params.drop set.length)
    c.returning ("UPDATE " ++ c.schema.table ++ " SET " ++ ", ".intercalate assignments ++
      " WHERE " ++ condition)

/-- The fields of typed values that are set, with their parameters.  Null is a value that
is set. -/
def assigned (values : List (String × FieldValue)) : List (String × Param) :=
  values.filterMap fun (name, value) => value.toParam.map fun p => (name, p)

/-- The statement that updates rows with typed values and leaves fields without a value
alone. -/
def patch (c : Compiler) (values : List (String × FieldValue)) (keys : List String)
    (keyParams : List Param) : Except Error Statement :=
  let set := assigned values
  c.update (set.map (·.1)) keys (set.map (·.2) ++ keyParams)

/-- The statement that deletes the rows that the keys select. -/
def delete (c : Compiler) (keys : List String) (params : List Param) :
    Except Error Statement := do
  if keys.isEmpty || params.isEmpty then throw (.invalidRequest (.requiresKey .delete))
  expectParams .delete keys.length params.length
  Framed.statement do
    let condition ← c.keyCondition keys params
    return "DELETE FROM " ++ c.schema.table ++ " WHERE " ++ condition

theorem delete_nil (c : Compiler) (params : List Param) :
    c.delete [] params = .error (.invalidRequest (.requiresKey .delete)) := rfl

end Compiler

end TagSearch
