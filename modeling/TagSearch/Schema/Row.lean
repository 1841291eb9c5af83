import TagSearch.Schema.Basic

/-!
# Rows

A row pairs the names of its columns with parameters.  A schema turns a row into the values
of its fields.
-/

namespace TagSearch

/-- A row as the store returns it: its columns in order, with their parameters. -/
abbrev Row := List (String × Param)

namespace Row

/-- The parameter of the first column of a given name. -/
def get? (r : Row) (column : String) : Option Param :=
  (r.find? fun (name, _) => name == column).map (·.2)

end Row

/-- Values by the names of their fields, each name once. -/
abbrev Assignment := List (String × FieldValue)

namespace Assignment

/-- The value of a field. -/
def get? (a : Assignment) (name : String) : Option FieldValue :=
  (a.find? fun (n, _) => n == name).map (·.2)

/-- Gives a field a value, in place of the one that it had. -/
def put (name : String) (value : FieldValue) : Assignment → Assignment
  | [] => [(name, value)]
  | (n, v) :: rest => if n = name then (name, value) :: rest else (n, v) :: put name value rest

end Assignment

namespace Schema

/-- Adds the columns of a row to an assignment.  Columns without a field count nothing. -/
def decodeInto (s : Schema) (a : Assignment) : Row → Except Error Assignment
  | [] => .ok a
  | (column, param) :: rest =>
    match s.field? column with
    | none => decodeInto s a rest
    | some f =>
      match FieldValue.ofParam f.kind param with
      | .error e => .error e
      | .ok v => decodeInto s (a.put f.name v) rest

/-- The values of the fields that a row holds. -/
def decode (s : Schema) (r : Row) : Except Error Assignment :=
  s.decodeInto [] r

end Schema

end TagSearch
