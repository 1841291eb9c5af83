/-!
# Field types

The kinds of value that a field can hold.
-/

namespace TagSearch

/-- The kind of value that a field holds. -/
inductive FieldType where
  | string
  | int
  /-- A decimal number, so that a literal keeps its exact value. -/
  | float
  | bool
  | time
  | json
  /-- A list of strings. -/
  | array
  | duration
deriving DecidableEq, Repr

namespace FieldType

/-- The name of a kind. -/
def name : FieldType → String
  | string => "string"
  | int => "int"
  | float => "float"
  | bool => "bool"
  | time => "time"
  | json => "json"
  | array => "array"
  | duration => "duration"

/-- Every kind. -/
def every : List FieldType :=
  [string, int, float, bool, time, json, array, duration]

/-- The kind of a given name. -/
def ofName? (s : String) : Option FieldType :=
  every.find? fun k => k.name == s

end FieldType

end TagSearch
