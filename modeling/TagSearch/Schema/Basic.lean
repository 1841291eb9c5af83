import TagSearch.Query.Parser
import TagSearch.Values.Value

/-!
# Schemas

What the fields of an entity are called, what they hold, and where the store keeps them.
A schema is the authority on the names that a statement may use.

Main results:

- Theorem `Schema.name_of_field?`: a field that was looked up has the name it was looked up
  by.
- Theorem `Schema.mem_visible`: a visible field is neither hidden nor gated by an option
  that is not enabled.
-/

namespace TagSearch

/-- The column that holds the surrogate key of every relation that a reference leads to. -/
def surrogateKey : String := "id"

/-- A field of an entity. -/
structure Field where
  /-- The name in searches and lists, and the name of the output column. -/
  name : String
  kind : FieldType
  /-- The relation that owns the column, the base relation when there is none. -/
  table : Option String := none
  /-- The name of the column where it differs from the name of the field. -/
  column : Option String := none
  /-- The column of the base relation that holds the surrogate key of `table`.  It makes the
  field a reference: users see and write the business key, the base relation stores the
  surrogate key. -/
  key : Option String := none
  /-- Bare values search this field. -/
  primary : Bool := false
  /-- The field can be searched and is never returned. -/
  hidden : Bool := false
  /-- The field is returned only when this option is enabled. -/
  option : Option String := none
deriving DecidableEq, Repr

namespace Field

/-- The name of the column of a field. -/
def columnName (f : Field) : String :=
  f.column.getD f.name

/-- Whether a field is a reference to another relation. -/
def isReference (f : Field) : Bool :=
  f.key.isSome

end Field

/-- A relation that can be joined, and the condition on which it is. -/
structure Join where
  table : String
  condition : String
  /-- The join is made when this option is enabled or one of its fields is read. -/
  option : Option String := none
deriving DecidableEq, Repr

/-- What an insert does about a row that is already there: the fields that identify it, and
the fields to update. -/
structure Upsert where
  target : List String
  update : List String
deriving DecidableEq, Repr

/-- The fields of an entity and the relations that hold them. -/
structure Schema where
  /-- The base relation. -/
  table : String
  fields : List Field
  joins : List Join := []
  upsert : Option Upsert := none
deriving DecidableEq, Repr

/-- Whether something gated by an option is active: without an option it always is. -/
def enables (options : List String) (option : Option String) : Bool :=
  match option with
  | none => true
  | some o => options.contains o

namespace Schema

/-- The first field of a given name. -/
def field? (s : Schema) (name : String) : Option Field :=
  s.fields.find? fun f => f.name == name

/-- The field of a given name, which has to be there. -/
def require (s : Schema) (name : String) : Except Error Field :=
  match s.field? name with
  | some f => .ok f
  | none => .error (.config (.unknownField name s.table))

/-- The field that bare values search. -/
def primary? (s : Schema) : Option Field :=
  s.fields.find? (·.primary)

/-- The name of the field that bare values search. -/
def primaryName (s : Schema) : String :=
  (s.primary?.map (·.name)).getD defaultPrimary

/-- The fields that are returned, in the order of their declaration. -/
def visible (s : Schema) (options : List String) : List Field :=
  s.fields.filter fun f => !f.hidden && enables options f.option

/-- Whether the base relation stores a field, itself or by the key of a reference. -/
def isBase (s : Schema) (f : Field) : Bool :=
  f.isReference ||
    match f.table with
    | none => true
    | some t => t == s.table

theorem name_of_field? {s : Schema} {name : String} {f : Field} (h : s.field? name = some f) :
    f.name = name := by
  simpa using List.find?_some h

theorem mem_visible {s : Schema} {options : List String} {f : Field}
    (h : f ∈ s.visible options) :
    f ∈ s.fields ∧ f.hidden = false ∧ enables options f.option = true := by
  simpa [visible] using h

end Schema

end TagSearch
