import TagSearch.Schema.Basic

/-!
# Schemas as JSON

The JSON form of a schema, written in full and read leniently: optional parts may be left
out, unknown ones are passed over, and a record may also be written as the list of its
parts.
-/

namespace TagSearch

namespace Json

/-- An optional string; null when there is none. -/
def ofOption : Option String → Json
  | some s => .string s
  | none => .null

/-- A list of strings. -/
def ofStrings (items : List String) : Json :=
  .array (items.map .string)

/-! ## Records -/

/-- The parts of a record by name.  An object has its parts by name, and none of them
twice; a list has them in the order of declaration, the last ones left out as it likes. -/
def record? (names : List String) : Json → Option (List (String × Json))
  | .object members =>
    let known := members.filter fun (name, _) => names.contains name
    if (known.map (·.1)).Nodup then some known else none
  | .array items => if items.length ≤ names.length then some (names.zip items) else none
  | _ => none

/-- A part that has to be there and to be a string. -/
def stringPart? (parts : List (String × Json)) (name : String) : Option String :=
  match member? name parts with
  | some (.string s) => some s
  | _ => none

/-- A part that may be a string, null, or left out. -/
def optionPart? (parts : List (String × Json)) (name : String) : Option (Option String) :=
  match member? name parts with
  | none => some none
  | some .null => some none
  | some (.string s) => some (some s)
  | some _ => none

/-- A part that may be a truth value or left out, which counts as false. -/
def flagPart? (parts : List (String × Json)) (name : String) : Option Bool :=
  match member? name parts with
  | none => some false
  | some (.bool b) => some b
  | some _ => none

/-- The strings of a list, nothing else in it. -/
def stringList? : Json → Option (List String)
  | .array items => FieldValue.strings? items
  | _ => none

end Json

namespace FieldType

/-- Reads a kind: its name, or an object with its name as the only member and null in
it. -/
def ofJson? : Json → Option FieldType
  | .string s => ofName? s
  | .object [(name, .null)] => ofName? name
  | _ => none

end FieldType

namespace Field

/-- The names of the parts of a field. -/
def parts : List String :=
  ["name", "type", "table", "column", "key", "primary", "hidden", "option"]

/-- A field as JSON. -/
def toJson (f : Field) : Json :=
  .object [("name", .string f.name), ("type", .string f.kind.name),
    ("table", Json.ofOption f.table), ("column", Json.ofOption f.column),
    ("key", Json.ofOption f.key), ("primary", .bool f.primary), ("hidden", .bool f.hidden),
    ("option", Json.ofOption f.option)]

/-- Reads a field. -/
def ofJson? (j : Json) : Option Field := do
  let ps ← Json.record? parts j
  some {
    name := ← Json.stringPart? ps "name"
    kind := ← (Json.member? "type" ps).bind FieldType.ofJson?
    table := ← Json.optionPart? ps "table"
    column := ← Json.optionPart? ps "column"
    key := ← Json.optionPart? ps "key"
    primary := ← Json.flagPart? ps "primary"
    hidden := ← Json.flagPart? ps "hidden"
    option := ← Json.optionPart? ps "option" }

end Field

namespace Join

/-- A join as JSON. -/
def toJson (j : Join) : Json :=
  .object [("table", .string j.table), ("on", .string j.condition),
    ("option", Json.ofOption j.option)]

/-- Reads a join. -/
def ofJson? (j : Json) : Option Join := do
  let ps ← Json.record? ["table", "on", "option"] j
  some {
    table := ← Json.stringPart? ps "table"
    condition := ← Json.stringPart? ps "on"
    option := ← Json.optionPart? ps "option" }

end Join

namespace Upsert

/-- An upsert as JSON. -/
def toJson (u : Upsert) : Json :=
  .object [("target", Json.ofStrings u.target), ("update", Json.ofStrings u.update)]

/-- Reads an upsert. -/
def ofJson? (j : Json) : Option Upsert := do
  let ps ← Json.record? ["target", "update"] j
  some {
    target := ← (Json.member? "target" ps).bind Json.stringList?
    update := ← (Json.member? "update" ps).bind Json.stringList? }

end Upsert

namespace Schema

/-- A schema as JSON. -/
def toJson (s : Schema) : Json :=
  .object [("table", .string s.table), ("fields", .array (s.fields.map Field.toJson)),
    ("joins", .array (s.joins.map Join.toJson)),
    ("upsert", match s.upsert with
      | some u => u.toJson
      | none => .null)]

/-- The members of a list that a reader accepts one by one. -/
def listOf? {α : Type} (read : Json → Option α) : Json → Option (List α)
  | .array items => items.mapM read
  | _ => none

/-- Reads a schema. -/
def ofJson? (j : Json) : Option Schema := do
  let ps ← Json.record? ["table", "fields", "joins", "upsert"] j
  some {
    table := ← Json.stringPart? ps "table"
    fields := ← (Json.member? "fields" ps).bind (listOf? Field.ofJson?)
    joins := ←
      match Json.member? "joins" ps with
      | none => some []
      | some v => listOf? Join.ofJson? v
    upsert := ←
      match Json.member? "upsert" ps with
      | none => some none
      | some .null => some none
      | some v => (Upsert.ofJson? v).map some }

/-- Reads a schema from JSON text. -/
def parse? (text : String) : Option Schema :=
  (Json.readText text).bind ofJson?

end Schema

end TagSearch
