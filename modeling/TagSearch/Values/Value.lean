import TagSearch.Error
import TagSearch.Json.Reader
import TagSearch.Time.Duration

/-!
# Field values

The typed values of fields, with three forms each: the text that a user writes, the JSON
that goes over the wire, and the parameter that the store keeps.
-/

namespace TagSearch

/-- A typed value. -/
inductive Value where
  | string (value : String)
  | int (value : Int)
  | float (value : Decimal)
  | bool (value : Bool)
  | time (value : Timestamp)
  | json (value : Json)
  | array (items : List String)
  | duration (value : Duration)
deriving Repr

/-- A value that tells "not given" from "given as null".  An update leaves unset fields
alone. -/
inductive FieldValue where
  | unset
  | null
  | set (value : Value)
deriving Repr

namespace Value

/-- The kind of a value. -/
def kind : Value → FieldType
  | string _ => .string
  | int _ => .int
  | float _ => .float
  | bool _ => .bool
  | time _ => .time
  | json _ => .json
  | array _ => .array
  | duration _ => .duration

/-- Reads a truth value, in letters of either case and with blanks around it or not. -/
def parseBool (s : String) : Option Bool :=
  match String.ofList ((Text.trim s.toList).map Char.toLower) with
  | "true" | "t" | "yes" | "1" => some true
  | "false" | "f" | "no" | "0" => some false
  | _ => none

/-- The error for a text that writes no value of a kind. -/
def notAValue (kind : FieldType) (text : String) : Error :=
  .invalidRequest (.notAValue text kind)

/-- Reads a value of a kind from the text that a user wrote. -/
def parse (kind : FieldType) (text : String) : Except Error Value :=
  let orBad {α : Type} (r : Option α) (f : α → Value) : Except Error Value :=
    match r with
    | some a => .ok (f a)
    | none => .error (notAValue kind text)
  match kind with
  | .string => .ok (.string text)
  | .int => orBad (Text.readInt64 (Text.trim text.toList)) .int
  | .float => orBad (Decimal.parse text) .float
  | .bool => orBad (parseBool text) .bool
  | .time => orBad (Timestamp.parse text) .time
  | .json => .ok (.json ((Json.parse text).getD (.string text)))
  | .array => .ok (.array [text])
  | .duration =>
    match Duration.parse text with
    | .ok d => .ok (.duration d)
    | .error .malformed => .error (notAValue kind text)
    | .error .overflow => .error .durationOverflow

/-- The greatest number of milliseconds that is stored. -/
def maxStoredMillis : Nat := 9223372036854775807

/-- The form in which the store keeps a value.  A duration is kept in whole
milliseconds. -/
def toParam : Value → Param
  | string s => .text s
  | int n => .int n
  | float d => .numeric d
  | bool b => .bool b
  | time t => .timestamp t
  | json j => .json j
  | array items => .textArray items
  | duration d => .int (min d.millis maxStoredMillis)

/-- The form in which a value goes over the wire. -/
def toWire : Value → Json
  | string s => .string s
  | int n => .number (.int n)
  | float d =>
    match d.toBinary64? with
    | some x => .number (.float x)
    | none => .string d.text
  | bool b => .bool b
  | time t => .string t.text
  | json j => j
  | array items => .array (items.map .string)
  | duration d => .string d.text

/-- The text of a value. -/
def text : Value → String
  | string s => s
  | int n => toString n
  | float d => d.normalize.text
  | bool b => if b then "true" else "false"
  | time t => t.text
  | json j => j.compact
  | array items => ",".intercalate items
  | duration d => d.text

end Value

namespace FieldValue

/-- The stored form; unset values have none. -/
def toParam : FieldValue → Option Param
  | unset => none
  | null => some .null
  | set v => some v.toParam

/-- The wire form; an unset value goes as null. -/
def toWire : FieldValue → Json
  | unset => .null
  | null => .null
  | set v => v.toWire

/-- The text of a field value; an unset value has none. -/
def text : FieldValue → String
  | unset => ""
  | null => "null"
  | set v => v.text

/-- The error for a JSON value that stands for no value of a kind. -/
def notAWireValue (kind : FieldType) (wire : Json) : Error :=
  .invalidRequest (.notAWireValue wire kind)

/-- The strings of a list of JSON values, all of which have to be strings. -/
def strings? : List Json → Option (List String)
  | [] => some []
  | .string s :: rest => (strings? rest).map (s :: ·)
  | _ :: _ => none

/-- Reads the wire form of a field. -/
def ofWire (kind : FieldType) (wire : Json) : Except Error FieldValue :=
  let orBad {α : Type} (r : Option α) (f : α → Value) : Except Error FieldValue :=
    match r with
    | some a => .ok (.set (f a))
    | none => .error (notAWireValue kind wire)
  match kind, wire with
  | _, .null => .ok .null
  | .json, j => .ok (.set (.json j))
  | .int, .number n => orBad n.int64? .int
  | .float, .number n =>
    orBad (match n.int64? with
      | some i => Decimal.ofInt? i
      | none => n.binary64?.bind Decimal.ofBinary64?) .float
  | .bool, .bool b => .ok (.set (.bool b))
  | .array, .array items => orBad (strings? items) .array
  | .duration, .number n => orBad n.uint64? fun ms => .duration (.ofMillis ms)
  | kind, .string s => (Value.parse kind s).map .set
  | _, _ => .error (notAWireValue kind wire)

/-- The error for a column whose parameter does not fit its kind. -/
def mismatch (kind : FieldType) (param : Param) : Error :=
  .config (.columnMismatch kind param)

/-- Reads a column as the store returns it. -/
def ofParam (kind : FieldType) (param : Param) : Except Error FieldValue :=
  match kind, param with
  | _, .null => .ok .null
  | .string, .text s => .ok (.set (.string s))
  | .int, .int n => .ok (.set (.int n))
  | .float, .numeric d => .ok (.set (.float d))
  | .float, .int n =>
    match Decimal.ofInt? n with
    | some d => .ok (.set (.float d))
    | none => .error (mismatch kind param)
  | .bool, .bool b => .ok (.set (.bool b))
  | .time, .timestamp t => .ok (.set (.time t))
  | .json, .json j => .ok (.set (.json j))
  | .json, .text s =>
    match Json.parse s with
    | some j => .ok (.set (.json j))
    | none => .error .unreadableJson
  | .array, .textArray items => .ok (.set (.array items))
  | .duration, .int ms => .ok (.set (.duration (.ofMillis ms.toNat)))
  | kind, .text s =>
    match Value.parse kind s with
    | .ok v => .ok (.set v)
    | .error .durationOverflow => .error .durationOverflow
    | .error _ => .error (mismatch kind param)
  | kind, param => .error (mismatch kind param)

end FieldValue

end TagSearch
