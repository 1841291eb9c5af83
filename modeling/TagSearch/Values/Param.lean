import TagSearch.Json.Writer
import TagSearch.Number.Decimal
import TagSearch.Time.Timestamp

/-!
# Parameters

The values that a statement binds and a row returns, in the form in which the store holds
them.
-/

namespace TagSearch

/-- A value in the form that the store binds. -/
inductive Param where
  | null
  | text (value : String)
  | int (value : Int)
  | numeric (value : Decimal)
  | bool (value : Bool)
  | timestamp (value : Timestamp)
  | json (value : Json)
  | textArray (items : List String)
deriving Repr

namespace Param

/-- A parameter as JSON.  Decimals and points in time become strings. -/
def toJson : Param → Json
  | null => .null
  | text s => .string s
  | int n => .number (.int n)
  | numeric d => .string d.text
  | bool b => .bool b
  | timestamp t => .string t.text
  | json j => j
  | textArray items => .array (items.map .string)

/-- A parameter as a message shows it: its kind and its value. -/
def described : Param → String
  | null => "Null"
  | text s => "Text(" ++ Text.quoted s ++ ")"
  | int n => "Int(" ++ toString n ++ ")"
  | numeric d => "Numeric(" ++ d.text ++ ")"
  | bool b => "Bool(" ++ (if b then "true" else "false") ++ ")"
  | timestamp t => "Timestamp(" ++ t.zuluText ++ ")"
  | json j => "Json(" ++ j.described ++ ")"
  | textArray items => "TextArray([" ++ ", ".intercalate (items.map Text.quoted) ++ "])"

end Param

end TagSearch
