import TagSearch.Json.Writer
import TagSearch.Query.Tree

/-!
# Trees as JSON

The JSON form of a tree.  A node lists its operator, its comparison, its category and
value as far as it has them, and its members unless there are none.
-/

namespace TagSearch

namespace Term

/-- A term as JSON: its kind and its text. -/
def toJson : Term → Json
  | literal s => .object [("type", .string "literal"), ("text", .string s)]
  | pattern s => .object [("type", .string "pattern"), ("text", .string s)]

end Term

namespace Node

mutual

/-- A node as JSON. -/
def toJson : Node → Json
  | leaf l =>
    .object ([("op", .string Comparison.equal.keyword), ("comp", .string l.comparison.keyword),
      ("category", l.category.toJson)] ++
      match l.value with
      | some v => [("value", v.toJson)]
      | none => [])
  | group op c [] => .object [("op", .string op.keyword), ("comp", .string c.keyword)]
  | group op c (m :: ms) =>
    .object [("op", .string op.keyword), ("comp", .string c.keyword),
      ("children", .array (m.toJson :: toJsonAll ms))]

/-- The nodes of a list as JSON. -/
def toJsonAll : List Node → List Json
  | [] => []
  | n :: ns => n.toJson :: toJsonAll ns

end

end Node

namespace Tree

/-- A tree as JSON. -/
def toJson (t : Tree) : Json :=
  .object [("root", t.root.toJson)]

end Tree

end TagSearch
