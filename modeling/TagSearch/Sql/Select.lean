import TagSearch.Sql.Condition

/-!
# Selections

The plan of a statement that reads rows: what it returns, where it reads from, which rows
it keeps, and whether it pages through them or counts them by groups.

Main results:

- Theorem `Output.name_of_source`: an output without an alias has the name of its source.
-/

namespace TagSearch

/-- An item that a statement returns. -/
structure Output where
  source : Source
  /-- The name under which the item is returned, when it is given one. -/
  alias? : Option String
deriving DecidableEq, Repr

namespace Output

/-- The text of an item. -/
def text (o : Output) : String :=
  match o.alias? with
  | none => o.source.text
  | some name => o.source.text ++ " AS " ++ name

/-- The name of the column that an item becomes. -/
def name (o : Output) : String :=
  match o.alias?, o.source with
  | some name, _ => name
  | none, .own _ column => column
  | none, .joined _ column => column
  | none, .reference _ column _ _ => column

theorem name_of_source (q : Option String) (column : String) :
    (Output.mk (.own q column) none).name = column := rfl

/-- The text of a list of items. -/
def listText (outputs : List Output) : String :=
  ", ".intercalate (outputs.map text)

end Output

/-- The text that joins a relation. -/
def Join.text (j : Join) : String :=
  " LEFT JOIN " ++ j.table ++ " ON " ++ j.condition

/-- The text that joins relations. -/
def Join.listText (joins : List Join) : String :=
  String.join (joins.map Join.text)

/-- A source by which rows are ordered. -/
structure OrderKey where
  source : Source
  descending : Bool
deriving DecidableEq, Repr

/-- The text of an order key. -/
def OrderKey.text (k : OrderKey) : String :=
  if k.descending then k.source.text ++ " DESC" else k.source.text

/-- What becomes of the rows that a selection keeps. -/
inductive Extent where
  /-- They are put in order, and a page of them is returned. -/
  | page (order : List OrderKey) (limit offset : Nat)
  /-- They are counted by groups. -/
  | groups (keys : List Source)
deriving DecidableEq, Repr

namespace Extent

/-- What stands behind the items of a selection. -/
def outputText : Extent → String
  | page .. => ""
  | groups _ => ", count(*) AS count"

/-- The text at the end of a selection. -/
def text : Extent → String
  | page order limit offset =>
    (if order.isEmpty then "" else " ORDER BY " ++ ", ".intercalate (order.map OrderKey.text)) ++
      " LIMIT " ++ toString limit ++ " OFFSET " ++ toString offset
  | groups keys => " GROUP BY " ++ ", ".intercalate (keys.map Source.text)

theorem text_page (order : List OrderKey) (limit offset : Nat) :
    (page order limit offset).text =
      (if order.isEmpty then "" else " ORDER BY " ++ ", ".intercalate (order.map OrderKey.text)) ++
        " LIMIT " ++ toString limit ++ " OFFSET " ++ toString offset := rfl

/-- The sources that the end of a selection reads. -/
def sources : Extent → List Source
  | page order _ _ => order.map (·.source)
  | groups keys => keys

end Extent

/-- The plan of a statement that reads rows. -/
structure Select where
  table : String
  outputs : List Output
  joins : List Join
  condition : Option (Formula Condition)
  extent : Extent

namespace Select

/-- The pieces of the condition of a selection. -/
def conditionPieces (s : Select) : List Piece :=
  match s.condition with
  | none => []
  | some f => .text " WHERE " :: f.pieces

/-- The pieces of a selection. -/
def pieces (s : Select) : List Piece :=
  .text ("SELECT " ++ Output.listText s.outputs ++ s.extent.outputText ++ " FROM " ++ s.table ++
      Join.listText s.joins) ::
    s.conditionPieces ++ [.text s.extent.text]

/-- The statement of a selection. -/
def statement (s : Select) : Statement :=
  .ofPieces s.pieces

end Select

end TagSearch
