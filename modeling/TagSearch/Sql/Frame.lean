import TagSearch.Sql.Change

/-!
# Frames

A statement is composed step by step.  A frame keeps the parameters that were bound and the
relations that were read so far: the number of a parameter is fixed when it is bound, the text in
which its placeholder stands is put together afterwards, and what has to be joined is known only
when everything has been read.

Main results:

- Theorem `Frame.run_bind`: the placeholder of a parameter that is bound has the number of the
  parameters up to it.
-/

namespace TagSearch

/-- What a statement under construction has bound and read so far. -/
structure Frame where
  /-- The parameters, in the order in which they were bound. -/
  params : List Param := []
  /-- The relations besides the base relation whose columns were read. -/
  tables : List String := []

/-- A step in the construction of a statement, which may fail. -/
abbrev Framed := StateT Frame (Except Error)

namespace Frame

/-- Binds a parameter and gives its placeholder. -/
def bind (p : Param) : Framed String :=
  modifyGet fun frame =>
    let params := frame.params ++ [p]
    (Piece.placeholder params.length, { frame with params })

/-- Reads a source: the expression that reads it is given, and a relation that has to be joined
for it is kept. -/
def read (s : Source) : Framed String :=
  modifyGet fun frame => (s.text, { frame with tables := frame.tables ++ s.joinedTable?.toList })

theorem run_bind (p : Param) (frame : Frame) :
    (bind p).run frame = .ok (Piece.placeholder (frame.params.length + 1),
      { frame with params := frame.params ++ [p] }) := by
  rw [← List.length_singleton (a := p), ← List.length_append]
  rfl

theorem run_read (s : Source) (frame : Frame) :
    (read s).run frame =
      .ok (s.text, { frame with tables := frame.tables ++ s.joinedTable?.toList }) := rfl

end Frame

/-- The statement that a construction comes to. -/
def Framed.statement (sql : Framed String) : Except Error Statement := do
  let (sql, frame) ← sql.run {}
  return ⟨sql, frame.params⟩

/-! ## Expressions and conditions -/

/-- What a step into a document takes. -/
def Segment.write : Segment → Framed String
  | .field name => do return (← Frame.bind (.text name)) ++ "::text"
  | .index i => return if i < 0 then "(" ++ toString i ++ ")" else toString i

namespace Operand

/-- Steps into a document, behind the expression that leads to it. -/
def writeSteps (front : String) : List Segment → Framed String
  | [] => return front
  | [s] => do return front ++ "->>" ++ (← s.write)
  | s :: rest => do writeSteps (front ++ "->" ++ (← s.write)) rest

/-- Writes an expression. -/
def write : Operand → Framed String
  | plain s => Frame.read s
  | textOf s => do return (← Frame.read s) ++ "::text"
  | below s steps => do writeSteps (← Frame.read s) steps

end Operand

/-- Writes the test of a text. -/
def PatternTest.write (tested : String) : PatternTest → Framed String
  | like p => do return tested ++ " LIKE " ++ (← Frame.bind (.text p))
  | expression p => do return tested ++ " ~ " ++ (← Frame.bind (.text p))

/-- Writes a condition.  The names in a path are bound before the value that is found there is
compared. -/
def Condition.write : Condition → Framed String
  | present o => do return (← o.write) ++ " IS NOT NULL"
  | absent o => do return (← o.write) ++ " IS NULL"
  | compare o c p => do
    let expression ← o.write
    let value ← Frame.bind p
    return expression ++ " " ++ c.sign ++ " " ++ value
  | compareNumber o c d => do
    let expression ← o.write
    let value ← Frame.bind (.numeric d)
    return "(" ++ expression ++ ")::numeric " ++ c.sign ++ " " ++ value
  | fits o test => do test.write (← o.write)
  | hasItem s item => do
    let column ← Frame.read s
    let value ← Frame.bind (.text item)
    return value ++ " = ANY(" ++ column ++ ")"
  | someItem s test => do
    let column ← Frame.read s
    let condition ← test.write "elem"
    return "EXISTS (SELECT 1 FROM unnest(" ++ column ++ ") AS elem WHERE " ++ condition ++ ")"

/-- Several conditions with a separator between any two, in parentheses.  No part makes no
condition, and a single part is itself the condition. -/
def joinParts (separator : String) : List String → Option String
  | [] => none
  | [part] => some part
  | parts => some ("(" ++ separator.intercalate parts ++ ")")

/-! ## Items and values -/

/-- Writes an item that a statement returns. -/
def Output.write (o : Output) : Framed String := do
  let expression ← Frame.read o.source
  return match o.alias? with
    | none => expression
    | some name => expression ++ " AS " ++ name

/-- Writes an order key. -/
def OrderKey.write (k : OrderKey) : Framed String := do
  let expression ← Frame.read k.source
  return if k.descending then expression ++ " DESC" else expression

/-- Writes a value that is stored. -/
def StoredValue.write : StoredValue → Framed String
  | plain p => Frame.bind p
  | keyOf table column p => do
    let value ← Frame.bind p
    return "(SELECT " ++ table ++ "." ++ surrogateKey ++ " FROM " ++ table ++ " WHERE " ++
      table ++ "." ++ column ++ " = " ++ value ++ ")"

/-- Writes an equation. -/
def Equation.write (e : Equation) : Framed String := do
  let value ← e.value.write
  return e.column ++ " = " ++ value

end TagSearch
