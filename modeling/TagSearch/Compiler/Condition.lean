import TagSearch.Query.Evaluation
import TagSearch.Query.Pattern
import TagSearch.Sql.Frame
import TagSearch.Sql.Like

/-!
# Conditions of a search

Turns the conditions of a search into conditions of a statement, and writes its tree as one
condition made of them.  A category that is a pattern tests every field whose name matches.
-/

namespace TagSearch

/-- The expression of a pattern, which is bound as the caller wrote it once it is known to
be well formed. -/
def expressionTest (pattern : String) : Except Error PatternTest :=
  (compilePattern pattern).map fun _ => .expression pattern

namespace Leaf

/-- The condition on a text found in a document. -/
def textCondition (l : Leaf) (o : Operand) : Except Error Condition :=
  match l.value with
  | none => .ok (.present o)
  | some (.pattern p) =>
    if l.comparison = .equal then (expressionTest p).map (.fits o)
    else .error (.invalidRequest (.comparedPattern l.comparison))
  | some (.literal v) =>
    if isNullText v then .ok (.absent o)
    else if l.comparison ≠ .equal then
      match Decimal.parse (restore v) with
      | some number => .ok (.compareNumber o l.comparison number)
      | none => .ok (.compare o l.comparison (.text (restore v)))
    else if hasWildcard v then .ok (.fits o (.like (Like.pattern v)))
    else .ok (.compare o .equal (.text (restore v)))

/-- The condition on a field that holds an array. -/
def arrayCondition (l : Leaf) (f : Field) (s : Source) : Except Error Condition :=
  match l.value with
  | none => .ok (.present (.plain s))
  | some (.pattern p) =>
    if l.comparison = .equal then (expressionTest p).map (.someItem s)
    else .error (.invalidRequest (.comparedArray l.comparison f.name))
  | some (.literal v) =>
    if isNullText v then .ok (.absent (.plain s))
    else if l.comparison ≠ .equal then
      .error (.invalidRequest (.comparedArray l.comparison f.name))
    else if hasWildcard v then .ok (.someItem s (.like (Like.pattern v)))
    else .ok (.hasItem s (restore v))

/-- The text of a field: a field of strings is its own text. -/
def fieldText (f : Field) (s : Source) : Operand :=
  match f.kind with
  | .string => .plain s
  | _ => .textOf s

/-- The condition on a field that holds a single value.  The value is bound in the form in
which the store holds values of the kind of the field. -/
def scalarCondition (l : Leaf) (f : Field) (s : Source) : Except Error Condition :=
  match l.value with
  | none => .ok (.present (.plain s))
  | some (.pattern p) =>
    if l.comparison = .equal then (expressionTest p).map (.fits (fieldText f s))
    else .error (.invalidRequest (.comparedPattern l.comparison))
  | some (.literal v) =>
    if isNullText v then .ok (.absent (.plain s))
    else if l.comparison = .equal ∧ hasWildcard v then
      .ok (.fits (fieldText f s) (.like (Like.pattern v)))
    else (Value.parse f.kind (restore v)).map fun value =>
      .compare (.plain s) l.comparison value.toParam

/-- The condition on a field, by the kind of the field and the steps below it. -/
def fieldCondition (l : Leaf) (f : Field) (s : Source) (category : String)
    (steps : List Segment) : Except Error Condition :=
  match f.kind, steps with
  | .json, [] => l.textCondition (.textOf s)
  | .json, _ :: _ => l.textCondition (.below s steps)
  | _, _ :: _ => .error (.invalidRequest (.noPathBelow f.name category))
  | .array, [] => l.arrayCondition f s
  | _, [] => l.scalarCondition f s

/-- The condition on what a category names. -/
def conditionOn (l : Leaf) (schema : Schema) (category : String) : Except Error Condition :=
  match Path.parse? category with
  | none => .error (.invalidRequest (.malformedPath category))
  | some path => do
    let f ← schema.require path.field
    let s ← schema.source f
    l.fieldCondition f s category path.segments

/-- Writes the condition on what a category names. -/
def writeOn (l : Leaf) (schema : Schema) (category : String) : Framed String := do
  (← l.conditionOn schema category).write

/-- Writes a condition of a search. -/
def predicate (l : Leaf) (schema : Schema) : Framed String :=
  match l.category with
  | .literal name => l.writeOn schema name
  | .pattern p => do
    let r ← compilePattern p
    let parts ← (schema.fields.filter fun f => r.isMatch f.name).mapM fun f =>
      l.writeOn schema f.name
    match joinParts " OR " parts with
    | some part => return part
    | none => throw (.invalidRequest (.noMatchingField p schema.table))

end Leaf

namespace Node

mutual

/-- Writes a node, if there is anything below it. -/
def predicate (schema : Schema) : Node → Framed (Option String)
  | leaf l => do return some (← l.predicate schema)
  | group .disj _ members => do return joinParts " OR " (← predicates schema members)
  | group .neg _ [n] => do
    return (← n.predicate schema).map fun part => "NOT (" ++ part ++ ")"
  | group .neg _ members => throw (negationArity members)
  | group _ _ members => do return joinParts " AND " (← predicates schema members)

/-- Writes nodes. -/
def predicates (schema : Schema) : List Node → Framed (List String)
  | [] => return []
  | n :: rest => do
    let part ← n.predicate schema
    let parts ← predicates schema rest
    return part.toList ++ parts

end

end Node

namespace Tree

/-- Writes a search, unless it is empty. -/
def predicate (t : Tree) (schema : Schema) : Framed (Option String) :=
  t.root.predicate schema

end Tree

end TagSearch
