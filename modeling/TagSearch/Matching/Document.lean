import TagSearch.Matching.Glob
import TagSearch.Path
import TagSearch.Query.Evaluation
import TagSearch.Query.Pattern
import TagSearch.Values.Value

/-!
# Matching documents

Tests a search against a JSON document.  A category is a path into the document, or a
pattern over the names of its members; a value is compared as text, as a decimal when both
sides are numbers, and as a point in time when both sides are times.  An array matches
when one of its items does.
-/

namespace TagSearch

/-- What a condition asks of the value that it finds. -/
inductive ValueTest where
  /-- There is a value. -/
  | present
  /-- There is no value. -/
  | absent
  /-- The value is a given text, or a number equal to it. -/
  | equals (expected : String)
  /-- The value matches a pattern. -/
  | fits (pattern : Regex)
  /-- The value stands in a given order to a text. -/
  | ordered (comparison : Comparison) (expected : String)

/-- The order of two texts: as decimals if both write decimals, else as points in time if
both write these, and else as texts. -/
def compareText (a b : String) : Ordering :=
  match Decimal.parse a, Decimal.parse b with
  | some x, some y => x.compare y
  | _, _ =>
    match Timestamp.parse a, Timestamp.parse b with
    | some x, some y => x.compare y
    | _, _ => Ord.compare a b

namespace ValueTest

/-- The test that a condition makes. -/
def ofLeaf (l : Leaf) : Except Error ValueTest :=
  match l.value with
  | none => .ok .present
  | some (.pattern p) =>
    if l.comparison = .equal then (compilePattern p).map .fits
    else .error (.invalidRequest (.comparedPattern l.comparison))
  | some (.literal v) =>
    if isNullText v then .ok .absent
    else if l.comparison ≠ .equal then .ok (.ordered l.comparison (restore v))
    else if hasWildcard v then (Glob.compile v).map .fits
    else .ok (.equals (restore v))

/-- The text of a value that is compared: a string itself, and the JSON of anything
else. -/
def comparedText : Json → String
  | .string s => s
  | j => j.compact

/-- Whether a value is a string. -/
def isString : Json → Bool
  | .string _ => true
  | _ => false

/-- Whether a single value passes the test. -/
def passes (test : ValueTest) (j : Json) : Bool :=
  if j.isNull then false
  else
    let text := comparedText j
    match test with
    | present => true
    | absent => false
    | equals expected =>
      match Decimal.parse text, Decimal.parse expected with
      | some x, some y => if isString j then text == expected else x.equal y
      | _, _ => text == expected
    | fits pattern => pattern.isMatch text
    | ordered c expected => c.holds (compareText text expected)

/-- Whether what was found in a document passes the test.  Null counts as nothing. -/
def check (test : ValueTest) (found : Option Json) : Bool :=
  match test, found.filter fun j => !j.isNull with
  | present, j => j.isSome
  | absent, j => j.isNone
  | _, none => false
  | _, some (.array items) => items.any test.passes
  | _, some j => test.passes j

end ValueTest

namespace Leaf

/-- Whether a document satisfies a condition. -/
def accepts (l : Leaf) (document : Json) : Except Error Bool := do
  let test ← ValueTest.ofLeaf l
  match l.category with
  | .literal name =>
    match Path.parse? name with
    | none => .error (.invalidRequest (.malformedPath name))
    | some path => .ok (test.check (path.resolve? document))
  | .pattern p =>
    let r ← compilePattern p
    match document with
    | .object members =>
      .ok (members.any fun (name, value) => r.isMatch name && test.check (some value))
    | _ => .ok false

end Leaf

namespace Tree

/-- Whether a document matches a search. -/
def accepts (t : Tree) (document : Json) : Except Error Bool :=
  (t.eval (m := Id) fun l => ExceptT.mk (l.accepts document)).run

end Tree

end TagSearch
