import TagSearch.Command.Fault
import TagSearch.Json.Reader
import TagSearch.Matching.Document
import TagSearch.Query.Canonical
import TagSearch.Query.Json

/-!
# Checking searches

Checks the syntax of a search, or matches a search against a document.

Main results:

- Theorem `Check.run_eq_of_parse_error`: a search that does not parse is reported whatever
  else is asked for.
-/

namespace TagSearch

/-- What to check. -/
structure Check where
  query : String
  /-- The document to match, as JSON text. -/
  input : Option String := none
  /-- The field of bare values. -/
  primary : String := defaultPrimary
  /-- Base64 literals stay as they are written. -/
  rawBase64 : Bool := false
  /-- Nothing is matched. -/
  syntaxOnly : Bool := false
deriving DecidableEq, Repr

/-- What a check found. -/
inductive Finding where
  /-- The search is well formed; carries its canonical form and its tree as JSON. -/
  | wellFormed (canonical : String) (tree : Json)
  /-- Whether the document matches. -/
  | matched (answer : Bool)

namespace Check

/-- The tree of the search. -/
def parse (c : Check) : Except SyntaxError Tree :=
  Tree.parse c.query c.primary { decodeBase64 := !c.rawBase64 }

/-- The tree of a search as JSON with its members in order, as a reader of its text sees
it.  A reader refuses trees that are nested too deeply. -/
def treeJson (t : Tree) : Except CommandFault Json :=
  match Json.parse t.toJson.compact with
  | some j => .ok j
  | none => .error .malformedJson

/-- Carries out a check. -/
def run (c : Check) : Except CommandFault Finding :=
  match c.parse with
  | .error e => .error (.query (.syntaxError e))
  | .ok t =>
    if c.syntaxOnly then (treeJson t).map (.wellFormed t.canonical)
    else
      match c.input with
      | none => .error .noInput
      | some text =>
        match Json.parse text with
        | none => .error .malformedJson
        | some document => ((t.accepts document).map .matched).mapError .query

theorem run_eq_of_parse_error {c : Check} {e : SyntaxError} (h : c.parse = .error e) :
    c.run = .error (.query (.syntaxError e)) := by
  simp [run, h]

end Check

end TagSearch
