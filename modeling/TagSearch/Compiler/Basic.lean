import TagSearch.Config
import TagSearch.Schema.Basic

/-!
# Compilers

A compiler turns requests into statements for one schema, one set of enabled options and
one configuration.  This file holds what all requests share: the search is parsed with the
primary field of the schema, and lists of names are cut by the scanner of searches.
-/

namespace TagSearch

/-- What requests are compiled for. -/
structure Compiler where
  schema : Schema
  /-- The options that the caller has enabled. -/
  options : List String := []
  config : Config := {}
deriving Repr

/-- A search request as a caller makes it. -/
structure Query where
  /-- The search, empty for everything. -/
  search : String := ""
  /-- The size of a page, the configured size when it is not given. -/
  size : Option Nat := none
  /-- The number of rows before the page. -/
  skip : Nat := 0
  /-- The names of the fields to order by; a minus sign before a name turns its order
  round. -/
  sort : String := ""
  /-- The names of the fields to group by.  With any name, rows are counted by groups. -/
  summary : String := ""
deriving DecidableEq, Repr

namespace Compiler

/-- The field that bare values search. -/
def primary (c : Compiler) : String :=
  (c.schema.primary?.map (·.name)).getD c.config.primaryFallback

/-- Parses a search. -/
def parse (c : Compiler) (search : String) : Except Error Tree :=
  (Tree.parse search c.primary { decodeBase64 := c.config.decodeBase64 }).mapError .syntaxError

end Compiler

namespace Query

/-- The names among the tokens of a list.  Commas and blanks separate them, and nothing
else may stand between them. -/
def namesOf (list : String) : List Token → Except Error (List String)
  | [] => .ok []
  | t :: rest =>
    match t.kind with
    | .tagCategory => (namesOf list rest).map (t.literal :: ·)
    | .comma => namesOf list rest
    | .whitespace => namesOf list rest
    | _ => .error (.invalidRequest (.unexpectedInList t.literal list))

/-- The names in a list of names. -/
def names (list : String) : Except Error (List String) :=
  namesOf list
    ((Scanner.ofString list { decodeBase64 := false, categories := true }).tokens false)

end Query

end TagSearch
