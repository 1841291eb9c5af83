import TagSearch.Command.Fault
import TagSearch.Compiler.Select
import TagSearch.Schema.Json

/-!
# Compiling on request

Compiles a request for a schema that is given as JSON.
-/

namespace TagSearch

/-- What to compile. -/
structure Compilation where
  query : Query
  /-- The schema as JSON text. -/
  schema : String
  /-- The options to enable. -/
  options : List String := []
deriving DecidableEq, Repr

namespace Compilation

/-- Carries out a compilation. -/
def run (c : Compilation) (config : Config) : Except CommandFault Statement :=
  if c.schema.toList.all Text.isBlank then .error .noInput
  else
    match Schema.parse? c.schema with
    | none => .error .malformedJson
    | some schema =>
      ((Compiler.mk schema c.options config).select c.query).mapError .query

end Compilation

end TagSearch
