import TagSearch.Error

/-!
# Faults of a command

The ways in which a command can fail once its arguments are understood, with their wording.
-/

namespace TagSearch

/-- Why a file could not be read. -/
inductive FileFault where
  | notFound
  | isDirectory
  /-- Any other reason, as the system words it. -/
  | other (text : String)
deriving DecidableEq, Repr

/-- The wording of a fault. -/
def FileFault.message : FileFault → String
  | notFound => "No such file or directory (os error 2)"
  | isDirectory => "Is a directory (os error 21)"
  | other text => text

/-- Why a command failed. -/
inductive CommandFault where
  /-- The search could not be parsed, compiled or matched. -/
  | query (e : Error)
  /-- A document or a schema is not the JSON that it should be. -/
  | malformedJson
  | unreadable (fault : FileFault)
  | noInput
  | unknownCategory (name : String)
deriving Repr

/-- The wording of a fault. -/
def CommandFault.message : CommandFault → String
  | query e => e.message
  | malformedJson => "Invalid JSON"
  | unreadable fault => "IO error: " ++ fault.message
  | noInput => "No input provided. Use --input or pipe JSON to stdin."
  | unknownCategory name =>
    "Unknown category: '" ++ name ++ "'\nRun 'tagql docs' to see available categories."

end TagSearch
