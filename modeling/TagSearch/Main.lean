import TagSearch.Command.Program

/-!
# Running the program

The outermost layer: gets the arguments, the environment and the text that a request needs,
and prints the reply.
-/

namespace TagSearch

/-- The names of the variables that settings are read from. -/
def settingNames : List String :=
  ["TAGQL_DEFAULT_PAGE_SIZE", "TAGQL_MAX_PAGE_SIZE", "TAGQL_PRIMARY_FALLBACK",
    "TAGQL_DECODE_BASE64", "TAGQL_TENANT_SETTING", "TAGQL_RETRY_TRANSIENT"]

/-- The settings that the environment gives. -/
def readSettings : IO Config := do
  let values ← settingNames.mapM fun name => do return (name, ← IO.getEnv name)
  return Config.read fun name => ((values.find? fun (n, _) => n == name).bind (·.2))

/-- Reads everything from the standard input, unless it is a terminal. -/
def readInput : IO (Option String) := do
  let stdin ← IO.getStdin
  if ← stdin.isTty then return none
  return some (← stdin.readToEnd)

/-- The fault that stands for a failure of the system. -/
def fileFault : IO.Error → FileFault
  | .noFileOrDirectory .. => .notFound
  | .inappropriateType .. => .isDirectory
  | e => .other (toString e)

/-- Reads the text that a request needs. -/
def readText (need : TextNeed) : IO (Except FileFault (Option String)) := do
  match need with
  | .nothing => return .ok none
  | .standardInput => return .ok (← readInput)
  | .file path =>
    try return .ok (some (← IO.FS.readFile path))
    catch e => return .error (fileFault e)

/-- Runs the program on its arguments and returns its exit code. -/
def runProgram (args : List String) : IO UInt32 := do
  let reply ←
    match Request.ofArguments? args with
    | none => pure .misused
    | some r => pure (Program.reply (← readSettings) (← readText r.need) r)
  match reply with
  | .printed text => IO.print text
  | .failed fault => IO.eprintln fault.message
  | .misused => IO.eprint Usage.program
  return (Program.exitCode reply).toUInt32

end TagSearch

/-- Runs the program. -/
def main (args : List String) : IO UInt32 :=
  TagSearch.runProgram args
