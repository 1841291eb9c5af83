import TagSearch.Command.Check
import TagSearch.Command.Compile
import TagSearch.Command.Documentation
import TagSearch.Command.Usage

/-!
# The program

What the program replies to its arguments.  Whoever runs it reads the one text that a
request needs, and prints the reply.
-/

namespace TagSearch

/-- The text that a request needs besides its arguments. -/
inductive TextNeed where
  | nothing
  | standardInput
  | file (path : String)
deriving DecidableEq, Repr

/-- The text that a request needs. -/
def Request.need : Request → TextNeed
  | .check _ none _ _ false _ => .standardInput
  | .compile _ none _ _ => .standardInput
  | .compile _ (some path) _ _ => .file path
  | _ => .nothing

/-- What the program replies. -/
inductive Reply where
  | printed (text : String)
  | failed (fault : CommandFault)
  /-- The arguments were not understood. -/
  | misused

namespace Program

/-- The version of the program. -/
def versionText : String :=
  "tagql 0.3.0\n"

/-- A JSON value as the program prints it. -/
def jsonLine (j : Json) (pretty : Bool) : String :=
  (if pretty then j.indented else j.compact) ++ "\n"

/-- What the program prints about a finding. -/
def findingText (pretty : Bool) : Finding → String
  | .wellFormed canonical tree => if pretty then jsonLine tree true else canonical ++ "\n"
  | .matched answer => (if answer then "true" else "false") ++ "\n"

/-- The reply that prints a result or reports a failure. -/
def replyOf {α : Type} (text : α → String) : Except CommandFault α → Reply
  | .ok x => .printed (text x)
  | .error e => .failed e

/-- The documentation of a topic. -/
def documentation (category : String) : Except CommandFault String :=
  match Topic.ofName? category with
  | some t => .ok (Documentation.ofTopic t)
  | none => .error (.unknownCategory category)

/-- The reply to a request, given the settings and the text that the request needs.  There
is no text when the standard input is a terminal. -/
def reply (config : Config) (text : Except FileFault (Option String)) : Request → Reply
  | .check query input primary rawBase64 syntaxOnly pretty =>
    let run (input : Option String) : Reply :=
      replyOf (findingText pretty) (Check.mk query input primary rawBase64 syntaxOnly).run
    match input, syntaxOnly, text with
    | some _, _, _ => run input
    | none, true, _ => run none
    | none, false, .ok input => run input
    | none, false, .error fault => .failed (.unreadable fault)
  | .compile query _ options pretty =>
    match text with
    | .error fault => .failed (.unreadable fault)
    | .ok none => .failed .noInput
    | .ok (some schema) =>
      replyOf (fun st => jsonLine st.toJson pretty)
        ((Compilation.mk query schema options).run config)
  | .docs => .printed Documentation.overview
  | .doc category => replyOf id (documentation category)
  | .help none => .printed Usage.program
  | .help (some command) => .printed (Usage.ofCommand command)
  | .version => .printed versionText

/-- The exit code that goes with a reply. -/
def exitCode : Reply → Nat
  | .printed _ => 0
  | .failed _ => 1
  | .misused => 2

end Program

end TagSearch
