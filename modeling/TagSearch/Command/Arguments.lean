import TagSearch.Compiler.Basic
import TagSearch.Text.Integer

/-!
# Command-line arguments

Cuts the arguments of a command into options and positional values, and reads a request
from them.  Arguments are taken from left to right, and the first one that does not fit
decides: after it nothing counts any more, not even a request for help.
-/

namespace TagSearch

/-- An option that a command accepts. -/
structure OptionForm where
  long : String
  short? : Option Char := none
  /-- The option is followed by a value. -/
  takesValue : Bool := false
  /-- The option may be given several times. -/
  isRepeatable : Bool := false
deriving DecidableEq, Repr

/-- A part of a list of arguments. -/
inductive ArgumentItem where
  /-- An option by its long name, with its value if it takes one. -/
  | given (form : OptionForm) (value : Option String)
  | positional (value : String)
  /-- An argument that is not understood. -/
  | malformed
deriving DecidableEq, Repr

namespace Arguments

/-! ## Items -/

/-- Whether an argument looks like an option.  A single hyphen does not. -/
def looksLikeOption (arg : String) : Bool :=
  match arg.toList with
  | '-' :: _ :: _ => true
  | _ => false

/-- What the letters of a cluster of short options stand for.  An option that takes a value
takes the rest of the cluster, without an equals sign in front; if there is no rest, the
value is still to come. -/
def cluster (forms : List OptionForm) : List Char → List ArgumentItem × Option OptionForm
  | [] => ([], none)
  | c :: rest =>
    match forms.find? fun f => f.short? == some c with
    | none => ([.malformed], none)
    | some f =>
      if f.takesValue then
        match rest with
        | [] => ([], some f)
        | '=' :: value => ([.given f (some (String.ofList value))], none)
        | value => ([.given f (some (String.ofList value))], none)
      else
        let (items, awaiting) := cluster forms rest
        (.given f none :: items, awaiting)

/-- What a long option stands for, given the text after its hyphens.  An option that takes
a value takes what stands after an equals sign; if there is none, the value is still to
come. -/
def longOption (forms : List OptionForm) (cs : List Char) :
    List ArgumentItem × Option OptionForm :=
  let name := String.ofList (cs.takeWhile (· != '='))
  match forms.find? fun f => f.long == name with
  | none => ([.malformed], none)
  | some f =>
    match cs.dropWhile (· != '='), f.takesValue with
    | [], true => ([], some f)
    | [], false => ([.given f none], none)
    | _ :: value, true => ([.given f (some (String.ofList value))], none)
    | _ :: _, false => ([.malformed], none)

/-- What an argument before any double hyphen stands for, and the option whose value has to
follow it. -/
def itemsOf (forms : List OptionForm) (arg : String) :
    List ArgumentItem × Option OptionForm :=
  match arg.toList with
  | '-' :: '-' :: cs => longOption forms cs
  | '-' :: c :: cs => cluster forms (c :: cs)
  | _ => ([.positional arg], none)

/-- The items of a list of arguments.  After a double hyphen every argument is
positional. -/
def items (forms : List OptionForm) : List String → List ArgumentItem
  | [] => []
  | arg :: rest =>
    if arg = "--" then rest.map .positional
    else
      match itemsOf forms arg with
      | (found, none) => found ++ items forms rest
      | (found, some f) =>
        match rest with
        | [] => found ++ [.malformed]
        | value :: others =>
          if looksLikeOption value then found ++ [.malformed]
          else found ++ .given f (some value) :: items forms others

/-! ## What was given -/

/-- The options and the positional values taken so far. -/
structure Taken where
  options : List (String × Option String) := []
  positional : List String := []
deriving DecidableEq, Repr

namespace Taken

/-- Whether an option was given. -/
def has (t : Taken) (name : String) : Bool :=
  t.options.any fun (n, _) => n == name

/-- The values given to an option, in order. -/
def values (t : Taken) (name : String) : List String :=
  t.options.filterMap fun (n, v) => if n = name then v else none

/-- The value given to an option. -/
def value? (t : Taken) (name : String) : Option String :=
  (t.values name).head?

end Taken

/-- What came of taking a list of items. -/
inductive Taking where
  | done (taken : Taken)
  | helpWanted
  | misused

/-- The option that asks for help. -/
def helpForm : OptionForm := { long := "help", short? := some 'h' }

/-- Takes items one by one.  An option that is given twice without being repeatable, a
value that its option does not accept, and a positional value too many are misuse. -/
def take (accepts : String → String → Bool) (room : Nat) (t : Taken) :
    List ArgumentItem → Taking
  | [] => .done t
  | .malformed :: _ => .misused
  | .positional v :: rest =>
    if t.positional.length < room then
      take accepts room { t with positional := t.positional ++ [v] } rest
    else .misused
  | .given f v :: rest =>
    if f = helpForm then .helpWanted
    else if t.has f.long && !f.isRepeatable then .misused
    else if v.all (accepts f.long) then
      take accepts room { t with options := t.options ++ [(f.long, v)] } rest
    else .misused

end Arguments

/-! ## Commands -/

/-- The commands of the program. -/
inductive CommandName where
  | check
  | compile
  | docs
  | doc
deriving DecidableEq, Repr

namespace CommandName

/-- The word for a command. -/
def word : CommandName → String
  | check => "check"
  | compile => "compile"
  | docs => "docs"
  | doc => "doc"

/-- Every command. -/
def every : List CommandName :=
  [check, compile, docs, doc]

/-- The command of a given word. -/
def ofWord? (word : String) : Option CommandName :=
  every.find? fun n => n.word == word

/-- The options of a command. -/
def forms : CommandName → List OptionForm
  | check =>
    [{ long := "input", short? := some 'i', takesValue := true },
      { long := "primary", takesValue := true }, { long := "raw-base64" },
      { long := "pretty", short? := some 'p' }, { long := "syntax-only" },
      Arguments.helpForm]
  | compile =>
    [{ long := "schema", short? := some 's', takesValue := true },
      { long := "size", takesValue := true }, { long := "skip", takesValue := true },
      { long := "sort", takesValue := true }, { long := "summary", takesValue := true },
      { long := "option", short? := some 'o', takesValue := true, isRepeatable := true },
      { long := "pretty", short? := some 'p' }, Arguments.helpForm]
  | docs => [Arguments.helpForm]
  | doc => [Arguments.helpForm]

/-- The number of positional values of a command, all of which are required. -/
def room : CommandName → Nat
  | check => 1
  | compile => 1
  | docs => 0
  | doc => 1

end CommandName

/-- Reads a number of rows. -/
def readCount (value : String) : Option Nat :=
  Text.readUnsigned 64 value.toList

/-- Whether an option accepts a value: sizes and numbers of rows are integers. -/
def acceptsValue (option value : String) : Bool :=
  if option = "size" ∨ option = "skip" then (readCount value).isSome else true

/-- What the program is asked to do. -/
inductive Request where
  | check (query : String) (input : Option String) (primary : String)
      (rawBase64 syntaxOnly pretty : Bool)
  | compile (query : Query) (schemaFile : Option String) (options : List String)
      (pretty : Bool)
  | docs
  | doc (category : String)
  /-- The usage of the program, or of one of its commands. -/
  | help (command : Option CommandName)
  | version
deriving Repr

namespace Request

/-- The request of a command with its arguments taken and the required value among them. -/
def ofTaken (command : CommandName) (t : Arguments.Taken) (value : String) : Request :=
  match command with
  | .check =>
    .check value (t.value? "input") ((t.value? "primary").getD defaultPrimary)
      (t.has "raw-base64") (t.has "syntax-only") (t.has "pretty")
  | .compile =>
    .compile
      { search := value
        size := (t.value? "size").bind readCount
        skip := ((t.value? "skip").bind readCount).getD 0
        sort := (t.value? "sort").getD ""
        summary := (t.value? "summary").getD "" }
      (t.value? "schema") (t.values "option") (t.has "pretty")
  | .docs => .docs
  | .doc => .doc value

/-- Reads the arguments of a command. -/
def ofCommand? (command : CommandName) (args : List String) : Option Request :=
  match Arguments.take acceptsValue command.room {} (Arguments.items command.forms args) with
  | .misused => none
  | .helpWanted => some (.help (some command))
  | .done t =>
    if t.positional.length = command.room then
      some (ofTaken command t (t.positional.headD ""))
    else none

/-- Reads what help is wanted on. -/
def ofHelp? : List String → Option Request
  | [] => some (.help none)
  | [word] => (CommandName.ofWord? word).map fun n => .help (some n)
  | _ => none

/-- Reads the arguments of the program. -/
def ofArguments? : List String → Option Request
  | [] => none
  | arg :: rest =>
    match CommandName.ofWord? arg with
    | some command => ofCommand? command rest
    | none =>
      if arg = "help" then ofHelp? rest
      else if arg = "--version" then some .version
      else if arg = "--help" then some (.help none)
      else
        match arg.toList with
        | '-' :: 'V' :: _ => some .version
        | '-' :: 'h' :: _ => some (.help none)
        | _ => none

end Request

end TagSearch
