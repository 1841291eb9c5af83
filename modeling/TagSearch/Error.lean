import TagSearch.Query.SyntaxError
import TagSearch.Query.Operator
import TagSearch.Schema.FieldType
import TagSearch.Store.Fault
import TagSearch.Values.Param

/-!
# Errors

The ways in which a request can fail, each named for its cause.  The wording of an error
is a function of its cause, and so is the wording that may be shown to an end user, which
keeps what the store reports to itself.

Main results:

- Theorem `Error.publicMessage_transport`: what a user sees of a transport failure does
  not depend on what the store reported.
-/

namespace TagSearch

open Text (quoted)

/-- The kinds of statement that change rows. -/
inductive ChangeKind where
  | insert
  | update
  | delete
deriving DecidableEq, Repr

/-- The word for a kind of change. -/
def ChangeKind.name : ChangeKind → String
  | insert => "insert"
  | update => "update"
  | delete => "delete"

/-- A request that is well formed but cannot be compiled or carried out. -/
inductive RequestFault where
  | malformedPath (category : String)
  | negationArity (count : Nat)
  | comparedPattern (comparison : Comparison)
  | comparedArray (comparison : Comparison) (field : String)
  | invalidPattern (pattern : String)
  /-- A text that writes no value of a kind. -/
  | notAValue (text : String) (kind : FieldType)
  /-- A JSON value that stands for no value of a kind. -/
  | notAWireValue (json : Json) (kind : FieldType)
  | noMatchingField (pattern table : String)
  | noPathBelow (field category : String)
  | unexpectedInList (literal list : String)
  | setsNoFields (change : ChangeKind)
  | requiresKey (change : ChangeKind)
  | parameterCount (change : ChangeKind) (expected got : Nat)
  | skipOutOfRange (skip : Nat)
  | pageTooLarge (size limit : Nat)
deriving Repr

namespace RequestFault

/-- The wording of a fault.  The reason why a pattern is invalid is left to the caller. -/
def message : RequestFault → String
  | malformedPath category => "malformed path " ++ quoted category
  | negationArity count => "not() takes exactly one condition, got " ++ toString count
  | comparedPattern c => c.keyword ++ " cannot be applied to a pattern"
  | comparedArray c field => c.keyword ++ " cannot be applied to array field " ++ quoted field
  | invalidPattern pattern => "invalid pattern /" ++ pattern ++ "/"
  | notAValue text kind => quoted text ++ " is not a valid " ++ kind.name ++ " value"
  | notAWireValue json kind => json.compact ++ " is not a valid " ++ kind.name ++ " value"
  | noMatchingField pattern table => "/" ++ pattern ++ "/ matches no field of " ++ table
  | noPathBelow field category =>
    quoted field ++ " is not a json field, " ++ quoted category ++ " has no path"
  | unexpectedInList literal list =>
    "unexpected " ++ quoted literal ++ " in field list " ++ quoted list
  | setsNoFields change => change.name ++ " sets no fields"
  | requiresKey change => change.name ++ " requires at least one key"
  | parameterCount change expected got =>
    change.name ++ " expects " ++ toString expected ++ " parameters, got " ++ toString got
  | skipOutOfRange skip => "skip " ++ toString skip ++ " is out of range"
  | pageTooLarge size limit =>
    "page size " ++ toString size ++ " exceeds the maximum of " ++ toString limit

end RequestFault

/-- Field metadata that does not describe what a request asks for. -/
inductive ConfigFault where
  | unknownField (name table : String)
  | missingJoin (field table base : String)
  | notWritable (field table : String)
  | noVisibleFields (table : String)
  /-- A column returned a parameter that does not fit its kind. -/
  | columnMismatch (kind : FieldType) (param : Param)
  /-- A failure that the caller words. -/
  | reported (text : String)
deriving Repr

namespace ConfigFault

/-- The wording of a fault. -/
def message : ConfigFault → String
  | unknownField name table => "unknown field " ++ quoted name ++ " on " ++ table
  | missingJoin field table base =>
    "field " ++ quoted field ++ " is read from " ++ table ++ " but " ++ base ++
      " declares no join for it"
  | notWritable field table =>
    "field " ++ quoted field ++ " is read from " ++ table ++ " and cannot be written"
  | noVisibleFields table => "no visible fields on " ++ table
  | columnMismatch kind param => kind.name ++ " column returned " ++ param.described
  | reported text => text

end ConfigFault

/-- A failed request. -/
inductive Error where
  /-- The search does not follow the grammar. -/
  | syntaxError (e : SyntaxError)
  | config (fault : ConfigFault)
  | invalidRequest (fault : RequestFault)
  /-- A unique constraint refused the statement. -/
  | conflict (constraint : String)
  /-- No row where exactly one was required. -/
  | notFound
  /-- A connection failed, and a fresh one did not help. -/
  | transport (text : String)
  /-- The store refused to bind the tenant. -/
  | forbidden (reason : StoreFault)
  /-- The caller cancelled, or the deadline passed. -/
  | cancelled
  /-- Any other failure that the store reported. -/
  | database (text : String)
  /-- A column of JSON text that is not JSON. -/
  | unreadableJson
  /-- The parts of a duration add up to more than a decimal can hold.  Nothing handles
  this failure: whatever was under way is abandoned. -/
  | durationOverflow
deriving Repr

namespace Error

/-- The wording of an error. -/
def message : Error → String
  | syntaxError e => e.message
  | config fault => "configuration error: " ++ fault.message
  | invalidRequest fault => "invalid request: " ++ fault.message
  | conflict constraint => "conflict: " ++ constraint
  | notFound => "not found"
  | transport text => "transport error: " ++ text
  | forbidden reason => "forbidden: tenant binding rejected: " ++ reason.message
  | cancelled => "operation cancelled"
  | database text => "database error: " ++ text
  | unreadableJson => "database error: unreadable json"
  | durationOverflow => "duration overflow"

/-- The wording that may be shown to an end user.  Failures of the store are flattened, so
that neither its messages nor names of tables or constraints get out with them. -/
def publicMessage : Error → String
  | transport _ => "service unavailable"
  | database _ => "service unavailable"
  | unreadableJson => "service unavailable"
  | config _ => "internal error"
  | e => e.message

/-- Whether an error belongs to the transport class. -/
def isTransient : Error → Bool
  | transport _ => true
  | _ => false

/-- The error that a fault of the store becomes. -/
def ofStore : StoreFault → Error
  | .transport text => transport text
  | .closed => transport "connection pool is closed"
  | .unique constraint => conflict constraint
  | .database (some code) text => database (text ++ " (sqlstate " ++ code ++ ")")
  | .database none text => database text

theorem publicMessage_transport (a b : String) :
    (transport a).publicMessage = (transport b).publicMessage := rfl

end Error

end TagSearch
