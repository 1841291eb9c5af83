/-!
# Faults of the store

The failures that a pool of connections or a transaction on one of them can report.
-/

namespace TagSearch

/-- A failure that the store reports. -/
inductive StoreFault where
  /-- The connection broke. -/
  | transport (text : String)
  /-- A unique index refused a row; carries the name of the constraint. -/
  | unique (constraint : String)
  /-- Any other failure, with the state code of the store if there is one. -/
  | database (code : Option String) (text : String)
  /-- The pool is closed. -/
  | closed
deriving DecidableEq, Repr

namespace StoreFault

/-- The wording of a fault. -/
def message : StoreFault → String
  | transport text => "transport failure: " ++ text
  | unique constraint => "unique violation on " ++ constraint
  | database _ text => text
  | closed => "pool is closed"

/-- A fault is transient when a fresh connection may not have it. -/
def isTransient : StoreFault → Bool
  | transport _ => true
  | closed => true
  | _ => false

end StoreFault

end TagSearch
