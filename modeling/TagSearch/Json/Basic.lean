import TagSearch.Number.Shortest

/-!
# JSON values

Values of the data format JSON.  The members of an object are kept in a list; objects that
are read from text list them by ascending name, each name once.
-/

namespace TagSearch

/-- A JSON number: an integer of 64 bits, signed or unsigned, or a binary fraction. -/
inductive JsonNumber where
  | int (value : Int)
  | float (value : Binary64)
deriving DecidableEq, Repr

/-- A JSON value. -/
inductive Json where
  | null
  | bool (value : Bool)
  | number (value : JsonNumber)
  | string (value : String)
  | array (items : List Json)
  | object (members : List (String × Json))
deriving Repr

namespace JsonNumber

/-- The text of a number. -/
def text : JsonNumber → String
  | int n => toString n
  | float x => x.text

/-- The least signed integer of 64 bits. -/
def minInt64 : Int := -9223372036854775808

/-- The greatest signed integer of 64 bits. -/
def maxInt64 : Int := 9223372036854775807

/-- The greatest unsigned integer of 64 bits. -/
def maxUInt64 : Int := 18446744073709551615

/-- The number as a signed integer of 64 bits. -/
def int64? : JsonNumber → Option Int
  | int n => if minInt64 ≤ n ∧ n ≤ maxInt64 then some n else none
  | float _ => none

/-- The number as an unsigned integer of 64 bits. -/
def uint64? : JsonNumber → Option Nat
  | int n => if 0 ≤ n ∧ n ≤ maxUInt64 then some n.toNat else none
  | float _ => none

/-- The binary fraction nearest to the number. -/
def binary64? : JsonNumber → Option Binary64
  | int n => Binary64.ofRatio (n < 0) n.natAbs 1
  | float x => some x

end JsonNumber

namespace Json

/-- Whether a value is null. -/
def isNull : Json → Bool
  | null => true
  | _ => false

/-- The value under a name in a list of members. -/
def member? (name : String) : List (String × Json) → Option Json
  | [] => none
  | (k, v) :: rest => if k = name then some v else member? name rest

/-- Adds a member to a list in ascending order of names, in place of a member of the same
name. -/
def insert (name : String) (value : Json) : List (String × Json) → List (String × Json)
  | [] => [(name, value)]
  | (k, v) :: rest =>
    if k = name then (name, value) :: rest
    else if name < k then (name, value) :: (k, v) :: rest
    else (k, v) :: insert name value rest

/-- The members of a list in ascending order of names; of several members with one name,
the last. -/
def sortMembers (members : List (String × Json)) : List (String × Json) :=
  members.foldl (fun sorted (k, v) => insert k v sorted) []

mutual

/-- The value with the members of every object in it sorted. -/
def normalize : Json → Json
  | array items => array (normalizeItems items)
  | object members => object (sortMembers (normalizeMembers members))
  | null => null
  | bool b => bool b
  | number n => number n
  | string s => string s

/-- The items of a list with the members of every object in them sorted. -/
def normalizeItems : List Json → List Json
  | [] => []
  | v :: rest => normalize v :: normalizeItems rest

/-- The members of a list with the members of every object in them sorted. -/
def normalizeMembers : List (String × Json) → List (String × Json)
  | [] => []
  | (k, v) :: rest => (k, normalize v) :: normalizeMembers rest

end

end Json

end TagSearch
