import TagSearch.Regex.Escape
import TagSearch.Regex.Nesting

/-!
# Bracketed sets

Reads sets between brackets: characters, ranges, escapes, named ASCII sets and further
bracketed sets, which operations between sets may join.
-/

namespace TagSearch.Regex

/-! ## Unions and operations -/

/-- The union of the items read so far, with the levels of each. -/
structure Union where
  members : CharSet
  depths : List Nat

namespace Union

/-- The union of no items. -/
def empty : Union := ⟨.none, []⟩

/-- The union with one more item. -/
def add (u : Union) (item : Nested CharSet) : Union :=
  ⟨.union u.members item.value, item.depth :: u.depths⟩

/-- The union as a part of a set. -/
def close (u : Union) : Nested CharSet :=
  ⟨u.members, Nested.depthOf u.depths⟩

end Union

/-- The operations between the parts of a bracketed set. -/
inductive SetOp where
  | inter
  | diff
  | symDiff
deriving DecidableEq, Repr

namespace SetOp

/-- The set that an operation makes of two. -/
def apply : SetOp → CharSet → CharSet → CharSet
  | inter => .inter
  | diff => .diff
  | symDiff => .symDiff

end SetOp

/-- The part of a bracketed set that is complete, together with the operation that waits
for its second part. -/
def combine (f : Flags) (pending : Option (SetOp × Nested CharSet)) (s : Nested CharSet) :
    Nested CharSet :=
  match pending with
  | none => s
  | some (op, t) =>
    ⟨op.apply (foldSet f t.value) (foldSet f s.value), max t.depth s.depth + 1⟩

/-! ## Items -/

/-- Reads one character or one escape inside brackets.  Where Unicode is left aside, only
ASCII characters stand there. -/
def readSetItem (f : Flags) (cs : List Char) : Option (Primitive × List Char) := do
  let (item, rest) ←
    match cs with
    | [] => none
    | '\\' :: cs => readEscape f cs
    | c :: cs => some (.literal c, cs)
  match item with
  | .literal c => if f.unicode = false ∧ 0x80 ≤ c.toNat then none else some (item, rest)
  | _ => some (item, rest)

/-- The set of a single item; assertions make no set. -/
def itemSet? : Primitive → Option CharSet
  | .literal c => some (.single c)
  | .chars s => some s
  | _ => none

/-- Reads a named ASCII set after its opening bracket, and whether it is negated. -/
def readNamed (cs : List Char) : Option (Bool × CharSet × List Char) :=
  match cs with
  | ':' :: rest =>
    let (negated, rest) :=
      match rest with
      | '^' :: r => (true, r)
      | r => (false, r)
    let name := rest.takeWhile (· != ':')
    match rest.dropWhile (· != ':') with
    | ':' :: ']' :: rest =>
      (CharSet.asciiNamed? (String.ofList name)).map fun s => (negated, s, rest)
    | _ => none
  | _ => none

/-- The character that decides whether a hyphen before it makes a range.  Blanks and the
sign of one comment count nothing, where these are passed over; the text of the comment
does count. -/
def afterHyphen (f : Flags) (cs : List Char) : Option Char :=
  if f.extended then
    match cs.dropWhile Text.isBlank with
    | '#' :: rest => (rest.dropWhile Text.isBlank).head?
    | rest => rest.head?
  else cs.head?

/-- Reads a range, or the single item that stands in its place. -/
def readRange (f : Flags) (cs : List Char) : Option (CharSet × List Char) := do
  let (first, rest) ← readSetItem f cs
  match skip f rest with
  | [] => none
  | '-' :: more =>
    if afterHyphen f more = some ']' ∨ afterHyphen f more = some '-' then
      some (← itemSet? first, '-' :: more)
    else
      let (last, rest) ← readSetItem f (skip f more)
      match first, last with
      | .literal a, .literal b =>
        if a.toNat ≤ b.toNat then some (.ranges [(a.toNat, b.toNat)], rest) else none
      | _, _ => none
  | rest => some (← itemSet? first, rest)

/-! ## Sets -/

/-- Reads the start of a bracketed set after its bracket: whether it is negated, and the
characters that only count as members there. -/
def readSetOpen (f : Flags) (cs : List Char) : Bool × Union × List Char :=
  let cs := skip f cs
  let (negated, cs) :=
    match cs with
    | '^' :: rest => (true, skip f rest)
    | _ => (false, cs)
  let (hyphens, cs) := takeSpaced f (· == '-') cs
  match hyphens, cs with
  | [], ']' :: rest => (negated, Union.empty.add ⟨.single ']', 0⟩, skip f rest)
  | _, _ => (negated, hyphens.foldl (fun u c => u.add ⟨.single c, 0⟩) .empty, cs)

/-- Reads the rest of a bracketed set: `pending` waits for its second part, and `union` is
what was read since. -/
def readSetRest (f : Flags) (negated : Bool) (pending : Option (SetOp × Nested CharSet))
    (union : Union) : Nat → List Char → Option (Nested CharSet × List Char)
  | 0, _ => none
  | fuel + 1, cs =>
    let operate := fun op rest =>
      readSetRest f negated (some (op, combine f pending union.close)) .empty fuel rest
    match skip f cs with
    | [] => none
    | '[' :: rest =>
      match readNamed rest with
      | some (complement, s, rest) => do
        let s ← negate? f complement (foldSet f s)
        readSetRest f negated pending (union.add ⟨s, 0⟩) fuel rest
      | none => do
        let (innerNegated, start, rest) := readSetOpen f rest
        let (s, rest) ← readSetRest f innerNegated none start fuel rest
        readSetRest f negated pending (union.add s) fuel rest
    | ']' :: rest => do
      let s := combine f pending union.close
      some (⟨← negate? f negated (foldSet f s.value), s.depth + 1⟩, rest)
    | '&' :: '&' :: rest => operate .inter rest
    | '-' :: '-' :: rest => operate .diff rest
    | '~' :: '~' :: rest => operate .symDiff rest
    | rest => do
      let (s, rest) ← readRange f rest
      readSetRest f negated pending (union.add ⟨s, 0⟩) fuel rest

/-- Reads a bracketed set after its bracket. -/
def readSet (f : Flags) (cs : List Char) : Option (Nested CharSet × List Char) :=
  let (negated, start, rest) := readSetOpen f cs
  readSetRest f negated none start (cs.length + 1) rest

end TagSearch.Regex
