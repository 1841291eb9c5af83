import TagSearch.Json.Basic
import TagSearch.Text.Blank
import TagSearch.Text.Integer

/-!
# Paths

A category names a field and, below it, a place in a document: members by name after a
point, items by position in brackets.

Main results:

- Theorem `Path.resolve_of_segments_nil`: a path without segments leads to the member that
  its field names.
-/

namespace TagSearch

/-- One step of a path. -/
inductive Segment where
  /-- The member of an object by name. -/
  | field (name : String)
  /-- The item of an array by position; negative positions count from the end. -/
  | index (position : Int)
deriving DecidableEq, Repr

/-- A field and the steps below it. -/
structure Path where
  field : String
  segments : List Segment
deriving DecidableEq, Repr

namespace Path

/-- A character that ends a name. -/
def isBreak (c : Char) : Bool :=
  c == '.' || c == '['

/-- The name at the front of a text and what follows it.  A name is not empty and holds no
closing bracket. -/
def readName? (cs : List Char) : Option (String × List Char) :=
  let name := cs.takeWhile fun c => !isBreak c
  if name = [] ∨ ']' ∈ name then none
  else some (String.ofList name, cs.dropWhile fun c => !isBreak c)

/-- The position before a closing bracket and what follows the bracket. -/
def readIndex? (cs : List Char) : Option (Int × List Char) :=
  match cs.dropWhile (· != ']') with
  | [] => none
  | _ :: rest => (Text.readInt64 (Text.trim (cs.takeWhile (· != ']')))).map fun i => (i, rest)

theorem length_readName? {cs rest : List Char} {name : String}
    (h : readName? cs = some (name, rest)) : rest.length ≤ cs.length := by
  unfold readName? at h
  simp only at h
  split at h
  · simp at h
  · simp only [Option.some.injEq, Prod.mk.injEq] at h
    rw [← h.2]
    exact (List.dropWhile_suffix _).length_le

theorem length_readIndex? {cs rest : List Char} {i : Int}
    (h : readIndex? cs = some (i, rest)) : rest.length ≤ cs.length := by
  unfold readIndex? at h
  have hlen := (List.dropWhile_suffix (l := cs) (· != ']')).length_le
  split at h
  · simp at h
  · next heq =>
    simp only [Option.map_eq_some_iff, Prod.mk.injEq] at h
    obtain ⟨_, _, _, rfl⟩ := h
    rw [heq] at hlen
    simp only [List.length_cons] at hlen
    omega

/-- The steps that a text writes. -/
def readSegments? : List Char → Option (List Segment)
  | [] => some []
  | '[' :: cs =>
    match _h : readIndex? cs with
    | none => none
    | some (i, rest) => (readSegments? rest).map (.index i :: ·)
  | '.' :: cs =>
    match _h : readName? cs with
    | none => none
    | some (name, rest) => (readSegments? rest).map (.field name :: ·)
  | _ :: _ => none
termination_by cs => cs.length
decreasing_by
  · have := length_readIndex? _h
    simp only [List.length_cons]
    omega
  · have := length_readName? _h
    simp only [List.length_cons]
    omega

/-- Reads a path from the text of a category. -/
def parse? (category : String) : Option Path := do
  let (field, rest) ← readName? category.toList
  let segments ← readSegments? rest
  some ⟨field, segments⟩

/-- Whether a path leads below its field. -/
def isNested (p : Path) : Bool :=
  !p.segments.isEmpty

/-- The value that a step leads to. -/
def Segment.follow? (j : Json) : Segment → Option Json
  | .field name =>
    match j with
    | .object members => Json.member? name members
    | _ => none
  | .index i =>
    match j with
    | .array items =>
      let position := if i < 0 then items.length + i else i
      if position < 0 then none else items[position.toNat]?
    | _ => none

/-- The value that steps lead to one after the other. -/
def follow? : List Segment → Json → Option Json
  | [], j => some j
  | s :: rest, j => (Segment.follow? j s).bind (follow? rest)

/-- The value that a path leads to in a document. -/
def resolve? (p : Path) (document : Json) : Option Json :=
  (Segment.follow? document (.field p.field)).bind (follow? p.segments)

theorem resolve_of_segments_nil (field : String) (members : List (String × Json)) :
    resolve? ⟨field, []⟩ (.object members) = Json.member? field members := by
  simp only [resolve?, Segment.follow?]
  cases Json.member? field members <;> rfl

end Path

end TagSearch
