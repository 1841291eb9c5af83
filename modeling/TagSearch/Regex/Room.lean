import TagSearch.Regex.Form

/-!
# Room

The room that an expression takes as an automaton over bytes, in bytes of memory.  Such an
automaton is laid out twice: once to read a text from its start, and once to read it from
its end.  An expression that takes too much room in either layout is refused.

The layout spells counted repetitions out, so that the room grows with the counts.  A state
takes the same room whatever it does, a transition beside others takes some more, and so
does each way out of a fork.
-/

namespace TagSearch

namespace Regex

open Text

/-- The direction in which an automaton reads a text. -/
inductive Direction where
  | forward
  | backward
deriving DecidableEq, Repr

/-! ## States -/

/-- The room of a state. -/
def stateRoom : Nat := 32

/-- The room of one of the transitions of a state. -/
def transitionRoom : Nat := 8

/-- The room of one of the ways out of a fork. -/
def branchRoom : Nat := 4

/-- The room of a fork with a number of ways out. -/
def forkRoom (ways : Nat) : Nat :=
  stateRoom + ways * branchRoom

/-- The room of a state with a number of transitions. -/
def rangesRoom (count : Nat) : Nat :=
  stateRoom + count * transitionRoom

/-- The room of some parts together. -/
def total (rooms : List Nat) : Nat :=
  rooms.foldr (· + ·) 0

/-- The room of a text of bytes. -/
def textRoom (bytes : List Nat) : Nat :=
  bytes.length * stateRoom

/-! ## Sets -/

/-- The number of byte ranges with which two sequences begin alike. -/
def sharedLength : Utf8.ByteRanges → Utf8.ByteRanges → Nat
  | a :: as, b :: bs => if a = b then sharedLength as bs + 1 else 0
  | _, _ => 0

/-- The room of the sequences of a set read backward.  Each one leads out of a fork, and
shares the states of what it begins with alike with the sequence before it. -/
def backwardRoom (previous : Utf8.ByteRanges) : List Utf8.ByteRanges → Nat
  | [] => 0
  | s :: rest =>
    branchRoom + (s.length - sharedLength previous s) * stateRoom + backwardRoom s rest

/-- The sequences of a set by their first byte range: each range with what may follow it. -/
def byFirst : List Utf8.ByteRanges → List ((Nat × Nat) × List Utf8.ByteRanges)
  | [] => []
  | [] :: rest => byFirst rest
  | (first :: tail) :: rest =>
    match byFirst rest with
    | (next, tails) :: groups =>
      if first = next then (first, tail :: tails) :: groups
      else (first, [tail]) :: (next, tails) :: groups
    | [] => [(first, [tail])]

/-- A state as its transitions: the bytes of each and the number of the state it leads to,
where zero stands for the end. -/
abbrev ByteState := List ((Nat × Nat) × Nat)

/-- The number of a state among known ones, which come last first, and the known states
after that. -/
def numberOf (state : ByteState) (known : List ByteState) : Nat × List ByteState :=
  match known.idxOf? state with
  | some i => (known.length - i, known)
  | none => (known.length + 1, state :: known)

/-- The number of the state that reads any of some sequences, and the known states after
that.  Equal states are one. -/
def shareStates : Nat → List Utf8.ByteRanges → List ByteState → Nat × List ByteState
  | 0, _, known => (0, known)
  | fuel + 1, sequences, known =>
    let (state, known) := (byFirst sequences).foldl (fun (state, known) (bytes, tails) =>
      if tails.all List.isEmpty then ((bytes, 0) :: state, known)
      else
        let (number, known) := shareStates fuel tails known
        ((bytes, number) :: state, known)) ([], known)
    numberOf state known

/-- The room of a set. -/
def setRoom (d : Direction) (members : Ranges) : Nat :=
  if members.all fun (_, last) => last ≤ 0x7F then stateRoom + rangesRoom members.length
  else
    let sequences := members.flatMap fun (first, last) => Utf8.sequences first last
    match d with
    | .forward =>
      let (_, states) := shareStates 4 sequences []
      stateRoom + total (states.map fun s => rangesRoom s.length)
    | .backward => 2 * stateRoom + backwardRoom [] sequences

/-! ## Texts to choose from -/

/-- Puts the rest of a text with the others that begin with the same byte. -/
def insertText (byte : Nat) (rest : List Nat) :
    List (Nat × List (List Nat)) → List (Nat × List (List Nat))
  | [] => [(byte, [rest])]
  | (b, rests) :: groups =>
    if b = byte then (b, rests ++ [rest]) :: groups
    else (b, rests) :: insertText byte rest groups

/-- The groups of texts with the same first byte.  A text that ends begins new groups,
unless there is no other text before it. -/
def textGroups (texts : List (List Nat)) : List (List (Nat × List (List Nat))) :=
  let (done, current) := texts.foldl (fun (done, current) text =>
    match text with
    | [] =>
      if current.isEmpty && !done.isEmpty && done.all List.isEmpty then (done, current)
      else (done ++ [current], [])
    | b :: rest => (done, insertText b rest current)) ([], [])
  done ++ [current]

/-- The room of the states that tell texts apart byte by byte. -/
def textsRoom : Nat → List (List Nat) → Nat
  | 0, _ => 0
  | fuel + 1, texts =>
    let groups := textGroups texts
    let filled := groups.filter fun g => !g.isEmpty
    let own := filled.map fun g => if g.length = 1 then stateRoom else rangesRoom g.length
    let inner := filled.flatten.map fun (_, rests) =>
      if rests.all List.isEmpty then 0 else textsRoom fuel rests
    forkRoom (filled.length + (groups.length - 1)) + total own + total inner

/-- The bytes that a form consists of. -/
def text? : Form → Option (List Nat)
  | [.literal bytes] => some bytes
  | _ => none

/-- The room of a choice between texts. -/
def choiceRoom (d : Direction) (texts : List (List Nat)) : Nat :=
  let texts := if d = .forward then texts else texts.map List.reverse
  stateRoom + textsRoom ((texts.map List.length).foldl max 0 + 1) texts

/-! ## Expressions -/

/-- The room of a repetition, given that of its body. -/
def loopRoom (least : Nat) (most : Option Nat) (solid : Bool) (body : Nat) : Nat :=
  match most with
  | none =>
    if least = 0 then
      if solid then body + forkRoom 2 else body + 2 * forkRoom 2 + stateRoom
    else least * body + forkRoom 2
  | some most =>
    if least = most then least * body
    else if least = 0 ∧ most = 1 then body + forkRoom 2 + stateRoom
    else
      (if least = 0 then stateRoom else least * body) + stateRoom +
        (most - least) * (forkRoom 2 + body)

mutual

/-- The room of a part. -/
def Part.room (d : Direction) : Part → Nat
  | .literal bytes => textRoom bytes
  | .set members => setRoom d members
  | .assert _ => stateRoom
  | .loop least most solid body =>
    loopRoom least most solid (if body.isEmpty then stateRoom else partsRoom d body)
  | .group body =>
    (if body.isEmpty then stateRoom else partsRoom d body) +
      if d = .forward then 2 * stateRoom else 0
  | .choice options =>
    match options.mapM text? with
    | some texts => choiceRoom d texts
    | none => 2 * stateRoom + optionsRoom d options

/-- The room of parts in sequence. -/
def partsRoom (d : Direction) : List Part → Nat
  | [] => 0
  | p :: rest => p.room d + partsRoom d rest

/-- The room of the options of a choice. -/
def optionsRoom (d : Direction) : List (List Part) → Nat
  | [] => 0
  | o :: rest =>
    branchRoom + (if o.isEmpty then stateRoom else partsRoom d o) + optionsRoom d rest

end

/-- The room of an expression.  Unless it is anchored where the reading starts, a loop over
any bytes comes before it. -/
def room (d : Direction) (r : Regex) : Nat :=
  let anchored := if d = .forward then r.isAnchored else r.isAnchoredAtEnd
  let start := if anchored then stateRoom else forkRoom 2 + stateRoom + rangesRoom 1
  let marks := if d = .forward then 2 * stateRoom else 0
  let body := if r.form.isEmpty then stateRoom else partsRoom d r.form
  start + marks + body + stateRoom

/-- The most room that an expression may take. -/
def maxRoom : Nat := 10485760

/-- Whether an expression takes no more room than it may, read in either direction. -/
def fits (r : Regex) : Bool :=
  r.room .forward ≤ maxRoom && r.room .backward ≤ maxRoom

end Regex

end TagSearch
