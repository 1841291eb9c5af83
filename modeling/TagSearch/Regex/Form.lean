import TagSearch.Regex.Basic
import TagSearch.Text.Utf8

/-!
# Simplified expressions

What remains of an expression when nothing in it is said twice: sequences and alternatives
are flat, characters in sequence are one text of bytes, alternatives between single
characters or sets are one set, and what alternatives begin with alike stands before them.
-/

namespace TagSearch

namespace Regex

open Text

/-! ## Lengths and ends -/

/-- The number of bytes of the shortest text that an expression matches, as far as its
parts tell.  There is none if a part of it matches nothing. -/
def shortest : Regex → Option Nat
  | empty => some 0
  | set s => s.runs.head?.map fun (first, _) => (Utf8.encode first).length
  | assert _ => some 0
  | seq a b => do some ((← a.shortest) + (← b.shortest))
  | alt a b => do some (min (← a.shortest) (← b.shortest))
  | loop least most r => if most = some 0 then some 0 else r.shortest.map (least * ·)
  | group _ r => r.shortest

/-- The number of bytes of the longest text that an expression matches, as far as its parts
tell.  There is none if a part of it matches nothing, or texts of any length. -/
def longest : Regex → Option Nat
  | empty => some 0
  | set s => s.runs.getLast?.map fun (_, last) => (Utf8.encode last).length
  | assert _ => some 0
  | seq a b => do some ((← a.longest) + (← b.longest))
  | alt a b => do some (max (← a.longest) (← b.longest))
  | loop _ most r =>
    if most = some 0 ∨ r.longest = some 0 then some 0
    else do some ((← most) * (← r.longest))
  | group _ r => r.longest

/-- Whether every match begins at the start of the text. -/
def isAnchored : Regex → Bool
  | assert .start => true
  | seq a b => a.isAnchored || (a.longest == some 0 && b.isAnchored)
  | alt a b => a.isAnchored && b.isAnchored
  | loop least most r => least != 0 && most != some 0 && r.isAnchored
  | group _ r => r.isAnchored
  | _ => false

/-- Whether every match ends at the end of the text. -/
def isAnchoredAtEnd : Regex → Bool
  | assert .stop => true
  | seq a b => b.isAnchoredAtEnd || (b.longest == some 0 && a.isAnchoredAtEnd)
  | alt a b => a.isAnchoredAtEnd && b.isAnchoredAtEnd
  | loop least most r => least != 0 && most != some 0 && r.isAnchoredAtEnd
  | group _ r => r.isAnchoredAtEnd
  | _ => false

/-! ## Parts -/

/-- A part of a simplified sequence. -/
inductive Part where
  /-- A text of bytes. -/
  | literal (bytes : List Nat)
  /-- One character of a set, which is held as its maximal runs. -/
  | set (members : Ranges)
  /-- A condition on a place. -/
  | assert (condition : Assertion)
  /-- A repeated sequence; when `solid`, it matches no empty text. -/
  | loop (least : Nat) (most : Option Nat) (solid : Bool) (body : List Part)
  /-- A numbered group. -/
  | group (body : List Part)
  /-- One of several sequences. -/
  | choice (options : List (List Part))

/-- A simplified expression, as its parts in sequence. -/
abbrev Form := List Part

mutual

/-- Whether two parts are the same.  Two groups never are, for their numbers differ. -/
def Part.same : Part → Part → Bool
  | .literal a, .literal b => a == b
  | .set a, .set b => a == b
  | .assert a, .assert b => a == b
  | .loop least most _ r, .loop least' most' _ r' =>
    least == least' && most == most' && sameParts r r'
  | .choice a, .choice b => sameOptions a b
  | _, _ => false

/-- Whether two sequences have the same parts. -/
def sameParts : List Part → List Part → Bool
  | [], [] => true
  | a :: as, b :: bs => a.same b && sameParts as bs
  | _, _ => false

/-- Whether two choices have the same options. -/
def sameOptions : List (List Part) → List (List Part) → Bool
  | [], [] => true
  | a :: as, b :: bs => sameParts a b && sameOptions as bs
  | _, _ => false

end

mutual

/-- The number of parts in a part, itself included. -/
def Part.weight : Part → Nat
  | .loop _ _ _ body => weightOfParts body + 1
  | .group body => weightOfParts body + 1
  | .choice options => weightOfOptions options + 1
  | _ => 1

/-- The number of parts in a sequence. -/
def weightOfParts : List Part → Nat
  | [] => 0
  | p :: rest => p.weight + weightOfParts rest

/-- The number of parts in all options. -/
def weightOfOptions : List (List Part) → Nat
  | [] => 0
  | o :: rest => weightOfParts o + weightOfOptions rest

end

namespace Form

/-- One form after another.  Where they meet, two texts become one. -/
def join : Form → Form → Form
  | [], g => g
  | [.literal a], .literal b :: rest => .literal (a ++ b) :: rest
  | p :: rest, g => p :: join rest g

/-- The form of a set.  A single character is a text. -/
def ofSet (members : Ranges) : Form :=
  match members with
  | [(first, last)] =>
    if first = last then [.literal (Utf8.encode first)] else [.set members]
  | _ => [.set members]

/-- The character that a form consists of, if it is the text of just one. -/
def single? : Form → Option Nat
  | [.literal bytes] =>
    match bytes with
    | [a] => some a
    | [a, b] => if 0xC0 ≤ a then some ((a - 0xC0) * 0x40 + (b - 0x80)) else none
    | [a, b, c] =>
      if 0xE0 ≤ a then some (((a - 0xE0) * 0x40 + (b - 0x80)) * 0x40 + (c - 0x80)) else none
    | [a, b, c, d] =>
      if 0xF0 ≤ a then
        some ((((a - 0xF0) * 0x40 + (b - 0x80)) * 0x40 + (c - 0x80)) * 0x40 + (d - 0x80))
      else none
    | _ => none
  | _ => none

/-- The members of the set that a form consists of. -/
def members? : Form → Option Ranges
  | [.set members] => some members
  | _ => none

/-- The parts with which two forms begin alike. -/
def sharedParts : Form → Form → Form
  | a :: as, b :: bs => if a.same b then a :: sharedParts as bs else []
  | _, _ => []

/-- The parts with which all of several options begin alike, each of which has at least two
parts. -/
def sharedStart (options : List Form) : Form :=
  if options.all fun o => 2 ≤ o.length then
    match options with
    | [] => []
    | o :: rest => rest.foldl sharedParts o
  else []

/-- The options themselves, where an option that only chooses gives way to its own. -/
def flatten (options : List Form) : List Form :=
  options.flatMap fun
    | [.choice inner] => inner
    | o => [o]

/-- One of several options. -/
def choose : Nat → List Form → Form
  | 0, options => [.choice options]
  | fuel + 1, options =>
    let options := flatten options
    match options.mapM single? with
    | some characters => ofSet (Ranges.normalize (characters.map fun n => (n, n)))
    | none =>
      match options.mapM members? with
      | some sets => ofSet (Ranges.normalize sets.flatten)
      | none =>
        match sharedStart options with
        | [] => [.choice options]
        | start => join start (choose fuel (options.map (·.drop start.length)))

/-- One of the options of a list, or its only one. -/
def ofOptions : List Form → Form
  | [f] => f
  | options => choose (weightOfOptions options + 1) options

/-- A repeated form.  What only matches the empty text needs no second repetition. -/
def repeated (least : Nat) (most : Option Nat) (solid hollow : Bool) (body : Form) : Form :=
  let (least, most) := if hollow then (min least 1, some (min (most.getD 1) 1)) else (least, most)
  if most = some 0 then []
  else if least = 1 ∧ most = some 1 then body
  else [.loop least most solid body]

end Form

/-- The forms of the alternatives of an expression. -/
def options : Regex → List Form
  | empty => [[]]
  | set s => [Form.ofSet s.runs]
  | assert a => [[.assert a]]
  | seq a b => [(Form.ofOptions a.options).join (Form.ofOptions b.options)]
  | alt a b => Form.ofOptions a.options :: b.options
  | loop least most r =>
    [Form.repeated least most (r.shortest.any (0 < ·)) (r.longest == some 0)
      (Form.ofOptions r.options)]
  | group numbered r =>
    if numbered then [[.group (Form.ofOptions r.options)]] else [Form.ofOptions r.options]

/-- The simplified form of an expression. -/
def form (r : Regex) : Form :=
  Form.ofOptions r.options

end Regex

end TagSearch
