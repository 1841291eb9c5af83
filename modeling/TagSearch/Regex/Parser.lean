import TagSearch.Regex.Bracket
import TagSearch.Regex.Room
import TagSearch.Text.Letter

/-!
# Reading patterns

Reads the text of a pattern: alternatives between bars, groups in parentheses, sets in
brackets, repetitions, escapes, and flags that hold up to the end of the group that sets
them.  A text that does not follow this form is no pattern, nor is one with too many levels
or one that takes too much room.
-/

namespace TagSearch.Regex

/-! ## Expressions -/

/-- The expression of a primitive. -/
def ofPrimitive? (f : Flags) : Primitive → Option Regex
  | .literal c => some (set (foldSet f (.single c)))
  | .chars s => some (set s)
  | .assertion a => some (assert a)
  | .dot =>
    if !f.unicode then none
    else if f.dotAll then some (set .any)
    else if f.crlf then some (set (.compl (.ranges [(10, 10), (13, 13)])))
    else some (set .notLineFeed)

/-- An item of a sequence: an expression, or flags, which nothing can repeat. -/
inductive Item where
  | expression (r : Nested Regex)
  | flags

namespace Item

/-- The expression of an item, if it is one. -/
def regex? : Item → Option Regex
  | expression r => some r.value
  | flags => none

/-- The number of levels of an item. -/
def depth : Item → Nat
  | expression r => r.depth
  | flags => 0

end Item

/-- A group that is still open. -/
structure Group where
  /-- The flags to return to. -/
  outer : Flags
  /-- The group has a number. -/
  numbered : Bool
  /-- The alternatives before the current one, last first. -/
  done : List (Nested Regex)
  /-- The items of the current alternative, last first. -/
  items : List Item

namespace Group

/-- A group without items. -/
def start (outer : Flags) (numbered : Bool) : Group :=
  ⟨outer, numbered, [], []⟩

/-- The current alternative as one expression. -/
def current (g : Group) : Nested Regex :=
  ⟨seqAll (g.items.reverse.filterMap Item.regex?), Nested.depthOf (g.items.map Item.depth)⟩

/-- What is between the parentheses of the group as one expression. -/
def close (g : Group) : Nested Regex :=
  let options := g.current :: g.done
  ⟨altAll (options.reverse.map Nested.value), Nested.depthOf (options.map Nested.depth)⟩

/-- Adds an item to the current alternative. -/
def push (g : Group) (i : Item) : Group :=
  { g with items := i :: g.items }

/-- Repeats the last item. -/
def repeatLast? (g : Group) (least : Nat) (most : Option Nat) : Option Group :=
  match g.items with
  | .expression r :: rest =>
    some { g with items := .expression (r.surround (loop least most)) :: rest }
  | _ => none

end Group

/-- Where the reading of a pattern stands. -/
structure State where
  flags : Flags
  /-- The innermost group, or the pattern itself. -/
  group : Group
  /-- The groups around it, innermost first. -/
  outer : List Group
  /-- The names of groups so far. -/
  names : List (List Char)

/-- Whether a character may stand in the name of a group. -/
def isNameChar (first : Bool) (c : Char) : Bool :=
  c == '_' || Text.isLetter c ||
    (!first && (c == '.' || c == '[' || c == ']' || Text.isNumber c))

/-- Reads the name of a group up to its closing bracket. -/
def readName (names : List (List Char)) (cs : List Char) : Option (List Char × List Char) :=
  let name := cs.takeWhile (· != '>')
  match name, cs.dropWhile (· != '>') with
  | c :: more, _ :: rest =>
    if isNameChar true c ∧ more.all (isNameChar false) ∧ !names.contains name then
      some (name, rest)
    else none
  | _, _ => none

/-- Reads flags up to the colon or parenthesis that ends them: the flags, the end, and
whether there were any.  No flag may be named twice. -/
def readFlags (f : Flags) (seen : List Char) (on : Bool) (last : Option Char) :
    List Char → Option (Flags × Char × Bool × List Char)
  | [] => none
  | c :: cs =>
    if c = ':' ∨ c = ')' then
      if last = some '-' then none else some (f, c, !seen.isEmpty, cs)
    else if seen.contains c then none
    else if c = '-' then readFlags f (c :: seen) false (some c) cs
    else
      match f.set? c on with
      | none => none
      | some f => readFlags f (c :: seen) on (some c) cs

/-- Opens a group. -/
def openGroup (st : State) (inner : Flags) (numbered : Bool) (names : List (List Char)) :
    State :=
  { flags := inner, group := .start st.flags numbered, outer := st.group :: st.outer, names }

/-- Reads the start of a group after its parenthesis. -/
def readGroupOpen (st : State) (cs : List Char) : Option (State × List Char) :=
  match skip st.flags cs with
  | '?' :: 'P' :: '<' :: rest => do
    let (name, rest) ← readName st.names rest
    some (openGroup st st.flags true (name :: st.names), rest)
  | '?' :: '<' :: c :: rest =>
    if c = '=' ∨ c = '!' then none
    else do
      let (name, rest) ← readName st.names (c :: rest)
      some (openGroup st st.flags true (name :: st.names), rest)
  | '?' :: rest => do
    let (flags, stop, any, rest) ← readFlags st.flags [] true none rest
    if stop = ')' then
      if any then some ({ st with flags, group := st.group.push .flags }, rest) else none
    else some (openGroup st flags false st.names, rest)
  | rest => some (openGroup st st.flags true st.names, rest)

/-- Reads a decimal number with blanks around it. -/
def readCount (f : Flags) (cs : List Char) : Option Nat × List Char :=
  let (digits, rest) := takeSpaced f Char.isDigit (cs.dropWhile Text.isBlank)
  let rest := rest.dropWhile Text.isBlank
  if digits = [] then (none, rest)
  else
    let n := digits.foldl (fun n c => n * 10 + (c.toNat - '0'.toNat)) 0
    (some n, rest)

/-- Reads the bounds of a repetition after the opening brace. -/
def readBounds (f : Flags) (cs : List Char) : Option (Nat × Option Nat × List Char) := do
  let inRange := fun n : Nat => n < twoTo 32
  let (least, rest) := readCount f (skip f cs)
  match rest with
  | ',' :: rest =>
    match skip f rest with
    | '\x7d' :: rest =>
      let n ← least
      if inRange n then some (n, none, rest) else none
    | rest =>
      let n ← least
      let (most, rest) := readCount f rest
      let m ← most
      match rest with
      | '\x7d' :: rest => if n ≤ m ∧ inRange m then some (n, some m, rest) else none
      | _ => none
  | '\x7d' :: rest =>
    let n ← least
    if inRange n then some (n, some n, rest) else none
  | _ => none

/-- Passes over the question mark that makes a repetition take as little as it can; that
changes no answer about whether there is a match. -/
def skipLazy : List Char → List Char
  | '?' :: rest => rest
  | rest => rest

/-- Adds a primitive to the current alternative. -/
def State.add? (st : State) (p : Primitive) : Option State :=
  (ofPrimitive? st.flags p).map fun r =>
    { st with group := st.group.push (.expression ⟨r, 0⟩) }

/-- Repeats the last item of the current alternative. -/
def State.repeat? (st : State) (least : Nat) (most : Option Nat) : Option State :=
  (st.group.repeatLast? least most).map fun group => { st with group }

/-- Ends the innermost group. -/
def State.close? (st : State) : Option State :=
  match st.outer with
  | [] => none
  | g :: outer =>
    some { st with
      flags := st.group.outer
      group := g.push (.expression (st.group.close.surround (Regex.group st.group.numbered)))
      outer }

/-- Begins another alternative. -/
def State.split (st : State) : State :=
  { st with group := { st.group with done := st.group.current :: st.group.done, items := [] } }

/-- Reads one element of a pattern. -/
def step (st : State) : List Char → Option (State × List Char)
  | [] => none
  | '(' :: rest => readGroupOpen st rest
  | ')' :: rest => st.close?.map fun st => (st, rest)
  | '|' :: rest => some (st.split, rest)
  | '[' :: rest => do
    let (s, rest) ← readSet st.flags rest
    some ({ st with group := st.group.push (.expression ⟨set s.value, s.depth⟩) }, rest)
  | '?' :: rest => (st.repeat? 0 (some 1)).map fun st => (st, skipLazy rest)
  | '*' :: rest => (st.repeat? 0 none).map fun st => (st, skipLazy rest)
  | '+' :: rest => (st.repeat? 1 none).map fun st => (st, skipLazy rest)
  | '\x7b' :: rest => do
    let (least, most, rest) ← readBounds st.flags rest
    some (← st.repeat? least most, skipLazy (skip st.flags rest))
  | '\\' :: rest => do
    let (p, rest) ← readEscape st.flags rest
    some (← st.add? p, rest)
  | '.' :: rest => (st.add? .dot).map fun st => (st, rest)
  | '^' :: rest =>
    let a := if st.flags.multiLine then Assertion.lineStart st.flags.crlf else .start
    (st.add? (.assertion a)).map fun st => (st, rest)
  | '$' :: rest =>
    let a := if st.flags.multiLine then Assertion.lineStop st.flags.crlf else .stop
    (st.add? (.assertion a)).map fun st => (st, rest)
  | c :: rest => (st.add? (.literal c)).map fun st => (st, rest)

/-- Reads a pattern from a state on. -/
def readAll (st : State) : Nat → List Char → Option (Nested Regex)
  | 0, _ => none
  | fuel + 1, cs =>
    let cs := skip st.flags cs
    if cs = [] then if st.outer.isEmpty then some st.group.close else none
    else
      match step st cs with
      | none => none
      | some (st, rest) => readAll st fuel rest

/-- The expression that a text writes, unless the text is no pattern, has too many levels,
or needs too much room. -/
def parse (s : String) : Option Regex :=
  let cs := s.toList
  match readAll ⟨{}, .start {} false, [], []⟩ (cs.length + 1) cs with
  | some r => if r.depth ≤ Nested.maxDepth ∧ r.value.fits then some r.value else none
  | none => none

end TagSearch.Regex
