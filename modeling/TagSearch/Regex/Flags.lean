import TagSearch.Text.Blank

/-!
# Flags of patterns

The flags that change how a pattern is read from some place on.
-/

namespace TagSearch.Regex

/-- The flags in force at a place of a pattern. -/
structure Flags where
  /-- Letters match in either case. -/
  ignoreCase : Bool := false
  /-- The line assertions hold at every line. -/
  multiLine : Bool := false
  /-- The dot matches the line feed too. -/
  dotAll : Bool := false
  /-- Lines may end in a carriage return. -/
  crlf : Bool := false
  /-- Sets and word edges know all of Unicode. -/
  unicode : Bool := true
  /-- Blanks and comments count nothing. -/
  extended : Bool := false
deriving DecidableEq, Repr

namespace Flags

/-- Turns a flag on or off by its letter. -/
def set? (f : Flags) (letter : Char) (on : Bool) : Option Flags :=
  if letter = 'i' then some { f with ignoreCase := on }
  else if letter = 'm' then some { f with multiLine := on }
  else if letter = 's' then some { f with dotAll := on }
  else if letter = 'R' then some { f with crlf := on }
  else if letter = 'u' then some { f with unicode := on }
  else if letter = 'x' then some { f with extended := on }
  else if letter = 'U' then some f
  else none

end Flags

/-- The pattern after blanks and comments, where these count nothing. -/
def skip (f : Flags) (cs : List Char) : List Char :=
  if f.extended then go cs.length cs else cs
where
  /-- Skips one run of blanks or one comment a step. -/
  go : Nat → List Char → List Char
    | 0, cs => cs
    | fuel + 1, cs =>
      match cs.dropWhile Text.isBlank with
      | '#' :: rest => go fuel ((rest.dropWhile (· != '\n')).drop 1)
      | rest => rest

/-- Takes the characters from the front that satisfy a test, passing over what counts nothing
after each of them. -/
def takeSpaced (f : Flags) (p : Char → Bool) (cs : List Char) : List Char × List Char :=
  go cs.length cs
where
  /-- Takes one character a step. -/
  go : Nat → List Char → List Char × List Char
    | 0, cs => ([], cs)
    | fuel + 1, cs =>
      match cs with
      | [] => ([], [])
      | c :: rest =>
        if p c then
          let (taken, rest) := go fuel (skip f rest)
          (c :: taken, rest)
        else ([], c :: rest)

end TagSearch.Regex
