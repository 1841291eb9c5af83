import TagSearch.Regex.CharSet

/-!
# Patterns

Regular expressions over characters, and the search for a match anywhere in a text.  The
search follows all ways to match at once: its state is a list of expressions, each of
which still has to match what follows.  One character turns an expression into the
expressions that may remain after it.
-/

namespace TagSearch

/-- A place between two characters: the character before and the character after, as far
as there are any. -/
structure Place where
  before : Option Char
  after : Option Char
deriving DecidableEq, Repr

/-- A condition on a place. -/
inductive Assertion where
  /-- The start of the text. -/
  | start
  /-- The end of the text. -/
  | stop
  /-- The start of a line; with `crlf`, lines may also end in a carriage return. -/
  | lineStart (crlf : Bool)
  /-- The end of a line. -/
  | lineStop (crlf : Bool)
  /-- A place with a word character on one side only. -/
  | wordEdge (ascii : Bool)
  /-- A place with word characters on both sides or on neither. -/
  | notWordEdge (ascii : Bool)
  /-- The start of a word. -/
  | wordStart (ascii : Bool)
  /-- The end of a word. -/
  | wordStop (ascii : Bool)
  /-- A place without a word character before it. -/
  | noWordBefore (ascii : Bool)
  /-- A place without a word character after it. -/
  | noWordAfter (ascii : Bool)
deriving DecidableEq, Repr

namespace Assertion

/-- Whether a word character stands on one side of a place. -/
def isWord (ascii : Bool) (c : Option Char) : Bool :=
  match c with
  | none => false
  | some c => (if ascii then CharSet.asciiWord else CharSet.word).contains c.toNat

/-- Whether a place satisfies an assertion. -/
def holds (p : Place) : Assertion → Bool
  | start => p.before.isNone
  | stop => p.after.isNone
  | lineStart false => p.before.isNone || p.before == some '\n'
  | lineStart true =>
    p.before.isNone || p.before == some '\n' || (p.before == some '\r' && p.after != some '\n')
  | lineStop false => p.after.isNone || p.after == some '\n'
  | lineStop true =>
    p.after.isNone || p.after == some '\r' || (p.after == some '\n' && p.before != some '\r')
  | wordEdge a => isWord a p.before != isWord a p.after
  | notWordEdge a => isWord a p.before == isWord a p.after
  | wordStart a => !isWord a p.before && isWord a p.after
  | wordStop a => isWord a p.before && !isWord a p.after
  | noWordBefore a => !isWord a p.before
  | noWordAfter a => !isWord a p.after

end Assertion

/-- A regular expression. -/
inductive Regex where
  /-- Matches the empty text. -/
  | empty
  /-- Matches one character of a set. -/
  | set (chars : CharSet)
  /-- Matches the empty text at certain places. -/
  | assert (condition : Assertion)
  /-- Matches one text after another. -/
  | seq (first second : Regex)
  /-- Matches one text or another. -/
  | alt (first second : Regex)
  /-- Matches a number of texts in sequence, between `least` and `most`. -/
  | loop (least : Nat) (most : Option Nat) (body : Regex)
  /-- Matches what its body matches, which may be numbered to be told apart. -/
  | group (numbered : Bool) (body : Regex)
deriving DecidableEq, Repr

namespace Regex

/-- The expression that matches one character. -/
def char (c : Char) : Regex := set (.single c)

/-- The expression that matches the texts of a list in sequence. -/
def seqAll : List Regex → Regex
  | [] => empty
  | [r] => r
  | r :: rest => seq r (seqAll rest)

/-- The expression that matches a text of any member of a list. -/
def altAll : List Regex → Regex
  | [] => empty
  | [r] => r
  | r :: rest => alt r (altAll rest)

/-- Whether an expression matches the empty text at a place. -/
def nullable (p : Place) : Regex → Bool
  | empty => true
  | set _ => false
  | assert a => a.holds p
  | seq a b => a.nullable p && b.nullable p
  | alt a b => a.nullable p || b.nullable p
  | loop least _ r => least == 0 || r.nullable p
  | group _ r => r.nullable p

/-- Puts one expression before another, unless it is empty. -/
def andThen (a b : Regex) : Regex :=
  if a = empty then b else seq a b

/-- The expressions that may remain once a character at a place has been matched. -/
def derive (p : Place) (c : Char) : Regex → List Regex
  | empty => []
  | set s => if s.contains c.toNat then [empty] else []
  | assert _ => []
  | seq a b => (a.derive p c).map (·.andThen b) ++ if a.nullable p then b.derive p c else []
  | alt a b => a.derive p c ++ b.derive p c
  | loop least most r =>
    if most = some 0 then []
    else
      let least := if r.nullable p then 0 else least - 1
      (r.derive p c).map (·.andThen (loop least (most.map (· - 1)) r))
  | group _ r => r.derive p c

/-- Searches for a match that starts at the place after `before` or later, or that one of
the expressions in `states` completes. -/
def searchFrom (r : Regex) (states : List Regex) (before : Option Char) : List Char → Bool
  | [] => (r :: states).any (·.nullable ⟨before, none⟩)
  | c :: cs =>
    let p : Place := ⟨before, some c⟩
    (r :: states).any (·.nullable p) ||
      searchFrom r ((r :: states).flatMap (·.derive p c)).eraseDups (some c) cs

/-- Whether an expression matches some part of a text. -/
def isMatch (r : Regex) (s : String) : Bool :=
  searchFrom r [] none s.toList

end Regex

end TagSearch
