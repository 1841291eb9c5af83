import TagSearch.Query.Scanner
import TagSearch.Query.SyntaxError
import TagSearch.Query.Tree

/-!
# Parser

Builds the tree of a search from its tokens.  The tokens are read once from left to right;
the groups that are still open wait on a stack, innermost first.  Blanks and commas only
separate, and the end of input closes whatever is open.
-/

namespace TagSearch

/-- The category that bare values bind to when a caller names none. -/
def defaultPrimary : String := "id"

/-- A group whose closing parenthesis has not been read. -/
structure OpenGroup where
  keyword : Token
  op : Operator
  /-- The comparison in force around the group. -/
  outer : Comparison
  /-- The nodes before the group in the list that it stands in. -/
  before : List Node
deriving DecidableEq, Repr

namespace OpenGroup

/-- The comparison in force inside the group. -/
def inner (g : OpenGroup) : Comparison :=
  g.op.inner g.outer

/-- Ends a group with its members: the list that it stands in, up to and with the group.
A group without members is refused. -/
def close (g : OpenGroup) (members : List Node) : Except SyntaxError (List Node) :=
  if members = [] then .error (.ofToken .emptyGroup g.keyword)
  else .ok (g.before ++ [.group g.op g.inner members])

end OpenGroup

/-- Ends every open group, innermost first. -/
def closeAll : List OpenGroup → List Node → Except SyntaxError (List Node)
  | [], done => .ok done
  | g :: gs, done => (g.close done).bind (closeAll gs)

/-- Reads the tokens of a list, where `groups` are the open groups, `comparison` is the
comparison in force, and `done` are the nodes read so far in the innermost list. -/
def parseTokens (primary : String) (groups : List OpenGroup) (comparison : Comparison)
    (done : List Node) : List Token → Except SyntaxError (List Node)
  | [] => closeAll groups done
  | t :: ts =>
    match t.kind with
    | .whitespace | .comma => parseTokens primary groups comparison done ts
    | .rParen =>
      match groups with
      | [] => .error (.ofToken .unexpectedTerminator t)
      | g :: gs =>
        match g.close done with
        | .error e => .error e
        | .ok closed => parseTokens primary gs g.outer closed ts
    | .keyword =>
      match Operator.ofKeyword? t.literal, ts with
      | some op, p :: rest =>
        if p.kind = .lParen then
          parseTokens primary (⟨t, op, comparison, done⟩ :: groups) (op.inner comparison) [] rest
        else .error (.ofToken .illegalToken p)
      | _, _ => .error (.ofToken .illegalToken t)
    | .tagValue =>
      let node := Node.leaf ⟨comparison, .literal primary, some (.ofTag t.literal)⟩
      parseTokens primary groups comparison (done ++ [node]) ts
    | .tagCategory =>
      if t.literal = "" then .error (.ofToken .illegalToken t)
      else
        let node := fun value => Node.leaf ⟨comparison, .ofTag t.literal, value⟩
        match ts with
        | [] => closeAll groups (done ++ [node none])
        | v :: rest =>
          match v.kind with
          | .tagValue =>
            parseTokens primary groups comparison (done ++ [node (some (.ofTag v.literal))]) rest
          | .rParen | .comma =>
            parseTokens primary groups comparison (done ++ [node none]) (v :: rest)
          | .whitespace =>
            match rest with
            | [] => .error ⟨.invalidWhitespace, t.literal, v.offset⟩
            | w :: rest' =>
              if w.isTerminator then .error ⟨.invalidWhitespace, t.literal, v.offset⟩
              else if w.kind = .tagValue then
                parseTokens primary groups comparison
                  (done ++ [node (some (.ofTag w.literal))]) rest'
              else .error (.ofToken .illegalToken w)
          | _ => .error (.ofToken .illegalToken v)
    | _ => .error (.ofToken .illegalToken t)

namespace Tree

/-- Parses a search whose bare values bind to `primary`; an empty name stands for the
default one. -/
def parse (input : String) (primary : String := defaultPrimary) (options : ScanOptions := {}) :
    Except SyntaxError Tree :=
  let name := if primary = "" then defaultPrimary else primary
  (parseTokens name [] .equal [] ((Scanner.ofString input options).tokens true)).map ofMembers

end Tree

end TagSearch
