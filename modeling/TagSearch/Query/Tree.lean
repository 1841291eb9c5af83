import TagSearch.Query.Operator
import TagSearch.Query.Term

/-!
# Search trees

The structure of a search: conditions at the leaves, operators over them.
-/

namespace TagSearch

/-- A condition: a field, the comparison in force, and the value to compare with.  Without
a value the condition asks whether the field is present. -/
structure Leaf where
  comparison : Comparison
  category : Term
  value : Option Term
deriving DecidableEq, Repr

namespace Leaf

/-- The text of the value, empty when there is none. -/
def valueText (l : Leaf) : String :=
  (l.value.map Term.text).getD ""

end Leaf

/-- A condition, or a group of nodes under an operator together with the comparison in
force below it. -/
inductive Node where
  | leaf (condition : Leaf)
  | group (op : Operator) (comparison : Comparison) (members : List Node)
deriving Repr

namespace Node

mutual

/-- Equality of nodes is decidable. -/
def decEq : (a b : Node) → Decidable (a = b)
  | leaf l, leaf k =>
    match instDecidableEqLeaf l k with
    | isTrue h => isTrue (by rw [h])
    | isFalse h => isFalse (by simpa using h)
  | group o c ms, group p d ns =>
    match instDecidableEqOperator o p, instDecidableEqComparison c d, decEqAll ms ns with
    | isTrue h₁, isTrue h₂, isTrue h₃ => isTrue (by rw [h₁, h₂, h₃])
    | isFalse h, _, _ => isFalse (by simp [h])
    | _, isFalse h, _ => isFalse (by simp [h])
    | _, _, isFalse h => isFalse (by simp [h])
  | leaf _, group .. => isFalse (by simp)
  | group .., leaf _ => isFalse (by simp)

/-- Equality of node lists is decidable. -/
def decEqAll : (as bs : List Node) → Decidable (as = bs)
  | [], [] => isTrue rfl
  | [], _ :: _ => isFalse (by simp)
  | _ :: _, [] => isFalse (by simp)
  | a :: as, b :: bs =>
    match decEq a b, decEqAll as bs with
    | isTrue h₁, isTrue h₂ => isTrue (by rw [h₁, h₂])
    | isFalse h, _ => isFalse (by simp [h])
    | _, isFalse h => isFalse (by simp [h])

end

instance : DecidableEq Node := decEq

end Node

/-- A parsed search. -/
structure Tree where
  root : Node
deriving DecidableEq, Repr

namespace Tree

/-- The tree whose members all have to hold, under plain equality. -/
def ofMembers (members : List Node) : Tree :=
  ⟨.group .conj .equal members⟩

/-- The tree of an empty search. -/
def empty : Tree :=
  ofMembers []

/-- The members below the root. -/
def members (t : Tree) : List Node :=
  match t.root with
  | .leaf _ => []
  | .group _ _ ms => ms

/-- A tree is empty when nothing stands below its root. -/
def isEmpty (t : Tree) : Bool :=
  t.members.isEmpty

end Tree

end TagSearch
