import TagSearch.Error
import TagSearch.Query.Tree

/-!
# Evaluation

The truth value of a tree, given the truth values of its conditions.  Members are visited
from left to right, and a group stops at the first member that decides it.

Main results:

- Theorem `Tree.eval_empty`: the empty tree is true.
-/

namespace TagSearch

namespace Node

variable {m : Type → Type} [Monad m]

/-- The error for a negation that does not have one member. -/
def negationArity (members : List Node) : Error :=
  .invalidRequest (.negationArity members.length)

mutual

/-- The truth value of a node, where `test` tells the truth value of a condition or fails.
The test may depend on the conditions visited before. -/
def eval (test : Leaf → ExceptT Error m Bool) : Node → ExceptT Error m Bool
  | leaf l => test l
  | group .disj _ members => evalAny test members
  | group .neg _ [n] => do return !(← n.eval test)
  | group .neg _ members => throw (negationArity members)
  | group _ _ members => evalAll test members

/-- Whether all nodes hold; stops at the first that does not. -/
def evalAll (test : Leaf → ExceptT Error m Bool) : List Node → ExceptT Error m Bool
  | [] => pure true
  | n :: rest => do
    if ← n.eval test then evalAll test rest else return false

/-- Whether some node holds; stops at the first that does. -/
def evalAny (test : Leaf → ExceptT Error m Bool) : List Node → ExceptT Error m Bool
  | [] => pure false
  | n :: rest => do
    if ← n.eval test then return true else evalAny test rest

end

end Node

namespace Tree

variable {m : Type → Type} [Monad m]

/-- The truth value of a tree. -/
def eval (t : Tree) (test : Leaf → ExceptT Error m Bool) : ExceptT Error m Bool :=
  t.root.eval test

theorem eval_empty (test : Leaf → ExceptT Error m Bool) : empty.eval test = pure true := by
  simp [eval, empty, ofMembers, Node.eval, Node.evalAll]

end Tree

end TagSearch
