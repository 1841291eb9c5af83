import TagSearch.Compiler.Condition

/-!
# Skeletons of searches

The skeleton of a search is what is left of it when the values and the names of members are
left out: the operators and comparisons, the patterns among the categories, the fields and
positions that the other categories lead to, and of each value only what kind of value it is.

Main results:

- Definition `Leaf.shape`: what is left of a condition.
- Definition `Node.skeleton`: what is left of a node.
- Theorem `Leaf.shape_eq`: what two conditions of one shape have in common.
-/

namespace TagSearch

/-! ## Skeletons -/

/-- What a literal value is, whatever it says. -/
inductive TextShape where
  /-- The empty text or the word for null. -/
  | null
  /-- Another text in which a bare wildcard occurs. -/
  | wildcard
  | plain
deriving DecidableEq, Repr

/-- The shape of a literal value. -/
def textShape (value : String) : TextShape :=
  if isNullText value then .null else if hasWildcard value then .wildcard else .plain

/-- What a value is, whatever it says. -/
inductive ValueShape where
  | absent
  | pattern
  | literal (shape : TextShape)
deriving DecidableEq, Repr

/-- The shape of a value. -/
def Term.valueShape : Option Term → ValueShape
  | none => .absent
  | some (.pattern _) => .pattern
  | some (.literal v) => .literal (textShape v)

/-- A step of a path without the name of a member. -/
inductive SegmentShape where
  | member
  | index (position : Int)
deriving DecidableEq, Repr

/-- The shape of a step. -/
def Segment.shape : Segment → SegmentShape
  | .field _ => .member
  | .index i => .index i

/-- A category without the names of members. -/
inductive CategoryShape where
  | pattern (text : String)
  | path (field : String) (segments : List SegmentShape)
  /-- The text of the category is no path. -/
  | malformed
deriving DecidableEq, Repr

/-- The shape of a category. -/
def Term.categoryShape : Term → CategoryShape
  | .pattern p => .pattern p
  | .literal name =>
    match Path.parse? name with
    | some path => .path path.field (path.segments.map Segment.shape)
    | none => .malformed

/-- Whether a field of the schema holds documents. -/
def Schema.holdsDocuments (s : Schema) (field : String) : Bool :=
  (s.field? field).any fun f => f.kind == .json

/-- Whether a condition on a category may test a field that holds documents. -/
def CategoryShape.testsDocuments (schema : Schema) : CategoryShape → Bool
  | .path field _ => schema.holdsDocuments field
  | .pattern p =>
    match compilePattern p with
    | .ok r => (schema.fields.filter fun f => r.isMatch f.name).any fun f =>
        (Path.parse? f.name).any fun path => schema.holdsDocuments path.field
    | .error _ => false
  | .malformed => false

/-- A condition without what its value says. -/
structure LeafShape where
  comparison : Comparison
  category : CategoryShape
  value : ValueShape
  /-- The value is compared with the contents of documents, and reads as a number. -/
  numeric : Bool
deriving DecidableEq, Repr

namespace Leaf

/-- Whether the value reads as a number. -/
def isNumeric (l : Leaf) : Bool :=
  match l.value with
  | some (.literal v) => (Decimal.parse (restore v)).isSome
  | _ => false

/-- The shape of a condition. -/
def shape (schema : Schema) (l : Leaf) : LeafShape where
  comparison := l.comparison
  category := l.category.categoryShape
  value := Term.valueShape l.value
  numeric := l.comparison != .equal && l.category.categoryShape.testsDocuments schema &&
    l.isNumeric

end Leaf

/-- A node without what its values say. -/
inductive Skeleton where
  | leaf (shape : LeafShape)
  | group (op : Operator) (comparison : Comparison) (members : List Skeleton)

namespace Node

mutual

/-- The skeleton of a node. -/
def skeleton (schema : Schema) : Node → Skeleton
  | leaf l => .leaf (l.shape schema)
  | group op comparison members => .group op comparison (skeletons schema members)

/-- The skeletons of nodes. -/
def skeletons (schema : Schema) : List Node → List Skeleton
  | [] => []
  | n :: rest => skeleton schema n :: skeletons schema rest

end

end Node

/-! ## Values -/

theorem isNullText_of_textShape {v w : String} (h : textShape v = textShape w) :
    isNullText v = isNullText w := by
  have hnull : ∀ u, isNullText u = decide (textShape u = .null) := by
    intro u
    unfold textShape
    cases isNullText u with
    | true => rfl
    | false => cases hasWildcard u <;> rfl
  rw [hnull v, hnull w, h]

theorem hasWildcard_of_textShape {v w : String} (h : textShape v = textShape w)
    (hv : isNullText v = false) : hasWildcard v = hasWildcard w := by
  have hw : isNullText w = false := by
    rw [← isNullText_of_textShape h, hv]
  have hwildcard : ∀ u, isNullText u = false →
      hasWildcard u = decide (textShape u = .wildcard) := by
    intro u hu
    unfold textShape
    rw [hu]
    cases hasWildcard u <;> rfl
  rw [hwildcard v hv, hwildcard w hw, h]

/-- Values of one shape. -/
inductive Term.SameValue : Option Term → Option Term → Prop where
  | absent : SameValue none none
  | pattern (p q : String) : SameValue (some (.pattern p)) (some (.pattern q))
  | literal {v w : String} (hshape : textShape v = textShape w) :
      SameValue (some (.literal v)) (some (.literal w))

theorem Term.sameValue_of_shape {a b : Option Term} (h : Term.valueShape a = Term.valueShape b) :
    Term.SameValue a b := by
  match a, b with
  | none, none => exact .absent
  | some (.pattern p), some (.pattern q) => exact .pattern p q
  | some (.literal v), some (.literal w) => exact .literal (ValueShape.literal.inj h)
  | none, some (.pattern _) => cases h
  | none, some (.literal _) => cases h
  | some (.pattern _), none => cases h
  | some (.pattern _), some (.literal _) => cases h
  | some (.literal _), none => cases h
  | some (.literal _), some (.pattern _) => cases h

namespace Leaf

variable {l m : Leaf} {schema : Schema}

/-- The parts of a shape, for two conditions that have it. -/
theorem shape_eq (h : l.shape schema = m.shape schema) :
    l.comparison = m.comparison ∧ l.category.categoryShape = m.category.categoryShape ∧
      Term.SameValue l.value m.value ∧
      (l.category.categoryShape.testsDocuments schema = true → l.comparison ≠ .equal →
        l.isNumeric = m.isNumeric) := by
  obtain ⟨hcomparison, hcategory, hvalue, hnumeric⟩ := LeafShape.mk.inj h
  refine ⟨hcomparison, hcategory, Term.sameValue_of_shape hvalue, ?_⟩
  intro htests hne
  have hbne : (l.comparison != .equal) = true := bne_iff_ne.mpr hne
  rw [← hcategory, ← hcomparison, htests, hbne] at hnumeric
  exact hnumeric

end Leaf

end TagSearch
