import TagSearch.Matching.Document
import TagSearch.Proofs.Emission

/-!
# Which members are looked up

Matching a document looks up members of its objects by name.  A record of these names can be
kept along the way: the answer stays the same, and every name on record stands in the path of a
category of the search.

Main results:

- Definition `Tree.look`: matching a document, with a record of the names that are looked up.
- Theorem `Tree.look_fst`: the record does not change the answer.
- Theorem `Tree.mem_names_of_mem_look`: where the names on record come from.
-/

namespace TagSearch

/-! ## Paths -/

/-- The name in a step of a path. -/
def Segment.name? : Segment → Option String
  | .field name => some name
  | .index _ => none

namespace Path

/-- The names in a path. -/
def names (p : Path) : List String :=
  p.field :: p.segments.filterMap Segment.name?

/-- The value that a step leads to, and the names that are looked up on the way.  Only objects
are asked for members. -/
def step (j : Json) : Segment → List String × Option Json
  | .field name =>
    match j with
    | .object members => ([name], Json.member? name members)
    | _ => ([], none)
  | .index i => ([], Segment.follow? j (.index i))

/-- The value that steps lead to, and the names that are looked up on the way. -/
def walk : List Segment → Json → List String × Option Json
  | [], j => ([], some j)
  | s :: rest, j =>
    match (step j s).2 with
    | none => ((step j s).1, none)
    | some found => ((step j s).1 ++ (walk rest found).1, (walk rest found).2)

theorem step_snd (j : Json) (s : Segment) : (step j s).2 = Segment.follow? j s := by
  cases s with
  | index i => rfl
  | field name =>
    cases j with
    | object members => rfl
    | _ => rfl

theorem mem_step {j : Json} {s : Segment} {name : String} (h : name ∈ (step j s).1) :
    s.name? = some name := by
  cases s with
  | index i => cases h
  | field key =>
    cases j with
    | object members => rw [List.mem_singleton.mp h, Segment.name?]
    | _ => cases h

theorem walk_snd (steps : List Segment) (j : Json) : (walk steps j).2 = follow? steps j := by
  induction steps generalizing j with
  | nil => rfl
  | cons s rest ih =>
    have hstep := step_snd j s
    rw [walk, follow?, ← hstep]
    cases (step j s).2 with
    | none => rfl
    | some found => exact ih found

theorem mem_walk {steps : List Segment} {j : Json} {name : String}
    (h : name ∈ (walk steps j).1) : name ∈ steps.filterMap Segment.name? := by
  induction steps generalizing j with
  | nil => cases h
  | cons s rest ih =>
    have hhead : name ∈ (step j s).1 → name ∈ (s :: rest).filterMap Segment.name? := by
      intro hname
      exact List.mem_filterMap.mpr ⟨s, List.mem_cons_self, mem_step hname⟩
    rw [walk] at h
    cases hfound : (step j s).2 with
    | none =>
      rw [hfound] at h
      exact hhead h
    | some found =>
      rw [hfound] at h
      rcases List.mem_append.mp h with h | h
      · exact hhead h
      · obtain ⟨s', hs', hname⟩ := List.mem_filterMap.mp (ih h)
        exact List.mem_filterMap.mpr ⟨s', List.mem_cons_of_mem s hs', hname⟩

end Path

/-! ## Conditions -/

namespace Leaf

variable {l : Leaf} {document : Json} {name : String}

/-- The names in the path that a category writes.  A pattern writes none. -/
def names (l : Leaf) : List String :=
  match l.category with
  | .literal category => ((Path.parse? category).map Path.names).getD []
  | .pattern _ => []

theorem names_of_parse? {category : String} {path : Path} (hl : l.category = .literal category)
    (hpath : Path.parse? category = some path) : l.names = path.names := by
  rw [names, hl]
  simp only [hpath, Option.map_some, Option.getD_some]

/-- Whether a document satisfies a condition, and the names that are looked up on the way.  A
pattern goes through the members one by one. -/
def look (l : Leaf) (document : Json) : List String × Except Error Bool :=
  match ValueTest.ofLeaf l with
  | .error e => ([], .error e)
  | .ok test =>
    match l.category with
    | .literal category =>
      match Path.parse? category with
      | none => ([], .error (.invalidRequest (.malformedPath category)))
      | some path =>
        let found := Path.walk (.field path.field :: path.segments) document
        (found.1, .ok (test.check found.2))
    | .pattern _ => ([], l.accepts document)

theorem look_snd (l : Leaf) (document : Json) : (l.look document).2 = l.accepts document := by
  rw [look]
  cases htest : ValueTest.ofLeaf l with
  | error e =>
    rw [accepts, htest]
    rfl
  | ok test =>
    cases hcategory : l.category with
    | pattern p => rfl
    | literal category =>
      rw [accepts, htest, hcategory]
      cases hpath : Path.parse? category with
      | none => simp only [hpath, bind, Except.bind]
      | some path =>
        have hwalk := Path.walk_snd (.field path.field :: path.segments) document
        simp only [hpath, bind, Except.bind, hwalk]
        rfl

theorem mem_names_of_mem_look (h : name ∈ (l.look document).1) : name ∈ l.names := by
  rw [look] at h
  cases htest : ValueTest.ofLeaf l with
  | error e =>
    rw [htest] at h
    cases h
  | ok test =>
    rw [htest] at h
    cases hcategory : l.category with
    | pattern p =>
      rw [hcategory] at h
      cases h
    | literal category =>
      rw [hcategory] at h
      cases hpath : Path.parse? category with
      | none =>
        simp only [hpath] at h
        cases h
      | some path =>
        simp only [hpath] at h
        rw [names_of_parse? hcategory hpath]
        exact Path.mem_walk h

/-- The same as a test of conditions that adds to the record. -/
def record (document : Json) (l : Leaf) : ExceptT Error (StateM (List String)) Bool :=
  ExceptT.mk fun seen => ((l.look document).2, seen ++ (l.look document).1)

end Leaf

/-! ## Searches -/

/-- Two evaluations answer alike, and the one with a record puts nothing on it but names of the
given conditions. -/
def Records (leaves : List Leaf) (recorded : ExceptT Error (StateM (List String)) Bool)
    (plain : ExceptT Error Id Bool) : Prop :=
  ∀ seen, ∃ found, recorded.run seen = (plain.run, seen ++ found) ∧
    ∀ name ∈ found, name ∈ leaves.flatMap Leaf.names

namespace Records

variable {leaves leaves' : List Leaf}
  {recorded recorded' : ExceptT Error (StateM (List String)) Bool}
  {plain plain' : ExceptT Error Id Bool}

theorem pure (b : Bool) : Records leaves (Pure.pure b) (Pure.pure b) := by
  intro seen
  refine ⟨[], ?_, ?_⟩
  · rw [List.append_nil]
    rfl
  · intro name hname
    cases hname

theorem throw (e : Error) : Records leaves (throwThe Error e) (throwThe Error e) := by
  intro seen
  refine ⟨[], ?_, ?_⟩
  · rw [List.append_nil]
    rfl
  · intro name hname
    cases hname

theorem mono (h : Records leaves recorded plain) (hleaves : leaves ⊆ leaves') :
    Records leaves' recorded plain := by
  intro seen
  obtain ⟨found, hrun, hnames⟩ := h seen
  refine ⟨found, hrun, ?_⟩
  intro name hname
  obtain ⟨l, hl, hname⟩ := List.mem_flatMap.mp (hnames name hname)
  exact List.mem_flatMap.mpr ⟨l, hleaves hl, hname⟩

theorem bind {next : Bool → ExceptT Error (StateM (List String)) Bool}
    {next' : Bool → ExceptT Error Id Bool} (h : Records leaves recorded plain)
    (hnext : ∀ b, Records leaves (next b) (next' b)) :
    Records leaves (recorded >>= next) (plain >>= next') := by
  intro seen
  obtain ⟨found, hrun, hnames⟩ := h seen
  have hrecorded : (recorded >>= next).run seen =
      ExceptT.bindCont next (recorded.run seen).1 (recorded.run seen).2 := rfl
  have hplain : (plain >>= next').run = ExceptT.bindCont next' plain.run := rfl
  rw [hrecorded, hplain, hrun]
  cases hresult : plain.run with
  | error e => exact ⟨found, rfl, hnames⟩
  | ok b =>
    obtain ⟨more, hmore, hmoreNames⟩ := hnext b (seen ++ found)
    refine ⟨found ++ more, ?_, ?_⟩
    · rw [← List.append_assoc]
      exact hmore
    · intro name hname
      rcases List.mem_append.mp hname with hname | hname
      · exact hnames name hname
      · exact hmoreNames name hname

theorem leaf (l : Leaf) (document : Json) :
    Records [l] (l.record document) (ExceptT.mk (l.accepts document)) := by
  intro seen
  refine ⟨(l.look document).1, ?_, ?_⟩
  · rw [← l.look_snd document]
    rfl
  · intro name hname
    rw [List.flatMap_singleton]
    exact Leaf.mem_names_of_mem_look hname

end Records

namespace Node

mutual

/-- The evaluation of a node with a record of the names that are looked up. -/
theorem records_eval (document : Json) : (n : Node) →
    Records n.leaves (n.eval (Leaf.record document))
      (n.eval fun l => ExceptT.mk (l.accepts document))
  | leaf l => Records.leaf l document
  | group op comparison members => by
    rw [leaves_group]
    cases op with
    | conj =>
      simp only [eval]
      exact records_evalAll document members
    | disj =>
      simp only [eval]
      exact records_evalAny document members
    | compare c =>
      simp only [eval]
      exact records_evalAll document members
    | neg =>
      -- a negation of other than one member is refused before anything is looked up
      match members with
      | [] => exact Records.throw _
      | [n] =>
        rw [eval, eval, List.flatMap_singleton]
        exact (records_eval document n).bind fun b => Records.pure _
      | _ :: _ :: _ => exact Records.throw _

theorem records_evalAll (document : Json) : (ms : List Node) →
    Records (ms.flatMap leaves) (evalAll (Leaf.record document) ms)
      (evalAll (fun l => ExceptT.mk (l.accepts document)) ms)
  | [] => Records.pure true
  | n :: rest => by
    rw [evalAll, evalAll, List.flatMap_cons]
    refine ((records_eval document n).mono (List.subset_append_left _ _)).bind ?_
    intro b
    cases b with
    | true => exact (records_evalAll document rest).mono (List.subset_append_right _ _)
    | false =>
      -- the members after the first that fails are not looked at
      exact Records.pure false

theorem records_evalAny (document : Json) : (ms : List Node) →
    Records (ms.flatMap leaves) (evalAny (Leaf.record document) ms)
      (evalAny (fun l => ExceptT.mk (l.accepts document)) ms)
  | [] => Records.pure false
  | n :: rest => by
    rw [evalAny, evalAny, List.flatMap_cons]
    refine ((records_eval document n).mono (List.subset_append_left _ _)).bind ?_
    intro b
    cases b with
    | true => exact Records.pure true
    | false => exact (records_evalAny document rest).mono (List.subset_append_right _ _)

end

end Node

namespace Tree

variable {t : Tree} {document : Json} {name : String}

/-- The names in the paths of the categories of a search. -/
def names (t : Tree) : List String :=
  t.root.leaves.flatMap Leaf.names

/-- Whether a document matches a search, and the names that are looked up on the way. -/
def look (t : Tree) (document : Json) : Except Error Bool × List String :=
  (t.eval (Leaf.record document)).run []

/-- The record does not change the answer. -/
theorem look_fst (t : Tree) (document : Json) : (t.look document).1 = t.accepts document := by
  obtain ⟨found, hrun, _⟩ := t.root.records_eval document []
  exact congrArg Prod.fst hrun

/-- Every name on record stands in the path of a category. -/
theorem mem_names_of_mem_look (h : name ∈ (t.look document).2) : name ∈ t.names := by
  obtain ⟨found, hrun, hnames⟩ := t.root.records_eval document []
  have hlook : (t.look document).2 = [] ++ found := congrArg Prod.snd hrun
  rw [hlook, List.nil_append] at h
  exact hnames name h

end Tree

end TagSearch
