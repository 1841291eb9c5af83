import TagSearch.Proofs.DurationParts
import TagSearch.Proofs.Emission

/-!
# Durations that are too long to add up

The parts of a duration are added up without a look at how large their sum gets.  A text whose sum
leaves the range of decimals gives neither a duration nor a refusal, and neither does a search that
compares a field of durations with it.  Nothing else overflows.

Main results:

- Definition `Duration.Overflows`: the texts that are too long to add up.
- Theorem `Duration.parse_eq_overflow_iff`: reading overflows on exactly those.
- Theorem `Compiler.exists_of_select_overflow`: a request overflows only if its search compares a
  field of durations with one of them.
- Theorem `overflow_sources`: where an overflow comes from, at every entrance.
- Theorem `tooLong_overflows`: a text that is too long to add up.
-/

namespace TagSearch

/-! ## Reading -/

namespace Duration

/-- The parts of a text add up to more than a decimal can hold. -/
def Overflows (s : String) : Prop :=
  Overruns .zero (Text.trim s.toList)

theorem Overruns.beginsWith {sum : Decimal} {cs : List Char} (h : Overruns sum cs) :
    ∃ part rest, BeginsWith cs part rest := by
  cases h with
  | now hpart _ => exact ⟨_, _, hpart⟩
  | later hpart _ _ => exact ⟨_, _, hpart⟩

/-- Reading overflows on exactly the texts whose parts add up to too much. -/
theorem parse_eq_overflow_iff (s : String) : parse s = .error .overflow ↔ Overflows s := by
  rw [Overflows, ← readParts_eq_overflow_iff]
  by_cases hempty : Text.trim s.toList = []
  · simp [parse, hempty, readParts]
  · cases hbare : Text.readUnsigned 64 (Text.trim s.toList) with
    | some n =>
      have hparts : ¬ readParts .zero (Text.trim s.toList) = .error .overflow := by
        rw [readParts_eq_overflow_iff]
        intro hover
        obtain ⟨part, rest, hpart⟩ := hover.beginsWith
        rw [hpart.readUnsigned_eq_none] at hbare
        cases hbare
      simp [parse, hempty, hbare, hparts]
    | none =>
      simp only [parse, if_neg hempty, hbare]
      cases hparts : readParts .zero (Text.trim s.toList) with
      | error e => simp
      | ok sum =>
        by_cases hfits : sum.wholeAbs < twoTo 64 <;> simp [hfits]

end Duration

/-- Only a text for a duration can overflow. -/
theorem Value.parse_eq_durationOverflow_iff (kind : FieldType) (s : String) :
    parse kind s = .error .durationOverflow ↔ kind = .duration ∧ Duration.Overflows s := by
  rw [← Duration.parse_eq_overflow_iff]
  cases kind with
  | duration =>
    simp only [parse, true_and]
    cases Duration.parse s with
    | ok d => simp
    | error fault => cases fault <;> simp [notAValue]
  | string | json | array => simp [parse]
  | int | float | bool | time =>
    simp only [parse, reduceCtorEq, false_and, iff_false]
    split <;> simp [notAValue]

/-- Only a string for a duration can overflow. -/
theorem FieldValue.ofWire_eq_durationOverflow_iff (kind : FieldType) (wire : Json) :
    ofWire kind wire = .error .durationOverflow ↔
      kind = .duration ∧ ∃ s, wire = .string s ∧ Duration.Overflows s := by
  by_cases hstring : ∃ s, wire = .string s
  · obtain ⟨s, rfl⟩ := hstring
    have hmap : ∀ x : Except Error Value,
        x.map FieldValue.set = .error .durationOverflow ↔ x = .error .durationOverflow := by
      intro x
      cases x <;> simp [Except.map]
    cases kind with
    | json => simp [ofWire]
    | string | int | float | bool | time | array | duration =>
      simp [ofWire, hmap, Value.parse_eq_durationOverflow_iff]
  · have hnone : ¬ ofWire kind wire = .error .durationOverflow := by
      simp only [ofWire]
      split
      · simp
      · simp
      · split <;> simp [notAWireValue]
      · split <;> simp [notAWireValue]
      · simp
      · split <;> simp [notAWireValue]
      · split <;> simp [notAWireValue]
      · exact absurd ⟨_, rfl⟩ hstring
      · simp [notAWireValue]
    constructor
    · exact fun h => absurd h hnone
    · rintro ⟨_, s, hs, _⟩
      exact absurd ⟨s, hs⟩ hstring

/-! ## Computations that do not overflow -/

section Answers

variable {α β : Type}

/-- A computation gives a result or a failure that is reported. -/
def Answers (x : Except Error α) : Prop :=
  x ≠ .error .durationOverflow

/-- Whether an error is the overflow that nothing handles. -/
def Error.isOverflow : Error → Bool
  | .durationOverflow => true
  | _ => false

theorem Error.isOverflow_iff {e : Error} : e.isOverflow = true ↔ e = .durationOverflow := by
  cases e <;> simp [isOverflow]

@[simp] theorem answers_ok (a : α) : Answers (.ok a : Except Error α) := by
  simp [Answers]

theorem answers_error_iff {e : Error} :
    Answers (.error e : Except Error α) ↔ ¬ e.isOverflow = true := by
  simp [Answers, Error.isOverflow_iff]

instance : (x : Except Error α) → Decidable (Answers x)
  | .ok a => .isTrue (answers_ok a)
  | .error _ => decidable_of_iff' _ answers_error_iff

@[simp] theorem answers_config (fault : ConfigFault) :
    Answers (.error (.config fault) : Except Error α) := by
  simp [Answers]

@[simp] theorem answers_invalidRequest (fault : RequestFault) :
    Answers (.error (.invalidRequest fault) : Except Error α) := by
  simp [Answers]

theorem Answers.map {x : Except Error α} (h : Answers x) (f : α → β) : Answers (x.map f) := by
  cases x with
  | error e => simpa [Answers, Except.map] using h
  | ok a => exact answers_ok (f a)

theorem Answers.bind {x : Except Error α} {f : α → Except Error β} (h : Answers x)
    (hf : ∀ a, x = .ok a → Answers (f a)) : Answers (x >>= f) := by
  cases x with
  | error e => simpa [Answers, Bind.bind, Except.bind] using h
  | ok a => exact hf a rfl

theorem answers_mapM {f : α → Except Error β} {xs : List α} (h : ∀ x ∈ xs, Answers (f x)) :
    Answers (xs.mapM f) := by
  induction xs with
  | nil => simp [Pure.pure, Except.pure]
  | cons x xs ih =>
    rw [List.mapM_cons]
    refine (h x List.mem_cons_self).bind fun y _ => ?_
    refine (ih fun x' hx' => h x' (List.mem_cons_of_mem x hx')).bind fun ys _ => ?_
    exact answers_ok (y :: ys)

end Answers

theorem answers_compilePattern (pattern : String) : Answers (compilePattern pattern) := by
  simp only [compilePattern]
  split <;> simp

theorem answers_expressionTest (pattern : String) : Answers (expressionTest pattern) :=
  (answers_compilePattern pattern).map _

namespace Schema

theorem answers_require (s : Schema) (name : String) : Answers (s.require name) := by
  simp only [require]
  split <;> simp

theorem answers_source (s : Schema) (f : Field) : Answers (s.source f) := by
  simp only [source]
  split
  · simp
  · split
    · simp
    · split <;> simp
  · simp

end Schema

/-! ## Conditions -/

namespace Leaf

/-- A condition compares a field of durations with a text that is too long to add up. -/
def OverflowsOn (l : Leaf) (f : Field) : Prop :=
  f.kind = .duration ∧ ∃ v, l.value = some (.literal v) ∧ Duration.Overflows (restore v)

variable {l : Leaf} {f : Field} {schema : Schema}

theorem answers_textCondition (l : Leaf) (o : Operand) : Answers (l.textCondition o) := by
  simp only [textCondition]
  split
  · simp
  · split
    · exact (answers_expressionTest _).map _
    · simp
  · split
    · simp
    · split
      · split <;> simp
      · split <;> simp

theorem answers_arrayCondition (l : Leaf) (f : Field) (s : Source) :
    Answers (l.arrayCondition f s) := by
  simp only [arrayCondition]
  split
  · simp
  · split
    · exact (answers_expressionTest _).map _
    · simp
  · split
    · simp
    · split
      · simp
      · split <;> simp

/-- The value of a condition is the only thing in it that can overflow. -/
theorem answers_scalarCondition (h : ¬ l.OverflowsOn f) (s : Source) :
    Answers (l.scalarCondition f s) := by
  simp only [scalarCondition]
  split
  · simp
  · split
    · exact (answers_expressionTest _).map _
    · simp
  · next v hvalue =>
    split
    · simp
    · split
      · simp
      · have hparse : Answers (Value.parse f.kind (restore v)) := by
          rw [Answers, ne_eq, Value.parse_eq_durationOverflow_iff]
          exact fun ⟨hkind, hover⟩ => h ⟨hkind, v, hvalue, hover⟩
        exact hparse.map _

theorem answers_fieldCondition (h : ¬ l.OverflowsOn f) (s : Source) (category : String)
    (steps : List Segment) : Answers (l.fieldCondition f s category steps) := by
  simp only [fieldCondition]
  split
  · exact answers_textCondition l _
  · exact answers_textCondition l _
  · simp
  · exact answers_arrayCondition l f s
  · exact answers_scalarCondition h s

theorem answers_conditionOn (h : ∀ f ∈ schema.fields, ¬ l.OverflowsOn f) (category : String) :
    Answers (l.conditionOn schema category) := by
  simp only [conditionOn]
  split
  · simp
  · next path _ =>
    refine (schema.answers_require path.field).bind fun f hf => ?_
    refine (schema.answers_source f).bind fun s _ => ?_
    have hmem : f ∈ schema.fields := List.mem_of_find?_eq_some (Schema.field?_of_require hf)
    exact answers_fieldCondition (h f hmem) s category path.segments

theorem answers_formula (h : ∀ f ∈ schema.fields, ¬ l.OverflowsOn f) :
    Answers (l.formula schema) := by
  simp only [formula]
  split
  · exact (answers_conditionOn h _).map _
  · refine (answers_compilePattern _).bind fun r _ => ?_
    refine (answers_mapM fun f _ => (answers_conditionOn h f.name).map _).bind fun parts _ => ?_
    split <;> simp

end Leaf

namespace Node

variable {schema : Schema}

mutual

/-- The formula of a node overflows only on one of its conditions. -/
theorem answers_formula? : (n : Node) →
    (∀ l ∈ n.leaves, ∀ f ∈ schema.fields, ¬ l.OverflowsOn f) → Answers (n.formula? schema)
  | leaf l, h => by
    rw [formula?]
    exact (Leaf.answers_formula (h l (List.mem_singleton_self l))).map _
  | group op comparison members, h => by
    rw [leaves_group] at h
    cases op with
    | neg =>
      match members, h with
      | [], _ => simp [formula?, negationArity]
      | [n], h =>
        rw [formula?]
        refine (answers_formula? n fun l hl => h l (by simpa using hl)).bind fun o _ => ?_
        exact answers_ok _
      | _ :: _ :: _, _ => simp [formula?, negationArity]
    | conj =>
      simp only [formula?]
      exact (answers_formulas members h).bind fun fs _ => answers_ok _
    | disj =>
      simp only [formula?]
      exact (answers_formulas members h).bind fun fs _ => answers_ok _
    | compare c =>
      simp only [formula?]
      exact (answers_formulas members h).bind fun fs _ => answers_ok _

theorem answers_formulas : (ms : List Node) →
    (∀ l ∈ ms.flatMap leaves, ∀ f ∈ schema.fields, ¬ l.OverflowsOn f) →
      Answers (formulas schema ms)
  | [], _ => by simp [formulas]
  | n :: rest, h => by
    rw [List.flatMap_cons] at h
    rw [formulas]
    refine (answers_formula? n fun l hl => h l (List.mem_append_left _ hl)).bind fun o _ => ?_
    refine (answers_formulas rest fun l hl => h l (List.mem_append_right _ hl)).bind fun fs _ => ?_
    exact answers_ok _

end

end Node

/-! ## Requests -/

theorem Query.answers_namesOf (list : String) (ts : List Token) : Answers (namesOf list ts) := by
  induction ts with
  | nil => simp [namesOf]
  | cons t rest ih =>
    simp only [namesOf]
    split
    · exact ih.map _
    · exact ih
    · exact ih
    · simp

theorem Query.answers_names (list : String) : Answers (names list) :=
  answers_namesOf list _

namespace Compiler

variable {c : Compiler} {q : Query} {t : Tree}

theorem answers_pageSize (c : Compiler) (size : Option Nat) : Answers (c.pageSize size) := by
  unfold pageSize
  split
  · simp
  · split <;> simp

theorem answers_outputs (c : Compiler) : Answers c.outputs := by
  simp only [outputs]
  refine Answers.bind (answers_mapM fun f _ => ?_) fun items _ => ?_
  · exact (c.schema.answers_source f).bind fun s _ => answers_ok _
  · split
    · exact answers_config _
    · exact answers_ok items

theorem answers_order (c : Compiler) (sort : String) : Answers (c.order sort) := by
  simp only [order]
  refine (Query.answers_names sort).bind fun names _ => ?_
  split
  · simp only [standardOrder]
    split
    · simp
    · exact (c.schema.answers_source _).map _
  · refine answers_mapM fun name _ => ?_
    simp only [orderKey]
    refine (c.schema.answers_require _).bind fun f _ => ?_
    exact (c.schema.answers_source f).bind fun s _ => answers_ok _

theorem answers_pagePlan (hformula : Answers (t.formula? c.schema)) : Answers (c.pagePlan t q) := by
  simp only [pagePlan]
  refine (c.answers_pageSize q.size).bind fun size _ => ?_
  split
  · exact answers_invalidRequest _
  · refine c.answers_outputs.bind fun items _ => ?_
    refine hformula.bind fun condition _ => ?_
    exact (c.answers_order q.sort).bind fun keys _ => answers_ok _

theorem answers_groupPlan (hformula : Answers (t.formula? c.schema)) (names : List String) :
    Answers (c.groupPlan t names) := by
  simp only [groupPlan]
  refine hformula.bind fun condition _ => ?_
  refine Answers.bind (answers_mapM fun name _ => ?_) fun items _ => answers_ok _
  simp only [groupOutput]
  refine (c.schema.answers_require name).bind fun f _ => ?_
  exact (c.schema.answers_source f).bind fun s _ => answers_ok _

theorem answers_parse (c : Compiler) (search : String) : Answers (c.parse search) := by
  simp only [parse]
  cases Tree.parse search c.primary { decodeBase64 := c.config.decodeBase64 } with
  | error e => simp [Except.mapError, Answers]
  | ok t => simp [Except.mapError]

/-- A request overflows only if its search compares a field of durations with a text that is too
long to add up. -/
theorem exists_of_select_overflow (h : c.select q = .error .durationOverflow) :
    ∃ t, c.parse q.search = .ok t ∧
      ∃ l ∈ t.root.leaves, ∃ f ∈ c.schema.fields, l.OverflowsOn f := by
  by_contra hnone
  have hanswers : Answers (c.select q) := by
    refine (c.answers_parse q.search).bind fun t ht => ?_
    have hformula : Answers (t.formula? c.schema) :=
      t.root.answers_formula? fun l hl f hf hover => hnone ⟨t, ht, l, hl, f, hf, hover⟩
    rw [selectTree_eq]
    refine Answers.map ?_ _
    refine (Query.answers_names q.summary).bind fun names _ => ?_
    split
    · exact answers_pagePlan hformula
    · exact answers_groupPlan hformula names
  exact hanswers h

end Compiler

/-- Where an overflow comes from.  Reading a duration overflows on exactly the texts that are too
long to add up.  A text or a JSON value for a field overflows exactly if the field holds durations
and the text is one of those.  A request overflows only if its search compares a field of durations
with one of them. -/
theorem overflow_sources (s : String) (kind : FieldType) (wire : Json) (c : Compiler) (q : Query) :
    (Duration.parse s = .error .overflow ↔ Duration.Overflows s) ∧
      (Value.parse kind s = .error .durationOverflow ↔
        kind = .duration ∧ Duration.Overflows s) ∧
      (FieldValue.ofWire kind wire = .error .durationOverflow ↔
        kind = .duration ∧ ∃ text, wire = .string text ∧ Duration.Overflows text) ∧
      (c.select q = .error .durationOverflow →
        ∃ t, c.parse q.search = .ok t ∧
          ∃ l ∈ t.root.leaves, ∃ f ∈ c.schema.fields, l.OverflowsOn f) :=
  ⟨Duration.parse_eq_overflow_iff s, Value.parse_eq_durationOverflow_iff kind s,
    FieldValue.ofWire_eq_durationOverflow_iff kind wire, Compiler.exists_of_select_overflow⟩

/-- A relation with a field of durations. -/
def timed : Compiler where
  schema :=
    { table := "task"
      fields := [{ name := "name", kind := .string, primary := true },
        { name := "spent", kind := .duration }] }

/-- The largest number of hours that a decimal can hold in nanoseconds, and one hour more. -/
def tooLong : String := "22007822920628982h1h"

/-- A request for the rows whose field of durations is that long. -/
def tooLongRequest : Query := { search := "spent:" ++ tooLong }

theorem overflow_sources_request :
    timed.select tooLongRequest = .error .durationOverflow ∧
      ∃ t, timed.parse tooLongRequest.search = .ok t ∧
        ∃ l ∈ t.root.leaves, ∃ f ∈ timed.schema.fields, l.OverflowsOn f := by
  have hselect : ¬ Answers (timed.select tooLongRequest) := by decide +kernel
  have hsources := overflow_sources tooLong .duration .null timed tooLongRequest
  exact ⟨not_not.mp hselect, hsources.2.2.2 (not_not.mp hselect)⟩

/-- There is no answer to a text that is too long to add up, wherever it comes in. -/
theorem tooLong_overflows :
    Duration.parse tooLong = .error .overflow ∧
      Value.parse .duration tooLong = .error .durationOverflow ∧
      FieldValue.ofWire .duration (.string tooLong) = .error .durationOverflow ∧
      timed.select tooLongRequest = .error .durationOverflow := by
  have hselect : ¬ Answers (timed.select tooLongRequest) := by decide +kernel
  have hvalue : ¬ Answers (Value.parse .duration tooLong) := by decide +kernel
  have hover : Duration.Overflows tooLong :=
    ((Value.parse_eq_durationOverflow_iff _ _).mp (not_not.mp hvalue)).2
  refine ⟨(Duration.parse_eq_overflow_iff tooLong).mpr hover, not_not.mp hvalue, ?_,
    not_not.mp hselect⟩
  exact (FieldValue.ofWire_eq_durationOverflow_iff _ _).mpr ⟨rfl, tooLong, rfl, hover⟩

end TagSearch
