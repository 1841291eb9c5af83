import Mathlib.Data.List.Nodup
import TagSearch.Schema.Row

/-!
# Storing values and reading them back

A value is bound as the parameter that the store keeps, and a column is read by the kind of its
field.  What comes back is the value that was bound; only a duration comes back in whole
milliseconds, and no longer than the store can keep.

Main results:

- Definition `Value.stored`: a value as it comes back.
- Theorem `Duration.stored_eq_self_iff`: the durations that come back as they were bound.
- Theorem `Value.ofParam_toParam`: each value is read back from its parameter.
- Theorems `Schema.decodeInto_of_bound` and `Schema.decodeInto_row`: one column of an assignment,
  and a whole row, give their values to their fields.
- Theorem `Schema.storage_roundTrip`: values, nulls and whole rows come back as they were bound.
-/

namespace TagSearch

/-! ## Values -/

/-- A duration as it comes back: in whole milliseconds, and no more of them than the store can
keep. -/
def Duration.stored (d : Duration) : Duration :=
  .ofMillis (min d.millis Value.maxStoredMillis)

/-- A value as it comes back. -/
def Value.stored : Value → Value
  | .duration d => .duration d.stored
  | v => v

/-- A field value as it comes back. -/
def FieldValue.stored : FieldValue → FieldValue
  | .set v => .set v.stored
  | v => v

/-- A duration comes back as it was bound exactly when it is made up of whole milliseconds, and of
no more than the store can keep. -/
theorem Duration.stored_eq_self_iff (d : Duration) :
    d.stored = d ↔ d.truncate = d ∧ d.millis ≤ Value.maxStoredMillis := by
  obtain ⟨nanos⟩ := d
  simp only [stored, truncate, ofMillis, millis, mk.injEq]
  omega

/-- Each value is read back from its parameter, by its own kind. -/
theorem Value.ofParam_toParam (v : Value) :
    FieldValue.ofParam v.kind v.toParam = .ok (.set v.stored) := by
  cases v with
  | duration d =>
    have hmillis : (min (d.millis : Int) maxStoredMillis).toNat = min d.millis maxStoredMillis := by
      omega
    simp only [kind, toParam, FieldValue.ofParam, stored, Duration.stored, hmillis]
  | _ => rfl

/-- Null is read back as null, whatever the kind of the field. -/
theorem FieldValue.ofParam_null (kind : FieldType) : ofParam kind .null = .ok .null := by
  cases kind <;> rfl

/-- What can be bound for a field of a kind: null, or a value of the kind. -/
inductive FieldValue.IsBound (kind : FieldType) : FieldValue → Prop where
  | null : IsBound kind .null
  | set {v : Value} (hkind : v.kind = kind) : IsBound kind (.set v)

theorem FieldValue.IsBound.ofParam {kind : FieldType} {value : FieldValue}
    (h : value.IsBound kind) :
    ∃ p, value.toParam = some p ∧ FieldValue.ofParam kind p = .ok value.stored := by
  cases h with
  | null => exact ⟨.null, rfl, ofParam_null kind⟩
  | @set v hkind =>
    subst hkind
    exact ⟨v.toParam, rfl, v.ofParam_toParam⟩

/-! ## Rows -/

/-- A field of the schema has the name of the entry, and the value of the entry can be bound for
it. -/
def Schema.Binds (s : Schema) (entry : String × FieldValue) : Prop :=
  ∃ f ∈ s.fields, f.name = entry.1 ∧ entry.2.IsBound f.kind

theorem Schema.Binds.exists_toParam {s : Schema} {entry : String × FieldValue}
    (h : s.Binds entry) : ∃ p, entry.2.toParam = some p := by
  obtain ⟨f, _, _, hvalue⟩ := h
  obtain ⟨p, hparam, _⟩ := hvalue.ofParam
  exact ⟨p, hparam⟩

namespace Assignment

/-- The columns of an assignment, with the parameters that are bound for them. -/
def row (a : Assignment) : Row :=
  a.filterMap fun (name, value) => value.toParam.map fun p => (name, p)

/-- An assignment as it comes back. -/
def stored (a : Assignment) : Assignment :=
  a.map fun (name, value) => (name, value.stored)

/-- An assignment to some fields of a schema: each name once, each with null or a value of the
kind of its field. -/
structure Fits (a : Assignment) (s : Schema) : Prop where
  nodup : (a.map Prod.fst).Nodup
  bound : ∀ entry ∈ a, s.Binds entry

theorem row_cons {name : String} {value : FieldValue} {p : Param} (h : value.toParam = some p)
    (a : Assignment) : row ((name, value) :: a) = (name, p) :: a.row := by
  simp [row, h]

/-- A name that is not there yet is put at the end. -/
theorem put_of_notMem {name : String} (value : FieldValue) {a : Assignment}
    (h : name ∉ a.map Prod.fst) : put name value a = a ++ [(name, value)] := by
  induction a with
  | nil => rfl
  | cons p a ih =>
    obtain ⟨n, v⟩ := p
    rw [List.map_cons, List.mem_cons, not_or] at h
    rw [put, if_neg (Ne.symm h.1), ih h.2]
    rfl

end Assignment

namespace Schema

variable {s : Schema}

/-- The columns of a row that a schema describes. -/
def described (s : Schema) (r : Row) : Row :=
  r.filter fun (column, _) => (s.field? column).isSome

/-- With distinct names each field is found by its name. -/
theorem field?_of_mem (hnames : (s.fields.map Field.name).Nodup) {f : Field}
    (hf : f ∈ s.fields) : s.field? f.name = some f := by
  cases hfield : s.field? f.name with
  | none =>
    have hnone := List.find?_eq_none.mp hfield f hf
    simp at hnone
  | some g =>
    have hmem : g ∈ s.fields := List.mem_of_find?_eq_some hfield
    rw [List.inj_on_of_nodup_map hnames hmem hf (name_of_field? hfield)]

theorem decodeInto_of_none {column : String} (h : s.field? column = none) (done : Assignment)
    (p : Param) (r : Row) : s.decodeInto done ((column, p) :: r) = s.decodeInto done r := by
  simp only [decodeInto, h]

/-- A column of an assignment puts its value behind the values read so far. -/
theorem decodeInto_of_bound (hnames : (s.fields.map Field.name).Nodup) {name : String}
    {value : FieldValue} {p : Param} (hbound : s.Binds (name, value))
    (hparam : value.toParam = some p) {done : Assignment} (hnew : name ∉ done.map Prod.fst)
    (r : Row) :
    s.decodeInto done ((name, p) :: r) = s.decodeInto (done ++ [(name, value.stored)]) r := by
  obtain ⟨f, hf, rfl, hvalue⟩ := hbound
  obtain ⟨q, hq, hread⟩ := hvalue.ofParam
  obtain rfl : q = p := Option.some.inj (hq.symm.trans hparam)
  simp only [decodeInto, field?_of_mem hnames hf, hread]
  rw [Assignment.put_of_notMem _ hnew]

/-- The columns of an assignment give their values to their fields, behind the values read so
far.  Other columns in between give nothing. -/
theorem decodeInto_row (hnames : (s.fields.map Field.name).Nodup) {r : Row}
    {done a : Assignment} (hbound : ∀ entry ∈ a, s.Binds entry)
    (hnodup : (done.map Prod.fst ++ a.map Prod.fst).Nodup) (hrow : s.described r = a.row) :
    s.decodeInto done r = .ok (done ++ a.stored) := by
  induction r generalizing done a with
  | nil =>
    cases a with
    | nil => simp [decodeInto, Assignment.stored]
    | cons entry a =>
      obtain ⟨p, hparam⟩ := (hbound entry List.mem_cons_self).exists_toParam
      rw [Assignment.row_cons hparam] at hrow
      cases hrow
  | cons c r ih =>
    obtain ⟨column, p⟩ := c
    cases hfield : s.field? column with
    | none =>
      rw [described, List.filter_cons_of_neg (by simp [hfield])] at hrow
      rw [decodeInto_of_none hfield]
      exact ih hbound hnodup hrow
    | some f =>
      rw [described, List.filter_cons_of_pos (by simp [hfield])] at hrow
      cases a with
      | nil => cases hrow
      | cons entry a =>
        obtain ⟨name, value⟩ := entry
        have hentry := hbound (name, value) List.mem_cons_self
        obtain ⟨q, hparam⟩ := hentry.exists_toParam
        rw [Assignment.row_cons hparam, List.cons.injEq, Prod.mk.injEq] at hrow
        obtain ⟨⟨rfl, rfl⟩, hrest⟩ := hrow
        have hnew : column ∉ done.map Prod.fst := fun hmem =>
          (List.disjoint_of_nodup_append hnodup) hmem List.mem_cons_self
        have hnext : ((done ++ [(column, value.stored)]).map Prod.fst ++ a.map Prod.fst).Nodup := by
          simpa using hnodup
        have hothers := fun other hother => hbound other (List.mem_cons_of_mem _ hother)
        rw [decodeInto_of_bound hnames hentry hparam hnew, ih hothers hnext hrest]
        simp [Assignment.stored]

/-- Every value comes back as it was bound, but for the length of durations, and null comes back
as null.  A row comes back as the assignment whose parameters are its columns, in the order of the
row, whatever other columns stand between them. -/
theorem storage_roundTrip :
    (∀ v : Value, FieldValue.ofParam v.kind v.toParam = .ok (.set v.stored)) ∧
      (∀ kind : FieldType, FieldValue.ofParam kind .null = .ok .null) ∧
      ∀ (s : Schema) (a : Assignment) (r : Row), (s.fields.map Field.name).Nodup → a.Fits s →
        s.described r = a.row → s.decode r = .ok a.stored := by
  refine ⟨Value.ofParam_toParam, FieldValue.ofParam_null, ?_⟩
  intro s a r hnames hfits hrow
  have hdecode : s.decodeInto [] r = .ok ([] ++ a.stored) :=
    decodeInto_row hnames hfits.bound hfits.nodup hrow
  rwa [List.nil_append] at hdecode

/-- The null of a document stays apart from null in a column, a duration loses half a millisecond,
and a column that no field describes is passed over. -/
theorem storage_roundTrip_foreign :
    let task : Schema := { table := "task", fields := [
      { name := "id", kind := .string }, { name := "data", kind := .json },
      { name := "due", kind := .time }, { name := "spent", kind := .duration }] }
    let a : Assignment := [("spent", .set (.duration ⟨1500000⟩)), ("data", .set (.json .null)),
      ("due", .null)]
    let r : Row := [("spent", .int 1), ("xmin", .int 7), ("data", .json .null), ("due", .null)]
    (task.fields.map Field.name).Nodup ∧ a.Fits task ∧ task.described r = a.row ∧
      task.decode r = .ok a.stored ∧
      a.stored = [("spent", .set (.duration ⟨1000000⟩)), ("data", .set (.json .null)),
        ("due", .null)] := by
  intro task a r
  have hnames : (task.fields.map Field.name).Nodup := by decide
  have hfits : a.Fits task := by
    refine ⟨by decide, ?_⟩
    intro p hp
    simp only [a, List.mem_cons, List.not_mem_nil, or_false] at hp
    rcases hp with rfl | rfl | rfl
    · exact ⟨{ name := "spent", kind := .duration }, by decide, rfl, .set rfl⟩
    · exact ⟨{ name := "data", kind := .json }, by decide, rfl, .set rfl⟩
    · exact ⟨{ name := "due", kind := .time }, by decide, rfl, .null⟩
  have hrow : task.described r = a.row := rfl
  exact ⟨hnames, hfits, hrow, storage_roundTrip.2.2 task a r hnames hfits hrow, rfl⟩

end Schema

end TagSearch
