import TagSearch.Proofs.Success
import TagSearch.Proofs.TimeText
import TagSearch.Values.Value

/-!
# Field values over the wire

A value that was read from JSON goes over the wire as JSON again, which is read as the same value.
Times are the exception: they are written in universal time, which may move them to a year of more
than four digits or before year 0, and such a year is written with a sign that the reader refuses.

Main results:

- Definition `FieldValue.IsRead`: the values that the readers give.
- Theorem `FieldValue.isRead_of_ofWire`: no other value is read.
- Theorem `FieldValue.wire_roundTrip`: what becomes of the wire form of a value that was read.
- Theorem `FieldValue.wire_refused`: a time that does not read back.
-/

namespace TagSearch

namespace FieldValue

variable {kind : FieldType} {w : Json} {v : FieldValue}

/-! ## What is read -/

/-- The values that are read as one of a kind, for kinds other than floats and durations. -/
inductive IsRead : FieldType → FieldValue → Prop where
  | null {kind : FieldType} : IsRead kind .null
  | string (s : String) : IsRead .string (.set (.string s))
  | int {i : Int} (h : Text.IsInt64 i) : IsRead .int (.set (.int i))
  | bool (b : Bool) : IsRead .bool (.set (.bool b))
  | time {t : Timestamp} (h : t.IsRegular) : IsRead .time (.set (.time t))
  | json {j : Json} (h : j ≠ .null) : IsRead .json (.set (.json j))
  | array (items : List String) : IsRead .array (.set (.array items))

/-- A number is a signed integer exactly if it is an integer that fits 64 bits. -/
theorem int64?_eq_some_iff {n : JsonNumber} {i : Int} :
    n.int64? = some i ↔ n = .int i ∧ Text.IsInt64 i := by
  have hbound : (twoTo 63 : Int) = 9223372036854775808 := rfl
  cases n with
  | int m =>
    have hrange : (JsonNumber.minInt64 ≤ m ∧ m ≤ JsonNumber.maxInt64) ↔ Text.IsInt64 m := by
      simp only [JsonNumber.minInt64, JsonNumber.maxInt64, Text.IsInt64]
      omega
    simp only [JsonNumber.int64?, Option.ite_none_right_eq_some, Option.some.injEq,
      JsonNumber.int.injEq, hrange]
    constructor
    · rintro ⟨hm, rfl⟩
      exact ⟨rfl, hm⟩
    · rintro ⟨rfl, hm⟩
      exact ⟨hm, rfl⟩
  | float x => simp [JsonNumber.int64?]

/-- What a text is read as. -/
theorem isRead_of_parse (hfloat : kind ≠ .float) (hduration : kind ≠ .duration)
    (hjson : kind ≠ .json) {s : String} {value : Value} (h : Value.parse kind s = .ok value) :
    IsRead kind (.set value) := by
  cases kind with
  | string =>
    rw [← Except.ok.inj h]
    exact .string s
  | int =>
    cases hread : Text.readInt64 (Text.trim s.toList) with
    | none => simp [Value.parse, hread] at h
    | some i =>
      simp only [Value.parse, hread, Except.ok.injEq] at h
      rw [← h]
      exact .int (Text.readInt64_eq_some_iff.mp hread).2
  | bool =>
    cases hread : Value.parseBool s with
    | none => simp [Value.parse, hread] at h
    | some b =>
      simp only [Value.parse, hread, Except.ok.injEq] at h
      rw [← h]
      exact .bool b
  | time =>
    cases hread : Timestamp.parse s with
    | none => simp [Value.parse, hread] at h
    | some t =>
      simp only [Value.parse, hread, Except.ok.injEq] at h
      rw [← h]
      exact .time (Timestamp.isRegular_of_parse hread)
  | array =>
    rw [← Except.ok.inj h]
    exact .array [s]
  | float => exact absurd rfl hfloat
  | json => exact absurd rfl hjson
  | duration => exact absurd rfl hduration

/-- What a JSON value is read as. -/
theorem isRead_of_ofWire (hfloat : kind ≠ .float) (hduration : kind ≠ .duration)
    (h : ofWire kind w = .ok v) : IsRead kind v := by
  unfold ofWire at h
  simp only at h
  split at h
  · rw [← Except.ok.inj h]
    exact .null
  · next hnull =>
    rw [← Except.ok.inj h]
    exact .json hnull
  · next n =>
    cases hread : n.int64? with
    | none => simp [hread] at h
    | some i =>
      simp only [hread, Except.ok.injEq] at h
      rw [← h]
      exact .int (int64?_eq_some_iff.mp hread).2
  · exact absurd rfl hfloat
  · rw [← Except.ok.inj h]
    exact .bool _
  · next items =>
    cases hread : strings? items with
    | none => simp [hread] at h
    | some strings =>
      simp only [hread, Except.ok.injEq] at h
      rw [← h]
      exact .array strings
  · exact absurd rfl hduration
  · next hjson =>
    obtain ⟨value, hvalue, rfl⟩ := exists_of_map_eq_ok h
    exact isRead_of_parse hfloat hduration hjson hvalue
  · cases h

/-! ## What is written -/

/-- The text of a value is one that its reader takes: a time has a year of four digits. -/
def IsWritable : FieldValue → Prop
  | .set (.time t) => 0 ≤ t.date.year ∧ t.date.year ≤ 9999
  | _ => True

theorem strings?_map (items : List String) : strings? (items.map .string) = some items := by
  induction items with
  | nil => rfl
  | cons s items ih => rw [List.map_cons, strings?, ih, Option.map_some]

theorem ofWire_of_parse {s : String} {t : Timestamp} (h : Timestamp.parse s = some t) :
    ofWire .time (.string s) = .ok (.set (.time t)) := by
  simp only [ofWire, Value.parse, h]
  rfl

theorem ofWire_of_parse_eq_none {s : String} (h : Timestamp.parse s = none) :
    ofWire .time (.string s) = .error (Value.notAValue .time s) := by
  simp only [ofWire, Value.parse, h]
  rfl

/-- The wire form of a time is read if the year has four digits, and refused otherwise. -/
theorem ofWire_time {t : Timestamp} (h : t.IsRegular) :
    ofWire .time (.string t.text) =
      if 0 ≤ t.date.year ∧ t.date.year ≤ 9999 then .ok (.set (.time t))
      else .error (Value.notAValue .time t.text) := by
  have hread := Timestamp.parse_clock h
  by_cases hyear : 0 ≤ t.date.year ∧ t.date.year ≤ 9999
  · rw [if_pos hyear] at hread ⊢
    exact ofWire_of_parse hread
  · rw [if_neg hyear] at hread ⊢
    exact ofWire_of_parse_eq_none hread

/-- A value that was read is read again from its wire form, unless it is a time whose year does not
have four digits.  The wire form of such a time is refused. -/
theorem wire_roundTrip (hfloat : kind ≠ .float) (hduration : kind ≠ .duration)
    (h : ofWire kind w = .ok v) :
    (v.IsWritable → ofWire kind v.toWire = .ok v) ∧
      (¬ v.IsWritable → ∃ t, kind = .time ∧ v = .set (.time t) ∧
        ofWire kind v.toWire = .error (Value.notAValue .time t.text)) := by
  cases isRead_of_ofWire hfloat hduration h with
  | null => exact ⟨fun _ => by cases kind <;> rfl, fun hnot => absurd trivial hnot⟩
  | string s => exact ⟨fun _ => rfl, fun hnot => absurd trivial hnot⟩
  | int hi =>
    refine ⟨fun _ => ?_, fun hnot => absurd trivial hnot⟩
    have hread := int64?_eq_some_iff.mpr ⟨rfl, hi⟩
    simp only [toWire, Value.toWire, ofWire, hread]
  | bool b => exact ⟨fun _ => rfl, fun hnot => absurd trivial hnot⟩
  | @time t ht =>
    refine ⟨fun hyear => ?_, fun hyear => ⟨t, rfl, rfl, ?_⟩⟩
    · exact (ofWire_time ht).trans (if_pos hyear)
    · exact (ofWire_time ht).trans (if_neg hyear)
  | @json j hj =>
    refine ⟨fun _ => ?_, fun hnot => absurd trivial hnot⟩
    simp only [toWire, Value.toWire]
    cases j with
    | null => exact absurd rfl hj
    | _ => rfl
  | array items =>
    refine ⟨fun _ => ?_, fun hnot => absurd trivial hnot⟩
    simp only [toWire, Value.toWire, ofWire, strings?_map]

/-- A leap second, given with an offset and more digits than are kept. -/
theorem wire_roundTrip_leap :
    let t : Timestamp := ⟨⟨2016, 12, 31⟩, 86399, 1123456789⟩
    FieldType.time ≠ .float ∧ FieldType.time ≠ .duration ∧
      ofWire .time (.string " 2017-01-01t00:59:60.1234567891+01:00") = .ok (.set (.time t)) ∧
      IsWritable (.set (.time t)) ∧
      ofWire .time (.string "2016-12-31T23:59:60.123456789+00:00") = .ok (.set (.time t)) := by
  intro t
  have hread : ofWire .time (.string " 2017-01-01t00:59:60.1234567891+01:00") =
      .ok (.set (.time t)) := ofWire_of_parse (by decide +kernel)
  have hwritable : IsWritable (.set (.time t)) := ⟨by decide, by decide⟩
  have htext : t.text = "2016-12-31T23:59:60.123456789+00:00" := by decide +kernel
  have hagain := (wire_roundTrip (by decide) (by decide) hread).1 hwritable
  rw [toWire, Value.toWire, htext] at hagain
  exact ⟨by decide, by decide, hread, hwritable, hagain⟩

/-- The last second of the year 9999 where clocks are an hour behind, and a date with a year of five
digits. -/
theorem wire_refused :
    ∃ t t', ofWire .time (.string "9999-12-31T23:59:59-01:00") = .ok (.set (.time t)) ∧
      (FieldValue.set (.time t)).toWire = .string "+10000-01-01T00:59:59+00:00" ∧
      ofWire .time (.string "+10000-01-01T00:59:59+00:00") =
        .error (Value.notAValue .time "+10000-01-01T00:59:59+00:00") ∧
      ofWire .time (.string "-0001-02-03") = .ok (.set (.time t')) ∧
      (FieldValue.set (.time t')).toWire = .string "-0001-02-03T00:00:00+00:00" ∧
      ofWire .time (.string "-0001-02-03T00:00:00+00:00") =
        .error (Value.notAValue .time "-0001-02-03T00:00:00+00:00") := by
  exact ⟨⟨⟨10000, 1, 1⟩, 3599, 0⟩, ⟨⟨-1, 2, 3⟩, 0, 0⟩, ofWire_of_parse (by decide +kernel),
    congrArg Json.string (by decide +kernel), ofWire_of_parse_eq_none (by decide +kernel),
    ofWire_of_parse (by decide +kernel), congrArg Json.string (by decide +kernel),
    ofWire_of_parse_eq_none (by decide +kernel)⟩

end FieldValue

end TagSearch
