import Mathlib.Data.List.Forall2
import TagSearch.Path
import TagSearch.Proofs.IntegerText
import TagSearch.Proofs.Success

/-!
# The grammar of paths

A path is written as a name with steps behind it: a point with a name, or brackets around the
numeral of a position.  Names are not empty and hold no point and no bracket; a position fits 64
bits and may stand between blanks.  A text is read as a path exactly if it has this form, and then
as the path that it writes.

Main results:

- Definition `Path.Writes`: the grammar of paths.
- Theorem `Path.readSegments?_eq_some_iff`: the steps that are read are those that are written.
- Theorem `Path.writes_text`: a well-formed path is written by its own text.
- Theorem `Path.parse?_eq_some_iff_writes`: the paths that are read, and the reading of their texts.
-/

namespace TagSearch

open Text

/-! ## The grammar -/

/-- A name is not empty and holds no point and no bracket. -/
structure Path.IsName (cs : List Char) : Prop where
  ne_nil : cs ≠ []
  isPlain : ∀ c ∈ cs, c ≠ '.' ∧ c ≠ '[' ∧ c ≠ ']'

namespace Segment

/-- The names and positions that a step can have. -/
def IsWellFormed : Segment → Prop
  | field name => Path.IsName name.toList
  | index i => IsInt64 i

/-- The text of a step. -/
def text : Segment → String
  | field name => "." ++ name
  | index i => "[" ++ toString i ++ "]"

end Segment

namespace Path

/-- A text writes one step below a field. -/
inductive WritesStep : List Char → Segment → Prop where
  | field {name : String} (h : IsName name.toList) : WritesStep ('.' :: name.toList) (.field name)
  | index {before numeral after : List Char} {i : Int} (hbefore : ∀ c ∈ before, isBlank c = true)
    (hnumeral : IsNumeral numeral i) (hrange : IsInt64 i) (hafter : ∀ c ∈ after, isBlank c = true) :
    WritesStep ('[' :: (before ++ numeral ++ after ++ [']'])) (.index i)

/-- A text writes a path: the name of its field, and its steps one behind the other. -/
def Writes (text : String) (p : Path) : Prop :=
  IsName p.field.toList ∧ ∃ parts, List.Forall₂ WritesStep parts p.segments ∧
    text.toList = p.field.toList ++ parts.flatten

/-- The names and positions that a path can have. -/
structure IsWellFormed (p : Path) : Prop where
  field : IsName p.field.toList
  segments : ∀ s ∈ p.segments, s.IsWellFormed

/-- The text of a path. -/
def text (p : Path) : String :=
  p.field ++ String.join (p.segments.map Segment.text)

variable {cs rest part : List Char} {name : String} {i : Int} {s : Segment}
  {segments : List Segment}

/-! ## Names and positions -/

/-- A run and what follows it are told apart by the first character that is not of the run. -/
theorem cut_eq_iff {inRun : Char → Bool} {run : List Char} :
    (cs.takeWhile inRun = run ∧ cs.dropWhile inRun = rest) ↔
      (∀ c ∈ run, inRun c = true) ∧ (∀ c ∈ rest.head?, inRun c = false) ∧ cs = run ++ rest := by
  constructor
  · rintro ⟨rfl, rfl⟩
    refine ⟨fun c hc => List.mem_takeWhile_imp hc, ?_, List.takeWhile_append_dropWhile.symm⟩
    intro c hc
    have hhead := List.head?_dropWhile_not inRun cs
    rw [Option.mem_def.mp hc] at hhead
    exact hhead
  · rintro ⟨hrun, hrest, rfl⟩
    rw [List.takeWhile_append_of_pos hrun, List.dropWhile_append_of_pos hrun]
    cases rest with
    | nil => simp
    | cons c rest => simp [hrest c rfl]

/-- A name is read up to the first break. -/
theorem readName?_eq_some_iff :
    readName? cs = some (name, rest) ↔
      IsName name.toList ∧ (∀ c ∈ rest.head?, isBreak c = true) ∧ cs = name.toList ++ rest := by
  have hcut : (cs.takeWhile (fun c => !isBreak c) = name.toList ∧
      cs.dropWhile (fun c => !isBreak c) = rest) ↔ (∀ c ∈ name.toList, (!isBreak c) = true) ∧
        (∀ c ∈ rest.head?, (!isBreak c) = false) ∧ cs = name.toList ++ rest := cut_eq_iff
  simp only [Bool.not_eq_true', Bool.not_eq_false'] at hcut
  constructor
  · intro h
    rw [readName?] at h
    split at h
    · cases h
    next hguard =>
      rw [not_or] at hguard
      obtain ⟨hne, hclose⟩ := hguard
      simp only [Option.some.injEq, Prod.mk.injEq] at h
      obtain ⟨htake, hdrop⟩ := h
      rw [← htake, String.toList_ofList] at hcut ⊢
      obtain ⟨hrun, hrest, hcs⟩ := hcut.mp ⟨rfl, hdrop⟩
      refine ⟨⟨hne, ?_⟩, hrest, hcs⟩
      intro c hc
      have hbreak := hrun c hc
      simp only [isBreak, Bool.or_eq_false_iff, beq_eq_false_iff_ne] at hbreak
      exact ⟨hbreak.1, hbreak.2, fun heq => hclose (heq ▸ hc)⟩
  · rintro ⟨hname, hrest, hcs⟩
    have hrun : ∀ c ∈ name.toList, isBreak c = false := by
      intro c hc
      obtain ⟨hpoint, hopen, _⟩ := hname.isPlain c hc
      simp [isBreak, hpoint, hopen]
    have hguard : ¬ (name.toList = [] ∨ ']' ∈ name.toList) := by
      rintro (hnil | hclose)
      · exact hname.ne_nil hnil
      · exact (hname.isPlain ']' hclose).2.2 rfl
    obtain ⟨htake, hdrop⟩ := hcut.mpr ⟨hrun, hrest, hcs⟩
    simp only [readName?, htake, hdrop, if_neg hguard, String.ofList_toList]

/-- A position is read up to the first closing bracket. -/
theorem readIndex?_eq_some_iff :
    readIndex? cs = some (i, rest) ↔
      ∃ inner, ']' ∉ inner ∧ readInt64 (trim inner) = some i ∧ cs = inner ++ ']' :: rest := by
  have hcut : ∀ inner rest, (cs.takeWhile (· != ']') = inner ∧ cs.dropWhile (· != ']') = rest) ↔
      (∀ c ∈ inner, (c != ']') = true) ∧ (∀ c ∈ rest.head?, (c != ']') = false) ∧
        cs = inner ++ rest := fun inner rest => cut_eq_iff
  rw [readIndex?]
  constructor
  · intro h
    split at h
    · cases h
    next close rest' hdrop =>
      obtain ⟨hinner, hclose, hcs⟩ := (hcut _ _).mp ⟨rfl, hdrop⟩
      have hclose : close = ']' := by simpa using hclose close rfl
      simp only [Option.map_eq_some_iff, Prod.mk.injEq] at h
      obtain ⟨i', hi, rfl, rfl⟩ := h
      rw [hclose] at hcs
      refine ⟨_, ?_, hi, hcs⟩
      intro hmem
      have hne := hinner ']' hmem
      simp at hne
  · rintro ⟨inner, hinner, hi, hcs⟩
    have hrun : ∀ c ∈ inner, (c != ']') = true := by
      intro c hc
      rw [bne_iff_ne]
      exact fun heq => hinner (heq ▸ hc)
    obtain ⟨htake, hdrop⟩ := (hcut inner (']' :: rest)).mpr ⟨hrun, by simp, hcs⟩
    simp only [htake, hdrop, hi, Option.map_some]

/-- What stands between brackets is the numeral of a position, between blanks. -/
theorem notMem_of_position {before numeral after : List Char}
    (hbefore : ∀ c ∈ before, isBlank c = true) (hnumeral : IsNumeral numeral i)
    (hafter : ∀ c ∈ after, isBlank c = true) : ']' ∉ before ++ numeral ++ after := by
  have hblank : isBlank ']' = false := by decide
  simp only [List.mem_append, not_or]
  refine ⟨⟨fun h => ?_, hnumeral.notMem (by decide) (by decide) (by decide)⟩, fun h => ?_⟩
  · simpa [hblank] using hbefore ']' h
  · simpa [hblank] using hafter ']' h

/-! ## Steps -/

/-- The text of a step begins with a break. -/
theorem WritesStep.exists_break (h : WritesStep part s) :
    ∃ c tail, part = c :: tail ∧ isBreak c = true := by
  cases h with
  | field hname => exact ⟨'.', _, rfl, rfl⟩
  | index hbefore hnumeral hrange hafter => exact ⟨'[', _, rfl, rfl⟩

/-- Behind a name and behind a closing bracket stands a break, or nothing. -/
theorem isBreak_of_head? {parts : List (List Char)} (h : List.Forall₂ WritesStep parts segments) :
    ∀ c ∈ parts.flatten.head?, isBreak c = true := by
  cases h with
  | nil => simp
  | cons hpart hparts =>
    obtain ⟨c, tail, rfl, hbreak⟩ := hpart.exists_break
    intro c' hc'
    cases hc'
    exact hbreak

/-- The step at the front of a text is read. -/
theorem readSegments?_append (h : WritesStep part s)
    (hrest : ∀ c ∈ rest.head?, isBreak c = true) :
    readSegments? (part ++ rest) = (readSegments? rest).map (s :: ·) := by
  cases h with
  | @field name hname =>
    have hread : readName? (name.toList ++ rest) = some (name, rest) :=
      readName?_eq_some_iff.mpr ⟨hname, hrest, rfl⟩
    rw [List.cons_append, readSegments?]
    split
    · next hnone =>
      rw [hread] at hnone
      cases hnone
    · next name' rest' hsome =>
      rw [hread] at hsome
      cases hsome
      rfl
  | @index before numeral after i hbefore hnumeral hrange hafter =>
    have hread : readIndex? (before ++ numeral ++ after ++ [']'] ++ rest) = some (i, rest) := by
      refine readIndex?_eq_some_iff.mpr ⟨before ++ numeral ++ after,
        notMem_of_position hbefore hnumeral hafter, ?_, by simp⟩
      exact readInt64_trim_eq_some_iff.mpr
        ⟨hrange, before, numeral, after, hbefore, hnumeral, hafter, rfl⟩
    rw [List.cons_append, readSegments?]
    split
    · next hnone =>
      rw [hread] at hnone
      cases hnone
    · next i' rest' hsome =>
      rw [hread] at hsome
      cases hsome
      rfl

/-- The steps that are read from a text are those that it writes. -/
theorem readSegments?_eq_some_iff :
    readSegments? cs = some segments ↔
      ∃ parts, List.Forall₂ WritesStep parts segments ∧ cs = parts.flatten := by
  constructor
  · intro h
    fun_induction readSegments? cs generalizing segments with
    | case1 =>
      cases h
      exact ⟨[], .nil, rfl⟩
    | case2 => cases h
    | case3 cs i rest hread ih =>
      obtain ⟨segments, hsegments, rfl⟩ := Option.map_eq_some_iff.mp h
      obtain ⟨parts, hparts, rfl⟩ := ih hsegments
      obtain ⟨inner, _, hinner, rfl⟩ := readIndex?_eq_some_iff.mp hread
      obtain ⟨hrange, before, numeral, after, hbefore, hnumeral, hafter, rfl⟩ :=
        readInt64_trim_eq_some_iff.mp hinner
      exact ⟨_, .cons (.index hbefore hnumeral hrange hafter) hparts, by simp⟩
    | case4 => cases h
    | case5 cs name rest hread ih =>
      obtain ⟨segments, hsegments, rfl⟩ := Option.map_eq_some_iff.mp h
      obtain ⟨parts, hparts, rfl⟩ := ih hsegments
      obtain ⟨hname, _, rfl⟩ := readName?_eq_some_iff.mp hread
      exact ⟨_, .cons (.field hname) hparts, by simp⟩
    | case6 => cases h
  · rintro ⟨parts, hparts, rfl⟩
    induction hparts with
    | nil => simp [readSegments?]
    | cons hpart hparts ih =>
      rw [List.flatten_cons, readSegments?_append hpart (isBreak_of_head? hparts), ih,
        Option.map_some]

/-- The path that is read from a text is the one that it writes. -/
theorem parse?_eq_some_iff {text : String} {p : Path} : parse? text = some p ↔ Writes text p := by
  rw [parse?]
  simp only [Option.bind_eq_bind, Option.bind_eq_some_iff, Prod.exists, readName?_eq_some_iff,
    readSegments?_eq_some_iff, Option.some.injEq]
  constructor
  · rintro ⟨field, rest, ⟨hfield, _, htext⟩, segments, ⟨parts, hparts, rfl⟩, rfl⟩
    exact ⟨hfield, parts, hparts, htext⟩
  · rintro ⟨hfield, parts, hparts, htext⟩
    exact ⟨p.field, parts.flatten, ⟨hfield, isBreak_of_head? hparts, htext⟩, p.segments,
      ⟨parts, hparts, rfl⟩, rfl⟩

/-- A name, and nothing else, is read as a path without steps. -/
theorem parse?_name_iff {name : String} :
    parse? name = some ⟨name, []⟩ ↔ IsName name.toList := by
  rw [parse?_eq_some_iff]
  exact ⟨fun h => h.1, fun h => ⟨h, [], .nil, (List.append_nil _).symm⟩⟩

/-! ## The text of a path -/

/-- The text of a well-formed step writes it. -/
theorem writesStep_text (h : s.IsWellFormed) : WritesStep s.text.toList s := by
  cases s with
  | field name =>
    have htext : (Segment.field name).text.toList = '.' :: name.toList := by
      simp [Segment.text]
    rw [htext]
    exact .field h
  | index i =>
    have htext : (Segment.index i).text.toList =
        '[' :: ([] ++ (toString i).toList ++ [] ++ [']']) := by
      simp [Segment.text]
    rw [htext]
    exact .index (by simp) (isNumeral_toString i) h (by simp)

/-- The text of a well-formed path writes it. -/
theorem writes_text {p : Path} (h : p.IsWellFormed) : Writes p.text p := by
  refine ⟨h.field, p.segments.map fun s => s.text.toList, ?_, ?_⟩
  · rw [List.forall₂_map_left_iff, List.forall₂_same]
    exact fun s hs => writesStep_text (h.segments s hs)
  · rw [text, String.toList_append, String.toList_join, List.flatMap_map, List.flatMap_def]

/-- A path that some text writes is well formed. -/
theorem isWellFormed_of_writes {text : String} {p : Path} (h : Writes text p) :
    p.IsWellFormed := by
  obtain ⟨hfield, parts, hparts, _⟩ := h
  refine ⟨hfield, fun s hs => ?_⟩
  obtain ⟨part, _, hpart⟩ := exists_of_forall₂ hparts hs
  cases hpart with
  | field hname => exact hname
  | index hbefore hnumeral hrange hafter => exact hrange

/-- A text is read as a path exactly if it is a name with steps behind it, and then as the path
that it writes: its names and positions in order.  The text of every path with such names and
positions is read as that path. -/
theorem parse?_eq_some_iff_writes :
    (∀ text p, parse? text = some p ↔ Writes text p) ∧
      (∀ p : Path, p.IsWellFormed ↔ ∃ text, parse? text = some p) ∧
      ∀ p : Path, p.IsWellFormed → parse? p.text = some p := by
  have hread : ∀ p : Path, p.IsWellFormed → parse? p.text = some p := fun p hp =>
    parse?_eq_some_iff.mpr (writes_text hp)
  refine ⟨fun _ _ => parse?_eq_some_iff, fun p => ⟨fun hp => ⟨p.text, hread p hp⟩, ?_⟩, hread⟩
  rintro ⟨text, htext⟩
  exact isWellFormed_of_writes (parse?_eq_some_iff.mp htext)

/-- The least and the greatest position, between blanks and behind a sign. -/
theorem parse?_eq_some_iff_writes_extreme :
    let p : Path := ⟨"data",
      [.field "a b", .index (-9223372036854775808), .index 9223372036854775807]⟩
    parse? "data.a b[ -9223372036854775808\u2003][+09223372036854775807]" = some p ∧
      p.IsWellFormed ∧ p.text = "data.a b[-9223372036854775808][9223372036854775807]" ∧
      parse? p.text = some p := by
  intro p
  have hread : parse? "data.a b[ -9223372036854775808\u2003][+09223372036854775807]" = some p := by
    decide +kernel
  have hp : p.IsWellFormed := (parse?_eq_some_iff_writes.2.1 p).mpr ⟨_, hread⟩
  exact ⟨hread, hp, by decide +kernel, parse?_eq_some_iff_writes.2.2 p hp⟩

example : parse? "data[9223372036854775808]" = none := by decide +kernel

end Path

end TagSearch
