import Mathlib
import TagSearch.Proofs.Lookup
import TagSearch.Proofs.Scoping
import TagSearch.Proofs.TermText

/-!
# Where stand-ins go

The scanner marks a quoted wildcard or a quoted slash by a stand-in.  Whatever is compared with
a value is restored before it leaves the search: no text, no pattern and no expression that a
statement binds holds a stand-in.  The names in the path of a category are not restored.  They
are bound as keys of a document, and looked up in a document, with the stand-ins in them.

Main results:

- Theorem `Leaf.confined_of_conditionOn`: what a condition binds holds no stand-in, but for the
  names in its path.
- Theorem `Path.subset_of_parse?`: the characters of the names in a path are those of its
  category.
- Theorem `Compiler.standIns_only_in_names`: where a stand-in may leave a search.
-/

namespace TagSearch

/-! ## Texts without stand-ins -/

/-- A text that holds no stand-in. -/
def IsUnmarked (s : String) : Prop :=
  ∀ c ∈ s.toList, isMarked c = false

instance (s : String) : Decidable (IsUnmarked s) :=
  List.decidableBAll _ s.toList

theorem isUnmarked_restore (s : String) : IsUnmarked (restore s) :=
  fun _ => not_marked_of_mem_restore

/-- A term as the parser reads it: literal text holds no stand-in for a slash, and a pattern
holds none at all. -/
def Term.IsSettled : Term → Prop
  | .literal s => quotedSlash ∉ s.toList
  | .pattern s => IsUnmarked s

/-- The terms that can be written are settled. -/
theorem Term.isSettled_ofTag (text : String) : (Term.ofTag text).IsSettled := by
  have hheld := isHeld_ofTag text
  cases hterm : ofTag text with
  | literal s =>
    rw [hterm] at hheld
    exact hheld
  | pattern s =>
    rw [hterm] at hheld
    exact hheld

theorem Like.isMarked_charPattern {c d : Char} (hslash : c ≠ quotedSlash)
    (hd : d ∈ charPattern c) : isMarked d = false := by
  rw [charPattern] at hd
  by_cases hspecial : isSpecial c = true
  · rw [if_pos hspecial] at hd
    rcases List.mem_pair.mp hd with hd | hd
    · rw [hd]
      decide
    · simp only [isSpecial, Bool.or_eq_true, beq_iff_eq] at hspecial
      rw [hd]
      rcases hspecial with (hc | hc) | hc
      · rw [hc]
        decide
      · rw [hc]
        decide
      · rw [hc]
        decide
  · rw [if_neg hspecial] at hd
    split at hd
    · rw [List.mem_singleton.mp hd]
      decide
    · split at hd
      · rw [List.mem_singleton.mp hd]
        decide
      · split at hd
        · rw [List.mem_singleton.mp hd]
          decide
        · next hstar =>
          split at hd
          · rw [List.mem_singleton.mp hd]
            decide
          · next hquestion =>
            rw [List.mem_singleton.mp hd]
            simp [isMarked, hstar, hquestion, hslash]

/-- A pattern of the store holds no stand-in, if no slash was quoted in the value. -/
theorem Like.isUnmarked_pattern {value : String} (h : quotedSlash ∉ value.toList) :
    IsUnmarked (Like.pattern value) := by
  intro c hc
  rw [pattern, String.toList_ofList, List.mem_flatMap] at hc
  obtain ⟨d, hd, hc⟩ := hc
  refine isMarked_charPattern ?_ hc
  intro hslash
  rw [hslash] at hd
  exact h hd

/-! ## Names -/

namespace Path

theorem subset_of_readName? {cs rest : List Char} {name : String}
    (h : readName? cs = some (name, rest)) : name.toList ⊆ cs ∧ rest ⊆ cs := by
  rw [readName?] at h
  simp only [Option.ite_none_left_eq_some, Option.some.injEq, Prod.mk.injEq] at h
  obtain ⟨_, hname, hrest⟩ := h
  rw [← hname, ← hrest, String.toList_ofList]
  exact ⟨(List.takeWhile_prefix _).subset, (List.dropWhile_suffix _).subset⟩

theorem subset_of_readIndex? {cs rest : List Char} {i : Int}
    (h : readIndex? cs = some (i, rest)) : rest ⊆ cs := by
  have hsubset := (List.dropWhile_suffix (l := cs) (· != ']')).subset
  rw [readIndex?] at h
  split at h
  · cases h
  · next c tail hdrop =>
    rw [hdrop] at hsubset
    obtain ⟨_, _, hpair⟩ := Option.map_eq_some_iff.mp h
    rw [← (Prod.mk.inj hpair).2]
    exact fun x hx => hsubset (List.mem_cons_of_mem c hx)

theorem subset_of_readSegments? {cs : List Char} {steps : List Segment}
    (h : readSegments? cs = some steps) :
    ∀ name ∈ steps.filterMap Segment.name?, name.toList ⊆ cs := by
  fun_induction readSegments? cs generalizing steps with
  | case1 =>
    cases h
    intro name hname
    cases hname
  | case3 cs i rest hindex ih =>
    obtain ⟨tail, htail, hsteps⟩ := Option.map_eq_some_iff.mp h
    subst hsteps
    intro name hname
    exact fun x hx =>
      List.mem_cons_of_mem _ (subset_of_readIndex? hindex (ih htail name hname hx))
  | case5 cs field rest hread ih =>
    obtain ⟨hfield, hrest⟩ := subset_of_readName? hread
    obtain ⟨tail, htail, hsteps⟩ := Option.map_eq_some_iff.mp h
    subst hsteps
    intro name hname x hx
    rcases List.mem_cons.mp hname with hname | hname
    · rw [hname] at hx
      exact List.mem_cons_of_mem _ (hfield hx)
    · exact List.mem_cons_of_mem _ (hrest (ih htail name hname hx))
  | _ => cases h

/-- The characters of the names in a path are those of its category. -/
theorem subset_of_parse? {category : String} {path : Path} (h : parse? category = some path) :
    ∀ name ∈ path.names, name.toList ⊆ category.toList := by
  obtain ⟨⟨field, rest⟩, hread, h⟩ := Option.bind_eq_some_iff.mp h
  obtain ⟨steps, hsteps, h⟩ := Option.bind_eq_some_iff.mp h
  obtain ⟨hfield, hrest⟩ := subset_of_readName? hread
  cases h
  intro name hname x hx
  rcases List.mem_cons.mp hname with hname | hname
  · rw [hname] at hx
    exact hfield hx
  · exact hrest (subset_of_readSegments? hsteps name hname hx)

end Path

/-! ## Parameters -/

/-- A parameter whose texts hold no stand-in. -/
def Param.IsUnmarked : Param → Prop
  | .text s => TagSearch.IsUnmarked s
  | .json j => TagSearch.IsUnmarked j.compact
  | .textArray items => ∀ s ∈ items, TagSearch.IsUnmarked s
  | .null | .int _ | .numeric _ | .bool _ | .timestamp _ => True

/-- Values that hold no text are stored without stand-ins, whatever they are read from. -/
theorem Value.isUnmarked_of_read {α : Type} {r : Option α} {e : Error} {v : Value} (f : α → Value)
    (hf : ∀ a, (f a).toParam.IsUnmarked)
    (h : (match r with
      | some a => Except.ok (f a)
      | none => .error e) = .ok v) : v.toParam.IsUnmarked := by
  cases r with
  | none => cases h
  | some a =>
    cases h
    exact hf a

/-- A value that is read from a text without stand-ins is stored without them. -/
theorem Value.isUnmarked_toParam {kind : FieldType} {text : String} {v : Value}
    (hkind : kind ≠ .json) (htext : IsUnmarked text) (h : Value.parse kind text = .ok v) :
    v.toParam.IsUnmarked := by
  cases kind with
  | string =>
    cases h
    exact htext
  | array =>
    cases h
    intro s hs
    rw [List.mem_singleton.mp hs]
    exact htext
  | json => exact absurd rfl hkind -- a document may write any character by its code
  | int => exact isUnmarked_of_read .int (fun _ => trivial) h
  | float => exact isUnmarked_of_read .float (fun _ => trivial) h
  | bool => exact isUnmarked_of_read .bool (fun _ => trivial) h
  | time => exact isUnmarked_of_read .time (fun _ => trivial) h
  | duration =>
    simp only [parse] at h
    cases hduration : Duration.parse text with
    | ok d =>
      rw [hduration] at h
      cases h
      trivial
    | error e =>
      rw [hduration] at h
      cases e with
      | malformed => cases h
      | overflow => cases h

/-! ## Pieces -/

/-- Every parameter of some pieces holds no stand-in or is one of the given keys. -/
def Piece.Confined (keys : List String) (ps : List Piece) : Prop :=
  ∀ p, .param p ∈ ps → p.IsUnmarked ∨ ∃ key ∈ keys, p = .text key

namespace Piece

variable {keys keys' : List String} {ps qs : List Piece}

theorem confined_nil : Confined keys [] := by
  intro p hp
  cases hp

theorem confined_text {s : String} (h : Confined keys ps) : Confined keys (.text s :: ps) := by
  intro p hp
  rcases List.mem_cons.mp hp with hp | hp
  · cases hp
  · exact h p hp

theorem confined_param {p : Param} (hp : p.IsUnmarked) (h : Confined keys ps) :
    Confined keys (.param p :: ps) := by
  intro q hq
  rcases List.mem_cons.mp hq with hq | hq
  · cases hq
    exact .inl hp
  · exact h q hq

theorem confined_key {key : String} (hkey : key ∈ keys) (h : Confined keys ps) :
    Confined keys (.param (.text key) :: ps) := by
  intro q hq
  rcases List.mem_cons.mp hq with hq | hq
  · cases hq
    exact .inr ⟨key, hkey, rfl⟩
  · exact h q hq

theorem Confined.append (hps : Confined keys ps) (hqs : Confined keys qs) :
    Confined keys (ps ++ qs) := by
  intro p hp
  rcases List.mem_append.mp hp with hp | hp
  · exact hps p hp
  · exact hqs p hp

theorem Confined.mono (h : Confined keys ps) (hkeys : keys ⊆ keys') : Confined keys' ps := by
  intro p hp
  rcases h p hp with hp | ⟨key, hkey, hp⟩
  · exact .inl hp
  · exact .inr ⟨key, hkeys hkey, hp⟩

end Piece

/-! ## Conditions -/

/-- The names of members that an expression binds. -/
def Operand.keys : Operand → List String
  | .below _ steps => steps.filterMap Segment.name?
  | _ => []

namespace Operand

theorem confined_segment {s : Segment} {keys : List String} (h : ∀ name ∈ s.name?, name ∈ keys) :
    Piece.Confined keys s.pieces := by
  cases s with
  | field name => exact Piece.confined_key (h name rfl) (Piece.confined_text Piece.confined_nil)
  | index i => exact Piece.confined_text Piece.confined_nil

theorem confined_stepPieces (steps : List Segment) :
    Piece.Confined (steps.filterMap Segment.name?) (stepPieces steps) := by
  induction steps with
  | nil => exact Piece.confined_nil
  | cons s rest ih =>
    have hsegment : Piece.Confined ((s :: rest).filterMap Segment.name?) s.pieces := by
      refine confined_segment ?_
      intro name hname
      exact List.mem_filterMap.mpr ⟨s, List.mem_cons_self, hname⟩
    have hrest : Piece.Confined ((s :: rest).filterMap Segment.name?) (stepPieces rest) :=
      ih.mono (List.filterMap_subset _ (List.subset_cons_self s rest))
    cases rest with
    | nil => exact Piece.confined_text hsegment
    | cons s' rest' => exact (Piece.confined_text hsegment).append hrest

theorem confined_pieces (o : Operand) : Piece.Confined o.keys o.pieces := by
  cases o with
  | plain s => exact Piece.confined_text Piece.confined_nil
  | textOf s => exact Piece.confined_text Piece.confined_nil
  | below s steps => exact Piece.confined_text (confined_stepPieces steps)

theorem keys_fieldText (f : Field) (s : Source) : (Leaf.fieldText f s).keys = [] := by
  unfold Leaf.fieldText
  split
  · rfl
  · rfl

end Operand

/-- A test whose pattern holds no stand-in. -/
def PatternTest.IsUnmarked : PatternTest → Prop
  | .like p => TagSearch.IsUnmarked p
  | .expression p => TagSearch.IsUnmarked p

theorem PatternTest.confined_pieces {test : PatternTest} (h : test.IsUnmarked)
    (keys : List String) : Piece.Confined keys test.pieces := by
  cases test with
  | like p =>
    exact Piece.confined_text (Piece.confined_param (p := .text p) h Piece.confined_nil)
  | expression p =>
    exact Piece.confined_text (Piece.confined_param (p := .text p) h Piece.confined_nil)

namespace Condition

theorem confined_present (o : Operand) : Piece.Confined o.keys (present o).pieces :=
  o.confined_pieces.append (Piece.confined_text Piece.confined_nil)

theorem confined_absent (o : Operand) : Piece.Confined o.keys (absent o).pieces :=
  o.confined_pieces.append (Piece.confined_text Piece.confined_nil)

theorem confined_compare (o : Operand) (c : Comparison) {p : Param} (hp : p.IsUnmarked) :
    Piece.Confined o.keys (compare o c p).pieces :=
  o.confined_pieces.append (Piece.confined_text (Piece.confined_param hp Piece.confined_nil))

theorem confined_compareNumber (o : Operand) (c : Comparison) (number : Decimal) :
    Piece.Confined o.keys (compareNumber o c number).pieces := by
  have hnumber : Piece.Confined o.keys [.text (")::numeric " ++ c.sign ++ " "),
      .param (.numeric number)] :=
    Piece.confined_text (Piece.confined_param trivial Piece.confined_nil)
  exact Piece.confined_text (o.confined_pieces.append hnumber)

theorem confined_fits (o : Operand) {test : PatternTest} (h : test.IsUnmarked) :
    Piece.Confined o.keys (fits o test).pieces :=
  o.confined_pieces.append (test.confined_pieces h o.keys)

theorem confined_hasItem (s : Source) {item : String} (h : IsUnmarked item)
    (keys : List String) : Piece.Confined keys (hasItem s item).pieces :=
  Piece.confined_param (p := .text item) h (Piece.confined_text Piece.confined_nil)

theorem confined_someItem (s : Source) {test : PatternTest} (h : test.IsUnmarked)
    (keys : List String) : Piece.Confined keys (someItem s test).pieces :=
  Piece.confined_text ((test.confined_pieces h keys).append
    (Piece.confined_text Piece.confined_nil))

end Condition

theorem isUnmarked_like {v : String} (h : (Term.literal v).IsSettled) :
    (PatternTest.like (Like.pattern v)).IsUnmarked :=
  Like.isUnmarked_pattern h

theorem isUnmarked_of_expressionTest {p : String} {test : PatternTest} (hp : IsUnmarked p)
    (h : expressionTest p = .ok test) : test.IsUnmarked := by
  obtain ⟨r, _, htest⟩ := exists_of_map_eq_ok h
  rw [← htest]
  exact hp

namespace Leaf

variable {l : Leaf} {c : Condition}

/-- A condition whose value was read from a tag. -/
def HasSettledValue (l : Leaf) : Prop :=
  ∀ v ∈ l.value, v.IsSettled

theorem confined_of_textCondition {o : Operand} (hl : l.HasSettledValue)
    (h : l.textCondition o = .ok c) : Piece.Confined o.keys c.pieces := by
  rw [textCondition] at h
  cases hvalue : l.value with
  | none =>
    simp only [hvalue] at h
    cases h
    exact Condition.confined_present o
  | some v =>
    have hsettled := hl v hvalue
    cases v with
    | pattern p =>
      simp only [hvalue] at h
      split at h
      · obtain ⟨test, htest, hc⟩ := exists_of_map_eq_ok h
        rw [← hc]
        exact Condition.confined_fits o (isUnmarked_of_expressionTest hsettled htest)
      · cases h
    | literal v =>
      simp only [hvalue] at h
      split at h
      · cases h
        exact Condition.confined_absent o
      · split at h
        · split at h
          · cases h
            exact Condition.confined_compareNumber o _ _
          · cases h
            exact Condition.confined_compare o _ (isUnmarked_restore v)
        · split at h
          · cases h
            exact Condition.confined_fits o (isUnmarked_like hsettled)
          · cases h
            exact Condition.confined_compare o _ (isUnmarked_restore v)

theorem confined_of_arrayCondition {f : Field} {s : Source} (hl : l.HasSettledValue)
    (h : l.arrayCondition f s = .ok c) (keys : List String) : Piece.Confined keys c.pieces := by
  rw [arrayCondition] at h
  cases hvalue : l.value with
  | none =>
    simp only [hvalue] at h
    cases h
    exact (Condition.confined_present (.plain s)).mono (List.nil_subset keys)
  | some v =>
    have hsettled := hl v hvalue
    cases v with
    | pattern p =>
      simp only [hvalue] at h
      split at h
      · obtain ⟨test, htest, hc⟩ := exists_of_map_eq_ok h
        rw [← hc]
        exact Condition.confined_someItem s (isUnmarked_of_expressionTest hsettled htest) keys
      · cases h
    | literal v =>
      simp only [hvalue] at h
      split at h
      · cases h
        exact (Condition.confined_absent (.plain s)).mono (List.nil_subset keys)
      · split at h
        · cases h
        · split at h
          · cases h
            exact Condition.confined_someItem s (isUnmarked_like hsettled) keys
          · cases h
            exact Condition.confined_hasItem s (isUnmarked_restore v) keys

theorem confined_of_scalarCondition {f : Field} {s : Source} (hl : l.HasSettledValue)
    (hkind : f.kind ≠ .json) (h : l.scalarCondition f s = .ok c) (keys : List String) :
    Piece.Confined keys c.pieces := by
  have htext : ∀ {test : PatternTest}, test.IsUnmarked →
      Piece.Confined keys (Condition.fits (fieldText f s) test).pieces := by
    intro test htest
    have hfits := Condition.confined_fits (fieldText f s) htest
    rw [Operand.keys_fieldText] at hfits
    exact hfits.mono (List.nil_subset keys)
  rw [scalarCondition] at h
  cases hvalue : l.value with
  | none =>
    simp only [hvalue] at h
    cases h
    exact (Condition.confined_present (.plain s)).mono (List.nil_subset keys)
  | some v =>
    have hsettled := hl v hvalue
    cases v with
    | pattern p =>
      simp only [hvalue] at h
      split at h
      · obtain ⟨test, htest, hc⟩ := exists_of_map_eq_ok h
        rw [← hc]
        exact htext (isUnmarked_of_expressionTest hsettled htest)
      · cases h
    | literal v =>
      simp only [hvalue] at h
      split at h
      · cases h
        exact (Condition.confined_absent (.plain s)).mono (List.nil_subset keys)
      · split at h
        · cases h
          exact htext (isUnmarked_like hsettled)
        · obtain ⟨value, hparse, hc⟩ := exists_of_map_eq_ok h
          rw [← hc]
          have hparam := Value.isUnmarked_toParam hkind (isUnmarked_restore v) hparse
          exact (Condition.confined_compare (.plain s) _ hparam).mono (List.nil_subset keys)

/-- What a condition on a field binds holds no stand-in, but for the names in the steps below
the field. -/
theorem confined_of_fieldCondition {f : Field} {s : Source} {category : String}
    {steps : List Segment} (hl : l.HasSettledValue)
    (h : l.fieldCondition f s category steps = .ok c) :
    Piece.Confined (steps.filterMap Segment.name?) c.pieces := by
  unfold fieldCondition at h
  split at h
  · exact confined_of_textCondition hl h
  · exact confined_of_textCondition hl h
  · cases h
  · exact confined_of_arrayCondition hl h _
  · next hjson _ => exact confined_of_scalarCondition hl hjson h _

/-- What a condition binds holds no stand-in, but for the names in the path of its
category. -/
theorem confined_of_conditionOn {schema : Schema} {category : String} (hl : l.HasSettledValue)
    (h : l.conditionOn schema category = .ok c) :
    ∃ path, Path.parse? category = some path ∧ Piece.Confined path.names c.pieces := by
  obtain ⟨path, f, s, hpath, _, _, hc⟩ := path_of_conditionOn h
  exact ⟨path, hpath,
    (confined_of_fieldCondition hl hc).mono (List.subset_cons_self path.field _)⟩

/-- What is emitted for a condition holds no stand-in, but for the names in its path. -/
theorem confined_of_emits {schema : Schema} (hschema : ∀ f ∈ schema.fields, IsUnmarked f.name)
    (hl : l.HasSettledValue) (h : l.Emits schema c) : Piece.Confined l.names c.pieces := by
  cases hcategory : l.category with
  | literal category =>
    rw [emits_literal hcategory] at h
    obtain ⟨path, hpath, hconfined⟩ := confined_of_conditionOn hl h
    rw [names_of_parse? hcategory hpath]
    exact hconfined
  | pattern p =>
    rw [Emits, hcategory] at h
    obtain ⟨f, hf, h⟩ := h
    obtain ⟨path, hpath, hconfined⟩ := confined_of_conditionOn hl h
    -- the path is that of a field of the schema, so its names are unmarked
    intro param hparam
    rcases hconfined param hparam with hunmarked | ⟨key, hkey, hparam⟩
    · exact .inl hunmarked
    · refine .inl ?_
      rw [hparam]
      exact fun x hx => hschema f hf x (Path.subset_of_parse? hpath key hkey hx)

/-- The characters of the names of a condition are those of its category. -/
theorem subset_of_mem_names {name : String} (h : name ∈ l.names) :
    ∃ category, l.category = .literal category ∧ name.toList ⊆ category.toList := by
  cases hcategory : l.category with
  | pattern p =>
    rw [names, hcategory] at h
    cases h
  | literal category =>
    cases hpath : Path.parse? category with
    | none =>
      rw [names, hcategory] at h
      simp only [hpath] at h
      cases h
    | some path =>
      rw [names_of_parse? hcategory hpath] at h
      exact ⟨category, rfl, Path.subset_of_parse? hpath name h⟩

end Leaf

/-! ## Statements -/

theorem Symbol.mem_separated {α : Type} {connective x : Symbol α} {parts : List (List (Symbol α))}
    (h : x ∈ separated connective parts) : x = connective ∨ ∃ part ∈ parts, x ∈ part := by
  induction parts with
  | nil => cases h
  | cons part rest ih =>
    cases rest with
    | nil => exact .inr ⟨part, List.mem_cons_self, h⟩
    | cons next rest =>
      have hsplit : x ∈ part ++ connective :: separated connective (next :: rest) := h
      rcases List.mem_append.mp hsplit with hx | hx
      · exact .inr ⟨part, List.mem_cons_self, hx⟩
      · rcases List.mem_cons.mp hx with hx | hx
        · exact .inl hx
        · rcases ih hx with hx | ⟨p, hp, hx⟩
          · exact .inl hx
          · exact .inr ⟨p, List.mem_cons_of_mem part hp, hx⟩

namespace Formula

variable {α : Type} {a : α}

mutual

/-- The conditions among the symbols of a formula are its conditions. -/
theorem mem_atoms_of_mem_symbols : (f : Formula α) → .atom a ∈ f.symbols → a ∈ f.atoms
  | atom b, h => by
    rw [symbols, List.mem_singleton, Symbol.atom.injEq] at h
    rw [h]
    exact List.mem_singleton_self b
  | conj parts, h => by
    simp only [symbols, List.mem_cons, List.mem_append, reduceCtorEq, false_or,
      List.not_mem_nil, or_false] at h
    rcases Symbol.mem_separated h with h | ⟨part, hpart, h⟩
    · cases h
    · exact mem_atoms_of_mem_symbolsOfAll parts hpart h
  | disj parts, h => by
    simp only [symbols, List.mem_cons, List.mem_append, reduceCtorEq, false_or,
      List.not_mem_nil, or_false] at h
    rcases Symbol.mem_separated h with h | ⟨part, hpart, h⟩
    · cases h
    · exact mem_atoms_of_mem_symbolsOfAll parts hpart h
  | neg part, h => by
    simp only [symbols, List.mem_cons, List.mem_append, reduceCtorEq, false_or,
      List.not_mem_nil, or_false] at h
    exact mem_atoms_of_mem_symbols part h

theorem mem_atoms_of_mem_symbolsOfAll : (parts : List (Formula α)) →
    ∀ {symbols : List (Symbol α)}, symbols ∈ symbolsOfAll parts → .atom a ∈ symbols →
      a ∈ atomsOfAll parts
  | [], symbols, hsymbols, h => by cases hsymbols
  | part :: rest, symbols, hsymbols, h => by
    rw [atomsOfAll]
    rcases List.mem_cons.mp hsymbols with hsymbols | hsymbols
    · rw [hsymbols] at h
      exact List.mem_append_left _ (mem_atoms_of_mem_symbols part h)
    · exact List.mem_append_right _ (mem_atoms_of_mem_symbolsOfAll rest hsymbols h)

end

/-- A formula binds what its conditions bind. -/
theorem confined_pieces {f : Formula Condition} {keys : List String}
    (h : ∀ c ∈ f.atoms, Piece.Confined keys c.pieces) : Piece.Confined keys f.pieces := by
  intro p hp
  obtain ⟨s, hs, hp⟩ := List.mem_flatMap.mp hp
  cases s with
  | atom c => exact h c (mem_atoms_of_mem_symbols f hs) p hp
  | lParen | rParen | conj | disj | neg => simp [Symbol.pieces] at hp

end Formula

theorem Select.confined_pieces {s : Select} {keys : List String}
    (h : ∀ f ∈ s.condition, Piece.Confined keys f.pieces) : Piece.Confined keys s.pieces := by
  have hcondition : Piece.Confined keys s.conditionPieces := by
    rw [conditionPieces]
    cases hsome : s.condition with
    | none => exact Piece.confined_nil
    | some f => exact Piece.confined_text (h f hsome)
  exact (Piece.confined_text hcondition).append (Piece.confined_text Piece.confined_nil)

/-- A parameter of a statement is one of its pieces. -/
theorem Statement.mem_pieces_of_mem_params {ps : List Piece} {p : Param}
    (h : p ∈ (ofPieces ps).params) : .param p ∈ ps := by
  obtain ⟨piece, hpiece, hp⟩ := List.mem_filterMap.mp h
  cases piece with
  | text s => cases hp
  | param q =>
    rw [Option.some.inj hp] at hpiece
    exact hpiece

/-! ## Searches -/

/-- The conditions of a parsed node were read from tags. -/
theorem Node.IsScoped.isRead {primary : String} {comparison : Comparison} {n : Node}
    (h : n.IsScoped primary comparison) : ∀ l ∈ n.leaves, l.IsRead primary := by
  induction h with
  | leaf _ hread =>
    intro l hl
    rw [List.mem_singleton.mp hl]
    exact hread
  | group _ _ ih =>
    intro l hl
    rw [leaves_group] at hl
    obtain ⟨m, hm, hl⟩ := List.mem_flatMap.mp hl
    exact ih m hm l hl

/-- The values of a parsed search were read from tags. -/
theorem Tree.hasSettledValue_of_parse {input primary : String} {options : ScanOptions} {t : Tree}
    (h : parse input primary options = .ok t) : ∀ l ∈ t.root.leaves, l.HasSettledValue := by
  obtain ⟨members, ht, hmembers⟩ := exists_members_of_parse h
  subst ht
  intro l hl v hv
  rw [ofMembers, Node.leaves_group] at hl
  obtain ⟨n, hn, hl⟩ := List.mem_flatMap.mp hl
  obtain ⟨text, htext⟩ := ((hmembers n hn).isRead l hl).value v hv
  rw [htext]
  exact Term.isSettled_ofTag text

namespace Compiler

/-- Where a stand-in may leave a search.  The parameters of a selection hold none, but for those
that are names in the path of a category, and only such names are looked up in a document.
The characters of these names are those of the category, stand-ins among them. -/
theorem standIns_only_in_names {c : Compiler} {input primary : String} {options : ScanOptions}
    {t : Tree} (hparse : Tree.parse input primary options = .ok t)
    (hschema : ∀ f ∈ c.schema.fields, IsUnmarked f.name) :
    (∀ q s, c.selectPlan t q = .ok s → ∀ p ∈ s.statement.params,
        p.IsUnmarked ∨ ∃ key ∈ t.names, p = .text key) ∧
      (∀ document, (t.look document).1 = t.accepts document ∧
        ∀ name ∈ (t.look document).2, name ∈ t.names) ∧
      ∀ name ∈ t.names, ∃ l ∈ t.root.leaves, ∃ category, l.category = .literal category ∧
        name.toList ⊆ category.toList := by
  have hsettled := Tree.hasSettledValue_of_parse hparse
  refine ⟨?_, ?_, ?_⟩
  · intro q s hplan p hp
    have hformula := formula?_of_selectPlan hplan
    refine Select.confined_pieces ?_ p (Statement.mem_pieces_of_mem_params hp)
    intro f hf
    refine Formula.confined_pieces ?_
    intro cond hcond
    rw [Option.mem_def.mp hf] at hformula
    obtain ⟨l, hl, hemits⟩ := Node.exists_leaf_of_formula? hformula hcond
    have hconfined := Leaf.confined_of_emits hschema (hsettled l hl) hemits
    exact hconfined.mono (fun name hname => List.mem_flatMap.mpr ⟨l, hl, hname⟩)
  · intro document
    exact ⟨t.look_fst document, fun name => Tree.mem_names_of_mem_look⟩
  · intro name hname
    obtain ⟨l, hl, hname⟩ := List.mem_flatMap.mp hname
    obtain ⟨category, hcategory, hsubset⟩ := Leaf.subset_of_mem_names hname
    exact ⟨l, hl, category, hcategory, hsubset⟩

/-- A relation with a column of documents. -/
def notes : Compiler where
  schema := {
    table := "notes"
    fields := [{ name := "id", kind := .string, primary := true },
      { name := "data", kind := .json }] }

/-- A quoted and a bare wildcard in a value, below a member that has a plain name. -/
theorem standIns_only_in_names_quoted :
    ∃ t s, notes.parse "data.a:\"50%*\"*" = .ok t ∧ notes.selectPlan t {} = .ok s ∧
      t.names = ["data", "a"] ∧
      ∀ p ∈ s.statement.params, p.IsUnmarked ∨ ∃ key ∈ t.names, p = .text key := by
  have hparse : Tree.parse "data.a:\"50%*\"*" "id" = .ok (.ofMembers [
      .leaf ⟨.equal, .literal "data.a", some (.literal "50%\ue000*")⟩]) := by cbv
  have hcompiled : notes.parse "data.a:\"50%*\"*" = .ok (.ofMembers [
      .leaf ⟨.equal, .literal "data.a", some (.literal "50%\ue000*")⟩]) := by cbv
  have hplan : (notes.selectPlan (.ofMembers [
      .leaf ⟨.equal, .literal "data.a", some (.literal "50%\ue000*")⟩]) {}).isOk = true := by
    decide +kernel
  have hnames : Tree.names (.ofMembers [
      .leaf ⟨.equal, .literal "data.a", some (.literal "50%\ue000*")⟩]) = ["data", "a"] := by
    decide +kernel
  obtain ⟨s, hs⟩ := exists_of_isOk hplan
  have hschema : ∀ f ∈ notes.schema.fields, IsUnmarked f.name := by decide
  exact ⟨_, s, hcompiled, hs, hnames, (standIns_only_in_names hparse hschema).1 {} s hs⟩

/-- A quoted wildcard in the name of a member is bound with its stand-in, and looked up with
it, so that a document with just this member does not match. -/
theorem standIns_in_names_quoted :
    (∃ t s p, IsUnmarked "data.\"a*b\":x" ∧ (∀ f ∈ notes.schema.fields, IsUnmarked f.name) ∧
      notes.parse "data.\"a*b\":x" = .ok t ∧ notes.selectPlan t {} = .ok s ∧
      p ∈ s.statement.params ∧ ¬ p.IsUnmarked) ∧
    ∃ t name, IsUnmarked "\"a*b\":x" ∧ Tree.parse "\"a*b\":x" = .ok t ∧
      name ∈ (t.look (.object [("a*b", .string "x")])).2 ∧ ¬ IsUnmarked name ∧
      t.accepts (.object [("a*b", .string "x")]) = .ok false := by
  have hmarked : ¬ IsUnmarked "a\ue000b" := by decide
  refine ⟨?_, ?_⟩
  · have hparse : notes.parse "data.\"a*b\":x" = .ok (.ofMembers [
        .leaf ⟨.equal, .literal "data.a\ue000b", some (.literal "x")⟩]) := by cbv
    have hformula : Tree.formula? (.ofMembers [
        .leaf ⟨.equal, .literal "data.a\ue000b", some (.literal "x")⟩]) notes.schema =
          .ok (some (.atom (.compare (.below (.own none "data") [.field "a\ue000b"]) .equal
            (.text "x")))) := by cbv
    have hplan : (notes.selectPlan (.ofMembers [
        .leaf ⟨.equal, .literal "data.a\ue000b", some (.literal "x")⟩]) {}).isOk = true := by
      decide +kernel
    obtain ⟨s, hs⟩ := exists_of_isOk hplan
    have hcondition := formula?_of_selectPlan hs
    rw [hformula, Except.ok.injEq] at hcondition
    refine ⟨_, s, .text "a\ue000b", by decide, by decide, hparse, hs, ?_, hmarked⟩
    have hpiece : .param (.text "a\ue000b") ∈ s.conditionPieces := by
      rw [Select.conditionPieces, ← hcondition]
      simp [Formula.pieces, Formula.symbols, Symbol.pieces, Condition.pieces, Operand.pieces,
        Operand.stepPieces, Segment.pieces]
    have hmem : .param (.text "a\ue000b") ∈ s.pieces :=
      List.mem_append_left _ (List.mem_cons_of_mem _ hpiece)
    exact List.mem_filterMap.mpr ⟨_, hmem, rfl⟩
  · have hparse : Tree.parse "\"a*b\":x" = .ok (.ofMembers [
        .leaf ⟨.equal, .literal "a\ue000b", some (.literal "x")⟩]) := by cbv
    have hlook : (Tree.look (.ofMembers [
        .leaf ⟨.equal, .literal "a\ue000b", some (.literal "x")⟩])
          (.object [("a*b", .string "x")])) = (.ok false, ["a\ue000b"]) := by cbv
    refine ⟨_, "a\ue000b", by decide, hparse, ?_, hmarked, ?_⟩
    · rw [hlook]
      exact List.mem_singleton_self _
    · rw [← Tree.look_fst, hlook]

end Compiler

end TagSearch
