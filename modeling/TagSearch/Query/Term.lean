/-!
# Terms

A term is a field name or a value as a search writes it: plain text, or a pattern between
slashes.  Inside quotes a wildcard or a slash stands for itself; the scanner marks such a
character by a stand-in from the private range, so that later stages can tell the two
apart.

Main results:

- Theorem `restore_of_unmarked`: text without stand-ins is its own restored form.
- Theorem `not_marked_of_mem_restore`: restored text holds no stand-in.
-/

namespace TagSearch

/-! ## Stand-ins for quoted characters -/

/-- Stands for a star that was quoted. -/
def quotedStar : Char := '\ue000'

/-- Stands for a question mark that was quoted. -/
def quotedQuestion : Char := '\ue001'

/-- Stands for a slash that was quoted, so that a quoted slash opens no pattern. -/
def quotedSlash : Char := '\ue002'

/-- Replaces a wildcard or a slash by its stand-in. -/
def protect (c : Char) : Char :=
  if c = '*' then quotedStar
  else if c = '?' then quotedQuestion
  else if c = '/' then quotedSlash
  else c

/-- Replaces a stand-in by the character that it stands for. -/
def unprotect (c : Char) : Char :=
  if c = quotedStar then '*'
  else if c = quotedQuestion then '?'
  else if c = quotedSlash then '/'
  else c

/-- A character is marked when it is a stand-in. -/
def isMarked (c : Char) : Bool :=
  c == quotedStar || c == quotedQuestion || c == quotedSlash

/-- The text with every stand-in replaced by the character that it stands for. -/
def restore (s : String) : String :=
  String.ofList (s.toList.map unprotect)

/-- Some bare wildcard occurs in the text. -/
def hasWildcard (s : String) : Bool :=
  s.toList.any fun c => c == '*' || c == '?'

theorem unprotect_protect {c : Char} (h : isMarked c = false) :
    unprotect (protect c) = c := by
  simp only [isMarked, Bool.or_eq_false_iff, beq_eq_false_iff_ne, ne_eq] at h
  obtain ⟨⟨h₁, h₂⟩, h₃⟩ := h
  unfold protect
  split
  · next hc => subst hc; rfl
  · split
    · next hc => subst hc; rfl
    · split
      · next hc => subst hc; rfl
      · simp [unprotect, h₁, h₂, h₃]

theorem unprotect_of_unmarked {c : Char} (h : isMarked c = false) : unprotect c = c := by
  simp only [isMarked, Bool.or_eq_false_iff, beq_eq_false_iff_ne, ne_eq] at h
  simp [unprotect, h.1.1, h.1.2, h.2]

theorem isMarked_unprotect (c : Char) : isMarked (unprotect c) = false := by
  unfold unprotect
  split
  · decide
  · split
    · decide
    · split
      · decide
      · simp_all [isMarked]

theorem restore_of_unmarked {s : String} (h : ∀ c ∈ s.toList, isMarked c = false) :
    restore s = s := by
  have hmap : s.toList.map unprotect = s.toList :=
    List.map_congr_left (fun c hc => unprotect_of_unmarked (h c hc)) |>.trans (List.map_id _)
  rw [restore, hmap, String.ofList_toList]

theorem not_marked_of_mem_restore {s : String} {c : Char} (h : c ∈ (restore s).toList) :
    isMarked c = false := by
  rw [restore, String.toList_ofList, List.mem_map] at h
  obtain ⟨d, _, rfl⟩ := h
  exact isMarked_unprotect d

/-! ## Terms -/

/-- A field name or a value as a search writes it. -/
inductive Term where
  /-- Plain text.  Quoted wildcards are held as stand-ins; slashes are held as written,
  quoted or not. -/
  | literal (text : String)
  /-- A pattern, held without the slashes around it. -/
  | pattern (text : String)
deriving DecidableEq, Repr

namespace Term

/-- The text between a slash at the start and another slash at the end. -/
def delimited? : List Char → Option (List Char)
  | '/' :: cs => if cs.getLast? = some '/' then some cs.dropLast else none
  | _ => none

/-- Reads the text of a tag.  Text between two bare slashes is a pattern, in which quoting
only shielded characters from the scanner; other text stays literal, and a quoted slash in
it is a slash again. -/
def ofTag (text : String) : Term :=
  match delimited? text.toList with
  | some inner => .pattern (String.ofList (inner.map unprotect))
  | none => .literal (String.ofList (text.toList.map fun c => if c = quotedSlash then '/' else c))

/-- The text of a term. -/
def text : Term → String
  | literal s => s
  | pattern s => s

end Term

end TagSearch
