import TagSearch.Text.Base64
import TagSearch.Query.Term

/-!
# Segments of a tag

Three kinds of text are read as wholes inside a tag: text in quotes, a pattern between
slashes, and a base64 literal.  Each reader takes its segment from the front of the input
and gives back the characters that follow.

Main results:

- Theorems `rest_of_readQuoted`, `rest_of_splitUnescaped` and `rest_of_readBase64`: a
  reader that succeeds takes at least one character.
-/

namespace TagSearch

/-! ## Readers -/

/-- Reads quoted text after its opening quote: the protected text and what follows the
closing quote.  Only an escaped quote is an escape; any other backslash is kept. -/
def readQuoted : List Char → Option (List Char × List Char)
  | [] => none
  | '"' :: cs => some ([], cs)
  | '\\' :: '"' :: cs => (readQuoted cs).map fun (text, rest) => ('"' :: text, rest)
  | c :: cs => (readQuoted cs).map fun (text, rest) => (protect c :: text, rest)

/-- The text before the next unescaped delimiter and what follows that delimiter.  A
backslash escapes the character after it. -/
def splitUnescaped (delimiter : Char) : List Char → Option (List Char × List Char)
  | [] => none
  | ['\\'] => none
  | '\\' :: c :: cs =>
    (splitUnescaped delimiter cs).map fun (text, rest) => ('\\' :: c :: text, rest)
  | c :: cs =>
    if c = delimiter then some ([], cs)
    else (splitUnescaped delimiter cs).map fun (text, rest) => (c :: text, rest)

/-- Whether the characters after a `b` look like a base64 literal: an opening quote or
slash, which a label in brackets may precede. -/
def base64Ahead : List Char → Bool
  | '"' :: _ => true
  | '/' :: _ => true
  | '[' :: cs =>
    match splitUnescaped ']' cs with
    | some (_, '"' :: _) => true
    | some (_, '/' :: _) => true
    | _ => false
  | _ => false

/-- A base64 literal as it is read: the label, the delimiter around the payload, the
payload, and the characters after the closing delimiter. -/
structure Base64Literal where
  label : List Char
  delimiter : Char
  payload : List Char
  rest : List Char
deriving DecidableEq, Repr

/-- The label after a `b` and the characters after its closing bracket.  Without an
opening bracket the label is empty. -/
def readLabel : List Char → List Char × List Char
  | '[' :: cs => (cs.takeWhile (· != ']'), (cs.dropWhile (· != ']')).drop 1)
  | cs => ([], cs)

/-- Reads a base64 literal after its `b`.  The character after the label is the
delimiter, whatever it is; there is no literal when the delimiter does not return. -/
def readBase64 (cs : List Char) : Option Base64Literal :=
  match readLabel cs with
  | (_, []) => none
  | (label, delimiter :: body) =>
    match body.dropWhile (· != delimiter) with
    | [] => none
    | _ :: rest => some ⟨label, delimiter, body.takeWhile (· != delimiter), rest⟩

namespace Base64Literal

/-- The alphabet that a label selects. -/
def alphabet (l : Base64Literal) : Base64.Alphabet :=
  if l.label = ['u', 'r', 'l'] then .urlSafe else .standard

/-- The text that a literal contributes to its tag: a pattern between slashes, or
protected text. -/
def decoded? (l : Base64Literal) : Option (List Char) :=
  (Base64.decodeString l.alphabet l.payload).map fun s =>
    if l.delimiter = '/' then '/' :: s.toList ++ ['/'] else s.toList.map protect

end Base64Literal

/-! ## Lengths of the rests -/

theorem rest_of_readQuoted {cs text rest : List Char} (h : readQuoted cs = some (text, rest)) :
    rest.length < cs.length := by
  induction cs using readQuoted.induct generalizing text with
  | case1 => simp [readQuoted] at h
  | case2 cs => simp only [readQuoted, Option.some.injEq, Prod.mk.injEq] at h; simp [h.2]
  | case3 cs ih =>
    simp only [readQuoted, Option.map_eq_some_iff] at h
    obtain ⟨⟨t, r⟩, hr, he⟩ := h
    simp only [Prod.mk.injEq] at he
    have := ih (he.2 ▸ hr)
    simp only [List.length_cons]
    omega
  | case4 c cs _ _ ih =>
    rw [readQuoted] at h
    · simp only [Option.map_eq_some_iff] at h
      obtain ⟨⟨t, r⟩, hr, he⟩ := h
      simp only [Prod.mk.injEq] at he
      have := ih (he.2 ▸ hr)
      simp only [List.length_cons]
      omega
    · assumption
    · assumption

theorem rest_of_splitUnescaped {d : Char} {cs text rest : List Char}
    (h : splitUnescaped d cs = some (text, rest)) : rest.length < cs.length := by
  induction cs using splitUnescaped.induct d generalizing text with
  | case1 => simp [splitUnescaped] at h
  | case2 => simp [splitUnescaped] at h
  | case3 c cs ih =>
    simp only [splitUnescaped, Option.map_eq_some_iff] at h
    obtain ⟨⟨t, r⟩, hr, he⟩ := h
    simp only [Prod.mk.injEq] at he
    have := ih (he.2 ▸ hr)
    simp only [List.length_cons]
    omega
  | case4 cs h₁ h₂ =>
    rw [splitUnescaped] at h
    · simp only [if_true, Option.some.injEq, Prod.mk.injEq] at h
      simp [h.2]
    · assumption
    · assumption
  | case5 c cs h₁ h₂ hne ih =>
    rw [splitUnescaped] at h
    · simp only [if_neg hne, Option.map_eq_some_iff] at h
      obtain ⟨⟨t, r⟩, hr, he⟩ := h
      simp only [Prod.mk.injEq] at he
      have := ih (he.2 ▸ hr)
      simp only [List.length_cons]
      omega
    · assumption
    · assumption

theorem length_dropWhile_le (p : Char → Bool) (cs : List Char) :
    (cs.dropWhile p).length ≤ cs.length :=
  (List.dropWhile_suffix p).length_le

theorem length_readLabel_le (cs : List Char) :
    (readLabel cs).2.length ≤ cs.length := by
  unfold readLabel
  split
  · next ds =>
    have := length_dropWhile_le (· != ']') ds
    simp only [List.length_drop, List.length_cons]
    omega
  · simp

theorem rest_of_readBase64 {cs : List Char} {l : Base64Literal} (h : readBase64 cs = some l) :
    l.rest.length < cs.length := by
  have hlen := length_readLabel_le cs
  unfold readBase64 at h
  split at h
  · simp at h
  · next label delimiter body heq =>
    rw [heq] at hlen
    have hbody := length_dropWhile_le (· != delimiter) body
    split at h
    · simp at h
    · next c rest hrest =>
      obtain rfl := Option.some.inj h
      rw [hrest] at hbody
      simp only [List.length_cons] at hlen hbody
      show rest.length < cs.length
      omega

end TagSearch
