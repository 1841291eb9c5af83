import TagSearch.Text.Base64

/-!
# Reading base64 back

A text that was written in base64 is read back from what was written, and what is written
holds no character outside the alphabet and its padding.

Main results:

- Theorem `Base64.decode_encode`: every byte sequence is read back.
- Theorem `Base64.decodeString_encodeString`: every string is read back.
- Theorems `Base64.slash_notMem_encodeString` and `Base64.quote_notMem_encodeString`: the safe
  alphabet writes no slash, and neither alphabet writes a quote.
-/

namespace TagSearch.Base64

/-! ## Bytes of a string -/

/-- Reading on from a place puts the bytes behind it after those read so far. -/
theorem toList_loop (bytes : ByteArray) (place : Nat) (read : List UInt8) :
    ByteArray.toList.loop bytes place read = read.reverse ++ bytes.data.toList.drop place := by
  rw [ByteArray.toList.loop]
  split
  · next hlt =>
    have hcons : bytes.data.toList.drop place =
        bytes.get! place :: bytes.data.toList.drop (place + 1) := by
      rw [List.drop_eq_getElem_cons (by simpa using hlt)]
      simp [ByteArray.get!, hlt]
    rw [toList_loop bytes (place + 1), hcons, List.reverse_cons, List.append_assoc]
    rfl
  · next hge =>
    have hnil : bytes.data.toList.drop place = [] :=
      List.drop_eq_nil_of_le (by simpa using hge)
    rw [hnil, List.append_nil]
termination_by bytes.size - place

/-- The list of the bytes of an array makes up the array again. -/
theorem mk_toArray_toList (bytes : ByteArray) : ByteArray.mk bytes.toList.toArray = bytes := by
  have hlist : bytes.toList = bytes.data.toList := by
    simp [ByteArray.toList, toList_loop]
  rw [hlist, Array.toArray_toList]

/-- The bytes of a string are the UTF-8 form of that string. -/
theorem fromUTF8?_toUTF8 (s : String) : String.fromUTF8? s.toUTF8 = some s := by
  have hvalid : s.toUTF8.IsValidUTF8 := s.isValidUTF8
  simp only [String.fromUTF8?, hvalid, dite_true]
  rfl

/-! ## Symbols -/

theorem encodeSextets_lt (bytes : List UInt8) : ∀ v ∈ encodeSextets bytes, v < 64 := by
  induction bytes using encodeSextets.induct with
  | case1 => simp [encodeSextets]
  | case2 x =>
    have hx := x.toNat_lt
    intro v hv
    simp only [encodeSextets, List.mem_cons, List.not_mem_nil, or_false] at hv
    omega
  | case3 x y =>
    have hx := x.toNat_lt
    have hy := y.toNat_lt
    intro v hv
    simp only [encodeSextets, List.mem_cons, List.not_mem_nil, or_false] at hv
    omega
  | case4 x y z rest ih =>
    have hx := x.toNat_lt
    have hy := y.toNat_lt
    have hz := z.toNat_lt
    intro v hv
    simp only [encodeSextets, List.mem_cons] at hv
    rcases hv with hv | hv | hv | hv | hv
    · omega
    · omega
    · omega
    · omega
    · exact ih v hv

/-- No symbol is the padding sign. -/
theorem symbol_ne_padding (a : Alphabet) {v : Nat} (h : v < 64) : a.symbol v ≠ '=' := by
  cases a <;> revert v <;> decide

theorem mapM_value?_map_symbol (a : Alphabet) {sextets : List Nat} (h : ∀ v ∈ sextets, v < 64) :
    (sextets.map a.symbol).mapM a.value? = some sextets := by
  induction sextets with
  | nil => rfl
  | cons v vs ih =>
    have hv := a.value?_symbol (h v List.mem_cons_self)
    have hvs := ih (fun w hw => h w (List.mem_cons_of_mem v hw))
    simp [hv, hvs]

/-! ## Padding -/

/-- Symbols with their padding behind them are found again. -/
theorem unpad?_append_padding {symbols : List Char} (h : '=' ∉ symbols) :
    unpad? (symbols ++ padding symbols.length) = some symbols := by
  have hne : ∀ c ∈ symbols, (c != '=') = true := by
    intro c hc
    rw [bne_iff_ne]
    exact fun heq => h (heq ▸ hc)
  have htake : (padding symbols.length).takeWhile (· != '=') = [] := by
    rw [padding]
    cases (4 - symbols.length % 4) % 4 <;> simp [List.replicate_succ]
  have hdrop : (padding symbols.length).dropWhile (· != '=') = padding symbols.length := by
    rw [padding]
    cases (4 - symbols.length % 4) % 4 <;> simp [List.replicate_succ]
  have hsymbols : (symbols ++ padding symbols.length).takeWhile (· != '=') = symbols := by
    rw [List.takeWhile_append_of_pos hne, htake, List.append_nil]
  have hsigns :
      (symbols ++ padding symbols.length).dropWhile (· != '=') = padding symbols.length := by
    rw [List.dropWhile_append_of_pos hne, hdrop]
  rw [unpad?, hsymbols, hsigns]
  simp

/-! ## Reading back -/

theorem decode_encode (a : Alphabet) (bytes : List UInt8) :
    decode a (encode a bytes) = some bytes := by
  have hlt := encodeSextets_lt bytes
  have hsymbols : '=' ∉ (encodeSextets bytes).map a.symbol := by
    rw [List.mem_map]
    rintro ⟨v, hv, heq⟩
    exact symbol_ne_padding a (hlt v hv) heq
  rw [decode, encode, unpad?_append_padding hsymbols]
  simp [mapM_value?_map_symbol a hlt, decodeSextets_encodeSextets]

theorem decodeString_encodeString (a : Alphabet) (s : String) :
    decodeString a (encodeString a s) = some s := by
  rw [decodeString, encodeString, decode_encode]
  simp only [Option.bind_eq_bind, Option.bind_some]
  rw [mk_toArray_toList, fromUTF8?_toUTF8]

/-- What is written are symbols and padding signs. -/
theorem notMem_encodeString {a : Alphabet} {c : Char} (hsymbol : ∀ v < 64, a.symbol v ≠ c)
    (hpadding : c ≠ '=') (s : String) : c ∉ encodeString a s := by
  rw [encodeString, encode, List.mem_append, List.mem_map]
  rintro (⟨v, hv, heq⟩ | hpad)
  · exact hsymbol v (encodeSextets_lt _ v hv) heq
  · exact hpadding (List.eq_of_mem_replicate hpad)

theorem slash_notMem_encodeString (s : String) : '/' ∉ encodeString .urlSafe s :=
  notMem_encodeString (by decide) (by decide) s

theorem quote_notMem_encodeString (a : Alphabet) (s : String) : '"' ∉ encodeString a s := by
  cases a with
  | standard => exact notMem_encodeString (by decide) (by decide) s
  | urlSafe => exact notMem_encodeString (by decide) (by decide) s

end TagSearch.Base64
