/-!
# Base64

Bytes as text in one of two alphabets of sixty-four symbols.  Writing pads the last group
of four symbols with equals signs; reading takes padded or unpadded text, and refuses any
other number of signs, symbols outside the alphabet and leftover bits that are not zero.

Main results:

- Theorem `Alphabet.value?_symbol`: every six-bit value is read back from its symbol.
- Theorem `decodeSextets_encodeSextets`: every byte sequence is read back from its
  sextets.
-/

namespace TagSearch.Base64

/-- The symbols for the values 62 and 63 tell the alphabets apart. -/
inductive Alphabet where
  /-- The alphabet with a plus sign and a slash. -/
  | standard
  /-- The alphabet with a minus sign and a low line, safe in addresses and file names. -/
  | urlSafe
deriving DecidableEq, Repr

namespace Alphabet

/-- The symbol for 62. -/
def symbol62 : Alphabet → Char
  | standard => '+'
  | urlSafe => '-'

/-- The symbol for 63. -/
def symbol63 : Alphabet → Char
  | standard => '/'
  | urlSafe => '_'

/-- The symbol for a six-bit value. -/
def symbol (a : Alphabet) (v : Nat) : Char :=
  if v < 26 then Char.ofNat ('A'.toNat + v)
  else if v < 52 then Char.ofNat ('a'.toNat + (v - 26))
  else if v < 62 then Char.ofNat ('0'.toNat + (v - 52))
  else if v = 62 then a.symbol62
  else a.symbol63

/-- The six-bit value of a symbol. -/
def value? (a : Alphabet) (c : Char) : Option Nat :=
  if c.isUpper then some (c.toNat - 'A'.toNat)
  else if c.isLower then some (c.toNat - 'a'.toNat + 26)
  else if c.isDigit then some (c.toNat - '0'.toNat + 52)
  else if c = a.symbol62 then some 62
  else if c = a.symbol63 then some 63
  else none

theorem value?_symbol (a : Alphabet) {v : Nat} (h : v < 64) :
    a.value? (a.symbol v) = some v := by
  have hall : ∀ a : Alphabet, a = .standard ∨ a = .urlSafe := by intro a; cases a <;> simp
  rcases hall a with rfl | rfl <;> revert v <;> decide

end Alphabet

/-! ## Bytes and sextets -/

/-- The six-bit values of a byte sequence; the last one is filled up with zero bits. -/
def encodeSextets : List UInt8 → List Nat
  | [] => []
  | [x] => [x.toNat / 4, x.toNat % 4 * 16]
  | [x, y] => [x.toNat / 4, x.toNat % 4 * 16 + y.toNat / 16, y.toNat % 16 * 4]
  | x :: y :: z :: rest =>
    x.toNat / 4 :: (x.toNat % 4 * 16 + y.toNat / 16) :: (y.toNat % 16 * 4 + z.toNat / 64) ::
      z.toNat % 64 :: encodeSextets rest

/-- The bytes that a sequence of six-bit values stands for.  A lone value stands for no
byte, and bits left over at the end have to be zero. -/
def decodeSextets : List Nat → Option (List UInt8)
  | [] => some []
  | [_] => none
  | [a, b] => if b % 16 = 0 then some [UInt8.ofNat (a * 4 + b / 16)] else none
  | [a, b, c] =>
    if c % 4 = 0 then
      some [UInt8.ofNat (a * 4 + b / 16), UInt8.ofNat (b % 16 * 16 + c / 4)]
    else none
  | a :: b :: c :: d :: rest =>
    (decodeSextets rest).map fun bytes =>
      UInt8.ofNat (a * 4 + b / 16) :: UInt8.ofNat (b % 16 * 16 + c / 4) ::
        UInt8.ofNat (c % 4 * 64 + d) :: bytes

theorem decodeSextets_encodeSextets (bytes : List UInt8) :
    decodeSextets (encodeSextets bytes) = some bytes := by
  induction bytes using encodeSextets.induct with
  | case1 => rfl
  | case2 x =>
    have hx := x.toNat_lt
    simp only [encodeSextets, decodeSextets]
    rw [if_pos (by omega), show x.toNat / 4 * 4 + x.toNat % 4 * 16 / 16 = x.toNat by omega,
      UInt8.ofNat_toNat]
  | case3 x y =>
    have hx := x.toNat_lt
    have hy := y.toNat_lt
    simp only [encodeSextets, decodeSextets]
    rw [if_pos (by omega),
      show x.toNat / 4 * 4 + (x.toNat % 4 * 16 + y.toNat / 16) / 16 = x.toNat by omega,
      show (x.toNat % 4 * 16 + y.toNat / 16) % 16 * 16 + y.toNat % 16 * 4 / 4 = y.toNat by omega,
      UInt8.ofNat_toNat, UInt8.ofNat_toNat]
  | case4 x y z rest ih =>
    have hx := x.toNat_lt
    have hy := y.toNat_lt
    have hz := z.toNat_lt
    simp only [encodeSextets, decodeSextets, ih, Option.map_some]
    rw [show x.toNat / 4 * 4 + (x.toNat % 4 * 16 + y.toNat / 16) / 16 = x.toNat by omega,
      show (x.toNat % 4 * 16 + y.toNat / 16) % 16 * 16 +
        (y.toNat % 16 * 4 + z.toNat / 64) / 4 = y.toNat by omega,
      show (y.toNat % 16 * 4 + z.toNat / 64) % 4 * 64 + z.toNat % 64 = z.toNat by omega,
      UInt8.ofNat_toNat, UInt8.ofNat_toNat, UInt8.ofNat_toNat]

/-! ## Text -/

/-- The padding after `n` symbols. -/
def padding (n : Nat) : List Char :=
  List.replicate ((4 - n % 4) % 4) '='

/-- The padded text of a byte sequence. -/
def encode (a : Alphabet) (bytes : List UInt8) : List Char :=
  let symbols := (encodeSextets bytes).map a.symbol
  symbols ++ padding symbols.length

/-- The symbols of a text whose padding is complete or absent. -/
def unpad? (cs : List Char) : Option (List Char) :=
  let symbols := cs.takeWhile (· != '=')
  let signs := cs.dropWhile (· != '=')
  if signs = [] ∨ signs = padding symbols.length then some symbols else none

/-- The bytes of a padded or unpadded text. -/
def decode (a : Alphabet) (cs : List Char) : Option (List UInt8) := do
  let symbols ← unpad? cs
  let sextets ← symbols.mapM a.value?
  decodeSextets sextets

/-- The padded text of a string's UTF-8 bytes. -/
def encodeString (a : Alphabet) (s : String) : List Char :=
  encode a s.toUTF8.toList

/-- The string whose UTF-8 bytes a text stands for. -/
def decodeString (a : Alphabet) (cs : List Char) : Option String := do
  let bytes ← decode a cs
  String.fromUTF8? (ByteArray.mk bytes.toArray)

end TagSearch.Base64
