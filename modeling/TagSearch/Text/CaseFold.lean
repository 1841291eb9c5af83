import TagSearch.Text.Ranges

/-!
# Letters that differ in case only

The simple case folding of the Unicode standard, as the groups of characters that fold to
the same one.  Most groups are pairs, and most pairs come in runs.
-/

namespace TagSearch.Text.CaseFold

/-- The pairs of characters that fold together, in runs.  Four numbers describe a run: its
first small member, the distance to its partner, the distance to the next pair, and the
number of pairs. -/
def pairRuns : List Nat :=
  Ranges.numbers none
    "41 20 1 a 4c 20 1 7 54 20 1 7 c0 20 1 5 c6 20 1 11 d8 20 1 7 df 1dbf 1 1 ff 79 1 1 100 1 2
    18 132 1 2 3 139 1 2 8 14a 1 2 17 179 1 2 3 180 c3 1 1 181 d2 1 1 182 1 2 2 186 ce 1 1 187 1
    1 1 189 cd 1 2 18b 1 1 1 18e 4f 1 1 18f ca 1 1 190 cb 1 1 191 1 1 1 193 cd 1 1 194 cf 1 1
    195 61 1 1 196 d3 1 1 197 d1 1 1 198 1 1 1 19a a3 1 1 19b a641 1 1 19c d3 1 1 19d d5 1 1 19e
    82 1 1 19f d6 1 1 1a0 1 2 3 1a6 da 1 1 1a7 1 1 1 1a9 da 1 1 1ac 1 1 1 1ae da 1 1 1af 1 1 1
    1b1 d9 1 2 1b3 1 2 2 1b7 db 1 1 1b8 1 1 1 1bc 1 1 1 1bf 38 1 1 1cd 1 2 8 1de 1 2 9 1f4 1 1 1
    1f8 1 2 14 222 1 2 9 23a 2a2b 1 1 23b 1 1 1 23e 2a28 1 1 23f 2a3f 1 2 241 1 1 1 244 45 1 1
    245 47 1 1 246 1 2 5 250 2a1f 1 1 251 2a1c 1 1 252 2a1e 1 1 25c a54f 1 1 261 a54b 1 1 264
    a567 1 1 265 a528 1 1 266 a544 1 1 26a a544 1 1 26b 29f7 1 1 26c a541 1 1 271 29fd 1 1 27d
    29e7 1 1 282 a543 1 1 287 a52a 1 1 29d a515 1 1 29e a512 1 1 370 1 2 2 376 1 1 1 37b 82 1 3
    37f 74 1 1 386 26 1 1 388 25 1 3 38c 40 1 1 38e 3f 1 2 390 1c43 1 1 391 20 2 2 394 20 2 2
    397 20 1 1 39b 20 2 2 39e 20 1 2 3a4 20 1 2 3a7 20 1 2 3aa 20 1 2 3b0 1c33 1 1 3cf 8 1 1 3d8
    1 2 c 3f2 7 1 1 3f7 1 1 1 3fa 1 1 1 400 50 1 10 410 20 1 2 413 20 2 2 416 20 1 8 41f 20 1 2
    423 20 1 7 42b 20 1 5 460 1 1 1 464 1 2 f 48a 1 2 1b 4c0 f 1 1 4c1 1 2 7 4d0 1 2 30 531 30 1
    26 10a0 1c60 1 26 10c7 1c60 1 1 10cd 1c60 1 1 10d0 bc0 1 2b 10fd bc0 1 3 13a0 97d0 1 50 13f0
    8 1 6 1c89 1 1 1 1d79 8a04 1 1 1d7d ee6 1 1 1d8e 8a38 1 1 1e00 1 2 30 1e62 1 2 1a 1ea0 1 2
    30 1f00 8 1 8 1f10 8 1 6 1f20 8 1 8 1f30 8 1 8 1f40 8 1 6 1f51 8 2 4 1f60 8 1 8 1f70 4a 1 2
    1f72 56 1 4 1f76 64 1 2 1f78 80 1 2 1f7a 70 1 2 1f7c 7e 1 2 1f80 8 1 8 1f90 8 1 8 1fa0 8 1 8
    1fb0 8 1 2 1fb3 9 1 1 1fc3 9 1 1 1fd0 8 1 2 1fe0 8 1 2 1fe5 7 1 1 1ff3 9 1 1 2132 1c 1 1
    2160 10 1 10 2183 1 1 1 24b6 1a 1 1a 2c00 30 1 30 2c60 1 1 1 2c67 1 2 3 2c72 1 1 1 2c75 1 1
    1 2c80 1 2 32 2ceb 1 2 2 2cf2 1 1 1 a640 1 2 5 a64c 1 2 11 a680 1 2 e a722 1 2 7 a732 1 2 1f
    a779 1 2 2 a77e 1 2 5 a78b 1 1 1 a790 1 2 2 a794 30 1 1 a796 1 2 a a7b3 3a0 1 1 a7b4 1 2 8
    a7c7 1 2 2 a7cc 1 1 1 a7d0 1 1 1 a7d6 1 2 3 a7f5 1 1 1 fb05 1 1 1 ff21 20 1 1a 10400 28 1 28
    104b0 28 1 24 10570 27 1 b 1057c 27 1 f 1058c 27 1 7 10594 27 1 2 10c80 40 1 33 10d50 20 1
    16 118a0 20 1 20 16e40 20 1 20 1e900 22 1 22".toList

/-- The groups of more than two characters that fold together, each after its size. -/
def largeGroups : List Nat :=
  Ranges.numbers none
    "3 4b 6b 212a 3 53 73 17f 3 b5 39c 3bc 3 c5 e5 212b 3 1c4 1c5 1c6 3 1c7 1c8 1c9 3 1ca 1cb 1cc
    3 1f1 1f2 1f3 4 345 399 3b9 1fbe 3 392 3b2 3d0 3 395 3b5 3f5 4 398 3b8 3d1 3f4 3 39a 3ba 3f0
    3 3a0 3c0 3d6 3 3a1 3c1 3f1 3 3a3 3c2 3c3 3 3a6 3c6 3d5 3 3a9 3c9 2126 3 412 432 1c80 3 414
    434 1c81 3 41e 43e 1c82 3 421 441 1c83 4 422 442 1c84 1c85 3 42a 44a 1c86 3 462 463 1c87 3
    1c88 a64a a64b 3 1e60 1e61 1e9b".toList

/-- The partner of a code point in the pairs of the given runs. -/
def partner? (n : Nat) : List Nat → Option Nat
  | first :: distance :: stride :: count :: rest =>
    let last := first + stride * (count - 1)
    if first ≤ n ∧ n ≤ last ∧ (n - first) % stride = 0 then some (n + distance)
    else if first + distance ≤ n ∧ n ≤ last + distance ∧
        (n - distance - first) % stride = 0 then
      some (n - distance)
    else partner? n rest
  | _ => none

/-- The group of a code point among groups that each follow their size. -/
def group? (n : Nat) : Nat → List Nat → Option (List Nat)
  | 0, _ => none
  | _ + 1, [] => none
  | fuel + 1, size :: rest =>
    let members := rest.take size
    if members.contains n then some members else group? n fuel (rest.drop size)

/-- The code points that fold to the same one as a given code point, itself included. -/
def orbit (n : Nat) : List Nat :=
  match group? n largeGroups.length largeGroups with
  | some members => members
  | none =>
    match partner? n pairRuns with
    | some m => [n, m]
    | none => [n]

/-! ## Whole runs -/

/-- The places from `k` to `m` of a sequence of `count` numbers from `start` on, each
`stride` after the one before, that lie between `low` and `high`. -/
def places? (start stride count low high : Nat) : Option (Nat × Nat) :=
  if high < start then none
  else
    let k := (low - start + (stride - 1)) / stride
    let m := min (count - 1) ((high - start) / stride)
    if k ≤ m then some (k, m) else none

/-- The numbers at the places from `k` to `m` of such a sequence. -/
def between (start stride : Nat) (places : Nat × Nat) : Ranges :=
  let (k, m) := places
  if stride = 1 then [(start + k, start + m)]
  else (List.range (m + 1 - k)).map fun i => (start + stride * (k + i), start + stride * (k + i))

/-- The partners of the code points between `low` and `high` in the pairs of the given
runs. -/
def partners (low high : Nat) : List Nat → Ranges
  | first :: distance :: stride :: count :: rest =>
    let second := first + distance
    ((places? first stride count low high).map (between second stride)).getD [] ++
      ((places? second stride count low high).map (between first stride)).getD [] ++
      partners low high rest
  | _ => []

/-- The groups with a member between `low` and `high` among groups that each follow their
size. -/
def groups (low high : Nat) : Nat → List Nat → Ranges
  | 0, _ => []
  | _ + 1, [] => []
  | fuel + 1, size :: rest =>
    let members := rest.take size
    let met := if members.any fun n => low ≤ n && n ≤ high then members.map fun n => (n, n) else []
    met ++ groups low high fuel (rest.drop size)

/-- The code points that fold to the same one as some code point between `low` and
`high`. -/
def orbits (low high : Nat) : Ranges :=
  (low, high) :: partners low high pairRuns ++
    groups low high largeGroups.length largeGroups

end TagSearch.Text.CaseFold
