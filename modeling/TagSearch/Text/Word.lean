import TagSearch.Text.Ranges

/-!
# Parts of words

The parts that code points play in words, by the rules of the Unicode standard.
-/

namespace TagSearch.Text.Word

/-- The code points of the word part ALetter. -/
def aLetter : Ranges :=
  Ranges.ofText
    "41 19 6 19 2f 0 a 0 4 0 5 16 1 1e 1 1df 6 21 70 4 1 1 2 3 1 0 6 0 1 2 1 0 1 13 1 52 1 8a 8
    a5 1 25 2 3 1 0 1 28 1 0 68 0 2c 2a 23 1 1 62 1 0 f 1 7 1 a 2 2 0 f 1 1 1d 1d 58 b 0 18 20 9
    1 4 0 5 15 4 0 9 0 3 0 17 18 7 a 5 17 1 5 11 29 3a 35 3 0 12 0 7 9 f f 4 7 2 1 2 15 1 6 1 0
    3 3 3 0 10 0 d 1 1 2 e 1 a 0 8 5 4 1 2 15 1 6 1 1 1 1 1 1 1f 3 1 0 13 2 10 8 1 2 1 15 1 6 1
    1 1 4 3 0 12 0 f 1 17 0 b 7 2 1 2 15 1 6 1 1 1 4 3 0 1e 1 1 2 f 0 11 0 1 5 3 2 1 3 3 1 1 0 1
    1 3 1 3 2 3 b 16 0 34 7 1 2 1 16 1 f 3 0 1a 2 2 0 2 1 1e 0 4 7 1 2 1 16 1 9 1 4 3 0 1f 1 1 1
    f 1 11 8 1 2 1 28 2 0 10 0 5 2 8 2 18 5 5 11 3 17 1 8 1 0 2 6 139 0 3f 7 1 23 1b 4 113 25 1
    0 5 0 2 2a 1 14c 1 3 2 6 1 0 1 3 2 28 1 3 2 20 1 3 2 6 1 0 1 3 2 e 1 38 1 3 2 42 25 f 10 55
    2 5 3 26b 2 10 1 19 5 4a 3 a 7 11 d 12 e 11 e c 1 2 af 58 7 4 2 21 1 0 5 45 a 1e e1 16 ee 2e
    11 7 36 1d d 1 a 2b 1a 23 29 2 a 23 2 a 5 2a 2 2 29 3 1 5 1 1 3 0 5 bf 40 115 2 5 2 25 2 5 2
    7 1 0 1 0 1 0 1 1e 2 34 1 6 1 0 3 2 1 6 3 3 2 5 4 c 5 2 1 6 74 0 d 0 10 c 65 0 4 0 2 9 1 0 3
    4 6 0 1 0 1 0 1 3 1 a 2 3 5 4 4 0 11 28 32d 33 716 e4 6 3 3 1 c 25 1 0 5 0 2 37 7 0 10 16 9
    6 1 6 1 6 1 6 1 6 1 6 1 6 1 6 50 0 1d5 0 35 1 c8 2a 1 5d 11 1f 6e40 48c 43 2d 2 10c 3 f a 1
    14 2e 10 1e 2 4f 18 c5 2 1 1 0 1 7 15 f 1 2 1 3 1 16 1d 33 e 31 3e 5 3 0 1 1 b 1b a 16 19 1c
    7 2e 1c 0 30 28 17 2 1 7 94 a 7 2 c 5 2 5 2 5 9 6 1 6 1 39 6 72 1d 2ba3 c 16 4 30 2304 6 c 4
    38 61 21 16a 12 3f 2 35 28 b 74 4 1 86 24 19 6 19 45 1e 3 5 2 5 2 5 2 2 23 b 1 19 1 12 1 1 1
    e 2 d 22 7a 45 34 10b 1c 3 30 2f 1f d 1d 5 25 a 1d 2 23 4 7 1 4 2a 9d 12 23 4 23 4 27 8 33 c
    a 1 e 1 6 1 1 1 a 1 e 1 6 1 1 3 33 c 136 9 15 a 7 18 5 1 29 1 8 45 5 2 0 1 2b 1 1 3 0 2 16 a
    16 9 1e 41 12 1 1 a 15 a 19 46 37 6 1 40 0 f 3 1 2 1 1c 2a 1c 3 1c 23 7 1 1b 1b 35 a 15 a 12
    d 11 6e 48 37 32 d 32 d 23 26 1b 9 16 fa 29 6 1 10 2 3b 1c a 0 8 15 2a 11 2e 14 1b 16 c 34
    39 1 2 0 d 2c 20 18 1a 23 1d 0 2 0 8 22 3 0 c 2f e 3 15 0 1 0 23 11 1 18 13 1 3f 6 1 0 1 3 1
    e 1 9 7 2e 26 7 2 1 2 15 1 6 1 1 1 4 3 0 12 0 c 4 1e 9 1 0 2 0 1 25 1 0 19 0 1 0 2c 34 12 3
    14 2 1e 2f 14 1 1 0 b8 2e 29 3 24 2f 14 0 3b 2a d 0 147 2b 74 3f 1f 7 2 0 2 7 1 1 1 17 f 0 1
    0 5e 7 2 26 10 0 1 0 1c 0 a 27 7 0 15 0 b 2d 13 0 12 48 c7 20 1f 8 1 24 11 0 31 1d 70 6 1 1
    1 25 15 0 19 5 1 1 1 1f e 0 147 12 f 0 1 c 1 21 7c 0 4f 399 66 6e 11 c3 a4c 60 f 42f 11 5 19
    f9a 5 246 1ab9 1d 6e2 238 7 1e 11 4e 11 1d 12 2f 10 3 1f 14 5 12 1b0 2c d3 3f 80 4a 5 0 42 c
    40 1 1 0 4c1c 6a 5 c 3 8 7 9 1766 54 1 46 1 1 2 0 2 1 2 3 1 b 1 0 1 6 1 40 1 3 2 7 1 6 1 1b
    1 3 1 4 1 0 3 6 1 153 2 18 1 18 1 1e 1 18 1 1e 1 18 1 1e 1 18 1 1e 1 18 1 7 734 1e 6 5 105
    3d 92 2c a 6 10 0 141 1d 12 2b 1e4 1b e4 1d 2 0 1ef 6 1 3 1 1 1 e 1 c4 3b 43 7 0 4b4 3 1 1a
    1 1 1 0 2 0 1 9 1 3 1 0 1 0 6 0 4 0 1 0 1 0 1 2 1 1 1 0 2 0 1 0 1 0 1 0 1 0 1 1 1 0 2 3 1 6
    1 3 1 3 1 0 1 9 1 10 5 2 1 4 1 10 274 19 6 19 6 19"

/-- The code points of the word part CR. -/
def cr : Ranges :=
  Ranges.ofText
    "d 0"

/-- The code points of the word part Double Quote. -/
def doubleQuote : Ranges :=
  Ranges.ofText
    "22 0"

/-- The code points of the word part Extend. -/
def extend : Ranges :=
  Ranges.ofText
    "300 6f 113 6 107 2c 1 0 1 1 1 1 1 0 48 a 30 14 10 0 65 6 2 5 2 1 1 3 23 0 1e 1a 5b a 3a 8 9
    0 18 3 1 8 1 2 1 4 2b 2 3b 8 2a 17 1 20 36 2 1 11 1 6 a 1 1d 2 38 0 1 6 2 1 2 2 9 0 a 1 1a 0
    2 2 38 0 1 4 4 1 2 2 3 0 1e 1 3 0 b 2 38 0 1 7 1 2 1 2 14 1 16 5 1 2 38 0 1 6 2 1 2 2 7 2 a
    1 1e 0 3b 4 3 2 1 3 9 0 28 4 37 0 1 6 1 2 1 3 7 1 b 1 1d 2 38 0 1 6 1 2 1 3 7 1 b 1 f 0 c 3
    37 1 1 6 1 2 1 3 9 0 a 1 1d 2 46 0 4 5 1 0 1 7 12 1 3d 0 2 6 c 7 62 0 2 8 b 6 49 1 1b 0 1 0
    1 0 4 1 31 13 1 1 5 a 1 23 9 0 64 13 17 3 4 2 1 2 2 6 3 3 d b 1 0 a 3 2bf 2 3b2 3 1c 2 1d 1
    1e 1 40 1f 9 0 2d 2 1 0 75 1 22 0 76 b 4 b db 4 39 9 1 1c 2 0 30 1e 31 4 2f 10 26 8 c 2 1e c
    38 d 30 13 98 2 1 14 4 0 6 0 2 2 c6 3f 20c 0 c3 20 bfe 2 8d 0 60 1f 22a 5 69 1 75d4 3 1 9 20
    1 50 1 110 0 3 0 4 0 17 4 4 0 53 1 32 11 1a 11 d 0 26 7 19 c 2c 3 2f d 24 0 43 d c 0 8 1 2d
    2 32 0 1 2 2 1 5 1 1 0 29 4 5 1 ec 7 1 1 4f30 0 2e1 f 10 f 16e 1 25d 0 e2 0 95 4 686 2 1 1 5
    3 28 2 4 0 a5 1 23d 3 41 4 13d 1 4f 3 46 a 31 3 7a 2 35 e 29 0 2 1 a 3 2d a 7 0 3d 2 24 d 10
    1 2c 0 c 2 30 d 8 3 1 1 5c b 6 0 2 0 9d b 15 3 37 1 1 6 2 1 2 2 9 0 a 1 2 6 3 4 43 8 1 0 2 0
    1 3 1 4 1 0 e 1 52 11 17 0 51 13 eb 6 2 8 1b 1 52 10 6a c 65 e 100 e f5 5 1 1 2 3 1 0 1 1 8d
    6 2 6 3 0 1c 9 28 6 1 3 8 0 9 a 2e f 195 7 1 7 52 15 1 d 7a 5 3 0 1 1 1 6 1 0 42 4 1 1 1 4
    15b 3 9 1 1 0 30 6 3 4 17 0 14e5 0 6 e 2cc8 11 9c0 4 3b 6 418 0 1 36 7 3 51 0 b 1 4cab 1
    1261 2d 2 16 21e 4 3 5 8 7 2 6 1e 3 94 2 7bb 36 4 31 8 0 e 0 16 4 1 e 550 6 1 10 2 6 1 1 1 4
    64 0 a0 6 177 0 3d 3 1fc 3 fe 1 2e0 6 6d 6 ab0 4 c0c20 5f 80 ef"

/-- The code points of the word part ExtendNumLet. -/
def extendNumLet : Ranges :=
  Ranges.ofText
    "5f 0 1fcf 0 f 1 13 0 ddde 1 18 2 ef 0"

/-- The code points of the word part Format. -/
def format : Ranges :=
  Ranges.ofText
    "ad 0 56e 0 11f1 0 7ff 1 1a 4 31 4 1 9 de8f 0 f9 2 3434 f 8860 3 14cf 7 c2e86 0"

/-- The code points of the word part Hebrew Letter. -/
def hebrewLetter : Ranges :=
  Ranges.ofText
    "5d0 1a 4 3 f52a 0 1 9 1 c 1 4 1 0 1 1 1 1 1 9"

/-- The code points of the word part Katakana. -/
def katakana : Ranges :=
  Ranges.ofText
    "3031 4 65 1 3 5a 1 3 f0 f d0 2e 1 57 cc0e 37 b052 3 1 6 1 1 1 0 11f 2 32 0 e 3"

/-- The code points of the word part LF. -/
def lf : Ranges :=
  Ranges.ofText
    "a 0"

/-- The code points of the word part MidLetter. -/
def midLetter : Ranges :=
  Ranges.ofText
    "3a 0 7c 0 2cf 0 1d7 0 94 0 1a32 0 ddeb 0 41 0 c4 0"

/-- The code points of the word part MidNum. -/
def midNum : Ranges :=
  Ranges.ofText
    "2c 0 e 0 342 0 20a 0 82 1 5e 0 18b 0 184b 0 de0b 0 3 0 b7 0 e 0"

/-- The code points of the word part MidNumLet. -/
def midNumLet : Ranges :=
  Ranges.ofText
    "2e 0 1fe9 1 a 0 de2d 0 b4 0 6 0"

/-- The code points of the word part Newline. -/
def newline : Ranges :=
  Ranges.ofText
    "b 1 78 0 1fa2 1"

/-- The code points of the word part Numeric. -/
def numeric : Ranges :=
  Ranges.ofText
    "30 9 5c6 5 5a 9 1 0 71 0 12 9 c6 9 c6 1 50 0 83 9 76 9 76 9 76 9 76 9 76 9 76 9 76 9 76 9 76
    9 60 9 76 9 46 9 116 9 46 9 746 9 26 9 12c 9 80 a a5 9 6 9 b6 9 56 9 86 9 6 9 89c6 9 2a6 9
    26 9 c6 9 16 9 56 9 196 9 5316 9 586 9 886 9 6 9 31c 9 4d 0 f 0 22 9 3c 9 90 9 116 9 156 9
    76 9 176 9 66 9 6 13 4c 9 1a6 9 66 9 296 9 56 9 f6 9 46 9 1a6 9 41d6 9 926 9 56 9 86 9 216 9
    5f76 9 ad4 31 940 9 1a6 9 1f6 9 f7 9 355 9 1296 9"

/-- The code points of the word part Regional Indicator. -/
def regionalIndicator : Ranges :=
  Ranges.ofText
    "1f1e6 19"

/-- The code points of the word part Single Quote. -/
def singleQuote : Ranges :=
  Ranges.ofText
    "27 0"

/-- The code points of the word part WSegSpace. -/
def wSegSpace : Ranges :=
  Ranges.ofText
    "20 0 165f 0 97f 6 1 2 54 0 fa0 0"

/-- The code points of the word part ZWJ. -/
def zwj : Ranges :=
  Ranges.ofText
    "200d 0"

/-- Each word part: its names in small letters without separators, and its members. -/
def every : List (List String × Ranges) :=
  [(["aletter", "le"], aLetter),
    (["cr"], cr),
    (["doublequote", "dq"], doubleQuote),
    (["extend"], extend),
    (["extendnumlet", "ex"], extendNumLet),
    (["format", "fo"], format),
    (["hebrewletter", "hl"], hebrewLetter),
    (["katakana", "ka"], katakana),
    (["lf"], lf),
    (["midletter", "ml"], midLetter),
    (["midnum", "mn"], midNum),
    (["midnumlet", "mb"], midNumLet),
    (["newline", "nl"], newline),
    (["numeric", "nu"], numeric),
    (["regionalindicator", "ri"], regionalIndicator),
    (["singlequote", "sq"], singleQuote),
    (["wsegspace"], wSegSpace),
    (["zwj"], zwj)]

/-- The members of the word part of a given name. -/
def find? (name : String) : Option Ranges :=
  (every.find? fun (names, _) => names.contains name).map (·.2)

end TagSearch.Text.Word
