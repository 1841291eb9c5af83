import TagSearch.Text.Ranges

/-!
# Parts of graphemes

The parts that code points play in graphemes, the characters that a reader sees, by the
rules of the Unicode standard.
-/

namespace TagSearch.Text.Grapheme

/-- The code points of the grapheme part CR. -/
def cr : Ranges :=
  Ranges.ofText
    "d 0"

/-- The code points of the grapheme part Control. -/
def control : Ranges :=
  Ranges.ofText
    "0 9 1 1 1 11 5f 20 d 0 56e 0 11f1 0 7fc 0 2 1 18 6 31 f de8f 0 f0 b 3434 f 8860 3 14cf 7
    c2e85 1f 60 7f f0 e0f"

/-- The code points of the grapheme part Extend. -/
def extend : Ranges :=
  Ranges.ofText
    "300 6f 113 6 107 2c 1 0 1 1 1 1 1 0 48 a 30 14 10 0 65 6 2 5 2 1 1 3 23 0 1e 1a 5b a 3a 8 9
    0 18 3 1 8 1 2 1 4 2b 2 3b 8 2a 17 1 1f 37 0 1 0 4 7 4 0 3 6 a 1 1d 0 3a 0 1 0 2 3 8 0 9 0 a
    1 1a 0 2 1 39 0 4 1 4 1 2 2 3 0 1e 1 3 0 b 1 39 0 4 4 1 1 4 0 14 1 16 5 1 0 3a 0 1 1 1 3 8 0
    7 2 a 1 1e 0 3b 0 1 0 c 0 9 0 28 0 3 0 37 0 1 2 5 2 1 3 7 1 b 1 1d 0 3a 0 2 1 1 0 3 2 1 3 7
    1 b 1 1c 1 39 1 1 0 2 3 8 0 9 0 a 1 1d 0 48 0 4 0 2 2 1 0 8 0 51 0 2 6 c 7 62 0 2 8 b 6 49 1
    1b 0 1 0 1 0 37 d 1 4 1 1 5 a 1 23 9 0 66 3 1 5 1 1 2 1 19 1 4 2 10 3 d 0 2 1 6 0 f 0 2bf 2
    3b2 3 1c 2 1d 1 1e 1 40 1 1 6 8 0 2 a 9 0 2d 2 1 0 75 1 22 0 76 2 4 1 9 0 6 2 db 1 2 0 3a 0
    1 6 1 0 1 0 2 7 6 9 2 0 30 1e 31 3 30 9 4 2 26 8 c 1 20 3 2 5 38 0 1 1 3 0 1 4 38 7 2 1 98 2
    1 c 1 6 4 0 6 0 3 1 c6 3f 20c 0 c3 20 bfe 2 8d 0 60 1f 22a 5 69 1 75d4 3 1 9 20 1 50 1 110 0
    3 0 4 0 19 1 5 0 97 1 1a 11 d 0 26 7 19 a 1 0 2c 2 30 0 2 3 2 1 2 0 24 0 43 5 2 1 2 1 c 0 8
    0 2f 0 33 0 1 2 2 1 5 1 1 0 2a 1 8 0 ee 0 2 0 4 0 4f30 0 2e1 f 10 f 16e 1 25d 0 e2 0 95 4
    686 2 1 1 5 3 28 2 4 0 a5 1 23d 3 41 4 13d 1 4f 3 46 a 31 3 7b 0 36 e 29 0 2 1 a 2 31 3 2 1
    7 0 3d 2 24 4 1 7 3e 0 c 1 34 8 1 0 8 3 2 0 5f 2 2 3 6 0 2 0 9d 0 3 7 15 1 39 1 1 0 1 0 c 0
    9 0 e 6 3 4 43 0 2 5 1 0 2 0 1 2 4 2 1 0 e 1 55 7 2 2 1 0 17 0 51 0 2 5 1 0 2 0 1 1 1 1 eb 0
    2 3 6 1 1 1 1b 1 55 7 2 0 1 1 6a 0 1 0 2 7 65 0 1 0 2 3 1 4 103 8 1 1 f5 0 a 3 4 0 90 3 2 1
    4 0 20 9 28 5 2 3 8 0 9 5 2 2 2e c 1 1 196 6 1 5 1 0 52 15 2 6 1 1 1 1 7a 5 3 0 1 1 1 6 1 0
    48 1 3 0 1 0 15b 1 b 1 34 4 5 2 17 0 14e5 0 6 e 2cc8 b 3 2 9c0 4 3b 6 418 0 3f 3 51 0 b 1
    4cab 1 1261 2d 2 16 21e 4 3 5 8 7 2 6 1e 3 94 2 7bb 36 4 31 8 0 e 0 16 4 1 e 550 6 1 10 2 6
    1 1 1 4 64 0 a0 6 177 0 3d 3 1fc 3 fe 1 2e0 6 6d 6 ab0 4 c0c20 5f 80 ef"

/-- The code points of the grapheme part L. -/
def l : Ranges :=
  Ranges.ofText
    "1100 5f 9800 1c"

/-- The code points of the grapheme part LF. -/
def lf : Ranges :=
  Ranges.ofText
    "a 0"

/-- The code points of the grapheme part LV. -/
def lv : Ranges :=
  Ranges.ofText
    "ac00 0 1b 0 1b 0 1b 0 1b 0 1b 0 1b 0 1b 0 1b 0 1b 0 1b 0 1b 0 1b 0 1b 0 1b 0 1b 0 1b 0 1b 0
    1b 0 1b 0 1b 0 1b 0 1b 0 1b 0 1b 0 1b 0 1b 0 1b 0 1b 0 1b 0 1b 0 1b 0 1b 0 1b 0 1b 0 1b 0 1b
    0 1b 0 1b 0 1b 0 1b 0 1b 0 1b 0 1b 0 1b 0 1b 0 1b 0 1b 0 1b 0 1b 0 1b 0 1b 0 1b 0 1b 0 1b 0
    1b 0 1b 0 1b 0 1b 0 1b 0 1b 0 1b 0 1b 0 1b 0 1b 0 1b 0 1b 0 1b 0 1b 0 1b 0 1b 0 1b 0 1b 0 1b
    0 1b 0 1b 0 1b 0 1b 0 1b 0 1b 0 1b 0 1b 0 1b 0 1b 0 1b 0 1b 0 1b 0 1b 0 1b 0 1b 0 1b 0 1b 0
    1b 0 1b 0 1b 0 1b 0 1b 0 1b 0 1b 0 1b 0 1b 0 1b 0 1b 0 1b 0 1b 0 1b 0 1b 0 1b 0 1b 0 1b 0 1b
    0 1b 0 1b 0 1b 0 1b 0 1b 0 1b 0 1b 0 1b 0 1b 0 1b 0 1b 0 1b 0 1b 0 1b 0 1b 0 1b 0 1b 0 1b 0
    1b 0 1b 0 1b 0 1b 0 1b 0 1b 0 1b 0 1b 0 1b 0 1b 0 1b 0 1b 0 1b 0 1b 0 1b 0 1b 0 1b 0 1b 0 1b
    0 1b 0 1b 0 1b 0 1b 0 1b 0 1b 0 1b 0 1b 0 1b 0 1b 0 1b 0 1b 0 1b 0 1b 0 1b 0 1b 0 1b 0 1b 0
    1b 0 1b 0 1b 0 1b 0 1b 0 1b 0 1b 0 1b 0 1b 0 1b 0 1b 0 1b 0 1b 0 1b 0 1b 0 1b 0 1b 0 1b 0 1b
    0 1b 0 1b 0 1b 0 1b 0 1b 0 1b 0 1b 0 1b 0 1b 0 1b 0 1b 0 1b 0 1b 0 1b 0 1b 0 1b 0 1b 0 1b 0
    1b 0 1b 0 1b 0 1b 0 1b 0 1b 0 1b 0 1b 0 1b 0 1b 0 1b 0 1b 0 1b 0 1b 0 1b 0 1b 0 1b 0 1b 0 1b
    0 1b 0 1b 0 1b 0 1b 0 1b 0 1b 0 1b 0 1b 0 1b 0 1b 0 1b 0 1b 0 1b 0 1b 0 1b 0 1b 0 1b 0 1b 0
    1b 0 1b 0 1b 0 1b 0 1b 0 1b 0 1b 0 1b 0 1b 0 1b 0 1b 0 1b 0 1b 0 1b 0 1b 0 1b 0 1b 0 1b 0 1b
    0 1b 0 1b 0 1b 0 1b 0 1b 0 1b 0 1b 0 1b 0 1b 0 1b 0 1b 0 1b 0 1b 0 1b 0 1b 0 1b 0 1b 0 1b 0
    1b 0 1b 0 1b 0 1b 0 1b 0 1b 0 1b 0 1b 0 1b 0 1b 0 1b 0 1b 0 1b 0 1b 0 1b 0 1b 0 1b 0 1b 0 1b
    0 1b 0 1b 0 1b 0 1b 0 1b 0 1b 0 1b 0 1b 0 1b 0 1b 0 1b 0 1b 0 1b 0 1b 0 1b 0 1b 0 1b 0 1b 0
    1b 0 1b 0 1b 0 1b 0 1b 0 1b 0 1b 0 1b 0 1b 0 1b 0 1b 0 1b 0 1b 0 1b 0 1b 0 1b 0 1b 0 1b 0 1b
    0 1b 0 1b 0 1b 0 1b 0 1b 0 1b 0 1b 0 1b 0 1b 0 1b 0 1b 0 1b 0 1b 0 1b 0 1b 0 1b 0 1b 0 1b 0
    1b 0 1b 0 1b 0 1b 0 1b 0 1b 0 1b 0 1b 0 1b 0 1b 0 1b 0 1b 0 1b 0 1b 0 1b 0 1b 0 1b 0 1b 0 1b
    0 1b 0 1b 0 1b 0 1b 0 1b 0 1b 0 1b 0 1b 0 1b 0 1b 0 1b 0 1b 0 1b 0 1b 0 1b 0 1b 0 1b 0 1b 0
    1b 0 1b 0 1b 0 1b 0 1b 0 1b 0 1b 0 1b 0 1b 0 1b 0 1b 0"

/-- The code points of the grapheme part LVT. -/
def lvt : Ranges :=
  Ranges.ofText
    "ac01 1a 1 1a 1 1a 1 1a 1 1a 1 1a 1 1a 1 1a 1 1a 1 1a 1 1a 1 1a 1 1a 1 1a 1 1a 1 1a 1 1a 1 1a
    1 1a 1 1a 1 1a 1 1a 1 1a 1 1a 1 1a 1 1a 1 1a 1 1a 1 1a 1 1a 1 1a 1 1a 1 1a 1 1a 1 1a 1 1a 1
    1a 1 1a 1 1a 1 1a 1 1a 1 1a 1 1a 1 1a 1 1a 1 1a 1 1a 1 1a 1 1a 1 1a 1 1a 1 1a 1 1a 1 1a 1 1a
    1 1a 1 1a 1 1a 1 1a 1 1a 1 1a 1 1a 1 1a 1 1a 1 1a 1 1a 1 1a 1 1a 1 1a 1 1a 1 1a 1 1a 1 1a 1
    1a 1 1a 1 1a 1 1a 1 1a 1 1a 1 1a 1 1a 1 1a 1 1a 1 1a 1 1a 1 1a 1 1a 1 1a 1 1a 1 1a 1 1a 1 1a
    1 1a 1 1a 1 1a 1 1a 1 1a 1 1a 1 1a 1 1a 1 1a 1 1a 1 1a 1 1a 1 1a 1 1a 1 1a 1 1a 1 1a 1 1a 1
    1a 1 1a 1 1a 1 1a 1 1a 1 1a 1 1a 1 1a 1 1a 1 1a 1 1a 1 1a 1 1a 1 1a 1 1a 1 1a 1 1a 1 1a 1 1a
    1 1a 1 1a 1 1a 1 1a 1 1a 1 1a 1 1a 1 1a 1 1a 1 1a 1 1a 1 1a 1 1a 1 1a 1 1a 1 1a 1 1a 1 1a 1
    1a 1 1a 1 1a 1 1a 1 1a 1 1a 1 1a 1 1a 1 1a 1 1a 1 1a 1 1a 1 1a 1 1a 1 1a 1 1a 1 1a 1 1a 1 1a
    1 1a 1 1a 1 1a 1 1a 1 1a 1 1a 1 1a 1 1a 1 1a 1 1a 1 1a 1 1a 1 1a 1 1a 1 1a 1 1a 1 1a 1 1a 1
    1a 1 1a 1 1a 1 1a 1 1a 1 1a 1 1a 1 1a 1 1a 1 1a 1 1a 1 1a 1 1a 1 1a 1 1a 1 1a 1 1a 1 1a 1 1a
    1 1a 1 1a 1 1a 1 1a 1 1a 1 1a 1 1a 1 1a 1 1a 1 1a 1 1a 1 1a 1 1a 1 1a 1 1a 1 1a 1 1a 1 1a 1
    1a 1 1a 1 1a 1 1a 1 1a 1 1a 1 1a 1 1a 1 1a 1 1a 1 1a 1 1a 1 1a 1 1a 1 1a 1 1a 1 1a 1 1a 1 1a
    1 1a 1 1a 1 1a 1 1a 1 1a 1 1a 1 1a 1 1a 1 1a 1 1a 1 1a 1 1a 1 1a 1 1a 1 1a 1 1a 1 1a 1 1a 1
    1a 1 1a 1 1a 1 1a 1 1a 1 1a 1 1a 1 1a 1 1a 1 1a 1 1a 1 1a 1 1a 1 1a 1 1a 1 1a 1 1a 1 1a 1 1a
    1 1a 1 1a 1 1a 1 1a 1 1a 1 1a 1 1a 1 1a 1 1a 1 1a 1 1a 1 1a 1 1a 1 1a 1 1a 1 1a 1 1a 1 1a 1
    1a 1 1a 1 1a 1 1a 1 1a 1 1a 1 1a 1 1a 1 1a 1 1a 1 1a 1 1a 1 1a 1 1a 1 1a 1 1a 1 1a 1 1a 1 1a
    1 1a 1 1a 1 1a 1 1a 1 1a 1 1a 1 1a 1 1a 1 1a 1 1a 1 1a 1 1a 1 1a 1 1a 1 1a 1 1a 1 1a 1 1a 1
    1a 1 1a 1 1a 1 1a 1 1a 1 1a 1 1a 1 1a 1 1a 1 1a 1 1a 1 1a 1 1a 1 1a 1 1a 1 1a 1 1a 1 1a 1 1a
    1 1a 1 1a 1 1a 1 1a 1 1a 1 1a 1 1a 1 1a 1 1a 1 1a 1 1a 1 1a 1 1a 1 1a 1 1a 1 1a 1 1a 1 1a 1
    1a 1 1a 1 1a 1 1a 1 1a 1 1a 1 1a 1 1a 1 1a 1 1a 1 1a 1 1a 1 1a 1 1a 1 1a 1 1a 1 1a 1 1a 1 1a
    1 1a 1 1a 1 1a 1 1a 1 1a 1 1a 1 1a 1 1a 1 1a 1 1a 1 1a"

/-- The code points of the grapheme part Prepend. -/
def prepend : Ranges :=
  Ranges.ofText
    "600 5 d7 0 31 0 180 1 50 0 46b 0 1036e 0 f 0 f4 1 20d 0 56d 0 1 0 f8 0 49 5 2bc 0 1bb 0"

/-- The code points of the grapheme part Regional Indicator. -/
def regionalIndicator : Ranges :=
  Ranges.ofText
    "1f1e6 19"

/-- The code points of the grapheme part SpacingMark. -/
def spacingMark : Ranges :=
  Ranges.ofText
    "903 0 37 0 2 2 8 3 1 1 32 1 3b 1 6 1 2 1 36 0 3a 2 42 0 3a 2 8 0 1 1 35 1 3c 0 6 1 2 1 72 0
    1 1 3 2 1 2 34 2 3d 3 3d 1 3a 0 2 0 1 1 2e 0 e 1 3b 1 5 2 1 2 35 1 4c 1 6 6 13 1 3f 0 7f 0
    8a 1 3f 0 b1 0 9 1 19 1 2c 0 731 0 7 7 1 1 15a 3 2 2 4 1 1 5 e0 1 3a 0 1 0 15 5 91 0 39 3 40
    0 1e 0 4 1 3f 0 2 2 1 0 35 7 8 1 ab 0 15 0 8b2b 1 2 0 58 1 32 f 8e 0 30 0 30 1 4 1 2 1 6f 1
    2 1 18 0 9d 0 2 1 5 0 ed 1 1 1 1 1 1 0 6413 0 1 0 7f 0 2d 2 4 1 73 0 18 1 3b 0 30 2 9 0 e 0
    5d 2 3 1 ac 2 1f 1 3b 0 1 3 2 1 2 1 15 1 55 1 f 0 1 1 67 2 8 1 3 0 6b 1 6 0 1 1 1 0 2 0 ee 1
    6 3 2 0 71 2 8 1 1 0 6d 0 1 1 6e 0 7 0 105 2 9 0 f8 4 1 1 7 0 1 0 8e 2 8 3 4 0 54 0 1d 1 3e
    0 197 0 e 0 6a 0 7 0 2 0 d5 4 4 1 1 0 15e 1 c 0 30 1 8 1 41ea 2 e24 36"

/-- The code points of the grapheme part T. -/
def t : Ranges :=
  Ranges.ofText
    "11a8 57 c5cb 30"

/-- The code points of the grapheme part V. -/
def v : Ranges :=
  Ranges.ofText
    "1160 47 c608 16 959c 0 3 3"

/-- The code points of the grapheme part ZWJ. -/
def zwj : Ranges :=
  Ranges.ofText
    "200d 0"

/-- Each grapheme part: its names in small letters without separators, and its members. -/
def every : List (List String × Ranges) :=
  [(["cr"], cr),
    (["control", "cn"], control),
    (["extend", "ex"], extend),
    (["l"], l),
    (["lf"], lf),
    (["lv"], lv),
    (["lvt"], lvt),
    (["prepend", "pp"], prepend),
    (["regionalindicator", "ri"], regionalIndicator),
    (["spacingmark", "sm"], spacingMark),
    (["t"], t),
    (["v"], v),
    (["zwj"], zwj)]

/-- The members of the grapheme part of a given name. -/
def find? (name : String) : Option Ranges :=
  (every.find? fun (names, _) => names.contains name).map (·.2)

end TagSearch.Text.Grapheme
