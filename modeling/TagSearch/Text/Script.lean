import TagSearch.Text.Ranges

/-!
# Scripts

The script of each code point in the Unicode standard, and the scripts that each code
point is used with.
-/

namespace TagSearch.Text.Script

/-- The code points of the script Adlam. -/
def adlam : Ranges :=
  Ranges.ofText
    "1e900 4b 4 9 4 1"

/-- The code points used with the script Adlam. -/
def adlamUsed : Ranges :=
  Ranges.ofText
    "61f 0 20 0 1a0e 0 df1 0 1babe 4b 4 9 4 1"

/-- The code points of the script Ahom. -/
def ahom : Ranges :=
  Ranges.ofText
    "11700 1a 2 e 4 16"

/-- The code points of the script Anatolian Hieroglyphs. -/
def anatolianHieroglyphs : Ranges :=
  Ranges.ofText
    "14400 246"

/-- The code points of the script Arabic. -/
def arabic : Ranges :=
  Ranges.ofText
    "600 4 1 5 1 d 1 2 1 1f 1 9 b 19 1 6b 1 21 50 2f f0 1e 1 1 5 4a 1 1c f250 72 10 16a 2 4f 2 35
    7 0 20 f 70 4 1 86 f63 1e 43 2 37 3 df00 3 1 1a 1 1 1 0 2 0 1 9 1 3 1 0 1 0 6 0 4 0 1 0 1 0
    1 2 1 1 1 0 2 0 1 0 1 0 1 0 1 0 1 1 1 0 2 3 1 6 1 3 1 3 1 0 1 9 1 10 5 2 1 4 1 10 34 1"

/-- The code points used with the script Arabic. -/
def arabicUsed : Ranges :=
  Ranges.ofText
    "600 4 1 d6 1 21 50 2f f0 1e 1 1 5 4a 1 1c 174f 0 df1 0 cd0e 72 10 1bc 2 35 7 0 20 f 70 4 1
    86 3e3 1b b64 1e 43 2 37 3 df00 3 1 1a 1 1 1 0 2 0 1 9 1 3 1 0 1 0 6 0 4 0 1 0 1 0 1 2 1 1 1
    0 2 0 1 0 1 0 1 0 1 0 1 1 1 0 2 3 1 6 1 3 1 3 1 0 1 9 1 10 5 2 1 4 1 10 34 1"

/-- The code points of the script Armenian. -/
def armenian : Ranges :=
  Ranges.ofText
    "531 25 2 31 2 2 f583 4"

/-- The code points used with the script Armenian. -/
def armenianUsed : Ranges :=
  Ranges.ofText
    "308 0 228 25 2 31 2 2 f583 4"

/-- The code points of the script Avestan. -/
def avestan : Ranges :=
  Ranges.ofText
    "10b00 35 3 6"

/-- The code points used with the script Avestan. -/
def avestanUsed : Ranges :=
  Ranges.ofText
    "b7 0 2d78 1 dcce 35 3 6"

/-- The code points of the script Balinese. -/
def balinese : Ranges :=
  Ranges.ofText
    "1b00 4c 1 31"

/-- The code points of the script Bamum. -/
def bamum : Ranges :=
  Ranges.ofText
    "a6a0 57 c108 238"

/-- The code points of the script Bassa Vah. -/
def bassaVah : Ranges :=
  Ranges.ofText
    "16ad0 1d 2 5"

/-- The code points of the script Batak. -/
def batak : Ranges :=
  Ranges.ofText
    "1bc0 33 8 3"

/-- The code points of the script Bengali. -/
def bengali : Ranges :=
  Ranges.ofText
    "980 3 1 7 2 1 2 15 1 6 1 0 3 3 2 8 2 1 2 3 8 0 4 1 1 4 2 18"

/-- The code points used with the script Bengali. -/
def bengaliUsed : Ranges :=
  Ranges.ofText
    "2bc 0 694 1 11 1 1a 3 1 7 2 1 2 15 1 6 1 0 3 3 2 8 2 1 2 3 8 0 4 1 1 4 2 18 12d1 0 1 0 2 1 1
    0 8 0 8 0 2 0 4 0 2 2 8bf9 0"

/-- The code points of the script Bhaiksuki. -/
def bhaiksuki : Ranges :=
  Ranges.ofText
    "11c00 8 1 2c 1 d a 1c"

/-- The code points of the script Bopomofo. -/
def bopomofo : Ranges :=
  Ranges.ofText
    "2ea 1 2e19 2a 70 1f"

/-- The code points used with the script Bopomofo. -/
def bopomofoUsed : Ranges :=
  Ranges.ofText
    "2c7 0 1 2 d 0 10 1 2d15 2 4 9 1 c a 3 2 0 6 0 c3 0 9 2a 70 1f cc85 1 11a 4"

/-- The code points of the script Brahmi. -/
def brahmi : Ranges :=
  Ranges.ofText
    "11000 4d 4 23 9 0"

/-- The code points of the script Braille. -/
def braille : Ranges :=
  Ranges.ofText
    "2800 ff"

/-- The code points of the script Buginese. -/
def buginese : Ranges :=
  Ranges.ofText
    "1a00 1b 2 1"

/-- The code points used with the script Buginese. -/
def bugineseUsed : Ranges :=
  Ranges.ofText
    "1a00 1b 2 1 8faf 0"

/-- The code points of the script Buhid. -/
def buhid : Ranges :=
  Ranges.ofText
    "1740 13"

/-- The code points used with the script Buhid. -/
def buhidUsed : Ranges :=
  Ranges.ofText
    "1735 1 9 13"

/-- The code points of the script Canadian Aboriginal. -/
def canadianAboriginal : Ranges :=
  Ranges.ofText
    "1400 27f 230 45 101ba f"

/-- The code points of the script Carian. -/
def carian : Ranges :=
  Ranges.ofText
    "102a0 30"

/-- The code points used with the script Carian. -/
def carianUsed : Ranges :=
  Ranges.ofText
    "b7 0 1fa2 0 2 0 dd3 0 d46e 30"

/-- The code points of the script Caucasian Albanian. -/
def caucasianAlbanian : Ranges :=
  Ranges.ofText
    "10530 33 b 0"

/-- The code points used with the script Caucasian Albanian. -/
def caucasianAlbanianUsed : Ranges :=
  Ranges.ofText
    "304 0 2c 0 2c 0 101d1 33 b 0"

/-- The code points of the script Chakma. -/
def chakma : Ranges :=
  Ranges.ofText
    "11100 34 1 11"

/-- The code points used with the script Chakma. -/
def chakmaUsed : Ranges :=
  Ranges.ofText
    "9e6 9 650 9 100b6 34 1 11"

/-- The code points of the script Cham. -/
def cham : Ranges :=
  Ranges.ofText
    "aa00 36 9 d 2 9 2 3"

/-- The code points of the script Cherokee. -/
def cherokee : Ranges :=
  Ranges.ofText
    "13a0 55 2 5 9772 4f"

/-- The code points used with the script Cherokee. -/
def cherokeeUsed : Ranges :=
  Ranges.ofText
    "300 2 1 0 6 1 16 1 b 1 106e 55 2 5 9772 4f"

/-- The code points of the script Chorasmian. -/
def chorasmian : Ranges :=
  Ranges.ofText
    "10fb0 1b"

/-- The code points of the script Common. -/
def common : Ranges :=
  Ranges.ofText
    "0 40 1a 5 1a 2e 1 e 1 4 17 0 1f 0 1c1 26 5 4 2 13 74 0 9 0 6 0 1 0 27d 0 6 0 e 0 3 0 20 0 9c
    0 204 0 81 1 4d9 0 195 3 122 0 5ef 2 47 1 cb 1 1 0 4cd 0 d 0 7 3 1 5 1 2 2 0 305 b 2 56 1 a
    3 a 1 e 11 20 3f 25 1 2 2 5 1 1a 1 10 29 2 4 299 16 a 15 39f 100 273 2 1f 1 68 200 5d 192 14
    1 0 1 18 f 7 4 3 5b 1 3 0 5a 1 93 f 20 25 9 0 30 3f 1f 50 2f 0 58 a7 19c0 3f 5900 21 66 2 a5
    9 f4 0 a0 0 18b 0 e 1 51d2 1 d0 9 16 22 1 12 1 3 93 0 1 1f 1a 5 1a a a 0 2d 1 40 6 1 6 a 4
    102 2 4 2c 3 8 50 c 33 2c e4 1a b9a4 3 f5c f9 6 1b3 9c 73 3c f5 a 26 2 3d 3 10 8 1 7 1d 4 3c
    d5 13 c 13 c 56 9 18 87 54 1 46 1 1 2 0 2 1 2 3 1 b 1 0 1 6 1 40 1 3 2 7 1 6 1 1b 1 3 1 4 1
    0 3 6 1 153 2 123 2 31 1471 43 4c 3c 2c2 2b 4 63 c e 2 e 1 e 1 24 a ad 38 19 1 1 d 2b 4 8 7
    1 e 5 9a 3d7 4 10 3 c 3 76 4 5e 6 b 4 0 f b 4 37 8 9 6 27 8 1d 2 b 4 1 3e 153 c d 2 c 3 9 5
    37 7 e 2 a 6 8 7 92 1 65 c0407 0 1e 5f"

/-- The code points used with the script Common. -/
def commonUsed : Ranges :=
  Ranges.ofText
    "0 40 1a 5 1a 2e 1 b 1 1 1 4 17 0 1f 0 1c1 2 1 9 1 0 3 0 1 8 1 0 1 5 5 4 2 13 7e 0 6 0 1 0
    27d 0 d7 0 204 0 55c 0 195 3 1027 b 2 20 1 1e 1 9 1 1 1 6 1 a 3 a 1 e 11 20 3f 25 1 2 2 5 1
    1a 1 10 29 2 4 299 16 a 15 39f 100 273 2 1f 1 68 200 16 1 17 2 9 1 3 1 0 1 19 1a2 0 3 0 d 0
    d 0 15 0 211 17 1f 0 31 e c 3 a1 9 5 5f 1f 0 19c0 3f 5908 19 66 2 3d0 0 e 1 52a4 9 16 14 2 b
    1 12 1 3 93 0 1 1f 1a 5 1a 5 7f 6 1 6 a 4 192 c 33 2c ca03 f9 6 1b3 9c 73 3c f5 a 26 2 3d 3
    10 8 1 7 1d 4 3c d5 13 c 13 c 56 1b 6 87 54 1 46 1 1 2 0 2 1 2 3 1 b 1 0 1 6 1 40 1 3 2 7 1
    6 1 1b 1 3 1 4 1 0 3 6 1 153 2 123 2 31 1471 43 4c 3c 2c2 2b 4 63 c e 2 e 1 e 1 24 a ad 38
    19 1 1 d 2b 4 8 17 5 9a 3d7 4 10 3 c 3 76 4 5e 6 b 4 0 f b 4 37 8 9 6 27 8 1d 2 b 4 1 3e 153
    c d 2 c 3 9 5 37 7 e 2 a 6 8 7 92 1 65 c0407 0 1e 5f"

/-- The code points of the script Coptic. -/
def coptic : Ranges :=
  Ranges.ofText
    "3e2 d 2890 73 5 6"

/-- The code points used with the script Coptic. -/
def copticUsed : Ranges :=
  Ranges.ofText
    "b7 0 248 0 3 1 1 0 6c 1 6c d 2890 73 5 6 117 0 d4c8 1b"

/-- The code points of the script Cuneiform. -/
def cuneiform : Ranges :=
  Ranges.ofText
    "12000 399 66 6e 1 4 b c3"

/-- The code points of the script Cypriot. -/
def cypriot : Ranges :=
  Ranges.ofText
    "10800 5 2 0 1 2b 1 1 3 0 2 0"

/-- The code points used with the script Cypriot. -/
def cypriotUsed : Ranges :=
  Ranges.ofText
    "10100 2 4 2c 3 8 6c0 5 2 0 1 2b 1 1 3 0 2 0"

/-- The code points of the script Cypro Minoan. -/
def cyproMinoan : Ranges :=
  Ranges.ofText
    "12f90 62"

/-- The code points used with the script Cypro Minoan. -/
def cyproMinoanUsed : Ranges :=
  Ranges.ofText
    "10100 1 2e8e 62"

/-- The code points of the script Cyrillic. -/
def cyrillic : Ranges :=
  Ranges.ofText
    "400 84 2 a8 1750 a a0 0 4c 0 1067 1f 7840 5f 578e 1 e200 3d 21 0"

/-- The code points used with the script Cyrillic. -/
def cyrillicUsed : Ranges :=
  Ranges.ofText
    "2bc 0 43 2 1 0 1 0 1 0 2 0 5 0 ee 12f 1750 a a0 0 4c 0 7f 0 fe7 1f 43 0 77fc 5f 578e 1 e200
    3d 21 0"

/-- The code points of the script Deseret. -/
def deseret : Ranges :=
  Ranges.ofText
    "10400 4f"

/-- The code points of the script Devanagari. -/
def devanagari : Ranges :=
  Ranges.ofText
    "900 50 4 e 2 19 9f60 1f 7200 9"

/-- The code points used with the script Devanagari. -/
def devanagariUsed : Ranges :=
  Ranges.ofText
    "2bc 0 643 52 2 2a 1350 26 1 1 3f6 0 873f 9 a6 1f 7200 9"

/-- The code points of the script Dives Akuru. -/
def divesAkuru : Ranges :=
  Ranges.ofText
    "11900 6 2 0 2 7 1 1 1 1d 1 1 2 b 9 9"

/-- The code points of the script Dogra. -/
def dogra : Ranges :=
  Ranges.ofText
    "11800 3b"

/-- The code points used with the script Dogra. -/
def dograUsed : Ranges :=
  Ranges.ofText
    "964 b 9ec0 9 6fc6 3b"

/-- The code points of the script Duployan. -/
def duployan : Ranges :=
  Ranges.ofText
    "1bc00 6a 5 c 3 8 7 9 2 3"

/-- The code points used with the script Duployan. -/
def duployanUsed : Ranges :=
  Ranges.ofText
    "b7 0 24f 1 1 0 18 1 2b17 0 18dc3 6a 5 c 3 8 7 9 2 7"

/-- The code points of the script Egyptian Hieroglyphs. -/
def egyptianHieroglyphs : Ranges :=
  Ranges.ofText
    "13000 455 a f9a"

/-- The code points of the script Elbasan. -/
def elbasan : Ranges :=
  Ranges.ofText
    "10500 27"

/-- The code points used with the script Elbasan. -/
def elbasanUsed : Ranges :=
  Ranges.ofText
    "b7 0 24d 0 101fa 27"

/-- The code points of the script Elymaic. -/
def elymaic : Ranges :=
  Ranges.ofText
    "10fe0 16"

/-- The code points of the script Ethiopic. -/
def ethiopic : Ranges :=
  Ranges.ofText
    "1200 48 1 3 2 6 1 0 1 3 2 28 1 3 2 20 1 3 2 6 1 0 1 3 2 e 1 38 1 3 2 42 2 1f 3 19 19e6 16 9
    6 1 6 1 6 1 6 1 6 1 6 1 6 1 6 7d22 5 2 5 2 5 9 6 1 6 13cb1 6 1 3 1 1 1 e"

/-- The code points used with the script Ethiopic. -/
def ethiopicUsed : Ranges :=
  Ranges.ofText
    "30e 0 ef1 48 1 3 2 6 1 0 1 3 2 28 1 3 2 20 1 3 2 6 1 0 1 3 2 e 1 38 1 3 2 42 2 1f 3 19 19e6
    16 9 6 1 6 1 6 1 6 1 6 1 6 1 6 1 6 7d22 5 2 5 2 5 9 6 1 6 13cb1 6 1 3 1 1 1 e"

/-- The code points of the script Garay. -/
def garay : Ranges :=
  Ranges.ofText
    "10d40 25 3 1c 8 1"

/-- The code points used with the script Garay. -/
def garayUsed : Ranges :=
  Ranges.ofText
    "60c 0 e 0 3 0 10720 25 3 1c 8 1"

/-- The code points of the script Georgian. -/
def georgian : Ranges :=
  Ranges.ofText
    "10a0 25 1 0 5 0 2 2a 1 3 b90 2a 2 2 1040 25 1 0 5 0"

/-- The code points used with the script Georgian. -/
def georgianUsed : Ranges :=
  Ranges.ofText
    "b7 0 4d1 0 b16 25 1 0 5 0 2 2f b90 2a 2 2 39a 0 ca5 25 1 0 5 0 103 0"

/-- The code points of the script Glagolitic. -/
def glagolitic : Ranges :=
  Ranges.ofText
    "2c00 5f 1b3a0 6 1 10 2 6 1 1 1 4"

/-- The code points used with the script Glagolitic. -/
def glagoliticUsed : Ranges :=
  Ranges.ofText
    "b7 0 24b 0 1 0 17e 0 2 0 101 0 b71 0 f5e 0 ba5 5f 1e3 0 782b 0 13990 6 1 10 2 6 1 1 1 4"

/-- The code points of the script Gothic. -/
def gothic : Ranges :=
  Ranges.ofText
    "10330 1a"

/-- The code points used with the script Gothic. -/
def gothicUsed : Ranges :=
  Ranges.ofText
    "b7 0 24c 1 2 0 28 0 fffe 1a"

/-- The code points of the script Grantha. -/
def grantha : Ranges :=
  Ranges.ofText
    "11300 3 1 7 2 1 2 15 1 6 1 1 1 4 2 8 2 1 2 2 2 0 6 0 5 6 2 6 3 4"

/-- The code points used with the script Grantha. -/
def granthaUsed : Ranges :=
  Ranges.ofText
    "951 1 11 1 280 d 10dc 0 1 1 1e 2 3 1 3f6 0 f20f 3 1 7 2 1 2 15 1 6 1 1 1 4 1 9 2 1 2 2 2 0 6
    0 5 6 2 6 3 4 c5b 1 1 0"

/-- The code points of the script Greek. -/
def greek : Ranges :=
  Ranges.ofText
    "370 3 1 2 2 3 1 0 4 0 1 0 1 2 1 0 1 13 1 3e e f 1926 4 32 4 4 4 54 0 140 15 2 5 2 25 2 5 2 7
    1 0 1 0 1 0 1 1e 2 34 1 e 1 d 2 5 1 12 2 2 1 8 127 0 8a3e 0 55da 4e 11 0 d05f 45"

/-- The code points used with the script Greek. -/
def greekUsed : Ranges :=
  Ranges.ofText
    "b7 0 248 1 2 0 1 0 1 0 a 0 2e 0 2 0 2a 7 2 3 1 0 4 0 1 0 1 2 1 0 1 13 1 3e e f 1926 4 32 4 4
    4 54 2 13e 15 2 5 2 25 2 5 2 7 1 0 1 0 1 0 1 1e 2 34 1 e 1 d 2 5 1 12 2 2 1 8 5e 0 c8 0 8a3e
    0 55da 4e 11 0 d05f 45"

/-- The code points of the script Gujarati. -/
def gujarati : Ranges :=
  Ranges.ofText
    "a81 2 1 8 1 2 1 15 1 6 1 1 1 4 2 9 1 2 1 2 2 0 f 3 2 b 7 6"

/-- The code points used with the script Gujarati. -/
def gujaratiUsed : Ranges :=
  Ranges.ofText
    "951 1 11 1 11b 2 1 8 1 2 1 15 1 6 1 1 1 4 2 9 1 2 1 2 2 0 f 3 2 b 7 6 9d30 9"

/-- The code points of the script Gunjala Gondi. -/
def gunjalaGondi : Ranges :=
  Ranges.ofText
    "11d60 5 1 1 1 24 1 1 1 5 7 9"

/-- The code points used with the script Gunjala Gondi. -/
def gunjalaGondiUsed : Ranges :=
  Ranges.ofText
    "b7 0 8ac 1 113fa 5 1 1 1 24 1 1 1 5 7 9"

/-- The code points of the script Gurmukhi. -/
def gurmukhi : Ranges :=
  Ranges.ofText
    "a01 2 1 5 4 1 2 15 1 6 1 1 1 1 1 1 2 0 1 4 4 1 2 2 3 0 7 3 1 0 7 10"

/-- The code points used with the script Gurmukhi. -/
def gurmukhiUsed : Ranges :=
  Ranges.ofText
    "951 1 11 1 9b 2 1 5 4 1 2 15 1 6 1 1 1 1 1 1 2 0 1 4 4 1 2 2 3 0 7 3 1 0 7 10 9db9 9"

/-- The code points of the script Gurung Khema. -/
def gurungKhema : Ranges :=
  Ranges.ofText
    "16100 39"

/-- The code points used with the script Gurung Khema. -/
def gurungKhemaUsed : Ranges :=
  Ranges.ofText
    "965 0 1579a 39"

/-- The code points of the script Han. -/
def han : Ranges :=
  Ranges.ofText
    "2e80 19 1 58 c d5 2f 0 1 0 19 8 e 3 3c4 19bf 40 51ff 5900 16d 2 69 7508 1 c 1 900e a6df 20
    1039 6 dd 2 1681 e 1d30 f 26d 9a2 21d 5e2 134a 5 105f"

/-- The code points used with the script Han. -/
def hanUsed : Ranges :=
  Ranges.ofText
    "b7 0 2dc8 19 1 58 c d5 1a f 1 2 1 c 1 c 1 c 2 0 6 8 bb 0 94 f 20 25 9 0 30 27 38 30 f b 33 0
    58 18 a 4 60 1e 1 19bf 40 51ff 700 7 51f8 16d 2 69 36b 1 11a 4 707c 1 c 1 636e 11 1ede 1 dae
    a6df 20 1039 6 dd 2 1681 e 1d30 f 26d 9a2 21d 5e2 134a 5 105f"

/-- The code points of the script Hangul. -/
def hangul : Ranges :=
  Ranges.ofText
    "1100 ff 1e2e 1 101 5d 71 1e 41 1e 76e1 1c 283 2ba3 c 16 4 30 27a4 1e 3 5 2 5 2 5 2 2"

/-- The code points used with the script Hangul. -/
def hangulUsed : Ranges :=
  Ranges.ofText
    "1100 ff 1e01 2 4 9 1 c e 2 6 0 c3 0 35 5d 71 1e 41 1e 76e1 1c 283 2ba3 c 16 4 30 2649 1 11a
    4 3a 1e 3 5 2 5 2 5 2 2"

/-- The code points of the script Hanifi Rohingya. -/
def hanifiRohingya : Ranges :=
  Ranges.ofText
    "10d00 27 8 9"

/-- The code points used with the script Hanifi Rohingya. -/
def hanifiRohingyaUsed : Ranges :=
  Ranges.ofText
    "60c 0 e 0 3 0 20 0 93 0 1062b 27 8 9"

/-- The code points of the script Hanunoo. -/
def hanunoo : Ranges :=
  Ranges.ofText
    "1720 14"

/-- The code points used with the script Hanunoo. -/
def hanunooUsed : Ranges :=
  Ranges.ofText
    "1720 16"

/-- The code points of the script Hatran. -/
def hatran : Ranges :=
  Ranges.ofText
    "108e0 12 1 1 5 4"

/-- The code points of the script Hebrew. -/
def hebrew : Ranges :=
  Ranges.ofText
    "591 36 8 1a 4 5 f528 19 1 4 1 0 1 1 1 1 1 9"

/-- The code points used with the script Hebrew. -/
def hebrewUsed : Ranges :=
  Ranges.ofText
    "307 1 288 36 8 1a 4 5 f528 19 1 4 1 0 1 1 1 1 1 9"

/-- The code points of the script Hiragana. -/
def hiragana : Ranges :=
  Ranges.ofText
    "3041 55 6 2 17f61 11e 12 0 1d 2 40ad 0"

/-- The code points used with the script Hiragana. -/
def hiraganaUsed : Ranges :=
  Ranges.ofText
    "3001 2 4 9 1 c 10 5 1 0 4 1 3 55 2 7 5a 1 cd48 1 11a 4 a 0 2d 1 b061 11e 12 0 1d 2 40ad 0"

/-- The code points of the script Imperial Aramaic. -/
def imperialAramaic : Ranges :=
  Ranges.ofText
    "10840 15 1 8"

/-- The code points of the script Inherited. -/
def inherited : Ranges :=
  Ranges.ofText
    "300 6f 115 1 1c4 a 1a 0 2e0 3 115b 1e 201 2 1 c 1 6 4 0 6 0 3 1 c6 3f 20c 1 c2 20 f39 3 6b 1
    cd65 f 10 d 3cf 0 e2 0 105a 0 bbc4 2d 2 16 220 2 11 7 2 6 1e 3 c2f52 ef"

/-- The code points used with the script Inherited. -/
def inheritedUsed : Ranges :=
  Ranges.ofText
    "30f 0 2 0 1 b 1 1 3 6 2 0 2 f 1 1 1 11 1 4 1 3 5f0 1 115b 1e 2f3 35 1 0 1 4 20c 1 c2 1f dd10
    f 10 d 3cf 0 cd02 2d 2 16 220 2 11 7 2 6 1e 3 c2f52 ef"

/-- The code points of the script Inscriptional Pahlavi. -/
def inscriptionalPahlavi : Ranges :=
  Ranges.ofText
    "10b60 12 5 7"

/-- The code points of the script Inscriptional Parthian. -/
def inscriptionalParthian : Ranges :=
  Ranges.ofText
    "10b40 15 2 7"

/-- The code points of the script Javanese. -/
def javanese : Ranges :=
  Ranges.ofText
    "a980 4d 2 9 4 1"

/-- The code points used with the script Javanese. -/
def javaneseUsed : Ranges :=
  Ranges.ofText
    "a980 4d 1 a 4 1"

/-- The code points of the script Kaithi. -/
def kaithi : Ranges :=
  Ranges.ofText
    "11080 42 a 0"

/-- The code points used with the script Kaithi. -/
def kaithiUsed : Ranges :=
  Ranges.ofText
    "966 9 24c1 0 79fe 9 6846 42 a 0"

/-- The code points of the script Kannada. -/
def kannada : Ranges :=
  Ranges.ofText
    "c80 c 1 2 1 16 1 9 1 4 2 8 1 2 1 3 7 1 6 1 1 3 2 9 1 2"

/-- The code points used with the script Kannada. -/
def kannadaUsed : Ranges :=
  Ranges.ofText
    "951 1 11 1 31a c 1 2 1 16 1 9 1 4 2 8 1 2 1 3 7 1 6 1 1 3 2 9 1 2 fdc 0 1 1 6 0 17 0 1 0
    8b3b 5"

/-- The code points of the script Katakana. -/
def katakana : Ranges :=
  Ranges.ofText
    "30a1 59 2 2 f0 f d0 2e 1 57 cc0e 9 1 2c b052 3 1 6 1 1 1 0 11f 2 32 0 e 3"

/-- The code points used with the script Katakana. -/
def katakanaUsed : Ranges :=
  Ranges.ofText
    "305 0 1d 0 2cdd 2 4 9 1 c 10 5 1 0 4 1 5b 3 3 5f f0 f d0 2e 1 57 caed 1 11a 3e b050 3 1 6 1
    1 1 0 11f 2 32 0 e 3"

/-- The code points of the script Kawi. -/
def kawi : Ranges :=
  Ranges.ofText
    "11f00 10 1 28 3 1c"

/-- The code points of the script Kayah Li. -/
def kayahLi : Ranges :=
  Ranges.ofText
    "a900 2d 1 0"

/-- The code points used with the script Kayah Li. -/
def kayahLiUsed : Ranges :=
  Ranges.ofText
    "a900 2f"

/-- The code points of the script Kharoshthi. -/
def kharoshthi : Ranges :=
  Ranges.ofText
    "10a00 3 1 1 5 7 1 2 1 1c 2 2 4 9 7 8"

/-- The code points of the script Khitan Small Script. -/
def khitanSmallScript : Ranges :=
  Ranges.ofText
    "16fe4 0 1b1b 1d5 29 0"

/-- The code points of the script Khmer. -/
def khmer : Ranges :=
  Ranges.ofText
    "1780 5d 2 9 6 9 1e6 1f"

/-- The code points of the script Khojki. -/
def khojki : Ranges :=
  Ranges.ofText
    "11200 11 1 2e"

/-- The code points used with the script Khojki. -/
def khojkiUsed : Ranges :=
  Ranges.ofText
    "ae6 9 9d40 9 69c6 11 1 2e"

/-- The code points of the script Khudawadi. -/
def khudawadi : Ranges :=
  Ranges.ofText
    "112b0 3a 5 9"

/-- The code points used with the script Khudawadi. -/
def khudawadiUsed : Ranges :=
  Ranges.ofText
    "964 1 9eca 9 6a76 3a 5 9"

/-- The code points of the script Kirat Rai. -/
def kiratRai : Ranges :=
  Ranges.ofText
    "16d40 39"

/-- The code points of the script Lao. -/
def lao : Ranges :=
  Ranges.ofText
    "e81 1 1 0 1 4 1 17 1 0 1 16 2 4 1 0 1 6 1 9 2 3"

/-- The code points of the script Latin. -/
def latin : Ranges :=
  Ranges.ofText
    "41 19 6 19 2f 0 f 0 5 16 1 1e 1 1c0 27 4 1a1b 25 6 30 5 3 5 c 1 45 41 ff 171 0 d 0 10 c 8d 1
    6 0 1b 0 11 28 ad7 1f 7aa2 65 3 42 2 1 1 0 1 7 15 d 330 2a 1 8 1 3 4f96 6 41a 19 6 19 825 5
    1 29 1 8 d745 1e 6 5"

/-- The code points used with the script Latin. -/
def latinUsed : Ranges :=
  Ranges.ofText
    "41 19 6 19 2f 0 c 0 2 0 5 16 1 1e 1 1c0 3 0 a 0 1 2 1 0 9 0 1 0 6 4 1b e 1 1 1 0 c 0 2 2 7 1
    1 1 26 0 5 0 4 c 115 1 4ca 1 7a8 0 c04 25 6 30 5 3 5 c 1 45 39 0 7 ff 12f 0 41 0 d 0 10 c 53
    0 39 1 6 0 1b 0 11 28 ad7 1f 197 0 78e8 7 1a 65 3 42 2 1 1 0 1 7 15 d 12e 0 201 2a 1 8 1 3
    4f96 6 41a 19 6 19 825 5 1 29 1 8 d745 1e 6 5"

/-- The code points of the script Lepcha. -/
def lepcha : Ranges :=
  Ranges.ofText
    "1c00 37 3 e 3 2"

/-- The code points of the script Limbu. -/
def limbu : Ranges :=
  Ranges.ofText
    "1900 1e 1 b 4 b 4 0 3 b"

/-- The code points used with the script Limbu. -/
def limbuUsed : Ranges :=
  Ranges.ofText
    "965 0 f9a 1e 1 b 4 b 4 0 3 b"

/-- The code points of the script Linear A. -/
def linearA : Ranges :=
  Ranges.ofText
    "10600 136 9 15 a 7"

/-- The code points used with the script Linear A. -/
def linearAUsed : Ranges :=
  Ranges.ofText
    "10107 2c 4cc 136 9 15 a 7"

/-- The code points of the script Linear B. -/
def linearB : Ranges :=
  Ranges.ofText
    "10000 b 1 19 1 12 1 1 1 e 2 d 22 7a"

/-- The code points used with the script Linear B. -/
def linearBUsed : Ranges :=
  Ranges.ofText
    "10000 b 1 19 1 12 1 1 1 e 2 d 22 7a 5 2 4 2c 3 8"

/-- The code points of the script Lisu. -/
def lisu : Ranges :=
  Ranges.ofText
    "a4d0 2f 7ab0 0"

/-- The code points used with the script Lisu. -/
def lisuUsed : Ranges :=
  Ranges.ofText
    "2bc 0 10 0 2d3c 1 74c4 2f 7ab0 0"

/-- The code points of the script Lycian. -/
def lycian : Ranges :=
  Ranges.ofText
    "10280 1c"

/-- The code points used with the script Lycian. -/
def lycianUsed : Ranges :=
  Ranges.ofText
    "205a 0 e225 1c"

/-- The code points of the script Lydian. -/
def lydian : Ranges :=
  Ranges.ofText
    "10920 19 5 0"

/-- The code points used with the script Lydian. -/
def lydianUsed : Ranges :=
  Ranges.ofText
    "b7 0 2d79 0 daee 19 5 0"

/-- The code points of the script Mahajani. -/
def mahajani : Ranges :=
  Ranges.ofText
    "11150 26"

/-- The code points used with the script Mahajani. -/
def mahajaniUsed : Ranges :=
  Ranges.ofText
    "b7 0 8ac b 9ec0 9 6916 26"

/-- The code points of the script Makasar. -/
def makasar : Ranges :=
  Ranges.ofText
    "11ee0 18"

/-- The code points of the script Malayalam. -/
def malayalam : Ranges :=
  Ranges.ofText
    "d00 c 1 2 1 32 1 2 1 5 4 f 2 19"

/-- The code points used with the script Malayalam. -/
def malayalamUsed : Ranges :=
  Ranges.ofText
    "951 1 11 1 39a c 1 2 1 32 1 2 1 5 4 f 2 19 f5a 0 17 0 8b3d 2"

/-- The code points of the script Mandaic. -/
def mandaic : Ranges :=
  Ranges.ofText
    "840 1b 2 0"

/-- The code points used with the script Mandaic. -/
def mandaicUsed : Ranges :=
  Ranges.ofText
    "640 0 1ff 1b 2 0"

/-- The code points of the script Manichaean. -/
def manichaean : Ranges :=
  Ranges.ofText
    "10ac0 26 4 b"

/-- The code points used with the script Manichaean. -/
def manichaeanUsed : Ranges :=
  Ranges.ofText
    "640 0 1047f 26 4 b"

/-- The code points of the script Marchen. -/
def marchen : Ranges :=
  Ranges.ofText
    "11c70 1f 2 15 1 d"

/-- The code points of the script Masaram Gondi. -/
def masaramGondi : Ranges :=
  Ranges.ofText
    "11d00 6 1 1 1 2b 3 0 1 1 1 8 8 9"

/-- The code points used with the script Masaram Gondi. -/
def masaramGondiUsed : Ranges :=
  Ranges.ofText
    "964 1 1139a 6 1 1 1 2b 3 0 1 1 1 8 8 9"

/-- The code points of the script Medefaidrin. -/
def medefaidrin : Ranges :=
  Ranges.ofText
    "16e40 5a"

/-- The code points of the script Meetei Mayek. -/
def meeteiMayek : Ranges :=
  Ranges.ofText
    "aae0 16 c9 2d 2 9"

/-- The code points of the script Mende Kikakui. -/
def mendeKikakui : Ranges :=
  Ranges.ofText
    "1e800 c4 2 f"

/-- The code points of the script Meroitic Cursive. -/
def meroiticCursive : Ranges :=
  Ranges.ofText
    "109a0 17 4 13 2 2d"

/-- The code points of the script Meroitic Hieroglyphs. -/
def meroiticHieroglyphs : Ranges :=
  Ranges.ofText
    "10980 1f"

/-- The code points used with the script Meroitic Hieroglyphs. -/
def meroiticHieroglyphsUsed : Ranges :=
  Ranges.ofText
    "205d 0 e922 1f"

/-- The code points of the script Miao. -/
def miao : Ranges :=
  Ranges.ofText
    "16f00 4a 4 38 7 10"

/-- The code points of the script Modi. -/
def modi : Ranges :=
  Ranges.ofText
    "11600 44 b 9"

/-- The code points used with the script Modi. -/
def modiUsed : Ranges :=
  Ranges.ofText
    "a830 9 6dc6 44 b 9"

/-- The code points of the script Mongolian. -/
def mongolian : Ranges :=
  Ranges.ofText
    "1800 1 2 0 1 13 6 58 7 2a fdb5 c"

/-- The code points used with the script Mongolian. -/
def mongolianUsed : Ranges :=
  Ranges.ofText
    "1800 19 6 58 7 2a 784 0 fd1 1 5 3 e654 c"

/-- The code points of the script Mro. -/
def mro : Ranges :=
  Ranges.ofText
    "16a40 1e 1 9 4 1"

/-- The code points of the script Multani. -/
def multani : Ranges :=
  Ranges.ofText
    "11280 6 1 0 1 3 1 e 1 a"

/-- The code points used with the script Multani. -/
def multaniUsed : Ranges :=
  Ranges.ofText
    "a66 9 10810 6 1 0 1 3 1 e 1 a"

/-- The code points of the script Myanmar. -/
def myanmar : Ranges :=
  Ranges.ofText
    "1000 9f 9940 1e 61 1f 6c50 13"

/-- The code points used with the script Myanmar. -/
def myanmarUsed : Ranges :=
  Ranges.ofText
    "1000 9f 988e 0 b1 1e 61 1f 6c50 13"

/-- The code points of the script Nabataean. -/
def nabataean : Ranges :=
  Ranges.ofText
    "10880 1e 8 8"

/-- The code points of the script Nag Mundari. -/
def nagMundari : Ranges :=
  Ranges.ofText
    "1e4d0 29"

/-- The code points of the script Nandinagari. -/
def nandinagari : Ranges :=
  Ranges.ofText
    "119a0 7 2 2d 2 a"

/-- The code points used with the script Nandinagari. -/
def nandinagariUsed : Ranges :=
  Ranges.ofText
    "964 1 380 9 ff9 0 8 0 7 0 8b35 5 716a 7 2 2d 2 a"

/-- The code points of the script New Tai Lue. -/
def newTaiLue : Ranges :=
  Ranges.ofText
    "1980 2b 4 19 6 a 3 1"

/-- The code points of the script Newa. -/
def newa : Ranges :=
  Ranges.ofText
    "11400 5b 1 4"

/-- The code points of the script Nko. -/
def nko : Ranges :=
  Ranges.ofText
    "7c0 3a 2 2"

/-- The code points used with the script Nko. -/
def nkoUsed : Ranges :=
  Ranges.ofText
    "60c 0 e 0 3 0 1a0 3a 2 2 f53e 1"

/-- The code points of the script Nushu. -/
def nushu : Ranges :=
  Ranges.ofText
    "16fe1 0 418e 18b"

/-- The code points of the script Nyiakeng Puachue Hmong. -/
def nyiakengPuachueHmong : Ranges :=
  Ranges.ofText
    "1e100 2c 3 d 2 9 4 1"

/-- The code points of the script Ogham. -/
def ogham : Ranges :=
  Ranges.ofText
    "1680 1c"

/-- The code points of the script Ol Chiki. -/
def olChiki : Ranges :=
  Ranges.ofText
    "1c50 2f"

/-- The code points of the script Ol Onal. -/
def olOnal : Ranges :=
  Ranges.ofText
    "1e5d0 2a 4 0"

/-- The code points used with the script Ol Onal. -/
def olOnalUsed : Ranges :=
  Ranges.ofText
    "964 1 1dc6a 2a 4 0"

/-- The code points of the script Old Hungarian. -/
def oldHungarian : Ranges :=
  Ranges.ofText
    "10c80 32 d 32 7 5"

/-- The code points used with the script Old Hungarian. -/
def oldHungarianUsed : Ranges :=
  Ranges.ofText
    "205a 0 2 0 dd3 0 f 0 de3e 32 d 32 7 5"

/-- The code points of the script Old Italic. -/
def oldItalic : Ranges :=
  Ranges.ofText
    "10300 23 9 2"

/-- The code points of the script Old North Arabian. -/
def oldNorthArabian : Ranges :=
  Ranges.ofText
    "10a80 1f"

/-- The code points of the script Old Permic. -/
def oldPermic : Ranges :=
  Ranges.ofText
    "10350 2a"

/-- The code points used with the script Old Permic. -/
def oldPermicUsed : Ranges :=
  Ranges.ofText
    "b7 0 248 0 5 2 a 0 16f 0 fecc 2a"

/-- The code points of the script Old Persian. -/
def oldPersian : Ranges :=
  Ranges.ofText
    "103a0 23 4 d"

/-- The code points of the script Old Sogdian. -/
def oldSogdian : Ranges :=
  Ranges.ofText
    "10f00 27"

/-- The code points of the script Old South Arabian. -/
def oldSouthArabian : Ranges :=
  Ranges.ofText
    "10a60 1f"

/-- The code points of the script Old Turkic. -/
def oldTurkic : Ranges :=
  Ranges.ofText
    "10c00 48"

/-- The code points used with the script Old Turkic. -/
def oldTurkicUsed : Ranges :=
  Ranges.ofText
    "205a 0 dd5 0 ddcf 48"

/-- The code points of the script Old Uyghur. -/
def oldUyghur : Ranges :=
  Ranges.ofText
    "10f70 19"

/-- The code points used with the script Old Uyghur. -/
def oldUyghurUsed : Ranges :=
  Ranges.ofText
    "640 0 104b1 0 47d 19"

/-- The code points of the script Oriya. -/
def oriya : Ranges :=
  Ranges.ofText
    "b01 2 1 7 2 1 2 15 1 6 1 1 1 4 2 8 2 1 2 2 7 2 4 1 1 4 2 11"

/-- The code points used with the script Oriya. -/
def oriyaUsed : Ranges :=
  Ranges.ofText
    "951 1 11 1 19b 2 1 7 2 1 2 15 1 6 1 1 1 4 2 8 2 1 2 2 7 2 4 1 1 4 2 11 1162 0 17 0"

/-- The code points of the script Osage. -/
def osage : Ranges :=
  Ranges.ofText
    "104b0 23 4 23"

/-- The code points used with the script Osage. -/
def osageUsed : Ranges :=
  Ranges.ofText
    "301 0 2 0 6 0 4c 0 10157 23 4 23"

/-- The code points of the script Osmanya. -/
def osmanya : Ranges :=
  Ranges.ofText
    "10480 1d 2 9"

/-- The code points of the script Pahawh Hmong. -/
def pahawhHmong : Ranges :=
  Ranges.ofText
    "16b00 45 a 9 1 6 1 14 5 12"

/-- The code points of the script Palmyrene. -/
def palmyrene : Ranges :=
  Ranges.ofText
    "10860 1f"

/-- The code points of the script Pau Cin Hau. -/
def pauCinHau : Ranges :=
  Ranges.ofText
    "11ac0 38"

/-- The code points of the script Phags Pa. -/
def phagsPa : Ranges :=
  Ranges.ofText
    "a840 37"

/-- The code points used with the script Phags Pa. -/
def phagsPaUsed : Ranges :=
  Ranges.ofText
    "1802 1 1 0 829 0 fd2 0 783d 37"

/-- The code points of the script Phoenician. -/
def phoenician : Ranges :=
  Ranges.ofText
    "10900 1b 3 0"

/-- The code points of the script Psalter Pahlavi. -/
def psalterPahlavi : Ranges :=
  Ranges.ofText
    "10b80 11 7 3 c 6"

/-- The code points used with the script Psalter Pahlavi. -/
def psalterPahlaviUsed : Ranges :=
  Ranges.ofText
    "640 0 1053f 11 7 3 c 6"

/-- The code points of the script Rejang. -/
def rejang : Ranges :=
  Ranges.ofText
    "a930 23 b 0"

/-- The code points of the script Runic. -/
def runic : Ranges :=
  Ranges.ofText
    "16a0 4a 3 a"

/-- The code points used with the script Runic. -/
def runicUsed : Ranges :=
  Ranges.ofText
    "16a0 58"

/-- The code points of the script Samaritan. -/
def samaritan : Ranges :=
  Ranges.ofText
    "800 2d 2 e"

/-- The code points used with the script Samaritan. -/
def samaritanUsed : Ranges :=
  Ranges.ofText
    "800 2d 2 e 25f2 0"

/-- The code points of the script Saurashtra. -/
def saurashtra : Ranges :=
  Ranges.ofText
    "a880 45 8 b"

/-- The code points of the script Sharada. -/
def sharada : Ranges :=
  Ranges.ofText
    "11180 5f"

/-- The code points used with the script Sharada. -/
def sharadaUsed : Ranges :=
  Ranges.ofText
    "951 0 1385 0 1 0 2 1 2 0 8b4f 5 2 0 6947 5f"

/-- The code points of the script Shavian. -/
def shavian : Ranges :=
  Ranges.ofText
    "10450 2f"

/-- The code points used with the script Shavian. -/
def shavianUsed : Ranges :=
  Ranges.ofText
    "b7 0 10398 2f"

/-- The code points of the script Siddham. -/
def siddham : Ranges :=
  Ranges.ofText
    "11580 35 2 25"

/-- The code points of the script SignWriting. -/
def signWriting : Ranges :=
  Ranges.ofText
    "1d800 28b f 4 1 e"

/-- The code points of the script Sinhala. -/
def sinhala : Ranges :=
  Ranges.ofText
    "d81 2 1 11 3 17 1 8 1 0 2 6 3 0 4 5 1 0 1 7 6 9 2 2 103ec 13"

/-- The code points used with the script Sinhala. -/
def sinhalaUsed : Ranges :=
  Ranges.ofText
    "964 1 41b 2 1 11 3 17 1 8 1 0 2 6 3 0 4 5 1 0 1 7 6 9 2 2 efd 0 f4ee 13"

/-- The code points of the script Sogdian. -/
def sogdian : Ranges :=
  Ranges.ofText
    "10f30 29"

/-- The code points used with the script Sogdian. -/
def sogdianUsed : Ranges :=
  Ranges.ofText
    "640 0 108ef 29"

/-- The code points of the script Sora Sompeng. -/
def soraSompeng : Ranges :=
  Ranges.ofText
    "110d0 18 7 9"

/-- The code points of the script Soyombo. -/
def soyombo : Ranges :=
  Ranges.ofText
    "11a50 52"

/-- The code points of the script Sundanese. -/
def sundanese : Ranges :=
  Ranges.ofText
    "1b80 3f 100 7"

/-- The code points of the script Sunuwar. -/
def sunuwar : Ranges :=
  Ranges.ofText
    "11bc0 21 e 9"

/-- The code points used with the script Sunuwar. -/
def sunuwarUsed : Ranges :=
  Ranges.ofText
    "300 1 1 0 9 0 2 0 1c 0 3 0 1188e 21 e 9"

/-- The code points of the script Syloti Nagri. -/
def sylotiNagri : Ranges :=
  Ranges.ofText
    "a800 2c"

/-- The code points used with the script Syloti Nagri. -/
def sylotiNagriUsed : Ranges :=
  Ranges.ofText
    "964 1 80 9 9e10 2c"

/-- The code points of the script Syriac. -/
def syriac : Ranges :=
  Ranges.ofText
    "700 d 1 3b 2 2 110 a"

/-- The code points used with the script Syriac. -/
def syriacUsed : Ranges :=
  Ranges.ofText
    "303 1 2 1 1 0 15 0 2 2 7 1 1 0 2db 0 e 1 2 0 20 0 a a 1a 0 8f d 1 3b 2 2 110 a 158d 0 1 0"

/-- The code points of the script Tagalog. -/
def tagalog : Ranges :=
  Ranges.ofText
    "1700 15 9 0"

/-- The code points used with the script Tagalog. -/
def tagalogUsed : Ranges :=
  Ranges.ofText
    "1700 15 9 0 15 1"

/-- The code points of the script Tagbanwa. -/
def tagbanwa : Ranges :=
  Ranges.ofText
    "1760 c 1 2 1 1"

/-- The code points used with the script Tagbanwa. -/
def tagbanwaUsed : Ranges :=
  Ranges.ofText
    "1735 1 29 c 1 2 1 1"

/-- The code points of the script Tai Le. -/
def taiLe : Ranges :=
  Ranges.ofText
    "1950 1d 2 4"

/-- The code points used with the script Tai Le. -/
def taiLeUsed : Ranges :=
  Ranges.ofText
    "300 1 5 1 3 0 d33 9 906 1d 2 4"

/-- The code points of the script Tai Tham. -/
def taiTham : Ranges :=
  Ranges.ofText
    "1a20 3e 1 1c 2 a 6 9 6 d"

/-- The code points of the script Tai Viet. -/
def taiViet : Ranges :=
  Ranges.ofText
    "aa80 42 18 4"

/-- The code points of the script Takri. -/
def takri : Ranges :=
  Ranges.ofText
    "11680 39 6 9"

/-- The code points used with the script Takri. -/
def takriUsed : Ranges :=
  Ranges.ofText
    "964 1 9eca 9 6e46 39 6 9"

/-- The code points of the script Tamil. -/
def tamil : Ranges :=
  Ranges.ofText
    "b82 1 1 5 3 2 1 3 3 1 1 0 1 1 3 1 3 2 3 b 4 4 3 2 1 3 2 0 6 0 e 14 113c5 31 d 0"

/-- The code points used with the script Tamil. -/
def tamilUsed : Ranges :=
  Ranges.ofText
    "951 1 11 1 21c 1 1 5 3 2 1 3 3 1 1 0 1 1 3 1 3 2 3 b 4 4 3 2 1 3 2 0 6 0 e 14 10df 0 8c18 0
    6a0d 0 1 0 37 1 c83 31 d 0"

/-- The code points of the script Tangsa. -/
def tangsa : Ranges :=
  Ranges.ofText
    "16a70 4e 1 9"

/-- The code points of the script Tangut. -/
def tangut : Ranges :=
  Ranges.ofText
    "16fe0 0 1f 17f7 8 2ff 200 8"

/-- The code points used with the script Tangut. -/
def tangutUsed : Ranges :=
  Ranges.ofText
    "2ff0 f 1ef 0 13df0 0 1f 17f7 8 2ff 200 8"

/-- The code points of the script Telugu. -/
def telugu : Ranges :=
  Ranges.ofText
    "c00 c 1 2 1 16 1 f 2 8 1 2 1 3 7 1 1 2 2 0 2 3 2 9 7 8"

/-- The code points used with the script Telugu. -/
def teluguUsed : Ranges :=
  Ranges.ofText
    "951 1 11 1 29a c 1 2 1 16 1 f 2 8 1 2 1 3 7 1 1 2 2 0 2 3 2 9 7 8 105a 0 17 0"

/-- The code points of the script Thaana. -/
def thaana : Ranges :=
  Ranges.ofText
    "780 31"

/-- The code points used with the script Thaana. -/
def thaanaUsed : Ranges :=
  Ranges.ofText
    "60c 0 e 1 2 0 40 9 116 31 f640 0 a 0"

/-- The code points of the script Thai. -/
def thai : Ranges :=
  Ranges.ofText
    "e01 39 5 1b"

/-- The code points used with the script Thai. -/
def thaiUsed : Ranges :=
  Ranges.ofText
    "2bc 0 1a 0 2b 0 2d 0 acf 39 5 1b"

/-- The code points of the script Tibetan. -/
def tibetan : Ranges :=
  Ranges.ofText
    "f00 47 1 23 4 26 1 23 1 e 1 6 4 1"

/-- The code points used with the script Tibetan. -/
def tibetanUsed : Ranges :=
  Ranges.ofText
    "f00 47 1 23 4 26 1 23 1 e 1 6 4 1 202d 3"

/-- The code points of the script Tifinagh. -/
def tifinagh : Ranges :=
  Ranges.ofText
    "2d30 37 7 1 e 0"

/-- The code points used with the script Tifinagh. -/
def tifinaghUsed : Ranges :=
  Ranges.ofText
    "302 0 1 0 2 0 1 0 2a26 37 7 1 e 0"

/-- The code points of the script Tirhuta. -/
def tirhuta : Ranges :=
  Ranges.ofText
    "11480 47 8 9"

/-- The code points used with the script Tirhuta. -/
def tirhutaUsed : Ranges :=
  Ranges.ofText
    "951 1 11 1 138c 0 8b3d 9 6c46 47 8 9"

/-- The code points of the script Todhri. -/
def todhri : Ranges :=
  Ranges.ofText
    "105c0 33"

/-- The code points used with the script Todhri. -/
def todhriUsed : Ranges :=
  Ranges.ofText
    "301 0 2 0 2 0 9 0 1 0 4a 0 10261 33"

/-- The code points of the script Toto. -/
def toto : Ranges :=
  Ranges.ofText
    "1e290 1e"

/-- The code points used with the script Toto. -/
def totoUsed : Ranges :=
  Ranges.ofText
    "2bc 0 1dfd3 1e"

/-- The code points of the script Tulu Tigalari. -/
def tuluTigalari : Ranges :=
  Ranges.ofText
    "11380 9 1 0 2 0 1 25 1 9 1 0 2 0 1 3 1 9 1 1 8 1"

/-- The code points used with the script Tulu Tigalari. -/
def tuluTigalariUsed : Ranges :=
  Ranges.ofText
    "ce6 9 1002 0 1 0 8b3b 5 bb 0 6a8e 9 1 0 2 0 1 25 1 9 1 0 2 0 1 3 1 9 1 1 8 1"

/-- The code points of the script Ugaritic. -/
def ugaritic : Ranges :=
  Ranges.ofText
    "10380 1d 1 0"

/-- The code points of the script Vai. -/
def vai : Ranges :=
  Ranges.ofText
    "a500 12b"

/-- The code points of the script Vithkuqi. -/
def vithkuqi : Ranges :=
  Ranges.ofText
    "10570 a 1 e 1 6 1 1 1 a 1 e 1 6 1 1"

/-- The code points of the script Wancho. -/
def wancho : Ranges :=
  Ranges.ofText
    "1e2c0 39 5 0"

/-- The code points of the script Warang Citi. -/
def warangCiti : Ranges :=
  Ranges.ofText
    "118a0 52 c 0"

/-- The code points of the script Yezidi. -/
def yezidi : Ranges :=
  Ranges.ofText
    "10e80 29 1 2 2 1"

/-- The code points used with the script Yezidi. -/
def yezidiUsed : Ranges :=
  Ranges.ofText
    "60c 0 e 0 3 0 40 9 10816 29 1 2 2 1"

/-- The code points of the script Yi. -/
def yi : Ranges :=
  Ranges.ofText
    "a000 48c 3 36"

/-- The code points used with the script Yi. -/
def yiUsed : Ranges :=
  Ranges.ofText
    "3001 1 5 9 2 7 df 0 6f04 48c 3 36 5a9a 4"

/-- The code points of the script Zanabazar Square. -/
def zanabazarSquare : Ranges :=
  Ranges.ofText
    "11a00 47"

/-- Each script: its names in small letters without separators, its members, and the code
points used with it. -/
def every : List (List String × Ranges × Ranges) :=
  [(["adlm", "adlam"], adlam, adlamUsed),
    (["ahom"], ahom, ahom),
    (["hluw", "anatolianhieroglyphs"], anatolianHieroglyphs, anatolianHieroglyphs),
    (["arab", "arabic"], arabic, arabicUsed),
    (["armn", "armenian"], armenian, armenianUsed),
    (["avst", "avestan"], avestan, avestanUsed),
    (["bali", "balinese"], balinese, balinese),
    (["bamu", "bamum"], bamum, bamum),
    (["bass", "bassavah"], bassaVah, bassaVah),
    (["batk", "batak"], batak, batak),
    (["beng", "bengali"], bengali, bengaliUsed),
    (["bhks", "bhaiksuki"], bhaiksuki, bhaiksuki),
    (["bopo", "bopomofo"], bopomofo, bopomofoUsed),
    (["brah", "brahmi"], brahmi, brahmi),
    (["brai", "braille"], braille, braille),
    (["bugi", "buginese"], buginese, bugineseUsed),
    (["buhd", "buhid"], buhid, buhidUsed),
    (["cans", "canadianaboriginal"], canadianAboriginal, canadianAboriginal),
    (["cari", "carian"], carian, carianUsed),
    (["aghb", "caucasianalbanian"], caucasianAlbanian, caucasianAlbanianUsed),
    (["cakm", "chakma"], chakma, chakmaUsed),
    (["cham"], cham, cham),
    (["cher", "cherokee"], cherokee, cherokeeUsed),
    (["chrs", "chorasmian"], chorasmian, chorasmian),
    (["zyyy", "common"], common, commonUsed),
    (["copt", "coptic", "qaac"], coptic, copticUsed),
    (["xsux", "cuneiform"], cuneiform, cuneiform),
    (["cprt", "cypriot"], cypriot, cypriotUsed),
    (["cpmn", "cyprominoan"], cyproMinoan, cyproMinoanUsed),
    (["cyrl", "cyrillic"], cyrillic, cyrillicUsed),
    (["dsrt", "deseret"], deseret, deseret),
    (["deva", "devanagari"], devanagari, devanagariUsed),
    (["diak", "divesakuru"], divesAkuru, divesAkuru),
    (["dogr", "dogra"], dogra, dograUsed),
    (["dupl", "duployan"], duployan, duployanUsed),
    (["egyp", "egyptianhieroglyphs"], egyptianHieroglyphs, egyptianHieroglyphs),
    (["elba", "elbasan"], elbasan, elbasanUsed),
    (["elym", "elymaic"], elymaic, elymaic),
    (["ethi", "ethiopic"], ethiopic, ethiopicUsed),
    (["gara", "garay"], garay, garayUsed),
    (["geor", "georgian"], georgian, georgianUsed),
    (["glag", "glagolitic"], glagolitic, glagoliticUsed),
    (["goth", "gothic"], gothic, gothicUsed),
    (["gran", "grantha"], grantha, granthaUsed),
    (["grek", "greek"], greek, greekUsed),
    (["gujr", "gujarati"], gujarati, gujaratiUsed),
    (["gong", "gunjalagondi"], gunjalaGondi, gunjalaGondiUsed),
    (["guru", "gurmukhi"], gurmukhi, gurmukhiUsed),
    (["gukh", "gurungkhema"], gurungKhema, gurungKhemaUsed),
    (["hani", "han"], han, hanUsed),
    (["hang", "hangul"], hangul, hangulUsed),
    (["rohg", "hanifirohingya"], hanifiRohingya, hanifiRohingyaUsed),
    (["hano", "hanunoo"], hanunoo, hanunooUsed),
    (["hatr", "hatran"], hatran, hatran),
    (["hebr", "hebrew"], hebrew, hebrewUsed),
    (["hira", "hiragana"], hiragana, hiraganaUsed),
    (["armi", "imperialaramaic"], imperialAramaic, imperialAramaic),
    (["zinh", "inherited", "qaai"], inherited, inheritedUsed),
    (["phli", "inscriptionalpahlavi"], inscriptionalPahlavi, inscriptionalPahlavi),
    (["prti", "inscriptionalparthian"], inscriptionalParthian, inscriptionalParthian),
    (["java", "javanese"], javanese, javaneseUsed),
    (["kthi", "kaithi"], kaithi, kaithiUsed),
    (["knda", "kannada"], kannada, kannadaUsed),
    (["kana", "katakana"], katakana, katakanaUsed),
    (["kawi"], kawi, kawi),
    (["kali", "kayahli"], kayahLi, kayahLiUsed),
    (["khar", "kharoshthi"], kharoshthi, kharoshthi),
    (["kits", "khitansmallscript"], khitanSmallScript, khitanSmallScript),
    (["khmr", "khmer"], khmer, khmer),
    (["khoj", "khojki"], khojki, khojkiUsed),
    (["sind", "khudawadi"], khudawadi, khudawadiUsed),
    (["krai", "kiratrai"], kiratRai, kiratRai),
    (["laoo", "lao"], lao, lao),
    (["latn", "latin"], latin, latinUsed),
    (["lepc", "lepcha"], lepcha, lepcha),
    (["limb", "limbu"], limbu, limbuUsed),
    (["lina", "lineara"], linearA, linearAUsed),
    (["linb", "linearb"], linearB, linearBUsed),
    (["lisu"], lisu, lisuUsed),
    (["lyci", "lycian"], lycian, lycianUsed),
    (["lydi", "lydian"], lydian, lydianUsed),
    (["mahj", "mahajani"], mahajani, mahajaniUsed),
    (["maka", "makasar"], makasar, makasar),
    (["mlym", "malayalam"], malayalam, malayalamUsed),
    (["mand", "mandaic"], mandaic, mandaicUsed),
    (["mani", "manichaean"], manichaean, manichaeanUsed),
    (["marc", "marchen"], marchen, marchen),
    (["gonm", "masaramgondi"], masaramGondi, masaramGondiUsed),
    (["medf", "medefaidrin"], medefaidrin, medefaidrin),
    (["mtei", "meeteimayek"], meeteiMayek, meeteiMayek),
    (["mend", "mendekikakui"], mendeKikakui, mendeKikakui),
    (["merc", "meroiticcursive"], meroiticCursive, meroiticCursive),
    (["mero", "meroitichieroglyphs"], meroiticHieroglyphs, meroiticHieroglyphsUsed),
    (["miao", "plrd"], miao, miao),
    (["modi"], modi, modiUsed),
    (["mong", "mongolian"], mongolian, mongolianUsed),
    (["mroo", "mro"], mro, mro),
    (["mult", "multani"], multani, multaniUsed),
    (["mymr", "myanmar"], myanmar, myanmarUsed),
    (["nbat", "nabataean"], nabataean, nabataean),
    (["nagm", "nagmundari"], nagMundari, nagMundari),
    (["nand", "nandinagari"], nandinagari, nandinagariUsed),
    (["talu", "newtailue"], newTaiLue, newTaiLue),
    (["newa"], newa, newa),
    (["nkoo", "nko"], nko, nkoUsed),
    (["nshu", "nushu"], nushu, nushu),
    (["hmnp", "nyiakengpuachuehmong"], nyiakengPuachueHmong, nyiakengPuachueHmong),
    (["ogam", "ogham"], ogham, ogham),
    (["olck", "olchiki"], olChiki, olChiki),
    (["onao", "olonal"], olOnal, olOnalUsed),
    (["hung", "oldhungarian"], oldHungarian, oldHungarianUsed),
    (["ital", "olditalic"], oldItalic, oldItalic),
    (["narb", "oldnortharabian"], oldNorthArabian, oldNorthArabian),
    (["perm", "oldpermic"], oldPermic, oldPermicUsed),
    (["xpeo", "oldpersian"], oldPersian, oldPersian),
    (["sogo", "oldsogdian"], oldSogdian, oldSogdian),
    (["sarb", "oldsoutharabian"], oldSouthArabian, oldSouthArabian),
    (["orkh", "oldturkic"], oldTurkic, oldTurkicUsed),
    (["ougr", "olduyghur"], oldUyghur, oldUyghurUsed),
    (["orya", "oriya"], oriya, oriyaUsed),
    (["osge", "osage"], osage, osageUsed),
    (["osma", "osmanya"], osmanya, osmanya),
    (["hmng", "pahawhhmong"], pahawhHmong, pahawhHmong),
    (["palm", "palmyrene"], palmyrene, palmyrene),
    (["pauc", "paucinhau"], pauCinHau, pauCinHau),
    (["phag", "phagspa"], phagsPa, phagsPaUsed),
    (["phnx", "phoenician"], phoenician, phoenician),
    (["phlp", "psalterpahlavi"], psalterPahlavi, psalterPahlaviUsed),
    (["rjng", "rejang"], rejang, rejang),
    (["runr", "runic"], runic, runicUsed),
    (["samr", "samaritan"], samaritan, samaritanUsed),
    (["saur", "saurashtra"], saurashtra, saurashtra),
    (["shrd", "sharada"], sharada, sharadaUsed),
    (["shaw", "shavian"], shavian, shavianUsed),
    (["sidd", "siddham"], siddham, siddham),
    (["sgnw", "signwriting"], signWriting, signWriting),
    (["sinh", "sinhala"], sinhala, sinhalaUsed),
    (["sogd", "sogdian"], sogdian, sogdianUsed),
    (["sora", "sorasompeng"], soraSompeng, soraSompeng),
    (["soyo", "soyombo"], soyombo, soyombo),
    (["sund", "sundanese"], sundanese, sundanese),
    (["sunu", "sunuwar"], sunuwar, sunuwarUsed),
    (["sylo", "sylotinagri"], sylotiNagri, sylotiNagriUsed),
    (["syrc", "syriac"], syriac, syriacUsed),
    (["tglg", "tagalog"], tagalog, tagalogUsed),
    (["tagb", "tagbanwa"], tagbanwa, tagbanwaUsed),
    (["tale", "taile"], taiLe, taiLeUsed),
    (["lana", "taitham"], taiTham, taiTham),
    (["tavt", "taiviet"], taiViet, taiViet),
    (["takr", "takri"], takri, takriUsed),
    (["taml", "tamil"], tamil, tamilUsed),
    (["tnsa", "tangsa"], tangsa, tangsa),
    (["tang", "tangut"], tangut, tangutUsed),
    (["telu", "telugu"], telugu, teluguUsed),
    (["thaa", "thaana"], thaana, thaanaUsed),
    (["thai"], thai, thaiUsed),
    (["tibt", "tibetan"], tibetan, tibetanUsed),
    (["tfng", "tifinagh"], tifinagh, tifinaghUsed),
    (["tirh", "tirhuta"], tirhuta, tirhutaUsed),
    (["todr", "todhri"], todhri, todhriUsed),
    (["toto"], toto, totoUsed),
    (["tutg", "tulutigalari"], tuluTigalari, tuluTigalariUsed),
    (["ugar", "ugaritic"], ugaritic, ugaritic),
    (["vaii", "vai"], vai, vai),
    (["vith", "vithkuqi"], vithkuqi, vithkuqi),
    (["wcho", "wancho"], wancho, wancho),
    (["wara", "warangciti"], warangCiti, warangCiti),
    (["yezi", "yezidi"], yezidi, yezidiUsed),
    (["yiii", "yi"], yi, yiUsed),
    (["zanb", "zanabazarsquare"], zanabazarSquare, zanabazarSquare)]

/-- The members of the script of a given name. -/
def find? (name : String) : Option Ranges :=
  (every.find? fun (names, _) => names.contains name).map fun (_, own, _) => own

/-- The code points used with the script of a given name. -/
def findUsed? (name : String) : Option Ranges :=
  (every.find? fun (names, _) => names.contains name).map fun (_, _, used) => used

end TagSearch.Text.Script
