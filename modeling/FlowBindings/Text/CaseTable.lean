import FlowBindings.Text.Numeral
import FlowBindings.Table

/-!
# Tables of letter case

The counterparts of letters beyond ASCII in small letters, capitals and title case, and
the two properties of characters on which the form of a letter inside a word depends.

Most counterparts are listed as ranges: all letters of a range, or every second one, have
their counterpart at the same distance. A letter whose counterpart is not a single
character is listed with the characters that take its place.
-/

namespace FlowBindings.Text

/-- Letters whose counterparts are at the same distance. -/
structure CaseRange where
  first : Nat
  last : Nat
  /-- One if all letters between are meant, two if every second one is. -/
  step : Nat
  shift : Int
  deriving DecidableEq, Repr

variable (s : String)

/-- A distance, in hexadecimal with a sign if it is negative. -/
def readShift : Int :=
  match s.toList with
  | '-' :: digits => - ((readNat? 16 digits).getD 0 : Int)
  | digits => (readNat? 16 digits).getD 0

/-- A range, written as its letters and the distance behind a colon. -/
def readCaseRange : CaseRange :=
  match splitOn ':' s with
  | [letters, shift] =>
    match splitOn '/' letters with
    | [range, _] => ⟨(readRange range).1, (readRange range).2, 2, readShift shift⟩
    | _ => ⟨(readRange letters).1, (readRange letters).2, 1, readShift shift⟩
  | _ => ⟨0, 0, 1, 0⟩

def readCaseRanges : Array CaseRange := ((words s).map readCaseRange).toArray

def CaseRange.inverse (r : CaseRange) : CaseRange :=
  ⟨((r.first : Int) + r.shift).toNat, ((r.last : Int) + r.shift).toNat, r.step, - r.shift⟩

/-- Letters with the characters that take their place, as a text lists them. Only the first of the
characters differs among the letters of a range. -/
def readExpansions : Table Nat (List Char) :=
  (words s).flatMap fun entry =>
    match splitOn ':' entry with
    | [letters, chars] =>
      let (first, last) := readRange letters
      (List.range (last + 1 - first)).map fun i =>
        (first + i, (splitOn '+' chars).mapIdx fun k c =>
          Char.ofNat (readCode c + if k = 0 then i else 0))
    | _ => []

/-- The counterpart of a code point, if a range holds it. -/
def CaseRange.shifted? (ranges : Array CaseRange) (n : Nat) : Option Nat :=
  (ranges.find? fun r => r.first ≤ n && n ≤ r.last && (n - r.first) % r.step == 0).map fun r =>
    ((n : Int) + r.shift).toNat

/-! ## Small letters -/

def lowerRanges : Array CaseRange := readCaseRanges "
  c0-d6:20 d8-de:20 100-12e/2:1 132-136/2:1 139-147/2:1 14a-176/2:1 178:-79 179-17d/2:1 181:d2
  182-184/2:1 186:ce 187:1 189-18a:cd 18b:1 18e:4f 18f:ca 190:cb 191:1 193:cd 194:cf 196:d3
  197:d1 198:1 19c:d3 19d:d5 19f:d6 1a0-1a4/2:1 1a6:da 1a7:1 1a9:da 1ac:1 1ae:da 1af:1
  1b1-1b2:d9 1b3-1b5/2:1 1b7:db 1b8:1 1bc:1 1c4:2 1c5:1 1c7:2 1c8:1 1ca:2 1cb-1db/2:1
  1de-1ee/2:1 1f1:2 1f2-1f4/2:1 1f6:-61 1f7:-38 1f8-21e/2:1 220:-82 222-232/2:1 23a:2a2b 23b:1
  23d:-a3 23e:2a28 241:1 243:-c3 244:45 245:47 246-24e/2:1 370-372/2:1 376:1 37f:74 386:26
  388-38a:25 38c:40 38e-38f:3f 391-3a1:20 3a3-3ab:20 3cf:8 3d8-3ee/2:1 3f4:-3c 3f7:1 3f9:-7
  3fa:1 3fd-3ff:-82 400-40f:50 410-42f:20 460-480/2:1 48a-4be/2:1 4c0:f 4c1-4cd/2:1 4d0-52e/2:1
  531-556:30 10a0-10c5:1c60 10c7:1c60 10cd:1c60 13a0-13ef:97d0 13f0-13f5:8 1c90-1cba:-bc0
  1cbd-1cbf:-bc0 1e00-1e94/2:1 1e9e:-1dbf 1ea0-1efe/2:1 1f08-1f0f:-8 1f18-1f1d:-8 1f28-1f2f:-8
  1f38-1f3f:-8 1f48-1f4d:-8 1f59-1f5f/2:-8 1f68-1f6f:-8 1f88-1f8f:-8 1f98-1f9f:-8 1fa8-1faf:-8
  1fb8-1fb9:-8 1fba-1fbb:-4a 1fbc:-9 1fc8-1fcb:-56 1fcc:-9 1fd8-1fd9:-8 1fda-1fdb:-64
  1fe8-1fe9:-8 1fea-1feb:-70 1fec:-7 1ff8-1ff9:-80 1ffa-1ffb:-7e 1ffc:-9 2126:-1d5d 212a:-20bf
  212b:-2046 2132:1c 2160-216f:10 2183:1 24b6-24cf:1a 2c00-2c2f:30 2c60:1 2c62:-29f7 2c63:-ee6
  2c64:-29e7 2c67-2c6b/2:1 2c6d:-2a1c 2c6e:-29fd 2c6f:-2a1f 2c70:-2a1e 2c72:1 2c75:1
  2c7e-2c7f:-2a3f 2c80-2ce2/2:1 2ceb-2ced/2:1 2cf2:1 a640-a66c/2:1 a680-a69a/2:1 a722-a72e/2:1
  a732-a76e/2:1 a779-a77b/2:1 a77d:-8a04 a77e-a786/2:1 a78b:1 a78d:-a528 a790-a792/2:1
  a796-a7a8/2:1 a7aa:-a544 a7ab:-a54f a7ac:-a54b a7ad:-a541 a7ae:-a544 a7b0:-a512 a7b1:-a52a
  a7b2:-a515 a7b3:3a0 a7b4-a7c2/2:1 a7c4:-30 a7c5:-a543 a7c6:-8a38 a7c7-a7c9/2:1 a7d0:1
  a7d6-a7d8/2:1 a7f5:1 ff21-ff3a:20 10400-10427:28 104b0-104d3:28 10570-1057a:27 1057c-1058a:27
  1058c-10592:27 10594-10595:27 10c80-10cb2:40 118a0-118bf:20 16e40-16e5f:20 1e900-1e921:22"

def lowerExpansions : Table Nat (List Char) := readExpansions "
  130:69+307"

/-! ## Capitals -/

/-- The capitals of small letters, but for those that come first. -/
def upperRanges : Array CaseRange := readCaseRanges "
  b5:2e7 df:0 131:-e8 17f:-12c 1c5:-1 1c8:-1 1cb:-1 1f2:-1 345:54 3c2:-1f 3d0:-3e 3d1:-39
  3d5:-2f 3d6:-36 3f0:-56 3f1:-50 3f5:-60 1c80:-186e 1c81:-186d 1c82:-1864 1c83-1c84:-1862
  1c85:-1863 1c86:-185c 1c87:-1825 1c88:89c2 1e9b:-3b 1f80-1f87:0 1f90-1f97:0 1fa0-1fa7:0 1fb3:0
  1fbe:-1c25 1fc3:0 1ff3:0"
  ++ lowerRanges.map CaseRange.inverse

def upperExpansions : Table Nat (List Char) := readExpansions "
  df:53+53 149:2bc+4e 1f0:4a+30c 390:399+308+301 3b0:3a5+308+301 587:535+552 1e96:48+331
  1e97:54+308 1e98:57+30a 1e99:59+30a 1e9a:41+2be 1f50:3a5+313 1f52:3a5+313+300 1f54:3a5+313+301
  1f56:3a5+313+342 1f80-1f87:1f08+399 1f88-1f8f:1f08+399 1f90-1f97:1f28+399 1f98-1f9f:1f28+399
  1fa0-1fa7:1f68+399 1fa8-1faf:1f68+399 1fb2:1fba+399 1fb3:391+399 1fb4:386+399 1fb6:391+342
  1fb7:391+342+399 1fbc:391+399 1fc2:1fca+399 1fc3:397+399 1fc4:389+399 1fc6:397+342
  1fc7:397+342+399 1fcc:397+399 1fd2:399+308+300 1fd3:399+308+301 1fd6:399+342 1fd7:399+308+342
  1fe2:3a5+308+300 1fe3:3a5+308+301 1fe4:3a1+313 1fe6:3a5+342 1fe7:3a5+308+342 1ff2:1ffa+399
  1ff3:3a9+399 1ff4:38f+399 1ff6:3a9+342 1ff7:3a9+342+399 1ffc:3a9+399 fb00:46+46 fb01:46+49
  fb02:46+4c fb03:46+46+49 fb04:46+46+4c fb05:53+54 fb06:53+54 fb13:544+546 fb14:544+535
  fb15:544+53b fb16:54e+546 fb17:544+53d"

/-! ## Title case -/

/-- The letters whose form at the start of a title is one character, and not the capital. -/
def titleRanges : Array CaseRange := readCaseRanges "
  1c4:1 1c5:0 1c6:-1 1c7:1 1c8:0 1c9:-1 1ca:1 1cb:0 1cc:-1 1f1:1 1f2:0 1f3:-1 10d0-10fa:0
  10fd-10ff:0 1f80-1f87:8 1f88-1f8f:0 1f90-1f97:8 1f98-1f9f:0 1fa0-1fa7:8 1fa8-1faf:0 1fb3:9
  1fbc:0 1fc3:9 1fcc:0 1ff3:9 1ffc:0"

/-- The letters whose form at the start of a title is several characters, and not the capital. -/
def titleExpansions : Table Nat (List Char) := readExpansions "
  df:53+73 587:535+582 1fb2:1fba+345 1fb4:386+345 1fb7:391+342+345 1fc2:1fca+345 1fc4:389+345
  1fc7:397+342+345 1ff2:1ffa+345 1ff4:38f+345 1ff7:3a9+342+345 fb00:46+66 fb01:46+69 fb02:46+6c
  fb03:46+66+69 fb04:46+66+6c fb05:53+74 fb06:53+74 fb13:544+576 fb14:544+565 fb15:544+56b
  fb16:54e+576 fb17:544+56d"

/-! ## Properties -/

/-- The characters beyond ASCII that have a case. -/
def casedRanges : Array (Nat × Nat) := readRanges "
  aa b 5 6-16 2-1e 2-c2 2-3 5-cf 2-23 8-1 1f-4 61 2b-3 3-1 3-3 2 7 2-2 2 2-13 2-52 2-8a 9-a5
  2-25 a-28 b18-25 2 6 3-2a 3-2 2a1-55 3-5 883-8 8-2a 3-2 41-bf 41-115 3-5 3-25 3-5 3-7 2 2 2
  2-1e 3-34 2-6 2 4-2 2-6 4-3 3-5 5-c 6-2 2-6 75 e 11-c 66 5 3-9 2 4-4 7 2 2 2-3 2-5 5 3-3 6-4
  5 12-1f 4-1 332-33 717-e4 7-3 4-1 d-25 2 6 7913-2d 13-1d 85-65 4-3 2-3a 6-1 2 2-4 1c-1 2-2
  336-2a 2-c 8-4f 4f41-6 d-4 40a-19 7-19 4a6-4f 61-23 5-23 75-a 2-e 2-6 2-1 2-a 2-e 2-6 2-1 1c4
  3-2 2-29 2-8 4c6-32 e-32 bae-3f 5561-3f 6581-54 2-46 2-1 3 3-1 3-3 2-b 2 2-6 2-40 2-3 3-7 2-6
  2-1b 2-3 2-4 2 4-6 2-153 3-18 2-18 2-1e 2-18 2-1e 2-18 2-1e 2-18 2-1e 2-18 2-7 735-9 2-13
  9e2-43 7ed-19 7-19 7-19"

/-- The characters beyond ASCII that are overlooked where neighbours decide on a form. -/
def overlookedRanges : Array (Nat × Nat) := readRanges "
  a8 5 2 5 3-1 1f8-bf 5-1 5 a-1 2 fc-6 d0 6 32-2c 2 2-1 2-1 2 2d c-5 b-a 2 24 b-14 11 66-7 2-9
  2-3 22 2 1f-1a 5c-a 3b-a 5 3 19-17 2c-2 2d 8-1 7-7 2a-39 38 2 5-7 5 4-6 b-1 e 10 3b 5-3 9
  15-1 1b 3-1 3a 5-1 5-1 3-2 4 1f-1 4 c-1 3a 5-4 2-1 5 15-1 17-5 2 3b 3 2-3 9 8-1 c-1 1f 3e d
  33 4 38 2-2 6-2 2-3 8-1 c-1 1e 3b 3 7 6-1 15-1 1d-1 3a-1 5-3 9 15-1 1e 49 8-2 2 5b 3-6 c-8 63
  3-8 a 2-5 4b-1 1c 2 2 38-d 2-4 2-1 6-a 2-23 a 67-3 2-5 2-1 3-1 1a-1 5-2 11-3 e 3-1 7 10 5f
  261-2 3b3-2 1e-1 1f-1 1f-1 41-1 2-6 9 3-a 4 6 2e-4 34 42-1 23 77-2 5-1 a 7-2 dc-1 3 3b 2-6 2
  2 3-7 7-9 3 28 9-1e 32-3 31 2-4 2 6 29-8 d-1 21-3 3-1 2-2 39 2-1 4 2-2 3b-7 3-1 41-5 53-2 2-c
  2-6 5 7 4-1 33-3e e 23-64 1be 2-2 c-2 e-2 e-2 e-1 d-4 9-1 b 3 3-4 32-4 2-9 2 e 11-c 34-20
  b8c-1 72-2 7e 10 61-1f 30 1d6 25-3 4-4 6 5e-5 5e-2 6f17 4e3-5 10f 63-3 2-9 2 1d-3 51-1 f-21
  4f 18-2 68-2 4-1 9 4 5 1a-1 6 98-1 1b-11 e 27-7 1a-a 2f-2 31 3-3 3-1 12 16-1 43-5 3-1 3-1 d 9
  24 c 34 2-2 3-1 6-1 2 1c f-1 6-1 2 65-4 a-2 7a 3 5 4f31 94-10 23e-f 4 d-f 23 3 aa 8 7 c 24 2
  30 2e-1 44 16-2 202 e3 96-4 406-5 2-29 2-8 247-2 2-1 6-3 29-2 5 a6-1 23e-3 184-1 9a-a 32-3 7c
  37-e 2a 3-1 b-2 32-3 3-1 3 5 b 33-2 25-4 2-7 3f d-1 35-8 b-3 3 60-2 3 2-1 7 a1 4-7 16-1 3a-1
  4 26-6 4-4 c4-7 3-2 2 18 55-5 2 5-1 2-1 ef-3 7-1 2-1 1c-1 56-7 3 2-1 6b 2 3-5 2 66-2 3-3 2-4
  104-8 2-1 101-1 2 5 91-3 3-1 5 21-9 29-5 3-3 9 a-5 3-2 2f-c 2-1 197-6 2-5 2 53-15 3-6 2-1 2-1
  7b-5 4 2-1 2-6 2 49-1 4 2 15c-1 153c-8 36b8-4 3c-6 a-3 40c 40-10 41-1 2-1 400c-3 2-6 2-1
  c9f-1 2-3 125d-2d 3-16 221-2 a-f 3-6 1f-3 95-2 7bc-36 5-31 9 f 17-4 2-e 551-6 2-10 3-6 2-1
  2-4 106-d 171 3e-3 5e1-6 6e-7 ab0-4 c0c02 1f-5f 81-ef"

end FlowBindings.Text
