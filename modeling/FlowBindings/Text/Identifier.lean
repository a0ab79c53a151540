import FlowBindings.Text.WordChar

/-!
# Identifiers

Names as programming languages allow them: a letter or an underscore, then letters,
digits, marks and underscores. Beyond ASCII these are almost the word characters; the
differences are listed.
-/

namespace FlowBindings.Text

/-- The characters of identifiers that are no word characters. -/
def extraPartRanges : Array (Nat × Nat) := readRanges "
  b7 249-6f 18 fc-4 10a-2c 2 2-1 2-1 2 49-a 31-14 11 66-6 3-5 3-1 2-3 24 1f-1a 5c-a 3b-8 a 19-3
  2-8 2-2 2-4 2c-2 3d-7 2b-17 2-20 37-2 2-11 2-6 b-1 1e-2 39 2-6 3-1 3-2 a b-1 1b 3-2 39 2-4
  5-1 3-2 4 1f-1 4 c-2 39 2-7 2-2 2-2 15-1 17-5 2-2 39 2-6 3-1 3-2 8-2 b-1 1f 3c-4 4-2 2-3 a
  29-4 38 2-6 2-2 2-3 8-1 c-1 1e-2 39 2-6 2-2 2-3 8-1 c-1 1d-3 38-1 2-6 2-2 2-3 a b-1 1e-2 47
  5-5 2 2-7 13-1 3e 3-6 d-7 63 3-8 c-5 4b-1 1c 2 2 5-1 32-13 2-1 6-a 2-23 a 65-13 18-3 5-2 2-2
  3-6 4-3 e-b 2 b-3 2c0-2 3b3-3 1d-2 1e-1 1f-1 41-1f a 2e-2 2 76-1 23 77-b 5-b dc-4 3a-9 2-1c 3
  31-d 2-f 32-4 30-10 27-8 d-2 1f-c 39-d 31-13 99-2 2-14 5 7 3-2 c7-3f 240-1 14 7c-c 5 4-b 28
  16 bc1-2 8e 61-1f 22b-5 6a-1 75d5 5-9 21-1 51-1 111 4 5 18-4 5 54-1 33-11 1b-11 e 27-7 1a-c
  2d-3 30-d 25 44-d d 9-1 2e-2 33 2-2 3-1 6-1 2 2a-4 6-1 ed-7 2-1 4f31 2e2-f 11-f 4-1 19-2 f0
  2be e3 96-4 687-2 2-1 6-3 29-2 5 a6-1 23e-3 184-1 9a-a 32-3 7b-2 36-e 2a 3-1 b-3 2e-a 8 3e-2
  25-d 11-1 2d d-2 31-d 9-3 2-1 5d-b 7 a1-b 16-3 38-1 2-6 3-1 3-2 a b-1 3-6 4-4 c1-11 18 52-13
  ec-6 3-8 1c-1 53-10 6b-c 66-e 101-e f6-5 2-1 3-3 2 2-1 8e-6 3-6 4 1d-9 29-6 2-3 9 a-a 2f-f
  196-7 2-7 53-15 2-d 7b-5 4 2-1 2-6 2 43-4 2-1 2-4 15c-3 4bfa-4 3c-6 419 2-36 8-3 52 c-1
  4cac-1 1262-2d 3-16 21f-4 4-5 9-7 3-6 1f-3 95-2 7bc-36 5-31 9 f 17-4 2-e 551-6 2-10 3-6 2-1
  2-4 106-6 178 3e-3 5e1-6 6e-6 c17b6-ef"

/-- The word characters that identifiers do not have. -/
def missingPartRanges : Array (Nat × Nat) := readRanges "
  b2-1 6 3-2 2bc 67a-5 179-5 79-2 86-6 da-6 12-8 1b2-9 43f-a 474-9 877 4-5 7-9 c7-f 2a 2d7-3b
  4f-15 277-1d 56a 132 363-3 8b-9 1f-7 2-e 21-9 28-e 7571-5 5429-5 197-1 75 2 2 2 2 2 2 2
  289-2c 42-3 12-1 156-1a 25-3 535-7 1a-6 28-8 4c-4 17-5 a1-1 3-f 3-2d 41-8 35-1 1f-2 4c-4 69-7
  19-7 2a-6 14b-5 161-1e 9f-9 2b-3 71-6 87-13 17c-13 546-1 1af-8 368-12 354-14 4b87-6 31f-16
  644a-13 6d-18 154f-8 3a2-3a 2-2 2-3 4d-2c 2-e 3c3-c"

/-- The word characters of identifiers that do not stand at their start. -/
def laterPartRanges : Array (Nat × Nat) := readRanges "
  660-9 87-9 c7-9 19d-9 77-9 77-9 77-9 77-9 77-9 77-9 77-9 77-9 77-9 44 1d-9 5a 1d-9 47-9 117-9
  47-9 2d0-8 46f-9 27-9 12d-9 81-a a6-9 7-9 b7-9 57-9 87-9 7-9 89c7-9 2a7-9 27-9 c7-9 17-9 57-9
  197-9 5317-9 85-1 501-9 887-9 32d-9 81-9 3d-9 91-9 117-9 157-9 77-9 177-9 67-9 67-9 1a7-9
  67-9 2f7-9 f7-9 47-9 4cb7-9 57-9 87-9 6c75-31 941-9 1a7-9 657-9 1297-9"

/-- The characters at the start of identifiers that are no word characters. -/
def extraStartRanges : Array (Nat × Nat) := readRanges "
  1885-1 892 16"

def isIdentifierPart (c : Char) : Bool :=
  let n := c.toNat
  if n < 128 then isWordChar c
  else inRanges extraPartRanges n || (isWordChar c && !inRanges missingPartRanges n)

def isIdentifierStart (c : Char) : Bool :=
  let n := c.toNat
  if n < 128 then c.isAlpha || c == '_'
  else inRanges extraStartRanges n
    || (isWordChar c && !inRanges missingPartRanges n && !inRanges laterPartRanges n)

def isIdentifier (s : String) : Bool :=
  match s.toList with
  | [] => false
  | c :: rest => isIdentifierStart c && rest.all isIdentifierPart

end FlowBindings.Text
