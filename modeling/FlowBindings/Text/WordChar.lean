import FlowBindings.Text.Numeral

/-!
# Word characters

The characters that words are made of: letters, numbers and the underscore. Beyond
ASCII these are the characters that the Unicode standard classifies as letters or
numbers, listed here as ranges of code points.
-/

namespace FlowBindings.Text

/-- The letters and numbers beyond ASCII, as ranges of code points. -/
def wordRangeText : String := "
  aa 8-1 2 4-1 2-2 2-16 2-1e 2-1c9 5-b f-4 8 2 82-4 2-1 3-3 2 7 2-2 2 2-13 2-52 2-8a 9-a5 2-25
  3 7-28 48-1a 5-3 2e-2a 16-9 5-1 2-62 2 10-1 8-e 3 11 2-1d 1e-58 c f-2a a-1 5 6-15 5 a 4 18-18
  8-a 6-17 2-5 12-29 3b-35 4 13 8-9 5-9 2-f 5-7 3-1 3-15 2-6 2 4-3 4 11 e-1 2-2 5-b 3-5 3 9-5
  5-1 3-15 2-6 2-1 2-1 2-1 20-3 2 8-9 3-2 11-8 2-2 2-15 2-6 2-1 2-4 4 13 10-1 5-9 a c-7 3-1
  3-15 2-6 2-1 2-4 4 1f-1 2-2 5-9 2-6 c 2-5 4-2 2-3 4-1 2 2-1 4-1 4-2 4-b 17 16-c 13-7 2-2 2-16
  2-f 4 1b-2 3 3-1 5-9 9-6 2 5-7 2-2 2-16 2-9 2-4 4 20-1 2-1 5-9 2-1 12-8 2-2 2-28 3 11 6-2 2-9
  5-12 2-5 6-11 4-17 2-8 2 3-6 20-9 12-2f 2-1 d-6 a-9 28-1 2 2-4 2-17 2 2-9 2-1 a 3-4 2 a-9 3-3
  21 20-13 d-7 2-23 1c-4 74-2a 15-a 7-5 5-3 4 4-1 8-2 5-c d 2-9 7-25 2 6 3-2a 2-14c 2-3 3-6 2
  2-3 3-28 2-3 3-20 2-3 3-6 2 2-3 3-e 2-38 2-3 3-42 f-13 4-f 11-55 3-5 4-26b 3-10 2-19 6-4a 4-a
  8-11 e-12 f-11 f-c 2-2 10-33 24 5 4-9 7-9 17-9 7-58 8-4 3-21 2 6-45 b-1e 28-27 3-4 c-2b 5-19
  7-a 26-16 a-34 2c-9 7-9 e 5e-2e 12-7 4-9 2a-1d e-37 1b-23 1d-9 4-30 3-8 8-2a 3-2 2a-3 2-5 2-1
  4 6-bf 41-115 3-5 3-25 3-5 3-7 2 2 2 2-1e 3-34 2-6 2 4-2 2-6 4-3 3-5 5-c 6-2 2-6 74-1 3-5 6-a
  7-c 66 5 3-9 2 4-4 7 2 2 2-3 2-a 3-3 6-4 5 2-39 2d7-3b 4f-15 277-1d 46d-e4 7-3 4-1 a 3-25 2 6
  3-37 8 11-16 a-6 2-6 2-6 2-6 2-6 2-6 2-6 2-6 51 1d6-2 1a-8 8-4 3-4 5-55 7-2 2-59 2-3 6-2a
  2-5d 4-3 b-1f 31-f 21-9 1f-7 2-e 21-9 28-e 141-19bf 41-568c 44-2d 3-10c 4-1b 15-2e 11-1e 3-4f
  28-8 3-66 3-3f 6-1 2 2-4 19-f 2-2 2-3 2-16 e-5 b-33 f-31 1d-9 19-5 4 2-1 2-25 b-16 1a-1c 8-2e
  1d-a 7-4 2-18 2-28 18-2 2-7 5-9 7-16 4 4-31 2 4-1 3-4 3 2 19-2 3-a 8-2 d-5 3-5 3-5 a-6 2-6
  2-2a 2-d 7-72 e-9 7-2ba3 d-16 5-30 2105-16d 3-69 27-6 d-4 6 2-9 2-c 2-4 2 2-1 2-1 2-6b 22-16a
  13-3f 3-35 29-b 75-4 2-86 14-9 8-19 7-19 c-58 4-5 3-5 3-5 3-2 24-b 2-19 2-12 2-1 2-e 3-d
  23-7a d-2c d-38 12-1 f5-1c 4-30 11-1a 5-23 a-1d 6-25 b-1d 3-23 5-7 2-4 2b-9d 3-9 7-23 5-23
  5-27 9-33 d-a 2-e 2-6 2-1 2-a 2-e 2-6 2-1 44-136 a-15 b-7 19-5 2-29 2-8 46-5 3 2-2b 2-1 4
  3-16 3-1e 3-25 9-8 31-12 2-1 6-20 5-19 47-37 5-13 3-2e 10-3 2-2 2-1c b-8 18-1e 2-1f 21-7 2-1b
  7-4 11-35 b-15 3-1a 6-19 18-6 51-48 38-32 e-32 8-29 d-9 127-1e 2-29 7-1 4f-27 9-15 c-3 1c-11
  2f-1b 15-16 d-34 1b-1d 2-1 3 e-2c 21-18 8-9 a-23 10-9 5 3 9-22 4 d-2f f-3 c-a 2 5-13 c-11
  2-18 55-6 2 2-3 2-e 2-9 8-2e 12-9 c-7 3-1 3-15 2-6 2-1 2-4 4 13 d-4 9f-34 13-3 6-9 6-2 1f-2f
  15-1 2 9-9 a7-2e 2a-3 25-2f 15 c-9 27-2a e 8-9 37-1a 16-b 5-6 ba-2b 75-52 d-7 3 3-7 2-1 2-17
  10 2 f-9 47-7 3-26 11 2 1d b-27 8 16 c-2d 14 13-48 108-8 2-24 12 10-1c 6-1d 71-6 2-1 2-25 16
  a-9 7-5 2-1 2-1f f 8-9 137-12 be 10-14 2c-399 67-6e 12-c3 a4d-60 10-42e fd2-246 21ba-238 8-1e
  2-9 7-4e 2-9 7-1d 13-2f 11-3 d-9 2-6 2-14 6-12 2b1-56 6a-4a 6 43-c 41-1 2 1d-17f7 9-4d5 2b-8
  22e8-3 2-6 2-1 2-122 2e-2 12-3 9-18b 905-6a 6-c 4-8 8-9 1647-13 6d-18 88-54 2-46 2-1 3 3-1
  3-3 2-b 2 2-6 2-40 2-3 3-7 2-6 2-1b 2-3 2-4 2 4-6 2-153 3-18 2-18 2-1e 2-18 2-1e 2-18 2-1e
  2-18 2-1e 2-18 2-7 3-31 701-1e 1e2-2c b-6 3-9 5 142-1d 13-2b 5-9 4e7-6 2-3 2-1 2-e 2-c4 3-8
  31-43 8 5-9 318-3a 2-2 2-3 4d-2c 2-e c3-3 2-1a 2-1 2 3 2-9 2-3 2 2 7 5 2 2 2-2 2-1 2 3 2 2 2
  2 2-1 2 3-3 2-6 2-3 2-3 2 2-9 2-10 6-2 2-4 2-10 245-c ae4-9 407-a6df 21-1038 8-dd 3-1681
  f-1d30 c20-21d 5e3-134a"

def wordRanges : Array (Nat × Nat) := readRanges wordRangeText

def isWordChar (c : Char) : Bool :=
  c.isAlphanum || c == '_' || (128 ≤ c.toNat && inRanges wordRanges c.toNat)

end FlowBindings.Text
