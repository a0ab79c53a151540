import FlowBindings.Text.Numeral

/-!
# Texts as bytes

Input files are sequences of bytes. A byte is shown as the character with its
number, so a text that came from a file is one character per byte of its UTF-8
encoding, and positions in it count bytes.

The other way round, bytes are read as UTF-8. The longest beginning of a character that is not
completed is read as one replacement character, and so is a byte that begins none.

Inside of addresses a byte may be written as a percent sign and two hexadecimal
digits.
-/

namespace FlowBindings.Text

/-- The UTF-8 bytes of a text, each as the character with that number. -/
def bytes (s : String) : List Char :=
  s.toByteArray.data.toList.map fun b => Char.ofNat b.toNat

/-! ## Reading bytes as text -/

/-- What a leading byte asks for: how many bytes follow, the range of the first of
them, and the bits that the leading byte gives. -/
def leadByte? (b : Nat) : Option (Nat × Nat × Nat × Nat) :=
  if b < 0x80 then some (0, 0, 0, b)
  else if 0xc2 ≤ b && b ≤ 0xdf then some (1, 0x80, 0xbf, b - 0xc0)
  else if b = 0xe0 then some (2, 0xa0, 0xbf, 0)
  else if b = 0xed then some (2, 0x80, 0x9f, 0xd)
  else if 0xe1 ≤ b && b ≤ 0xef then some (2, 0x80, 0xbf, b - 0xe0)
  else if b = 0xf0 then some (3, 0x90, 0xbf, 0)
  else if 0xf1 ≤ b && b ≤ 0xf3 then some (3, 0x80, 0xbf, b - 0xf0)
  else if b = 0xf4 then some (3, 0x80, 0x8f, 4)
  else none

/-- Read the bytes that follow a leading byte; the character they complete, if they
do, and the bytes left. -/
def followBytes (value : Nat) : (count low high : Nat) → List Nat → Option Nat × List Nat
  | 0, _, _, bs => (some value, bs)
  | _ + 1, _, _, [] => (none, [])
  | n + 1, low, high, b :: bs =>
    if low ≤ b && b ≤ high then followBytes (value * 64 + b % 64) n 0x80 0xbf bs
    else (none, b :: bs)

/-- Bytes as a text; at most as many characters are read as the first argument
says. -/
def decodeFrom : Nat → List Nat → List Char
  | 0, _ => []
  | _, [] => []
  | n + 1, b :: bs =>
    match leadByte? b with
    | none => '�' :: decodeFrom n bs
    | some (count, low, high, value) =>
      match followBytes value count low high bs with
      | (some c, rest) => Char.ofNat c :: decodeFrom n rest
      | (none, rest) => '�' :: decodeFrom n rest

def decode (bytes : List Nat) : List Char := decodeFrom bytes.length bytes

/-- The bytes of a run of ASCII characters. A percent sign without two digits is itself. -/
def runBytes : List Char → List Nat
  | '%' :: a :: b :: rest =>
    match digitValue? a, digitValue? b with
    | some x, some y => (16 * x + y) :: runBytes rest
    | _, _ => 37 :: runBytes (a :: b :: rest)
  | c :: rest => c.toNat :: runBytes rest
  | [] => []

/-- A text in which bytes may be written out; `run` is the run of ASCII characters
before it, latest first. -/
def unquoteFrom (run : List Char) : List Char → List Char
  | [] => decode (runBytes run.reverse)
  | c :: rest =>
    if c.toNat < 0x80 then unquoteFrom (c :: run) rest
    else decode (runBytes run.reverse) ++ c :: unquoteFrom [] rest

/-- A text in which bytes may be written out, as plain text. -/
def unquote (s : String) : String := String.ofList (unquoteFrom [] s.toList)

end FlowBindings.Text
