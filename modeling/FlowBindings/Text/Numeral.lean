import FlowBindings.Text.Basic

/-!
# Numerals

Integers as text. Hexadecimal is written in small letters with `0x` in front.
Two notations are read. The literals of the declaration language follow its grammar, in
which `0x` introduces hexadecimal and any other leading `0` octal (`readLiteral?`). A number
elsewhere, such as a byte of test data, is a text of a given base (`readInt?`), in which a
leading `0` means nothing and blanks, a sign and underscores are allowed.
-/

namespace FlowBindings.Text

/-- The hexadecimal digits of `n`, in small letters. -/
def hexDigits (n : Nat) : String :=
  String.ofList (Nat.toDigits 16 n)

/-- `n` in hexadecimal, introduced by `0x`. -/
def hex (n : Nat) : String :=
  "0x" ++ hexDigits n

/-- An integer in hexadecimal, its sign in front of the `0x`. -/
def hexInt : Int → String
  | .ofNat n => hex n
  | .negSucc n => "-" ++ hex (n + 1)

/-- `n` in decimal, with zeros in front up to `width` digits. -/
def zeroPadded (width n : Nat) : String :=
  let digits := toString n
  String.ofList (List.replicate (width - digits.length) '0') ++ digits

variable (c : Char) (s : String)

/-- The value of a digit up to fifteen, in small or capital letters. -/
def digitValue? : Option Nat :=
  if '0' ≤ c && c ≤ '9' then some (c.toNat - 48)
  else if 'a' ≤ c && c ≤ 'f' then some (c.toNat - 87)
  else if 'A' ≤ c && c ≤ 'F' then some (c.toNat - 55)
  else none

/-- Read a run of digits of a base, continuing from `acc`. -/
def readDigits? (base : Nat) : Nat → List Char → Option Nat
  | acc, [] => some acc
  | acc, c :: rest =>
    match digitValue? c with
    | some d => if d < base then readDigits? base (acc * base + d) rest else none
    | none => none

/-- Read digits of a base, at least one. -/
def readNat? (base : Nat) (s : List Char) : Option Nat :=
  if s.isEmpty then none else readDigits? base 0 s

/-- Drop the single underscores that stand between two digits; `none` when an
underscore stands anywhere else. -/
def dropSeparators? : List Char → Option (List Char)
  | [] => some []
  | ['_'] => none
  | '_' :: _ => none
  | [c] => some [c]
  | c :: '_' :: d :: rest =>
    if d == '_' then none else (dropSeparators? (d :: rest)).map (c :: ·)
  | c :: rest => (dropSeparators? rest).map (c :: ·)

/-- Read an integer of the declaration language: `0x` introduces hexadecimal,
any other `0` in front octal. -/
def readLiteral? (s : List Char) : Option Nat :=
  match s with
  | '0' :: 'x' :: digits => readNat? 16 digits
  | '0' :: [] => some 0
  | '0' :: digits => readNat? 8 digits
  | digits => readNat? 10 digits

/-! ## Sets of code points

A set is written as the distances between its ranges, in hexadecimal. -/

/-- A hexadecimal number; zero if it is none. -/
def readCode : Nat := (readNat? 16 s.toList).getD 0

/-- A range of code points, written as one or two hexadecimal numbers. -/
def readRange : Nat × Nat :=
  match splitOn '-' s with
  | [a, b] => (readCode a, readCode b)
  | _ => (readCode s, readCode s)

/-- Ranges in ascending order. Each is written as its distance from the end of the one before and,
behind a hyphen, the number of code points that follow its first one. -/
def readRanges : Array (Nat × Nat) :=
  ((words s).foldl (fun (found, last) word =>
    let (distance, more) :=
      match splitOn '-' word with
      | [a, b] => (readCode a, readCode b)
      | _ => (readCode word, 0)
    (found.push (last + distance, last + distance + more), last + distance + more)) (#[], 0)).1

def inRanges (ranges : Array (Nat × Nat)) (n : Nat) : Bool :=
  ranges.any fun (a, b) => a ≤ n && n ≤ b

/-! ## Digits of any script

They stand in a row from zero to nine. -/

def zeros : List Nat := (words "
  660 6f0 7c0 966 9e6 a66 ae6 b66 be6 c66 ce6 d66 de6 e50 ed0 f20 1040 1090 17e0 1810 1946 19d0
  1a80 1a90 1b50 1bb0 1c40 1c50 a620 a8d0 a900 a9d0 a9f0 aa50 abf0 ff10 104a0 10d30 11066 110f0
  11136 111d0 112f0 11450 114d0 11650 116c0 11730 118e0 11950 11c50 11d50 11da0 16a60 16ac0
  16b50 1d7ce 1d7d8 1d7e2 1d7ec 1d7f6 1e140 1e2f0 1e950 1fbf0").map readCode

def decimalValue? : Option Nat :=
  if c.toNat < 128 then (if c.isDigit then some (c.toNat - 48) else none)
  else (zeros.find? fun z => z ≤ c.toNat && c.toNat < z + 10).map (c.toNat - ·)

def isDecimalDigit : Bool := (decimalValue? c).isSome

/-! ## Integers in running text -/

/-- The blanks that may stand around an integer. The separator controls do not count. -/
def isNumeralBlank : Bool := isBlank c && !(28 ≤ c.toNat && c.toNat ≤ 31)

/-- Characters without those at either end that satisfy `p`. -/
def trimWith (p : Char → Bool) (s : List Char) : List Char :=
  ((s.dropWhile p).reverse.dropWhile p).reverse

/-- A digit of any script as a digit of ASCII; any other character itself. -/
def plainDigit : Char :=
  match decimalValue? c with
  | some d => Char.ofNat (48 + d)
  | none => c

/-- Read an integer of a base: blanks around it and a sign are allowed, and
single underscores between digits. -/
def readInt? (base : Nat) (text : String) : Option Int :=
  let body := trimWith isNumeralBlank (text.toList.map plainDigit)
  let (negative, digits) :=
    match body with
    | '-' :: rest => (true, rest)
    | '+' :: rest => (false, rest)
    | rest => (false, rest)
  let digits :=
    if base == 16 then
      match digits with
      | '0' :: 'x' :: rest => (match rest with | '_' :: r => r | r => r)
      | '0' :: 'X' :: rest => (match rest with | '_' :: r => r | r => r)
      | d => d
    else digits
  match (dropSeparators? digits).bind (readNat? base) with
  | some n => some (if negative then - (n : Int) else n)
  | none => none

end FlowBindings.Text
