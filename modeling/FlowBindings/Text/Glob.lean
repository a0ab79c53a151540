import FlowBindings.Text.Basic

/-!
# Patterns of file names

A pattern matches a whole name. `*` stands for any run of characters, slashes
included, `?` for one character, and brackets for one of a set. A set that
begins with `!` holds the characters it does not name. An opening bracket that
is never closed stands for itself.

Inside a set a hyphen between two characters makes a range. A range that runs backwards
is taken out before the set is read, so that what follows it may come to stand first.
-/

namespace FlowBindings.Text.Glob

/-- A part of a pattern that matches one character. -/
inductive Single where
  | char (c : Char)
  | any
  /-- A character in one of the ranges, or in none of them if `negated`. -/
  | set (negated : Bool) (ranges : List (Char × Char))
  deriving DecidableEq, Repr

inductive Part where
  | single (s : Single)
  | run
  deriving DecidableEq, Repr

/-! ## Sets -/

/-- The pieces of a set between the hyphens that make ranges. So many characters are
passed before a hyphen can make one. The first argument bounds the number of pieces. -/
def pieces : Nat → (passed : Nat) → List Char → List (List Char)
  | 0, _, s => [s]
  | n + 1, passed, s =>
    let behind := s.drop passed
    match behind.dropWhile (· ≠ '-') with
    | [] => [s]
    | [_] => [s]
    | _ :: rest => (s.take passed ++ behind.takeWhile (· ≠ '-')) :: pieces n 2 rest

/-- Take out the ranges that run backwards, from the last to the first. -/
def dropBackwards : List (List Char) → List (List Char)
  | [] => []
  | piece :: rest =>
    match dropBackwards rest with
    | [] => [piece]
    | next :: others =>
      match piece.getLast?, next with
      | some a, b :: tail =>
        if b < a then (piece.dropLast ++ tail) :: others else piece :: next :: others
      | _, _ => piece :: next :: others

/-- The characters of pieces, each with whether it is a hyphen that makes a range. -/
def marks : List (List Char) → List (Char × Bool)
  | [] => []
  | [piece] => piece.map (·, false)
  | piece :: rest => piece.map (·, false) ++ ('-', true) :: marks rest

def ranges : List (Char × Bool) → List (Char × Char)
  | (a, _) :: ('-', true) :: (b, _) :: rest => (a, b) :: ranges rest
  | (a, _) :: rest => (a, a) :: ranges rest
  | [] => []

/-- The set that the characters between two brackets stand for. -/
def setOf (s : List Char) : Single :=
  let passed := if s.head? = some '!' then 2 else 1
  match marks (dropBackwards (pieces s.length passed s)) with
  | ('!', _) :: rest => .set true (ranges rest)
  | rest => .set false (ranges rest)

/-- The characters up to the bracket that closes a set, and what follows it. A
bracket that comes first, or first behind `!`, does not close the set. -/
def closeSet (s : List Char) : Option (List Char × List Char) :=
  let (kept, rest) := match s with
    | '!' :: ']' :: r => (['!', ']'], r)
    | '!' :: r => (['!'], r)
    | ']' :: r => ([']'], r)
    | r => ([], r)
  match rest.dropWhile (· ≠ ']') with
  | [] => none
  | _ :: after => some (kept ++ rest.takeWhile (· ≠ ']'), after)

/-! ## Patterns -/

/-- The parts of a pattern. The first argument bounds the number of parts; the
pattern's length always suffices. -/
def partsUpTo : Nat → List Char → List Part
  | 0, _ => []
  | _, [] => []
  | n + 1, '*' :: rest => .run :: partsUpTo n rest
  | n + 1, '?' :: rest => .single .any :: partsUpTo n rest
  | n + 1, '[' :: rest =>
    match closeSet rest with
    | some (inner, after) => .single (setOf inner) :: partsUpTo n after
    | none => .single (.char '[') :: partsUpTo n rest
  | n + 1, c :: rest => .single (.char c) :: partsUpTo n rest

def parts (pattern : String) : List Part :=
  partsUpTo pattern.length pattern.toList

def Single.admits : Single → Char → Bool
  | .char c, d => c == d
  | .any, _ => true
  | .set negated rs, d => (rs.any fun (a, b) => a ≤ d && d ≤ b) != negated

/-- The ends of a text, the text itself first. -/
def tails : List Char → List (List Char)
  | [] => [[]]
  | c :: rest => (c :: rest) :: tails rest

/-- The ends of a text that can be left once a part has matched, given those that can be
left before it; both with the longest first. -/
def Part.pass (ends : List (List Char)) : Part → List (List Char)
  | .run => (ends.head?.map tails).getD []
  | .single s => ends.filterMap fun
    | c :: rest => if s.admits c then some rest else none
    | [] => none

def admits (ps : List Part) (s : List Char) : Bool :=
  (ps.foldl (fun ends p => p.pass ends) [s]).contains []

def isMatch (pattern name : String) : Bool :=
  admits (parts pattern) name.toList

end FlowBindings.Text.Glob
