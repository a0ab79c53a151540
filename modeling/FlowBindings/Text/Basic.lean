/-!
# Cutting and searching text

Names, declarations and generated lines are cut, searched and joined with the
functions of this module. Each is defined by recursion on the characters, so a
statement about a name is an induction on its letters.
-/

namespace FlowBindings.Text

/-! ## Ends of a text -/

variable (s : String) (n : Nat) (c : Char) (tail : String)

def startsWith (lead : String) : Bool :=
  lead.toList.isPrefixOf s.toList

def endsWith : Bool :=
  tail.toList.isSuffixOf s.toList

def dropFirst (s : String) : String :=
  String.ofList (s.toList.drop n)

def dropLast (s : String) : String :=
  String.ofList (s.toList.take (s.length - n))

def takeFirst (s : String) : String :=
  String.ofList (s.toList.take n)

def takeLast (s : String) : String :=
  String.ofList (s.toList.drop (s.length - n))

/-- `s` without a trailing `tail`; unchanged when it does not end so. -/
def trimTail : String :=
  if endsWith s tail then dropLast tail.length s else s

/-- Drop the given tail of a line if it is there; the line may end in a line break, which
stays. -/
def trimLineTail : String :=
  let line := trimTail s "\n"
  if line = s then trimTail s tail
  else if endsWith line tail then trimTail line tail ++ "\n"
  else trimTail s tail

/-- `s` without a leading `lead`; unchanged when it does not begin so. -/
def trimLead (lead : String) : String :=
  if startsWith s lead then dropFirst lead.length s else s

/-! ## Searching -/

/-- The index in `s` where `needle` first stands. -/
def findChars (needle : List Char) : List Char → Option Nat
  | [] => if needle.isEmpty then some 0 else none
  | c :: rest =>
    if needle.isPrefixOf (c :: rest) then some 0 else (findChars needle rest).map (· + 1)

/-- The index in `s` where `needle` first stands. -/
def indexOf? (needle s : String) : Option Nat :=
  findChars needle.toList s.toList

/-- Whether `needle` stands somewhere in `s`. -/
def contains (needle : String) : Bool :=
  (indexOf? needle s).isSome

def hasChar : Bool :=
  s.toList.contains c

/-- Replace every occurrence of a nonempty `old`, found from the left without
overlap; `skip` counts the characters of an occurrence still to be passed. -/
def replaceChars (old new : List Char) : Nat → List Char → List Char
  | _, [] => []
  | skip + 1, _ :: rest => replaceChars old new skip rest
  | 0, c :: rest =>
    if old.isPrefixOf (c :: rest) then
      new ++ replaceChars old new (old.length - 1) rest
    else
      c :: replaceChars old new 0 rest

/-- Replace every occurrence of a nonempty `old` in `s` by `new`. -/
def replace (old new : String) : String :=
  String.ofList (replaceChars old.toList new.toList 0 s.toList)

/-! ## Splitting and joining -/

/-- The pieces between the characters that satisfy `p`: one more piece than
there are such characters. -/
def splitChars (p : Char → Bool) : List Char → List (List Char)
  | [] => [[]]
  | c :: rest =>
    if p c then
      [] :: splitChars p rest
    else
      match splitChars p rest with
      | [] => [[c]]
      | piece :: pieces => (c :: piece) :: pieces

/-- The pieces of `s` between occurrences of the character `c`. -/
def splitOn (s : String) : List String :=
  (splitChars (· == c) s.toList).map String.ofList

/-- The texts one after another with `sep` between neighbours. -/
def join (sep : String) : List String → String
  | [] => ""
  | s :: rest => rest.foldl (fun text t => text ++ sep ++ t) s

def concat (parts : List String) : String :=
  parts.foldl (· ++ ·) ""

/-- The lines of `s`, each with the newline that ends it; text after the last
newline is a line of its own. Files that are read as bytes have these lines: a carriage return
is a byte like any other there. -/
def linesKept : List String :=
  (go s.toList).map String.ofList
where
  go : List Char → List (List Char)
    | [] => []
    | c :: rest =>
      if c == '\n' then
        ['\n'] :: go rest
      else
        match go rest with
        | [] => [[c]]
        | line :: lines => (c :: line) :: lines

/-! ## Blanks -/

/-- The characters that count as blank at the ends of a text: space, tab, the
line breaks and the separator controls, and the blanks beyond ASCII. -/
def isBlank : Bool :=
  let n := c.toNat
  (9 ≤ n && n ≤ 13) || (28 ≤ n && n ≤ 32) || n == 0x85 || n == 0xa0 || n == 0x1680
    || (0x2000 ≤ n && n ≤ 0x200a) || n == 0x2028 || n == 0x2029 || n == 0x202f || n == 0x205f
    || n == 0x3000

/-- `s` without blanks at its right end. -/
def trimRight : String :=
  String.ofList (s.toList.reverse.dropWhile isBlank).reverse

/-- `s` without blanks at its left end. -/
def trimLeft : String :=
  String.ofList (s.toList.dropWhile isBlank)

/-- `s` without blanks at either end. -/
def trim : String :=
  trimRight (trimLeft s)

def words : List String :=
  ((splitChars isBlank s.toList).filter (!·.isEmpty)).map String.ofList

/-- `s` padded with blanks on the right to at least `width` characters. -/
def padRight (width : Nat) (s : String) : String :=
  s ++ String.ofList (List.replicate (width - s.length) ' ')

/-- `s` padded with `c` on the left to at least `width` characters. -/
def padLeft (width : Nat) (c : Char) (s : String) : String :=
  String.ofList (List.replicate (width - s.length) c) ++ s

def repeated (s : String) : String :=
  concat (List.replicate n s)

/-- Whether `s` consists of letters, digits and underscores and is not empty. -/
def isWord : Bool :=
  !s.isEmpty && s.toList.all fun c => c.isAlphanum || c == '_'

/-! ## Lines of every kind -/

def isLineBreak : Bool :=
  let n := c.toNat
  (10 ≤ n && n ≤ 13) || (28 ≤ n && n ≤ 30) || n == 0x85 || n == 0x2028 || n == 0x2029

/-- The lines of a text, latest first and each reversed, where `line` is the line
being read. -/
def breakLines (line : List Char) : List Char → List (List Char)
  | [] => if line.isEmpty then [] else [line]
  | '\r' :: '\n' :: rest => ('\n' :: '\r' :: line) :: breakLines [] rest
  | c :: rest =>
    if isLineBreak c then (c :: line) :: breakLines [] rest else breakLines (c :: line) rest

/-- The lines of a text, each with the break that ends it. -/
def anyLinesKept : List String :=
  (breakLines [] s.toList).map fun line => String.ofList line.reverse

/-- The first occurrence of a text: what lies before it and behind it. -/
def cut? (needle : List Char) : List Char → Option (List Char × List Char)
  | [] => if needle.isEmpty then some ([], []) else none
  | c :: rest =>
    if needle.isPrefixOf (c :: rest) then some ([], (c :: rest).drop needle.length)
    else (cut? needle rest).map fun (a, b) => (c :: a, b)

end FlowBindings.Text
