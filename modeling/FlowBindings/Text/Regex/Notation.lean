import FlowBindings.Text.Identifier
import FlowBindings.Text.Quoted
import FlowBindings.Text.Regex

/-!
# Notation of regular expressions

Patterns are written in the usual notation: characters, sets in brackets, `.`, the
anchors, groups with and without a number or a name, look-ahead and look-behind,
references to groups, alternatives and repetitions, and flags for a group. A pattern that
is not well formed is refused with a message that says where.

A pattern is read as signs: single characters, and pairs of a backslash and a character.
-/

namespace FlowBindings.Text.Regex

/-! ## Faults -/

inductive Fault where
  | malformed (message : String)
  /-- A number of repetitions is beyond all bounds. -/
  | tooManyTimes
  deriving DecidableEq, Repr

def Fault.message : Fault → String
  | malformed message => message
  | tooManyTimes => "the repetition number is too large"

/-- A message with the place in the pattern; in a pattern of several lines also with line
and column. -/
def located (pattern : List Char) (message : String) (position : Nat) : String :=
  let before := pattern.take position
  let column := position - (before.length - (before.reverse.takeWhile (· ≠ '\n')).length) + 1
  message ++ " at position " ++ toString position
    ++ (if pattern.contains '\n' then
          " (line " ++ toString (before.count '\n' + 1) ++ ", column " ++ toString column ++ ")"
        else "")

/-! ## Flags -/

structure Flags where
  /-- Anchors hold at any line. -/
  anyLine : Bool := false
  /-- `.` takes line breaks. -/
  dotAll : Bool := false
  /-- The case of letters does not count. -/
  ignoreCase : Bool := false
  /-- Classes and letters are those of ASCII. -/
  ascii : Bool := false
  /-- Blanks and comments between the parts of a pattern are dropped. -/
  spaced : Bool := false
  deriving DecidableEq, Repr

variable (f : Flags) (c : Char) (digits : List Char) (opened : Nat)

def Flags.folding : Folding :=
  if !f.ignoreCase then .exact else if f.ascii then .ascii else .full

def Flags.change (on off : List Char) : Flags where
  anyLine := (f.anyLine || on.contains 'm') && !off.contains 'm'
  dotAll := (f.dotAll || on.contains 's') && !off.contains 's'
  ignoreCase := (f.ignoreCase || on.contains 'i') && !off.contains 'i'
  ascii := if on.contains 'a' then true else if on.contains 'u' then false else f.ascii
  spaced := (f.spaced || on.contains 'x') && !off.contains 'x'

def flagLetters : List Char := ['i', 'L', 'm', 's', 'x', 'a', 't', 'u']

/-- The letters of which only one can be turned on. -/
def alphabetLetters : List Char := ['a', 'L', 'u']

/-! ## Widths -/

/-- The width beyond which widths are not told apart. -/
def maxWidth : Nat := Nat.pow 2 64

/-- The least and the greatest number of characters that an expression takes, given those
of the groups. -/
def width (groups : Table Nat (Nat × Nat)) : Regex → Nat × Nat
  | one _ => (1, 1)
  | seq r s =>
    let (a, b) := width groups r
    let (c, d) := width groups s
    (min (a + c) maxWidth, min (b + d) maxWidth)
  | alt r s | whether _ r s =>
    let (a, b) := width groups r
    let (c, d) := width groups s
    (min a c, max b d)
  | times least most _ r =>
    let (a, b) := width groups r
    let top := match most with
      | some n => b * n
      | none => if b = 0 then 0 else maxWidth
    (min (a * least) maxWidth, min top maxWidth)
  | group _ r | atomic r => width groups r
  | again n _ => (groups.get? n).getD (0, 0)
  | _ => (0, 0)

/-! ## Signs -/

/-- A sign of a pattern: a character, or one behind a backslash. -/
structure Sign where
  escaped : Bool
  char : Char
  deriving DecidableEq, Repr

def Sign.text (s : Sign) : String :=
  if s.escaped then String.ofList ['\\', s.char] else String.ofList [s.char]

def Sign.size (s : Sign) : Nat := if s.escaped then 2 else 1

/-- What is known while a pattern is read. -/
structure Reading where
  pattern : List Char
  rest : List Char
  position : Nat
  /-- How many groups have been opened. -/
  groups : Nat := 0
  names : Table String Nat := []
  /-- The widths of the groups that are closed. -/
  widths : Table Nat (Nat × Nat) := []
  /-- Inside a look-behind, how many groups were opened before it. -/
  behindFrom : Option Nat := none
  /-- The numbers of groups in conditions, with the place of the first one. -/
  conditions : Table Nat Nat := []
  /-- The letters of the flags for the whole pattern. -/
  whole : List Char := []
  /-- What is to be said once the pattern is read. -/
  late : Option String := none

abbrev Read := StateT Reading (Except Fault)

/-- Refuse the pattern, at so many characters before the current place. -/
def refuse {α : Type} (message : String) (offset : Nat := 0) : Read α := do
  let s ← get
  throw (.malformed (located s.pattern message (s.position - offset)))

def peek : Read (Option Sign) := do
  match (← get).rest with
  | [] => pure none
  | '\\' :: c :: _ => pure (some ⟨true, c⟩)
  | c :: _ => pure (some ⟨false, c⟩)

/-- Refuse a pattern that ends with a lone backslash next. -/
def checkEnd : Read Unit := do
  let s ← get
  if s.rest = ['\\'] then
    throw (.malformed (located s.pattern "bad escape (end of pattern)" (s.pattern.length - 1)))

def take : Read (Option Sign) := do
  match ← peek with
  | none => pure none
  | some sign => do
    modify fun s =>
      { s with rest := s.rest.drop sign.size, position := s.position + sign.size }
    checkEnd
    pure (some sign)

/-- Whether a character comes next; if so it is read. -/
def accepts : Read Bool := do
  if (← peek) = some ⟨false, c⟩ then
    let _ ← take
    pure true
  else pure false

/-- Read up to so many characters that a condition accepts. -/
def takeWhileUpTo (accept : Char → Bool) : Nat → Read (List Char)
  | 0 => pure []
  | n + 1 => do
    match ← peek with
    | some ⟨false, c⟩ =>
      if accept c then
        let _ ← take
        pure (c :: (← takeWhileUpTo accept n))
      else pure []
    | _ => pure []

def takeName (final : Char) (what : String) : Nat → (read : String) → Read String
  | 0, read => pure read
  | n + 1, read => do
    match ← take with
    | none =>
      if read = "" then refuse ("missing " ++ what)
      else refuse ("missing " ++ String.ofList [final] ++ ", unterminated name") read.length
    | some sign =>
      if sign = ⟨false, final⟩ then
        if read = "" then refuse ("missing " ++ what) 1 else pure read
      else takeName final what n (read ++ sign.text)

def takeNameTo (final : Char) (what : String) : Read String := do
  takeName final what ((← get).rest.length + 1) ""

/-- Refuse a name of a group that is no identifier. -/
def checkName (name : String) : Read Unit := do
  if !isIdentifier name then
    refuse ("bad character in group name " ++ quoted name) (name.length + 1)

/-- Refuse a reference, inside a look-behind, to a group that is open or belongs to it. -/
def checkBehind (n : Nat) : Read Unit := do
  let s ← get
  match s.behindFrom with
  | none => pure ()
  | some first =>
    if !s.widths.has n then refuse "cannot refer to an open group"
    else if first < n then
      refuse "cannot refer to group defined in the same lookbehind subpattern"

/-! ## Backslashes -/

/-- What a sign with a backslash stands for. -/
inductive Atom where
  | code (n : Nat)
  | class (c : CharClass)
  | place (r : Regex)
  | again (n : Nat)

def controlOf? : Option Nat :=
  Table.get? [('a', 7), ('b', 8), ('f', 12), ('n', 10), ('r', 13), ('t', 9), ('v', 11), ('\\', 92)] c

def classOf? : Option CharClass :=
  match c with
  | 'd' => some (.digit f.ascii)
  | 'D' => some (.not (.digit f.ascii))
  | 's' => some (.blank f.ascii)
  | 'S' => some (.not (.blank f.ascii))
  | 'w' => some (.word f.ascii)
  | 'W' => some (.not (.word f.ascii))
  | _ => none

def placeOf? : Option Regex :=
  match c with
  | 'A' => some (start false)
  | 'Z' => some finish
  | 'b' => some (edge true f.ascii)
  | 'B' => some (edge false f.ascii)
  | _ => none

def isOctal : Bool := '0' ≤ c && c ≤ '7'

def badEscape {α : Type} (text : String) : Read α := refuse ("bad escape " ++ text) text.length

/-- A code point of exactly so many hexadecimal digits. -/
def hexCode (letter : Char) (digits : Nat) : Read Atom := do
  let read ← takeWhileUpTo (fun c => (digitValue? c).isSome) digits
  let text := String.ofList ('\\' :: letter :: read)
  if read.length ≠ digits then refuse ("incomplete escape " ++ text) text.length
  else
    let code := (readNat? 16 read).getD 0
    if 0x10ffff < code then badEscape text else pure (.code code)

/-- A code point of octal digits, if it is small enough. -/
def octalCode : Read Atom := do
  let code := (readNat? 8 digits).getD 0
  let text := String.ofList ('\\' :: digits)
  if 255 < code then
    refuse ("octal escape value " ++ text ++ " outside of range 0-0o377") text.length
  else pure (.code code)

def namedCode : Read Atom := do
  if !(← accepts '{') then refuse "missing \x7b"
  else
    let name ← takeNameTo '}' "character name"
    refuse ("undefined character name " ++ quoted name) (name.length + 4)

/-- What a letter behind a backslash stands for that is none of the short ones. -/
def otherAtom : Read Atom :=
  match c with
  | 'x' => hexCode 'x' 2
  | 'u' => hexCode 'u' 4
  | 'U' => hexCode 'U' 8
  | 'N' => namedCode
  | c => if c.isAlpha then badEscape (String.ofList ['\\', c]) else pure (.code c.toNat)

def setAtom : Read Atom := do
  match controlOf? c, classOf? f c with
  | some n, _ => pure (.code n)
  | none, some k => pure (.class k)
  | none, none =>
    if isOctal c then octalCode (c :: (← takeWhileUpTo isOctal 2))
    else if c.isDigit then badEscape (String.ofList ['\\', c])
    else otherAtom c

def groupAtom : Read Atom := do
  let n := (readNat? 10 digits).getD 0
  let s ← get
  if s.groups < n then refuse ("invalid group reference " ++ toString n) digits.length
  else if !s.widths.has n then refuse "cannot refer to an open group" (digits.length + 1)
  else do
    checkBehind n
    pure (.again n)

def itemAtom : Read Atom := do
  match placeOf? f c, classOf? f c, controlOf? c with
  | some r, _, _ => pure (.place r)
  | none, some k, _ => pure (.class k)
  | none, none, some n => pure (.code n)
  | none, none, none =>
    if c = '0' then
      pure (.code ((readNat? 8 ('0' :: (← takeWhileUpTo isOctal 2))).getD 0))
    else if c.isDigit then
      match ← takeWhileUpTo Char.isDigit 1 with
      | [] => groupAtom [c]
      | second =>
        if isOctal c && second.all isOctal then
          match ← takeWhileUpTo isOctal 1 with
          | [] => groupAtom (c :: second)
          | third => octalCode (c :: second ++ third)
        else groupAtom (c :: second)
    else otherAtom c

/-! ## Sets -/

def oneCode (n : Nat) : CharClass := .range n n

def setSign (s : Sign) : Read Atom :=
  if s.escaped then setAtom f s.char else pure (.code s.char.toNat)

def Atom.classes : Atom → List CharClass
  | code n => [oneCode n]
  | .class c => [c]
  | _ => []

/-- Read the inside of brackets up to the closing one; `opened` is the place of the
opening one. A closing bracket right at the start stands for itself. -/
def readClasses (f : Flags) (opened : Nat) : Nat → (found : List CharClass) → Read (List CharClass)
  | 0, found => pure found
  | n + 1, found => do
    let unterminated {α : Type} : Read α := do
      refuse "unterminated character set" ((← get).position - opened)
    match ← take with
    | none => unterminated
    | some sign =>
      if sign = ⟨false, ']'⟩ && !found.isEmpty then pure found
      else
        let first ← setSign f sign
        if !(← accepts '-') then readClasses f opened n (found ++ first.classes)
        else
          match ← take with
          | none => unterminated
          | some final =>
            if final = ⟨false, ']'⟩ then pure (found ++ first.classes ++ [oneCode '-'.toNat])
            else
              let second ← setSign f final
              let bad : Read (List CharClass) :=
                refuse ("bad character range " ++ sign.text ++ "-" ++ final.text)
                  (sign.size + 1 + final.size)
              match first, second with
              | .code a, .code b =>
                if b < a then bad else readClasses f opened n (found ++ [.range a b])
              | _, _ => bad

/-- A set, behind its opening bracket. -/
def readSet : Read Regex := do
  let opened := (← get).position - 1
  let negated ← accepts '^'
  let classes ← readClasses f opened ((← get).rest.length + 1) []
  pure (one ⟨negated, classes, f.folding⟩)

/-! ## Repetitions -/

/-- What came last in a sequence, as far as repetitions ask for it. -/
inductive ItemKind where
  | anchor
  | repetition
  | other
  deriving DecidableEq, Repr

/-- The number of repetitions that is no longer allowed. -/
def maxTimes : Nat := 4294967295

def timesOf : Read (Option Nat) :=
  match readNat? 10 digits with
  | none => pure none
  | some n => if maxTimes ≤ n then throw .tooManyTimes else pure (some n)

/-- The bounds between braces, behind the opening one; nothing if there are none, and
then nothing is read. -/
def readBounds? : Read (Option (Nat × Option Nat)) := do
  let before ← get
  if (← peek) = some ⟨false, '}'⟩ then pure none
  else
    let all := before.rest.length
    let low ← takeWhileUpTo Char.isDigit all
    let high ← if ← accepts ',' then takeWhileUpTo Char.isDigit all else pure low
    if !(← accepts '}') then
      set before
      pure none
    else
      let least ← timesOf low
      let most ← timesOf high
      match least, most with
      | some m, some n =>
        if n < m then
          refuse "min repeat greater than max repeat" ((← get).position - before.position)
        else pure (some (m, some n))
      | m, n => pure (some (m.getD 0, n))

/-- The manner of a repetition, as the sign behind its bounds says. -/
def readManner : Read Manner := do
  if ← accepts '?' then return .lazy
  if ← accepts '+' then return .possessive
  return .greedy

/-- The repetition of the latest item, once its bounds are read; `opened` is the place
behind the sign of the repetition. -/
def repeatLatest (bounds : Nat × Option Nat) (latest : Option (ItemKind × Regex)) :
    Read (ItemKind × Regex) := do
  let offset := (← get).position - opened + 1
  match latest with
  | none => refuse "nothing to repeat" offset
  | some (.anchor, _) => refuse "nothing to repeat" offset
  | some (.repetition, _) => refuse "multiple repeat" offset
  | some (.other, r) =>
    pure (.repetition, times bounds.1 bounds.2 (← readManner) r)

/-! ## Flags of a group -/

/-- What letters of flags stand before. -/
inductive FlagsEnd where
  | whole (on : List Char)
  /-- The flags are those of the group that follows. -/
  | part (on off : List Char)

def badFlag {α : Type} (s : Sign) (missing : String) : Read α :=
  refuse (if !s.escaped && isIdentifierStart s.char && s.char ≠ '_' then "unknown flag"
    else missing) s.size

/-- Read the letters of flags to be turned off, from a given sign on. -/
def readFlagsOff (on : List Char) : Nat → (off : List Char) → Sign → Read FlagsEnd
  | 0, off, _ => pure (.part on off)
  | n + 1, off, sign => do
    if alphabetLetters.contains sign.char then
      refuse "bad inline flags: cannot turn off flags 'a', 'u' and 'L'"
    else
      let off := off ++ [sign.char]
      match ← take with
      | none => refuse "missing :"
      | some next =>
        if next = ⟨false, ':'⟩ then
          if off.contains 't' then refuse "bad inline flags: cannot turn off global flag" 1
          else if on.any off.contains then
            refuse "bad inline flags: flag turned on and off" 1
          else pure (.part on off)
        else if next.escaped || !flagLetters.contains next.char then badFlag next "missing :"
        else readFlagsOff on n off next

def readHyphen (on : List Char) : Read FlagsEnd := do
  match ← take with
  | none => refuse "missing flag"
  | some sign =>
    if sign.escaped || !flagLetters.contains sign.char then badFlag sign "missing flag"
    else readFlagsOff on ((← get).rest.length + 1) [] sign

/-- Read the letters of flags to be turned on, from a given letter on. -/
def readFlagsOn : Nat → (on : List Char) → Char → Read FlagsEnd
  | 0, on, _ => pure (.part on [])
  | n + 1, on, c => do
    if c = 'L' then refuse "bad inline flags: cannot use 'L' flag with a str pattern"
    else
      let on := on ++ [c]
      if alphabetLetters.contains c && on.any (fun d => alphabetLetters.contains d && d ≠ c) then
        refuse "bad inline flags: flags 'a', 'u' and 'L' are incompatible"
      else
        match ← take with
        | none => refuse "missing -, : or )"
        | some sign =>
          let global : Bool := on.contains 't'
          if sign = ⟨false, ')'⟩ then pure (.whole on)
          else if sign = ⟨false, ':'⟩ then
            if global then refuse "bad inline flags: cannot turn on global flag" 1
            else pure (.part on [])
          else if sign = ⟨false, '-'⟩ then
            if global then refuse "bad inline flags: cannot turn on global flag" 1
            else readHyphen on
          else if sign.escaped || !flagLetters.contains sign.char then
            badFlag sign "missing -, : or )"
          else readFlagsOn n on sign.char

/-! ## Items -/

/-- Read past a comment, up to a sign that ends it. -/
def skipTo (final : Char) : Nat → Read Bool
  | 0 => pure false
  | n + 1 => do
    match ← take with
    | none => pure false
    | some sign => if sign = ⟨false, final⟩ then pure true else skipTo final n

def readCondition (name : String) : Read Nat := do
  let s ← get
  let offset := name.length + 1
  if isIdentifier name then
    match s.names.get? name with
    | some n => pure n
    | none => refuse ("unknown group name " ++ quoted name) offset
  else
    match readInt? 10 name with
    | some (.ofNat 0) => refuse "bad group number" offset
    | some (.ofNat n) =>
      if 1073741823 ≤ n then refuse ("invalid group reference " ++ toString n) offset
      else
        if !s.conditions.has n then
          set { s with conditions := s.conditions.set n (s.position - offset) }
        pure n
    | _ => refuse ("bad character in group name " ++ quoted name) offset

/-- The items of a sequence, latest first, as one expression. -/
def joined (items : List (ItemKind × Regex)) : Regex :=
  items.foldl (fun s item => if s matches .empty then item.2 else seq item.2 s) empty

/-- Open a group, with a name or without. -/
def openGroup (name : Option String) : Read Nat := do
  let s ← get
  let n := s.groups + 1
  match name with
  | none =>
    set { s with groups := n }
    pure n
  | some name =>
    match s.names.get? name with
    | some m =>
      refuse ("redefinition of group name " ++ quoted name ++ " as group " ++ toString n
        ++ "; was group " ++ toString m) (name.length + 1)
    | none =>
      set { s with groups := n, names := s.names.set name n }
      pure n

/-- What an opening parenthesis begins. -/
inductive Opened where
  /-- A group with a number, and maybe a name. -/
  | counted (name : Option String)
  /-- A group for its own sake, with its flags. -/
  | plain (f : Flags)
  /-- A group that matches in one way only. -/
  | single
  | ahead (positive : Bool)
  | behind (positive : Bool)
  | condition (n : Nat)
  | item (r : Regex)
  /-- Nothing to match: a comment. -/
  | nothing
  | whole (on : List Char)

/-- Read what stands behind `(?P`. -/
def readNamed : Read Opened := do
  if ← accepts '<' then
    let name ← takeNameTo '>' "group name"
    checkName name
    pure (.counted (some name))
  else if ← accepts '=' then
    let name ← takeNameTo ')' "group name"
    checkName name
    match (← get).names.get? name with
    | none => refuse ("unknown group name " ++ quoted name) (name.length + 1)
    | some n =>
      if !(← get).widths.has n then refuse "cannot refer to an open group" (name.length + 1)
      else do
        checkBehind n
        pure (.item (again n f.folding))
  else
    match ← take with
    | none => refuse "unexpected end of pattern"
    | some sign => refuse ("unknown extension ?P" ++ sign.text) (sign.size + 2)

/-- Read what stands behind `(?<`. -/
def readBehind : Read Opened := do
  match ← take with
  | none => refuse "unexpected end of pattern"
  | some sign =>
    if sign = ⟨false, '='⟩ then pure (.behind true)
    else if sign = ⟨false, '!'⟩ then pure (.behind false)
    else refuse ("unknown extension ?<" ++ sign.text) (sign.size + 2)

/-- Read what stands behind an opening parenthesis at a place, up to where the inside
begins. -/
def readOpening : Read Opened := do
  if !(← accepts '?') then pure (.counted none)
  else
    match ← take with
    | none => refuse "unexpected end of pattern"
    | some sign =>
      let unknown : Read Opened := refuse ("unknown extension ?" ++ sign.text) (sign.size + 1)
      if sign.escaped then unknown
      else
        match sign.char with
        | 'P' => readNamed f
        | ':' => pure (.plain f)
        | '>' => pure .single
        | '=' => pure (.ahead true)
        | '!' => pure (.ahead false)
        | '<' => readBehind
        | '#' =>
          if ← skipTo ')' ((← get).rest.length + 1) then pure .nothing
          else refuse "missing ), unterminated comment" ((← get).position - opened)
        | '(' => do
          let n ← readCondition (← takeNameTo ')' "group name")
          checkBehind n
          pure (.condition n)
        | c =>
          if c = '-' || flagLetters.contains c then
            let flags ← if c = '-' then readHyphen []
              else readFlagsOn ((← get).rest.length + 1) [] c
            match flags with
            | .part on off => pure (.plain (f.change on off))
            | .whole on => pure (.whole on)
          else unknown

/-- Read the parenthesis that ends what began at a place. -/
def readClosing : Read Unit := do
  if !(← accepts ')') then
    refuse "missing ), unterminated subpattern" ((← get).position - opened)

def Atom.regex : Atom → ItemKind × Regex
  | code n => (.other, one { classes := [oneCode n], folding := f.folding })
  | .class c => (.other, one { classes := [c], folding := f.folding })
  | place r => (.anchor, r)
  | again n => (.other, Regex.again n f.folding)

/-- A look-behind, which has to have one width. -/
def lookBehind (positive : Bool) (r : Regex) : Read Regex := do
  let s ← get
  let (low, high) := width s.widths r
  if low ≠ high then
    set { s with late := some (s.late.getD "look-behind requires fixed-width pattern") }
  else if maxTimes < low then
    set { s with late := some (s.late.getD "looks too much behind") }
  pure (behind positive low r)

mutual

/-- Read alternatives up to a closing parenthesis or the end; `outer` says that they are
the whole pattern. -/
def readAlternatives (f : Flags) (outer : Bool) : Nat → Read Regex
  | 0 => pure empty
  | n + 1 => do
    let r ← readSequence f outer n []
    if ← accepts '|' then
      let s ← get
      pure (alt r (← readFurther (if outer then f.change s.whole [] else f) n))
    else pure r

def readFurther (f : Flags) : Nat → Read Regex
  | 0 => pure empty
  | n + 1 => do
    let r ← readSequence f false n []
    if ← accepts '|' then pure (alt r (← readFurther f n)) else pure r

/-- Read a sequence up to a bar, a closing parenthesis or the end; `items` are those
before, latest first, and `first` says that the pattern starts with them. -/
def readSequence (f : Flags) (first : Bool) : Nat → (items : List (ItemKind × Regex)) → Read Regex
  | 0, items => pure (joined items)
  | n + 1, items => do
    match ← peek with
    | none | some ⟨false, '|'⟩ | some ⟨false, ')'⟩ => pure (joined items)
    | some sign => do
      let _ ← take
      let opened := (← get).position
      let repeated (bounds : Nat × Option Nat) : Read Regex := do
        let r ← repeatLatest opened bounds items.head?
        readSequence f first n (r :: items.tail)
      let single (s : CharSet) : Read Regex := readSequence f first n ((.other, one s) :: items)
      let literal : Read Regex :=
        single { classes := [oneCode sign.char.toNat], folding := f.folding }
      if sign.escaped then
        let atom ← itemAtom f sign.char
        readSequence f first n (atom.regex f :: items)
      else if f.spaced && [' ', '\t', '\n', '\r', '\x0b', '\x0c'].contains sign.char then
        readSequence f first n items
      else if f.spaced && sign.char = '#' then do
        let _ ← skipTo '\n' ((← get).rest.length + 1)
        readSequence f first n items
      else
        match sign.char with
        | '[' => do
          let r ← readSet f
          readSequence f first n ((.other, r) :: items)
        | '?' => repeated (0, some 1)
        | '*' => repeated (0, none)
        | '+' => repeated (1, none)
        | '{' => do
          match ← readBounds? with
          | none => literal
          | some bounds => repeated bounds
        | '.' =>
          single { negated := true, classes := if f.dotAll then [] else [oneCode 10] }
        | '^' => readSequence f first n ((.anchor, start f.anyLine) :: items)
        | '$' => readSequence f first n ((.anchor, stop f.anyLine) :: items)
        | '(' => do
          match ← readOpening f (opened - 1) with
          | .nothing => readSequence f first n items
          | .item r => readSequence f first n ((.other, r) :: items)
          | .whole on =>
            if first && items.isEmpty then do
              modify fun s => { s with whole := s.whole ++ on }
              readSequence (f.change on []) first n items
            else
              refuse "global flags not at the start of the expression"
                ((← get).position - (opened - 1))
          | kind => do
            let r ← readInside f kind (opened - 1) n
            readSequence f first n ((.other, r) :: items)
        | _ => literal

def readInside (f : Flags) (kind : Opened) (opened : Nat) : Nat → Read Regex
  | 0 => pure empty
  | n + 1 => do
    match kind with
    | .counted name => do
      let g ← openGroup name
      let r ← readAlternatives f false n
      readClosing opened
      modify fun s => { s with widths := s.widths.set g (width s.widths r) }
      pure (group g r)
    | .single => do
      let r ← readAlternatives f false n
      readClosing opened
      pure (atomic r)
    | .ahead positive => do
      let r ← readAlternatives f false n
      readClosing opened
      pure (ahead positive r)
    | .behind positive => do
      let outside := (← get).behindFrom
      modify fun s => { s with behindFrom := some (outside.getD s.groups) }
      let r ← readAlternatives f false n
      modify fun s => { s with behindFrom := outside }
      readClosing opened
      lookBehind positive r
    | .condition g => do
      let yes ← readSequence f false n []
      let no ←
        if ← accepts '|' then do
          let no ← readSequence f false n []
          if (← peek) = some ⟨false, '|'⟩ then
            refuse "conditional backref with more than two branches"
          pure no
        else pure empty
      readClosing opened
      pure (whether g yes no)
    | .plain f => do
      let r ← readAlternatives f false n
      readClosing opened
      pure r
    | _ => pure empty

end

/-! ## Patterns -/

def readAll : Read Regex := do
  checkEnd
  let r ← readAlternatives f true (4 * (← get).rest.length + 8)
  let s ← get
  if !s.rest.isEmpty then refuse "unbalanced parenthesis"
  else
    match s.conditions.find? fun (n, _) => s.groups < n, s.late with
    | some (n, position), _ =>
      throw (.malformed (located s.pattern ("invalid group reference " ++ toString n) position))
    | none, some message => throw (.malformed message)
    | none, none => pure r

def read (pattern : String) : Except Fault Regex :=
  (readAll f |>.run { pattern := pattern.toList, rest := pattern.toList, position := 0 }).map (·.1)

/-- The expression that a well-formed pattern stands for. -/
def ofText (pattern : String) : Regex :=
  match read f pattern with
  | .ok r => r
  | .error _ => empty

end FlowBindings.Text.Regex
