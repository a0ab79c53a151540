import FlowBindings.Text.Folding
import FlowBindings.Text.WordChar

/-!
# Regular expressions

Searching a text for a pattern. A pattern is tried at one place after another from
the left, and at one place its alternatives in order: a greedy repetition takes as
much as it can and gives back if what follows does not match, a lazy one takes as
little as it can, and a possessive one takes as much as it can and keeps it. The first
way to match is the match.

A repetition that has taken nothing in a round does not start another one, so that a
match is found or refused after finitely many steps.
-/

namespace FlowBindings.Text

/-! ## Characters -/

inductive CharClass where
  /-- The code points from the first to the second. -/
  | range (first last : Nat)
  /-- Digits, of ASCII or of any script. -/
  | digit (ascii : Bool)
  /-- Letters, digits and the underscore. -/
  | word (ascii : Bool)
  | blank (ascii : Bool)
  /-- All characters but those of a class. -/
  | not (c : CharClass)
  deriving DecidableEq, Repr

def isWordCharIn (ascii : Bool) (c : Char) : Bool :=
  if ascii then c.isAlphanum || c == '_' else isWordChar c

/-- Whether a character belongs to a class; `codes` are the code points that count as the
character's own. -/
def CharClass.has (x : Char) (codes : List Nat) : CharClass → Bool
  | range a b => codes.any fun n => a ≤ n && n ≤ b
  | digit ascii => if ascii then x.isDigit else isDecimalDigit x
  | word ascii => isWordCharIn ascii x
  | blank ascii => isBlank x && (!ascii || (x.toNat < 128 && !(28 ≤ x.toNat && x.toNat ≤ 31)))
  | not c => !c.has x codes

/-- A set of characters: those of some classes, or all others. -/
structure CharSet where
  negated : Bool := false
  classes : List CharClass
  folding : Folding := .exact
  deriving DecidableEq, Repr

def CharSet.has (s : CharSet) (c : Char) : Bool :=
  (s.classes.any (·.has (s.folding.fold c) (s.folding.variants c))) != s.negated

/-! ## Expressions -/

/-- How a repetition goes about it. -/
inductive Manner where
  /-- Take as much as possible and give back if need be. -/
  | greedy
  | lazy
  /-- Take as much as possible and keep it. -/
  | possessive
  deriving DecidableEq, Repr

inductive Regex where
  /-- Nothing; matches everywhere. -/
  | empty
  | one (s : CharSet)
  | seq (r s : Regex)
  | alt (r s : Regex)
  /-- At least `least` and, if given, at most `most` times. -/
  | times (least : Nat) (most : Option Nat) (manner : Manner) (r : Regex)
  | group (n : Nat) (r : Regex)
  /-- The first way to match and no other. -/
  | atomic (r : Regex)
  /-- Matches where the expression does, or does not, and takes nothing. -/
  | ahead (positive : Bool) (r : Regex)
  /-- Matches behind so many characters that the expression matches, or does not. -/
  | behind (positive : Bool) (width : Nat) (r : Regex)
  /-- The start of the text, or of any line. -/
  | start (anyLine : Bool)
  /-- The end of the text (before or behind a last line break), or of any line. -/
  | stop (anyLine : Bool)
  /-- The very end of the text. -/
  | finish
  /-- A place between a word character and something else, or any other place. -/
  | edge (positive : Bool) (ascii : Bool)
  /-- The text of a group once more. -/
  | again (n : Nat) (folding : Folding)
  /-- The first if a group took part in the match, else the second. -/
  | whether (n : Nat) (r s : Regex)
  deriving Repr

namespace Regex

/-! ## Places -/

/-- A place in a text, with the groups matched on the way to it. -/
structure Place where
  /-- The characters before it, latest first. -/
  before : List Char
  rest : List Char
  position : Nat
  groups : Table Nat String

variable (r : Regex) (s : String)

def Place.ofText : Place := ⟨[], s.toList, 0, []⟩

/-- A step over one character that the condition accepts. -/
def Place.step? (p : Place) (accept : Char → Bool) : Option Place :=
  match p.rest with
  | c :: rest =>
    if accept c then some { p with before := c :: p.before, rest, position := p.position + 1 }
    else none
  | [] => none

/-- The place behind a given text, if that comes next. -/
def Place.over? (same : Char → Char → Bool) : List Char → Place → Option Place
  | [], p => some p
  | c :: text, p => (p.step? (same c)).bind (over? same text)

def Place.back? : Nat → Place → Option Place
  | 0, p => some p
  | n + 1, p =>
    match p.before with
    | c :: before =>
      back? n { p with before, rest := c :: p.rest, position := p.position - 1 }
    | [] => none

def Place.textTo (p q : Place) : String := String.ofList (p.rest.take (q.position - p.position))

/-- Whether a place is at the end of the text, before or behind its last line
break, or of a line. -/
def Place.isStop (anyLine : Bool) (p : Place) : Bool :=
  match p.rest with
  | [] => true
  | ['\n'] => true
  | c :: _ => anyLine && c = '\n'

/-- Whether a place lies between a word character and something else, or does not. The
only place of the empty text is neither. -/
def Place.isEdge (positive ascii : Bool) (p : Place) : Bool :=
  let isWord := isWordCharIn ascii
  !(p.before.isEmpty && p.rest.isEmpty)
    && ((p.before.head?.any isWord) != (p.rest.head?.any isWord)) == positive

/-! ## Matching -/

abbrev Next := Place → Option Place

/-- The places reached by taking up to so many accepted characters, the farthest first. -/
def reach (accept : Char → Bool) : Nat → Place → List Place → List Place
  | 0, p, found => p :: found
  | n + 1, p, found =>
    match p.step? accept with
    | some q => reach accept n q (p :: found)
    | none => p :: found

/-- Take accepted characters, so many for certain and then as few as possible. -/
def creep (accept : Char → Bool) (next : Next) : (least more : Nat) → Next
  | m + 1, n, p =>
    match p.step? accept with
    | some q => creep accept next m n q
    | none => none
  | 0, 0, p => next p
  | 0, n + 1, p =>
    match next p with
    | some q => some q
    | none =>
      match p.step? accept with
      | some q => creep accept next 0 n q
      | none => none

/-- Take so many accepted characters at least and at most, in a manner. -/
def takeChars (accept : Char → Bool) (manner : Manner) (least : Nat) (most : Option Nat)
    (next : Next) (p : Place) : Option Place :=
  let most := most.getD p.rest.length
  match manner with
  | .lazy => creep accept next least (most - least) p
  | .greedy =>
    let places := reach accept most p []
    (places.take (places.length - least)).findSome? next
  | .possessive =>
    let places := reach accept most p []
    (places.take (places.length - least)).head?.bind next

/-- Repeat a step: so many times for certain, then so many times at most, as often
as possible or as rarely as possible. `last` is where the latest round beyond the certain
ones began; a round that ends where it began is the last one. -/
def repeated (step : Next → Next) (greedy : Bool) (next : Next) :
    (least more : Nat) → (last : Option Nat) → Next
  | m + 1, n, last, p => step (repeated step greedy next m n last) p
  | 0, 0, _, p => next p
  | 0, n + 1, last, p =>
    if last = some p.position then next p
    else
      let again := step (repeated step greedy next 0 n (some p.position))
      if greedy then
        match again p with
        | some q => some q
        | none => next p
      else
        match next p with
        | some q => some q
        | none => again p

/-- Repeat a step as often as possible, each round in the first way that it matches. -/
def possessed (step : Place → Option Place) :
    (least more : Nat) → (last : Option Nat) → Place → Option Place
  | m + 1, n, last, p => (step p).bind (possessed step m n last)
  | 0, 0, _, p => some p
  | 0, n + 1, last, p =>
    if last = some p.position then some p
    else
      match step p with
      | some q => possessed step 0 n (some p.position) q
      | none => some p

def run : Regex → Next → Next
  | empty, next, p => next p
  | one s, next, p => (p.step? s.has).bind next
  | seq r s, next, p => run r (run s next) p
  | alt r s, next, p =>
    match run r next p with
    | some q => some q
    | none => run s next p
  | times least most manner (one s), next, p => takeChars s.has manner least most next p
  | times least most manner r, next, p =>
    let more := (most.map (· - least)).getD (p.rest.length + 1)
    match manner with
    | .greedy => repeated (run r) true next least more none p
    | .lazy => repeated (run r) false next least more none p
    | .possessive => (possessed (run r some) least more none p).bind next
  | group n r, next, p =>
    run r (fun q => next { q with groups := q.groups.set n (p.textTo q) }) p
  | atomic r, next, p => (run r some p).bind next
  | ahead positive r, next, p =>
    match run r some p, positive with
    | some q, true => next { p with groups := q.groups }
    | none, false => next p
    | _, _ => none
  | behind positive width r, next, p =>
    match (p.back? width).bind (run r some), positive with
    | some q, true => next { p with groups := q.groups }
    | none, false => next p
    | _, _ => none
  | start anyLine, next, p =>
    if p.before.isEmpty || (anyLine && p.before.head? = some '\n') then next p else none
  | stop anyLine, next, p => if p.isStop anyLine then next p else none
  | finish, next, p => if p.rest.isEmpty then next p else none
  | edge positive ascii, next, p => if p.isEdge positive ascii then next p else none
  | again n folding, next, p =>
    match p.groups.get? n with
    | some text =>
      (p.over? (fun a b => folding.fold a = folding.fold b) text.toList).bind next
    | none => none
  | whether n r s, next, p => if p.groups.has n then run r next p else run s next p

/-! ## Searching -/

structure Match where
  /-- The text between the match before, or the start, and this one. -/
  skipped : String
  text : String
  position : Nat
  groups : Table Nat String
  deriving DecidableEq, Repr

/-- The text of a group, if the group took part in the match. -/
def Match.group? (m : Match) (n : Nat) : Option String := m.groups.get? n

/-- Match at a place; a match of nothing counts only if it may. -/
def matchAt? (mayBeEmpty : Bool) (p : Place) : Option Place :=
  run r (fun q => if mayBeEmpty || p.position < q.position then some q else none)
    { p with groups := [] }

/-- The matches from a place on, where `skipped` is what lies behind the match
before, latest character first, and the rest behind the last match. The number of
steps left is counted along. -/
def matchesFrom (r : Regex) (mayBeEmpty : Bool) (skipped : List Char) :
    Nat → Place → List Match × String
  | 0, p => ([], String.ofList (skipped.reverse ++ p.rest))
  | n + 1, p =>
    match matchAt? r mayBeEmpty p with
    | some q =>
      let found : Match :=
        { skipped := String.ofList skipped.reverse
          text := p.textTo q
          position := p.position
          groups := q.groups }
      let (ms, rest) := matchesFrom r (p.position < q.position) [] n q
      (found :: ms, rest)
    | none =>
      match p.rest with
      | [] => ([], String.ofList skipped.reverse)
      | c :: rest =>
        matchesFrom r true (c :: skipped) n
          { p with before := c :: p.before, rest, position := p.position + 1 }

/-- All matches in a text from left to right, and what lies behind the last one. -/
def allMatches : List Match × String :=
  matchesFrom r true [] (2 * s.length + 2) (.ofText s)

def matchStart? : Option Match :=
  (matchAt? r true (.ofText s)).map fun q =>
    ⟨"", String.ofList (s.toList.take q.position), 0, q.groups⟩

def replaceAll (f : Match → String) (s : String) : String :=
  let (ms, rest) := r.allMatches s
  concat (ms.map fun m => m.skipped ++ f m) ++ rest

end Regex

end FlowBindings.Text
