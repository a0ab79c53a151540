import FlowBindings.Declaration.Basic
import FlowBindings.Declaration.Blank
import FlowBindings.Text.Bytes
import FlowBindings.Text.Quoted

/-!
# Reading declarations

A recursive-descent reader for the declaration language. Each reader takes the
text still to be read and gives a `Reply`: a value and the text behind it, a
*miss* when what it looks for does not stand there, or a *stop* when the text is
certainly wrong.

The difference between a miss and a stop decides which complaint a writer of
declarations sees. After the keyword `struct` nothing but a struct can follow,
so from there on every miss is turned into a stop (`Reader.commit`) and reported
where it happened; before it, a miss only means that another kind of declaration
may stand there. The complaint therefore names the first thing missing after the
last point of no return.

Tokens inside an array or list type and inside a number stand next to each other;
between all others blanks and comments are skipped.
-/

namespace FlowBindings.Declaration

/-! ## Replies -/

/-- What a place in the text should have held. -/
inductive Expectation where
  /-- A keyword or a punctuation mark. -/
  | symbol (text : String)
  /-- A word: letters, digits and underscores. -/
  | word
  | digits
  | identifier
  | endOfText
  deriving DecidableEq, Repr

/-- The complaint about a place that does not hold what it should. -/
def Expectation.message : Expectation → String
  | symbol text => "Expected \"" ++ text ++ "\""
  | word => "Expected W:(abcd...)"
  | digits => "Expected W:(0123...)"
  | identifier => "Expected identifier"
  | endOfText => "Expected end of text"

/-- Why reading cannot go on. -/
inductive Stop where
  /-- Something is missing; `left` is the text from that place on. -/
  | missing (what : Expectation) (left : List Char)
  /-- A run of digits that is no integer, such as `08`. -/
  | badInteger (digits : String)
  deriving DecidableEq, Repr

/-- The outcome of looking for something at the front of a text. -/
inductive Reply (α : Type) where
  | ok (value : α) (rest : List Char)
  /-- It is not there: `what` is missing where `left` begins. -/
  | miss (what : Expectation) (left : List Char)
  /-- The text is wrong whatever else is tried. -/
  | stop (why : Stop)
  deriving Repr

def Reader (α : Type) := List Char → Reply α

namespace Reader

variable {α β : Type}

/-- Read nothing and give `a`. -/
protected def pure (a : α) : Reader α := fun cs => .ok a cs

variable (p : Reader α)

/-- Read one thing, then another that may depend on it. -/
protected def bind (f : α → Reader β) : Reader β := fun cs =>
  match p cs with
  | .ok a rest => f a rest
  | .miss what left => .miss what left
  | .stop why => .stop why

instance : Monad Reader where
  pure := Reader.pure
  bind := Reader.bind

/-- Past the point of no return: a miss becomes a stop. -/
def commit : Reader α := fun cs =>
  match p cs with
  | .miss what left => .stop (.missing what left)
  | reply => reply

/-- The first reader that does not miss. When both miss, the complaint that got
further is kept, the first one on a tie. -/
def orElse (q : Reader α) : Reader α := fun cs =>
  match p cs with
  | .miss what left =>
    match q cs with
    | .miss what' left' =>
      if left'.length < left.length then .miss what' left' else .miss what left
    | reply => reply
  | reply => reply

/-- Read something that may be absent. -/
def optional : Reader (Option α) := fun cs =>
  match p cs with
  | .ok a rest => .ok (some a) rest
  | .miss _ _ => .ok none cs
  | .stop why => .stop why

/-- Read as many as there are. A reader that consumes nothing ends the run. -/
def many (p : Reader α) (cs : List Char) : Reply (List α) :=
  match p cs with
  | .miss _ _ => .ok [] cs
  | .stop why => .stop why
  | .ok a rest =>
    if _h : rest.length < cs.length then
      match many p rest with
      | .ok as rest' => .ok (a :: as) rest'
      | reply => reply
    else .ok [a] rest
termination_by cs.length

end Reader

open Reader

/-! ## Tokens -/

def isWordChar (c : Char) : Bool :=
  c.isAlphanum || c == '_'

/-- The characters that may not follow a keyword directly. -/
def isKeywordChar (c : Char) : Bool :=
  isWordChar c || c == '$'

variable (text : String)

/-- A punctuation mark, at this very place. -/
def markHere : Reader Unit := fun cs =>
  if text.toList.isPrefixOf cs then .ok () (cs.drop text.length)
  else .miss (.symbol text) cs

def mark : Reader Unit := fun cs =>
  markHere text (skipBlanks cs)

/-- A keyword, at this very place: no character of a name follows it. -/
def keywordHere : Reader Unit := fun cs =>
  if text.toList.isPrefixOf cs && !((cs.drop text.length).head?.any isKeywordChar) then
    .ok () (cs.drop text.length)
  else .miss (.symbol text) cs

def keyword : Reader Unit := fun cs =>
  keywordHere text (skipBlanks cs)

/-- A maximal nonempty run of characters in a class, at this very place. -/
def spanHere (p : Char → Bool) (what : Expectation) : Reader (List Char) := fun cs =>
  match cs.takeWhile p with
  | [] => .miss what cs
  | run => .ok run (cs.dropWhile p)

def wordHere (what : Expectation) : Reader String := fun cs =>
  match spanHere isWordChar what cs with
  | .ok run rest => .ok (String.ofList run) rest
  | .miss what left => .miss what left
  | .stop why => .stop why

def word : Reader String := fun cs => wordHere .word (skipBlanks cs)

def identifier : Reader String := fun cs => wordHere .identifier (skipBlanks cs)

def integerValue (digits : List Char) : Reader Nat := fun cs =>
  match Text.readLiteral? digits with
  | some n => .ok n cs
  | none => .stop (.badInteger (String.ofList digits))

/-- An integer, at this very place: `0x` and hexadecimal digits, or digits. -/
def integerHere : Reader Nat :=
  orElse
    (do
      markHere "0x"
      let digits ← commit (spanHere (fun c => (Text.digitValue? c).isSome) .digits)
      integerValue ('0' :: 'x' :: digits))
    (do
      let digits ← spanHere Char.isDigit .digits
      integerValue digits)

def integer : Reader Nat := fun cs => integerHere (skipBlanks cs)

/-! ## Member types -/

/-- `enum name` -/
def enumType : Reader TypeRef := do
  keyword "enum"
  let name ← commit word
  pure (.enum name)

/-- `element[count]`, without blanks inside. -/
def arrayType : Reader TypeRef := fun cs =>
  (do
    let element ← wordHere .word
    markHere "["
    commit do
      let count ← wordHere .word
      markHere "]"
      pure (TypeRef.array element count) : Reader TypeRef) (skipBlanks cs)

/-- `list(element)`, without blanks inside. -/
def listType : Reader TypeRef := fun cs =>
  (do
    keywordHere "list"
    commit do
      markHere "("
      let element ← wordHere .identifier
      markHere ")"
      pure (TypeRef.list element) : Reader TypeRef) (skipBlanks cs)

def scalarType : Reader TypeRef := do
  let name ← word
  pure (.scalar name)

def anyType : Reader TypeRef :=
  orElse enumType (orElse arrayType (orElse listType scalarType))

/-! ## Structs -/

/-- `pad(length)` -/
def padMember : Reader Member := do
  keyword "pad"
  commit do
    mark "("
    let length ← integer
    mark ")"
    pure (.pad length)

/-- `type name == value` -/
def fixedMember : Reader Member := do
  let type ← anyType
  let name ← identifier
  mark "=="
  let value ← integer
  pure (.fixed type name value)

/-- `type name == ?` -/
def discriminatorMember : Reader Member := do
  let type ← anyType
  let name ← identifier
  mark "=="
  mark "?"
  pure (.discriminator type name)

/-- `type name == length(field)` -/
def fieldLengthMember : Reader Member := do
  let type ← anyType
  let name ← identifier
  mark "=="
  mark "length"
  mark "("
  let field ← identifier
  mark ")"
  pure (.fieldLength type name field)

/-- `type name` -/
def dataMember : Reader Member := do
  let type ← anyType
  let name ← commit identifier
  pure (.data type name)

/-- A line of a struct's body, with its semicolon. -/
def member : Reader Member := do
  let m ← orElse padMember (orElse fixedMember (orElse discriminatorMember
    (orElse fieldLengthMember dataMember)))
  commit (mark ";")
  pure m

/-- `name = value`, for one of the names. -/
def param (names : List String) : Reader Param := do
  let name ← choice names
  commit do
    mark "="
    let value ← word
    pure (name, value)
where
  /-- The first of the names that stands here; a miss complains about the
  first. -/
  choice : List String → Reader String
    | [] => fun cs => .miss .word cs
    | [name] => do keyword name; pure name
    | name :: rest => orElse (do keyword name; pure name) (choice rest)

/-- One or more, with commas between them and an optional comma at the end. -/
def commaList {α : Type} (p : Reader α) : Reader (List α) := do
  let first ← p
  let rest ← many (do mark ","; p)
  let _ ← optional (mark ",")
  pure (first :: rest)

def params (names : List String) : Reader (List Param) := do
  let ps ← optional do
    mark "("
    commit do
      let ps ← commaList (param names)
      mark ")"
      pure ps
  pure (ps.getD [])

def structParamNames : List String := ["align", "length_includes_align"]

def enumParamNames : List String := ["wire_type", "bitmask", "complete", "stable"]

def entryParamNames : List String := ["virtual"]

/-- `: parent`, if there is one. -/
def parent : Reader (Option String) :=
  optional do
    mark ":"
    commit identifier

def structDecl : Reader Declaration := do
  keyword "struct"
  commit do
    let name ← identifier
    let ps ← params structParamNames
    let up ← parent
    mark "\x7b"
    let members ← many member
    mark "\x7d"
    mark ";"
    pure (.struct name ps up members)

/-! ## Enums, metadata and files -/

/-- `name(params) = value` -/
def entry : Reader Entry := do
  let name ← identifier
  commit do
    let ps ← params entryParamNames
    mark "="
    let value ← integer
    pure { name := name, params := ps, value := value }

def enumDecl : Reader Declaration := do
  keyword "enum"
  commit do
    let name ← identifier
    let ps ← params enumParamNames
    mark "\x7b"
    let entries ← optional (commaList entry)
    mark "\x7d"
    mark ";"
    pure (.enum name ps (entries.getD []))

/-- `#version word` -/
def metadataDecl : Reader Declaration := do
  mark "#"
  commit do
    keyword "version"
    let value ← word
    pure (.metadata "version" value)

def declaration : Reader Declaration :=
  orElse structDecl (orElse enumDecl metadataDecl)

/-! ## Complaints -/

structure Position where
  offset : Nat
  /-- Its line, counted from 1. -/
  line : Nat
  /-- Its column, counted from 1. -/
  column : Nat
  deriving DecidableEq, Repr

/-- The place `offset` bytes into a text. A newline stands in column 1. -/
def positionAt (text : List Char) (offset : Nat) : Position where
  offset := offset
  line := (text.take offset).count '\n' + 1
  column :=
    if text[offset]? = some '\n' then 1
    else ((text.take offset).reverse.takeWhile (· ≠ '\n')).length + 1

/-- Why a text is not a sequence of declarations. -/
inductive Error where
  /-- A declaration has begun and something is missing in it. -/
  | missing (what : Expectation) (position : Position)
  /-- No declaration begins where one should. -/
  | trailing (position : Position)
  /-- A run of digits that is no integer. -/
  | badInteger (digits : String)
  deriving DecidableEq, Repr

def complaint (p : Position) : String :=
  text ++ " (at char " ++ toString p.offset ++ "), (line:" ++ toString p.line ++ ", col:"
    ++ toString p.column ++ ")"

def Error.message : Error → String
  | missing what p => complaint what.message p
  | trailing p => complaint Expectation.endOfText.message p
  | badInteger digits =>
    "invalid literal for int() with base 0: " ++ Text.quoted digits

def parseChars (text : List Char) : Except Error (List Declaration) :=
  match many declaration text with
  | .ok ds rest =>
    match skipBlanks rest with
    | [] => .ok ds
    | left => .error (.trailing (positionAt text (text.length - left.length)))
  | .miss what left => .error (.missing what (positionAt text (text.length - left.length)))
  | .stop (.missing what left) =>
    .error (.missing what (positionAt text (text.length - left.length)))
  | .stop (.badInteger digits) => .error (.badInteger digits)

def parse : Except Error (List Declaration) :=
  parseChars (expandTabs 0 (Text.bytes text))

end FlowBindings.Declaration
