import FlowBindings.Template.Block
import FlowBindings.Template.Segment
import FlowBindings.Text.WordChar

/-!
# From templates to scripts

A template is turned into a script that, when run, produces the text: text and
expressions become calls that append to a buffer, statements are taken over. The
script first gives short names to the functions it uses; where that assignment
stands depends on what the script begins with.

A statement may declare the arguments of the template; it becomes assignments that
look the arguments up.
-/

namespace FlowBindings.Template

open Text

structure Dialect where
  name : String
  tag : String
  style : Style
  /-- Whether every value is escaped unless it says otherwise. -/
  isSafe : Bool
  deriving DecidableEq, Repr

namespace Dialect

def plain : Dialect := ⟨"Template", "<?py", .braces, false⟩

def safe : Dialect := ⟨"SafeTemplate", "<?py", .braces, true⟩

def preprocessor : Dialect := ⟨"Preprocessor", "<?PY", .doubledBraces, false⟩

def safePreprocessor : Dialect := ⟨"SafePreprocessor", "<?PY", .doubledBraces, true⟩

def all : List Dialect := [plain, safe, preprocessor, safePreprocessor]

def escapeFunction (d : Dialect) : String := if d.isSafe then "to_escaped" else "escape"

end Dialect

/-- A function that the script applies to values. -/
structure ValueFunction where
  name : String
  isUsed : Bool
  deriving DecidableEq, Repr

def ValueFunction.ofName (name : String) : ValueFunction := ⟨name, !name.isEmpty⟩

/-- How a script is written. An option may be given as something that cannot be made use
of; it is absent then, and a script that needs it is not written. -/
structure Options where
  escape : ValueFunction
  toText : ValueFunction
  /-- How many blanks a block is indented by. -/
  indent : Option Nat
  preamble : Option String
  postamble : Option String
  /-- Whether a line that holds only an unescaped expression loses its break. -/
  trims : Bool
  deriving DecidableEq, Repr

variable (d : Dialect) (o : Options) (newline : String) (atLineStart : Bool) (s line : String)

def Options.standard : Options :=
  { escape := .ofName d.escapeFunction, toText := .ofName "to_str", indent := some 4
    preamble := some "", postamble := some "", trims := false }

def needOption {α : Type} (name : String) (o : Option α) : Except Error α :=
  match o with
  | some a => .ok a
  | none => .error (.badOption name)

def newlineOf (text : String) : String :=
  match cut? ['\n'] text.toList with
  | none => "\n"
  | some ([], _) => if 2 ≤ text.length && endsWith text "\r" then "\r\n" else "\n"
  | some (line, _) => if line.getLast? = some '\r' then "\r\n" else "\n"

/-! ## Text and expressions -/

def quoteText : String :=
  let quoted := String.ofList (s.toList.flatMap fun c => if c = '\'' || c = '\\' then ['\\', c] else [c])
  Text.replace quoted "\r\n" "\\r\n"

def textArgument : String :=
  if s.isEmpty then "" else "'''" ++ quoteText s ++ "''', "

/-- The last text of a call as its argument; the break of its last line is written
as an escape. -/
def lastArgument : String :=
  if s.isEmpty then ""
  else
    let quoted := quoteText s
    "'''" ++ (if endsWith quoted "\n" then dropLast 1 quoted ++ "\\n" else quoted) ++ "''', "

/-- Whether the value of an expression is escaped and whether it is turned into
text, or the error that the dialect does not allow the form. -/
def treatment (e : Expression) : Except Error (Bool × Bool) :=
  if d.isSafe then
    match e.form with
    | .hash =>
      let form := match d.style with
        | .braces => "#\x7b" ++ e.code ++ "\x7d: '#\x7b\x7d'"
        | .doubledBraces => "#\x7b\x7b" ++ e.code ++ "\x7d\x7d: '#\x7b\x7b\x7d\x7d'"
      .error (.unsafeExpression form d.name)
    | .doubled => .ok (false, true)
    | _ => .ok (true, false)
  else
    match e.form with
    | .hash => .ok (false, true)
    | .doubled => .ok (false, true)
    | _ => .ok (true, true)

def expressionArgument (e : Expression) : Except Error String := do
  let (escapes, turns) ← treatment d e
  if e.code.toList.all isBlank then return ""
  let code := if d.style = .doubledBraces then "_decode_params(" ++ e.code ++ ")" else e.code
  let (opened, closed) := match escapes && o.escape.isUsed, turns && o.toText.isUsed with
    | true, true => ("_escape(_to_str(", ")), ")
    | false, true => ("_to_str(", "), ")
    | true, false => ("_escape(", "), ")
    | false, false => ("(", "), ")
  pure (opened ++ code ++ closed)

/-- Whether the line break behind an expression is dropped: the expression stands at
the beginning of a line and is not escaped. -/
def trimsBreak (first : Bool) (e : Expression) (rest : List Char) : Option (List Char) :=
  let isEscaped := match treatment d e with
    | .ok (escapes, _) => escapes
    | .error _ => true
  let beginsLine := endsWith e.before newline || (e.before.isEmpty && (!first || atLineStart))
  if o.trims && beginsLine && !isEscaped && newline.toList.isPrefixOf rest then
    some (rest.drop newline.length)
  else none

/-- The arguments for a text. A line break that was dropped is made up for by a
break between the arguments, but not behind the last one. -/
def arguments (input : String) :
    Except Error String := do
  let (found, tail) :=
    expressionsFrom d.style (trimsBreak d o newline atLineStart) true [] (input.length + 1) input.toList
  let args ← found.mapM fun (e, dropped) => do
    pure [textArgument e.before, ← expressionArgument d o e, if dropped then "\n" else ""]
  let args := args.flatten.filter (!·.isEmpty)
  let args := if args.getLast? = some "\n" then args.dropLast else args
  pure (concat args ++ lastArgument tail)

/-! ## Scripts -/

structure Draft where
  /-- Its lines so far; a line may lack its break. -/
  lines : List String
  named : Bool
  args : Option (List String)
  deriving Repr

def naming : String :=
  "_extend=_buf.extend;_to_str=" ++ o.toText.name ++ ";_escape=" ++ o.escape.name ++ "; "

def Draft.addText (input : String) (s : Draft) : Except Error Draft := do
  if input.isEmpty then return s
  let call := (if s.named then "" else naming o) ++ "_extend(("
    ++ (← arguments d o newline atLineStart input) ++ "));"
    ++ (if endsWith input "\n" then "\n" else "")
  pure { s with lines := s.lines ++ [call], named := true }

def pastBlanks : String :=
  String.ofList (line.toList.dropWhile fun c => c = ' ' || c = '\t')

/-- Whether a line may stand before the assignment of the short names: comments, the
making of the buffer, and the choice of a later form of the language. -/
def mayPrecedeNaming : Bool :=
  ["#", "_buf=[]", "_buf =[]", "_buf= []", "_buf = []", "from __future__"].any
    (startsWith (pastBlanks line) ·)

def opensLine : Bool :=
  let rest := (pastBlanks line).toList
  ["if", "for", "while", "def", "with", "class"].any fun word =>
    word.toList.isPrefixOf rest && !((rest.drop word.length).head?.any isWordChar)

def nameBefore (o : Options) (lines : List String) : List String × Bool :=
  match lines with
  | [] => ([], false)
  | line :: rest =>
    if mayPrecedeNaming line then
      let (rest, named) := nameBefore o rest
      (line :: rest, named)
    else if opensLine line then ((naming o ++ "\n") :: line :: rest, true)
    else ((naming o ++ line) :: rest, true)

def Draft.addStatement (code : String) (s : Draft) : Draft :=
  let added := anyLinesKept code
  let added :=
    if endsWith code "\n" then added else added.dropLast ++ (added.getLast?.map (· ++ "\n")).toList
  let lines := s.lines ++ added
  if s.named then { s with lines }
  else
    let (lines, named) := nameBefore o lines
    { s with lines, named }

/-- Whether a text is a name: letters, digits and underscores, with no digit in
front and an ASCII letter or underscore there. -/
def isName : Bool :=
  match s.toList with
  | c :: rest => (c.isAlpha || c = '_') && rest.all isWordChar
  | [] => false

/-- The arguments that a statement declares, if it declares any: separated by
commas behind the mark. -/
def declaredArguments? (code : String) : Option (List String) := do
  let line := if endsWith code "\n" then dropLast 1 code else code
  guard !(hasChar line '\n')
  let line := String.ofList (line.toList.dropWhile (· = ' '))
  guard (startsWith line "#@ARGS")
  let names := dropFirst 6 line
  guard (names.isEmpty || names.front = ' ' || names.front = '\t')
  pure (splitOn ',' (String.ofList (names.toList.dropWhile fun c => c = ' ' || c = '\t')))

def Draft.declare (parts : List String) (s : Draft) : Except Error Draft := do
  let names ← (parts.filter (!·.isEmpty)).mapM fun part =>
    let name := trim part
    if isName name then .ok name else .error (.badArgument name)
  let lookUp (name : String) : String := name ++ " = _context.get('" ++ name ++ "'); "
  pure { s with
    lines := s.lines ++ [concat (names.map lookUp) ++ "\n"]
    args := some names }

/-- The text before a statement without the blanks that indent the statement, if it
is the first on its line. -/
def dropIndent (text : String) : String :=
  let tail := (text.toList.reverse.takeWhile (· ≠ '\n')).reverse
  if !tail.isEmpty && tail.all isBlank && (atLineStart || tail.length < text.length) then
    dropLast tail.length text
  else text

def Draft.addSegment (acc : Draft × Bool)
    (segment : String × Statement) : Except Error (Draft × Bool) := do
  let (s, atLineStart) := acc
  let (text, st) := segment
  let s ← s.addText d o newline atLineStart (dropIndent atLineStart text)
  let code := (if st.onNewLine then "\n" else "") ++ st.code ++ (if st.endsLine then "\n" else "")
  if code.isEmpty then return (s, st.endsLine)
  let code := Text.replace code "\r\n" "\n"
  match (if s.args.isNone then declaredArguments? code else none) with
  | some parts => pure (← s.declare parts, st.endsLine)
  | none => pure (s.addStatement o code, st.endsLine)

structure Script where
  text : String
  args : Option (List String)
  newline : String
  deriving DecidableEq, Repr

/-- The line that a script begins with; a script that begins with a statement has
it on a line of its own. -/
def preambleLines (preamble input : String) : List String :=
  if preamble.isEmpty then []
  else [preamble ++ (if startsWith input "<?py" then "\n" else "; ")]

def ending (postamble : String) (lines : List String) : String :=
  if postamble.isEmpty then ""
  else (match lines.getLast? with
    | some line => if endsWith line "\n" then "" else "\n"
    | none => "") ++ postamble ++ "\n"

/-- The script of a template. Arguments that have been declared before are kept, and the
template declares none then. -/
def convert (declared : Option (List String)) (input : String) :
    Except Error Script := do
  let newline := newlineOf input
  let start : Draft := ⟨preambleLines (← needOption "preamble" o.preamble) input, false, declared⟩
  let s ← if input.isEmpty then pure start else do
    let (segments, rest) := statements d.tag input
    let (s, _) ← segments.foldlM (Draft.addSegment d o newline) (start, true)
    let s ← s.addText d o newline false rest
    let deep ← nest 0 [] s.lines
    let width ← needOption "indent" o.indent
    pure { s with lines := deep.map (indentLine width) }
  pure ⟨concat s.lines ++ ending (← needOption "postamble" o.postamble) s.lines, s.args, newline⟩

end FlowBindings.Template
