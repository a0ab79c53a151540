import FlowBindings.Template.Error

/-!
# Blocks of a script

The lines of a script are indented by the blocks they stand in. A block is opened
by a line that begins with one of a few words and ends in a colon, and closed by an
end mark; a line such as `else:` ends one part of a block and begins the next. Only
the marks count: the indentation a line came with is dropped.

A mark or a continuation outside all blocks that matches any block ends the script.
-/

namespace FlowBindings.Template

open Text

def startWords : List String := ["for", "if", "while", "def", "try:", "with", "class"]

def endMarks : List String :=
  ["#end", "#endfor", "#endif", "#endwhile", "#enddef", "#endtry", "#endwith", "#endclass"]

def continueWords : List String := ["elif", "else:", "except", "except:", "finally:"]

variable (line : String)

def firstWord : String :=
  String.ofList ((line.toList.dropWhile isBlank).takeWhile fun c => !isBlank c)

def firstColumn : Nat :=
  (line.toList.takeWhile isBlank).length + 1

/-- What a line does to the blocks around it. -/
inductive LineRole where
  | plain
  | opens
  /-- It begins the next part of a block. -/
  | continues
  | closes
  deriving DecidableEq, Repr

def lineRole : LineRole :=
  let word := firstWord line
  if endMarks.contains word then .closes
  else if endsWith line ":\n" || endsWith line ":\r\n" then
    if continueWords.contains word then .continues
    else if startWords.contains word then .opens
    else .plain
  else .plain

structure OpenBlock where
  opener : String
  current : String
  /-- The line that began its current part, at the column of the one that opened
  it. -/
  line : ScriptLine
  deriving DecidableEq, Repr

abbrev DeepLine := Nat × String

def withLine (depth : Nat) (line : String) (rest : Except Error (List DeepLine)) :
    Except Error (List DeepLine) :=
  rest.map ((depth, line) :: ·)

/-- The lines with their depths, where `number` is the number of line breaks before
them and `blocks` are the blocks around them, the innermost first. -/
def nest (number : Nat) (blocks : List OpenBlock) : List String → Except Error (List DeepLine)
  | [] =>
    match blocks with
    | [] => .ok []
    | b :: _ => .error (.notClosed b.current b.line)
  | line :: rest =>
    let number := number + (line.toList.filter (· = '\n')).length
    let word := firstWord line
    let place : ScriptLine := ⟨number, firstColumn line, line⟩
    let depth := blocks.length
    match lineRole line, blocks with
    | .plain, _ => withLine depth line (nest number blocks rest)
    | .opens, _ => withLine depth line (nest number (⟨word, word, place⟩ :: blocks) rest)
    | .continues, [] => .ok []
    | .continues, b :: outer =>
      withLine (depth - 1) line
        (nest number ({ b with current := word, line := { place with column := b.line.column } } :: outer)
          rest)
    | .closes, [] => if word = "#end" then .ok [] else .error (.unmatchedEnd word place)
    | .closes, b :: outer =>
      if word = "#end" || word = "#end" ++ b.opener then
        withLine (depth - 1) line (nest number outer rest)
      else .error (.wrongEnd ("#end" ++ b.opener) word place)

def indentLine (width : Nat) (l : DeepLine) : String :=
  if !l.2.isEmpty && l.2.toList.all isBlank then l.2
  else Text.repeated (width * l.1) " " ++ trimLeft l.2

end FlowBindings.Template
