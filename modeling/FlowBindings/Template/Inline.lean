import FlowBindings.Fault

/-!
# Function blocks

A page may hold blocks of text that its reader fills in: each block becomes a
function that builds the text piece by piece and returns it. A block has statements,
which are taken over, and expressions, which are appended, escaped or not.
-/

namespace FlowBindings.Template

open Text

def blockRegex : Regex :=
  .ofText { anyLine := true }
    r"(?:^( *)<|<)!-- *#(?:JS: (\$?\w+(?:\.\w+)*\(.*?\))|/JS:?) *-->([ \t]*\r?\n)?"

def innerStatementRegex : Regex :=
  .ofText { anyLine := true, dotAll := true } r"(?:^( *)<|<)\?js(\s.*?) ?\?>([ \t]*\r?\n)?"

def innerExpressionRegex : Regex :=
  .ofText { dotAll := true } r"\{=(.*?)=\}|([$#])\{(.*?(?:\{[^{}]*?\}[^{}]*?)*)\}"

def plainFunctionRegex : Regex := .ofText {} r"^\$?\w+\("

def quoteLine (line : String) : String :=
  Text.replace (Text.replace (Text.replace line "\\" "\\\\") "'" "\\'") "\n" "\\n"

def quoteLines (text : String) : String :=
  "'" ++ join "\\\n" ((anyLinesKept text).map quoteLine) ++ "'"

def innerExpression (m : Regex.Match) : Outcome (String × Bool) :=
  match m.group? 2, (m.group? 1).getD "" with
  | some mark, _ => pure ((m.group? 3).getD "", mark = "$")
  | none, code =>
    if code.isEmpty then throw .noElement
    else if startsWith code "=" && endsWith code "=" then pure (dropLast 1 (dropFirst 1 code), false)
    else pure (code, true)

def appendText (input : String) : Outcome String := do
  if input.isEmpty then return ""
  let (found, rest) := innerExpressionRegex.allMatches input
  let quote (s : String) : List String := if s.isEmpty then [] else [quoteLines s]
  let terms ← found.mapM fun m => do
    let (code, escapes) ← innerExpression m
    pure (quote m.skipped ++
      if code.isEmpty then [] else [(if escapes then "_E(" else "_S(") ++ code ++ ")"])
  pure ("_buf+=" ++ join "+" (terms.flatten ++ quote rest) ++ ";"
    ++ (if endsWith input "\n" then "\n" else ""))

def blockBody (input : String) : Outcome String := do
  if input.isEmpty then return ""
  let (found, rest) := innerStatementRegex.allMatches input
  let parts ← found.mapM fun m => do
    let code := (m.group? 2).getD ""
    match m.group? 1, m.group? 3 with
    | some before, some behind => pure ((← appendText m.skipped) ++ before ++ code ++ behind)
    | before, behind =>
      pure ((← appendText (m.skipped ++ before.getD "")) ++ code ++ (← appendText (behind.getD "")))
  pure (concat parts ++ (← appendText rest))

/-- The head of the function for a declaration: a plain function, or one that is
assigned to a property. -/
def functionHead (declaration : String) : String :=
  if (plainFunctionRegex.matchStart? declaration).isSome then
    "function " ++ declaration ++ "\x7bvar _buf='';"
  else
    let name := declaration.toList.takeWhile (· ≠ '(')
    let parameters := dropLast 1 (dropFirst (name.length + 1) declaration)
    String.ofList name ++ "=function(" ++ parameters ++ ")\x7bvar _buf='';"

/-- Turn the function blocks of a page into functions. The block that is open, if
one is, and the number of its line are counted along. -/
def inlineFrom (file tag : String) (input : String) (last : Nat) (current : Option String) (rest : String) :
    List Regex.Match → Outcome String
  | [] =>
    match current with
    | some name => throw (.template (.openFunction name file last))
    | none => pure rest
  | m :: ms => do
    let line := ((takeFirst m.position input).toList.filter (· = '\n')).length + 1
    let before := (m.group? 1).getD ""
    let behind := (m.group? 3).getD ""
    match m.group? 2, current with
    | some inner, some outer => throw (.template (.nestedFunction inner outer file line))
    | some name, none =>
      pure (m.skipped ++ before ++ tag ++ functionHead name ++ behind
        ++ (← inlineFrom file tag input line (some name) rest ms))
    | none, none => throw (.template (.unexpectedEnd file line))
    | none, some _ =>
      pure ((← blockBody m.skipped) ++ before ++ "return _buf;\x7d;</script>" ++ behind
        ++ (← inlineFrom file tag input line none rest ms))

/-- The tag of the functions with its attributes; an attribute whose value is no text
cannot be written. -/
def scriptTag (attributes : Table String (Option String)) : Outcome String := do
  let written ← attributes.mapM fun (k, v) => do
    pure (" " ++ k ++ "=\"" ++ (← orFault v (.wrongKind "attribute")) ++ "\"")
  pure ("<script" ++ concat written ++ ">")

def inlineFunctions (file : String) (attributes : Table String (Option String)) (input : String) :
    Outcome String := do
  if input.isEmpty then return ""
  let tag ← scriptTag attributes
  let (found, rest) := blockRegex.allMatches input
  inlineFrom file tag input 0 none rest found

end FlowBindings.Template
