import FlowBindings.Text.Basic

/-!
# Segments of a template

A template is text with statements and expressions in it. Statements stand between
tags of their own; expressions stand between braces, in four forms that differ in
whether their value is escaped.

An expression between braces ends at a closing brace. A pair of braces inside it is
taken to belong to it, but only if a further closing brace follows somewhere: the
last closing brace of a text always ends an expression.
-/

namespace FlowBindings.Template

open Text

/-- A statement with the blanks around it. -/
structure Statement where
  onNewLine : Bool
  code : String
  /-- Whether the rest of its line, behind it, is blank; its line break is part of
  it then. -/
  endsLine : Bool
  deriving DecidableEq, Repr

def tagBlank? : List Char → Option (Bool × List Char)
  | ' ' :: rest => some (false, rest)
  | '\t' :: rest => some (false, rest)
  | '\n' :: rest => some (true, rest)
  | '\r' :: '\n' :: rest => some (true, rest)
  | _ => none

def blankLineEnd? (cs : List Char) : Option (List Char) :=
  match cs.dropWhile fun c => c = ' ' || c = '\t' with
  | '\n' :: rest => some rest
  | '\r' :: '\n' :: rest => some rest
  | _ => none

/-- The code of a statement without the one blank that may stand before its closing
tag. -/
def dropOneBlank (code : List Char) : List Char :=
  match code.reverse with
  | ' ' :: rest => rest.reverse
  | _ => code

def statement? (tag cs : List Char) : Option (Statement × List Char) := do
  guard (tag.isPrefixOf cs)
  let (onNewLine, inside) ← tagBlank? (cs.drop tag.length)
  let (code, behind) ← cut? "?>".toList inside
  let made (endsLine : Bool) : Statement :=
    { onNewLine, code := String.ofList (dropOneBlank code), endsLine }
  match blankLineEnd? behind with
  | some rest => pure (made true, rest)
  | none => pure (made false, behind)

/-- The statements of a text, each with the text before it, and the text behind the
last one. What has been read of the text before the next statement comes latest
first. -/
def statementsFrom (tag read : List Char) : Nat → List Char → List (String × Statement) × String
  | 0, cs => ([], String.ofList (read.reverse ++ cs))
  | _, [] => ([], String.ofList read.reverse)
  | n + 1, c :: cs =>
    match statement? tag (c :: cs) with
    | some (s, rest) =>
      let (found, tail) := statementsFrom tag [] n rest
      ((String.ofList read.reverse, s) :: found, tail)
    | none => statementsFrom tag (c :: read) n cs

/-- The statements of a template, each with the text before it, and the text behind
the last one. -/
def statements (tag text : String) : List (String × Statement) × String :=
  statementsFrom tag.toList [] (text.length + 1) text.toList

/-- The four forms of an expression. -/
inductive Form where
  /-- `#{x}`: not escaped. -/
  | hash
  /-- `${x}`: escaped. -/
  | dollar
  /-- `{==x==}`: not escaped. -/
  | doubled
  /-- `{=x=}`: escaped. -/
  | single
  deriving DecidableEq, Repr

/-- The two ways to write expressions. -/
inductive Style where
  /-- `#{x}`, `${x}`, `{==x==}` and `{=x=}`. -/
  | braces
  /-- `#{{x}}`, `${{x}}`, `{#==x==#}` and `{#=x=#}`. -/
  | doubledBraces
  deriving DecidableEq, Repr

def isBrace (c : Char) : Bool := c = '{' || c = '}'

/-- The code of an expression up to the closing brace that ends it, and what follows. -/
def toClosingBrace? : Nat → List Char → Option (List Char × List Char)
  | 0, _ => none
  | n + 1, cs =>
    let plain := cs.takeWhile fun c => !isBrace c
    match cs.dropWhile fun c => !isBrace c with
    | '}' :: rest => some (plain, rest)
    | '{' :: rest => do
      let (inner, rest) ← cut? ['}'] rest
      if rest.contains '}' then
        let (more, rest) ← toClosingBrace? n rest
        pure (plain ++ '{' :: inner ++ '}' :: more, rest)
      else pure (plain ++ '{' :: inner, rest)
    | _ => none

/-- An expression between marks; if the first pair of marks does not fit, the
second one may. -/
def betweenMarks? (opened : List Char) (strong weak : List Char) :
    Option (Form × List Char × List Char) :=
  let doubled := match opened with
    | '=' :: rest => cut? strong rest
    | _ => none
  match doubled with
  | some (code, rest) => some (.doubled, code, rest)
  | none => (cut? weak opened).map fun (code, rest) => (.single, code, rest)

def expression? (style : Style) (cs : List Char) : Option (Form × List Char × List Char) :=
  match style, cs with
  | .braces, '#' :: '{' :: rest => (toClosingBrace? rest.length rest).map (.hash, ·)
  | .braces, '$' :: '{' :: rest => (toClosingBrace? rest.length rest).map (.dollar, ·)
  | .braces, '{' :: '=' :: rest => betweenMarks? rest "==\x7d".toList "=\x7d".toList
  | .doubledBraces, '#' :: '{' :: '{' :: rest => (cut? "\x7d\x7d".toList rest).map (.hash, ·)
  | .doubledBraces, '$' :: '{' :: '{' :: rest => (cut? "\x7d\x7d".toList rest).map (.dollar, ·)
  | .doubledBraces, '{' :: '#' :: '=' :: rest => betweenMarks? rest "==#\x7d".toList "=#\x7d".toList
  | _, _ => none

/-- An expression in a text. -/
structure Expression where
  before : String
  form : Form
  code : String
  deriving DecidableEq, Repr

/-- The expressions of a text, each with the text before it, and the text behind
the last one. Of an expression, `trims` tells whether a line break right behind it
is dropped; it is told whether the expression is the first one. -/
def expressionsFrom (style : Style) (trims : Bool → Expression → List Char → Option (List Char))
    (first : Bool) (read : List Char) : Nat → List Char → List (Expression × Bool) × String
  | 0, cs => ([], String.ofList (read.reverse ++ cs))
  | _, [] => ([], String.ofList read.reverse)
  | n + 1, c :: cs =>
    match expression? style (c :: cs) with
    | some (form, code, rest) =>
      let e : Expression := ⟨String.ofList read.reverse, form, String.ofList code⟩
      let (dropped, rest) := match trims first e rest with
        | some rest => (true, rest)
        | none => (false, rest)
      let (found, tail) := expressionsFrom style trims false [] n rest
      ((e, dropped) :: found, tail)
    | none => expressionsFrom style trims first (c :: read) n cs

end FlowBindings.Template
