import FlowBindings.Text.Quoted

/-!
# What is wrong with a template

The faults of templates and of function blocks, with their wording.
-/

namespace FlowBindings.Template

/-- A line of the script that a template becomes. -/
structure ScriptLine where
  number : Nat
  /-- The column of its first word, from 1. -/
  column : Nat
  text : String
  deriving DecidableEq, Repr

inductive Error where
  /-- A block that the named statement opens is never closed. -/
  | notClosed (word : String) (line : ScriptLine)
  /-- An end mark without a block. -/
  | unmatchedEnd (mark : String) (line : ScriptLine)
  /-- An end mark of another kind than its block. -/
  | wrongEnd (expected mark : String) (line : ScriptLine)
  /-- An expression of a kind that the dialect does not allow. -/
  | unsafeExpression (form : String) (dialect : String)
  /-- A declared argument that is no name. -/
  | badArgument (text : String)
  /-- An option that cannot be made use of. -/
  | badOption (name : String)
  /-- A function block inside another one. -/
  | nestedFunction (inner outer file : String) (line : Nat)
  /-- The end of a function block that was never opened. -/
  | unexpectedEnd (file : String) (line : Nat)
  /-- A function block that is never closed. -/
  | openFunction (name file : String) (line : Nat)
  deriving DecidableEq, Repr

namespace Error

def line? : Error → Option ScriptLine
  | notClosed _ l => some l
  | unmatchedEnd _ l => some l
  | wrongEnd _ _ l => some l
  | _ => none

def message : Error → String
  | notClosed word _ => "'" ++ word ++ "' is not closed."
  | unmatchedEnd mark _ => "'" ++ mark ++ "' found but corresponding statement is missing."
  | wrongEnd expected mark _ => "'" ++ expected ++ "' expected but got '" ++ mark ++ "'."
  | unsafeExpression form dialect => form ++ " is not allowed with " ++ dialect ++ "."
  | badArgument text => Text.quoted text ++ ": invalid template argument."
  | badOption name => name
  | nestedFunction inner outer file line =>
    inner ++ " is nested in " ++ outer ++ ". (file: " ++ file ++ ", line: " ++ toString line ++ ")"
  | unexpectedEnd file line =>
    "unexpected '<!-- #/JS -->'. (file: " ++ file ++ ", line: " ++ toString line ++ ")"
  | openFunction name file line =>
    name ++ " is not closed by '<!-- #/JS -->'. (file: " ++ file ++ ", line: "
      ++ toString line ++ ")"

end Error

end FlowBindings.Template
