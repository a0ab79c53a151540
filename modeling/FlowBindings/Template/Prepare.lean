import FlowBindings.Template.Inline

/-!
# Preparing a template

Rules that are applied to the text of a template before it becomes a script: lines
with a mark in front become statements, indentation is taken away, and function
blocks become functions of the page.
-/

namespace FlowBindings.Template

open Text

def standardMark : String := "::(?=[ \t]|$)"

def statementRegex : Regex := .ofText { dotAll := true } r"<\?py\s.*?\?>"

/-- A line with a mark in front: the blanks before the mark are its first group, and
what is behind it is its last one. The mark is a pattern of its own. -/
def markedLine (mark : String) : Outcome Regex :=
  (Regex.read { anyLine := true } (r"^([ \t]*)" ++ mark ++ "(.*)")).mapError .pattern

/-- Turn marked lines into statements; statements that already stand there are left
alone. The code is what the second group of the line took. -/
def statementLines (line : Regex) (input : String) : String :=
  let mend (s : String) : String := if s.isEmpty then "" else line.replaceAll (fun m =>
    (m.group? 1).getD "None" ++ "<?py" ++ (m.group? 2).getD "None" ++ " ?>") s
  let (found, rest) := statementRegex.allMatches input
  concat (found.map fun m => mend m.skipped ++ m.text) ++ mend rest

def trimIndent (all : Bool) (input : String) : String :=
  if all then (Regex.ofText { anyLine := true } r"^[ \t]+").replaceAll (fun _ => "") input
  else (Regex.ofText { anyLine := true } r"^[ \t]+<").replaceAll (fun _ => "<") input

/-- A rule applied before a template becomes a script. -/
inductive Rule where
  /-- Lines with a mark in front become statements. -/
  | marked (mark : String)
  /-- Indentation is taken away. -/
  | trim (all : Bool)
  /-- Function blocks become functions of the page, whose tag has the attributes. -/
  | inline (attributes : Table String (Option String))
  deriving DecidableEq, Repr

def Rule.apply (file : String) (input : String) : Rule → Outcome String
  | .marked mark => do pure (statementLines (← markedLine mark) input)
  | .trim all => pure (trimIndent all input)
  | .inline attributes => inlineFunctions file attributes input

def prepare (file : String) (rules : List Rule) (input : String) : Outcome String :=
  rules.foldlM (fun s r => r.apply file s) input

end FlowBindings.Template
