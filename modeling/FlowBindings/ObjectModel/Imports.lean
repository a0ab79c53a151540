import FlowBindings.Tree
import FlowBindings.Directory

/-!
# Cleaning imports

A class file is written with all imports any class might need. Those it does not
need are taken out afterwards: an import stays if the name it brings occurs on some
line that is no import, or if it brings every name of a package.

Imports that stay come together where the first import stood, in the order in which
the other lines use them. If no other line follows the first import, there is no
such place and none of them stays.
-/

namespace FlowBindings.ObjectModel

open Text

structure Import where
  /-- The line, without blanks at its end. -/
  line : String
  deriving DecidableEq, Repr

namespace Import

/-- The name made of one capital and the dots behind it, if the line ends in one:
it stands behind a dot, past the word that begins the line. The arguments are the
characters from the end of the line and the dots met so far. -/
def capitalName? (dots : List Char) : List Char → Option (List Char)
  | '.' :: rest => capitalName? ('.' :: dots) rest
  | c :: '.' :: rest => if c.isUpper && 6 ≤ rest.length then some (c :: dots) else none
  | _ => none

def behindDot (cs : List Char) : List Char :=
  (cs.reverse.takeWhile (· ≠ '.')).reverse

/-- The name that an import brings. The last character of the line ends it, unless
it is the star for all names. -/
def target (i : Import) : String :=
  let cs := i.line.toList
  if cs.getLast? = some '*' then "*"
  else
    match capitalName? [] cs.dropLast.reverse with
    | some name => String.ofList name
    | none => String.ofList (behindDot cs).dropLast

def isUsedBy (i : Import) (line : String) : Bool :=
  i.target = "*" || Text.contains line i.target

end Import

structure ClassFile where
  imports : List Import
  /-- Its other lines, without blanks at their ends. -/
  code : List String
  /-- How many other lines stand before the first import. -/
  first : Option Nat
  deriving DecidableEq, Repr

/-- The characters of the lines of a text; a line ends at a line feed, a carriage
return or both. `line` is the line being read, latest character first. -/
def fileLinesFrom (line : List Char) : List Char → List (List Char)
  | [] => if line.isEmpty then [] else [line.reverse]
  | '\r' :: '\n' :: rest => ('\n' :: line).reverse :: fileLinesFrom [] rest
  | c :: rest =>
    if c = '\r' || c = '\n' then ('\n' :: line).reverse :: fileLinesFrom [] rest
    else fileLinesFrom (c :: line) rest

/-- The lines of a file that is read as text. Each ends in a line feed, whatever ended it in the
file. Files that are read as bytes have other lines (`Text.linesKept`). -/
def fileLines (s : String) : List String := (fileLinesFrom [] s.toList).map String.ofList

def isImport (line : String) : Bool :=
  startsWith (String.ofList (line.toList.dropWhile fun c => c = ' ' || c = '\t')) "import "

namespace ClassFile

def ofText (s : String) : ClassFile :=
  let lines := fileLines s
  { imports := (lines.filter isImport).map fun l => ⟨trimRight l⟩
    code := (lines.filter (!isImport ·)).map trimRight
    first := lines.findIdx? isImport }

/-- The imports that some line needs, in the order of the lines that need them
first, and those that none needs. -/
def sortOut (imports : List Import) : List String → List Import × List Import
  | [] => ([], imports)
  | line :: rest =>
    let (now, later) := imports.partition (·.isUsedBy line)
    let (used, unused) := sortOut later rest
    (now ++ used, unused)

variable (f : ClassFile)

def used : List Import := (sortOut f.imports f.code).1

def unused : List Import := (sortOut f.imports f.code).2

def cleanedLines : List String :=
  match f.first with
  | some k =>
    if k < f.code.length then f.code.take k ++ f.used.map (·.line) ++ f.code.drop k else f.code
  | none => f.code

def cleaned : String := concat (f.cleanedLines.map (· ++ "\n"))

end ClassFile

def cleanImports (s : String) : String := (ClassFile.ofText s).cleaned

/-- Clean the imports of a file: the command prints what it does and takes the name
of one file behind its own. -/
def cleanCommand (args : List String) (files : Directory) : List String × Outcome Directory :=
  match args with
  | [_, name] =>
    (["Cleaning imports from file " ++ name], do
      if name.isEmpty then throw (.noFile name)
      let (place, text) ← files.locate name
      pure (files.rewrite place (cleanImports text)))
  | _ => (["Usage: ImportCleaner <java file>"], .ok files)

end FlowBindings.ObjectModel
