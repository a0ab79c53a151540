import FlowBindings.Directory
import FlowBindings.Text.Glob

/-!
# Test data

A test data file holds one message in several notations: its bytes, and the code
that builds it in some languages. The file is cut into sections by lines that
begin with two hyphens. Blank lines do not count, and a number sign begins a
comment.
-/

namespace FlowBindings

/-- What a section holds. -/
inductive TestData.Content where
  /-- Its lines, joined by newlines. -/
  | text (lines : String)
  | message (bytes : List Nat)
  deriving DecidableEq, Repr

/-- The sections of a file by name. -/
abbrev TestData := Table String TestData.Content

namespace TestData

/-! ## Files -/

/-- A line without its comment and the blanks before it. -/
def stripLine (line : String) : String :=
  Text.trimRight (String.ofList ((Text.trimRight line).toList.takeWhile (· ≠ '#')))

/-- Take a line of a file, inside the section `current` if there is one. What stands before
the first section, or in a section without a name, is lost. A section may occur once. -/
def takeLine : Option String × Table String (List String) → String →
    Outcome (Option String × Table String (List String))
  | (current, sections), raw =>
    let line := stripLine raw
    if line = "" then pure (current, sections)
    else if Text.startsWith line "--" then
      let name := Text.trim (Text.dropFirst 2 line)
      if sections.has name then
        throw (.refused "section %s already exists in the test data file")
      else pure (some name, sections ++ [(name, [])])
    else match current with
      | none => pure (current, sections)
      | some name =>
        pure (current, if name = "" then sections else sections.update name [] (· ++ [line]))

/-- A byte in hexadecimal digits. -/
def readByte (text : String) : Outcome Nat := do
  match Text.readInt? 16 text with
  | none =>
    throw (.badValue ("invalid literal for int() with base 16: " ++ Text.quoted text))
  | some (.ofNat n) => if n < 256 then pure n else throw (.badValue "chr() arg not in range(256)")
  | some (.negSucc _) => throw (.badValue "chr() arg not in range(256)")

/-- The content of a section: the section of bytes is read as such. -/
def content (name : String) (lines : List String) : Outcome Content := do
  let text := Text.join "\n" lines
  if name = "binary" then pure (.message (← (Text.words text).mapM readByte))
  else pure (.text text)

/-- The sections of a file, which is read as bytes. -/
def parse (text : String) : Outcome TestData := do
  let lines := Text.linesKept (String.ofList (Text.bytes text))
  let sections ← (lines.foldlM takeLine (none, [])).map (·.2)
  sections.mapM fun (name, lines) => do pure (name, ← content name lines)

/-! ## Directories of files -/

end TestData

namespace Directory

variable (d : Directory)

/-- The paths of the data files, sorted; those directly in the directory begin
with a dot and a slash. -/
def dataFiles : List String :=
  let paths := d.contents.filterMap fun (parts, _) =>
    match parts.getLast? with
    | none => none
    | some name =>
      if Text.endsWith name ".data" && !Text.startsWith name "." then
        some (if parts.length = 1 then "./" ++ name else Text.join "/" parts)
      else none
  paths.eraseDups.mergeSort fun a b => a ≤ b

/-- The paths of the data files that match a pattern. -/
def glob (pattern : String) : List String :=
  d.dataFiles.filter (Text.Glob.isMatch pattern)

def sections (path : String) : Outcome TestData := do
  TestData.parse (← d.read path)

end Directory

end FlowBindings
