import FlowBindings.Fault
import FlowBindings.Text.Form

/-!
# Options of the command

The words of a command line, read from left to right. A word with two dashes in front
names an option, which may be cut short as long as it stays clear which one is meant; a
word with one dash is a row of options of one letter. An option that takes a value
takes it from the rest of its own word, if there is one, and otherwise from the next
word, whatever that is. Words without dashes are arguments, and so is all that follows
a word of two dashes alone.
-/

namespace FlowBindings.Command

open Text

structure Settings where
  listsFiles : Bool := false
  language : String := "c"
  directory : String := "loxi_output"
  isVerbose : Bool := false
  /-- The versions to generate for, as they were given. -/
  versionList : String := "1.0 1.1 1.2 1.3 1.4 1.5"
  deriving DecidableEq, Repr

/-! ## The options -/

inductive Effect where
  | help
  | version
  | switch (f : Settings → Settings)
  /-- It takes a value, which help calls by a name. -/
  | value (name : String) (f : String → Settings → Settings)

structure Flag where
  letter? : Option Char
  names : List String
  effect : Effect
  /-- The lines that explain it. -/
  explanation : List String

def flags : List Flag :=
  [⟨none, ["--version"], .version, ["show program's version number and exit"]⟩,
   ⟨some 'h', ["--help"], .help, ["show this help message and exit"]⟩,
   ⟨none, ["--list-files"], .switch fun s => { s with listsFiles := true }, ["List output files generated"]⟩,
   ⟨some 'l', ["--lang", "--language"], .value "LANG" fun v s => { s with language := v },
    ["Select the target language: c, python"]⟩,
   ⟨some 'i', ["--install-dir"], .value "INSTALL_DIR" fun v s => { s with directory := v },
    ["Directory to install generated files to (default", "loxi_output)"]⟩,
   ⟨some 'v', ["--verbose"], .switch fun s => { s with isVerbose := true }, ["Debug output"]⟩,
   ⟨some 'V', ["--version-list"], .value "VERSION_LIST" fun v s => { s with versionList := v },
    ["Specify the versions to target as 1.0 1.1 etc"]⟩]

def flagOfLetter? (c : Char) : Option Flag := flags.find? (·.letter? = some c)

def programName : String := "loxigen.py"

def usage : String := "Usage: " ++ programName ++ " [options]"

/-! ## Help -/

def explanationColumn : Nat := 24

def Flag.spellings (f : Flag) : String :=
  let letter := f.letter?.elim [] fun c => ["-" ++ String.singleton c]
  join ", " (match f.effect with
    | .value name _ => letter.map (· ++ " " ++ name) ++ f.names.map (· ++ "=" ++ name)
    | _ => letter ++ f.names)

/-- The lines of help on an option. The explanation starts beside the spellings if they
leave room, and below them otherwise. -/
def Flag.help (f : Flag) : List String :=
  let start := "  " ++ f.spellings
  let lines := f.explanation.map (repeated explanationColumn " " ++ ·)
  if start.length + 2 ≤ explanationColumn then
    match f.explanation, lines with
    | line :: _, _ :: rest => (padRight explanationColumn start ++ line) :: rest
    | _, _ => [start]
  else start :: lines

def helpLines : List String := [usage, "", "Options:"] ++ flags.flatMap Flag.help

def versionLine : String := programName ++ " 0.1"

/-! ## Reading -/

inductive Refusal where
  | unknown (name : String)
  /-- A name that was cut short may mean several options. -/
  | ambiguous (name : String) (candidates : List String)
  | missingValue (name : String)
  /-- An option was given a value and takes none. -/
  | unwantedValue (name : String)
  deriving DecidableEq, Repr

def Refusal.message : Refusal → String
  | unknown name => "no such option: " ++ name
  | ambiguous name candidates => "ambiguous option: " ++ name ++ " (" ++ join ", " candidates ++ "?)"
  | missingValue name => name ++ " option requires 1 argument"
  | unwantedValue name => name ++ " option does not take a value"

def Refusal.fault (r : Refusal) : Fault :=
  .exit 2 [] (usage ++ "\n\n" ++ programName ++ ": error: " ++ r.message ++ "\n")

/-- The option that a name means, with its full name. A name in full means just that
option, even if longer names start with it. -/
def flagOfName (name : String) : Outcome (String × Flag) :=
  let named := flags.flatMap fun f => f.names.map fun n => (n, f)
  match named.find? (·.1 = name), named.filter fun (n, _) => startsWith n name with
  | some found, _ => pure found
  | none, [found] => pure found
  | none, [] => throw (Refusal.unknown name).fault
  | none, several => throw (Refusal.ambiguous name ((several.map (·.1)).mergeSort (· ≤ ·))).fault

def cutValue (word : String) : String × Option String :=
  match indexOf? "=" word with
  | some n => (takeFirst n word, some (dropFirst (n + 1) word))
  | none => (word, none)

/-- What has been read: the settings, and an option that still waits for its value. -/
structure Reading where
  settings : Settings
  /-- The option that waits, by its name. -/
  waiting? : Option (String × (String → Settings → Settings)) := none

def applyFlag (s : Settings) (name : String) (f : Flag) (value? : Option String) : Outcome Reading :=
  match f.effect, value? with
  | .value _ g, some v => pure ⟨g v s, none⟩
  | .value _ g, none => pure ⟨s, some (name, g)⟩
  | _, some _ => throw (Refusal.unwantedValue name).fault
  | .switch g, none => pure ⟨g s, none⟩
  | .help, none => throw (.exit 0 helpLines "")
  | .version, none => throw (.exit 0 [versionLine] "")

/-- A row of letters. What follows the letter of an option that takes a value is its
value. -/
def readLetters (s : Settings) : List Char → Outcome Reading
  | [] => pure ⟨s, none⟩
  | c :: cs => do
    let name := "-" ++ String.singleton c
    let f ← orFault (flagOfLetter? c) (Refusal.unknown name).fault
    match f.effect with
    | .value _ g => pure (if cs.isEmpty then ⟨s, some (name, g)⟩ else ⟨g (String.ofList cs) s, none⟩)
    | _ => readLetters (← applyFlag s name f none).settings cs

def readFlag (s : Settings) (word : String) : Outcome Reading :=
  if startsWith word "--" then do
    let (name, value?) := cutValue word
    let (name, f) ← flagOfName name
    applyFlag s name f value?
  else readLetters s (word.toList.drop 1)

def readWords (r : Reading) : List String → Outcome (Settings × List String)
  | [] =>
    match r.waiting? with
    | some (name, _) => throw (Refusal.missingValue name).fault
    | none => pure (r.settings, [])
  | word :: rest =>
    match r.waiting? with
    | some (_, g) => readWords ⟨g word r.settings, none⟩ rest
    | none =>
      if word = "--" then pure (r.settings, rest)
      else if startsWith word "-" && word ≠ "-" then do
        readWords (← readFlag r.settings word) rest
      else do
        let (s, args) ← readWords r rest
        pure (s, word :: args)

/-! ## Versions -/

/-- The versions of a list, in order. They are separated by commas if there is a comma
behind the first character, and by blanks otherwise. -/
def versionsOf (list : String) : Outcome (List Version) := do
  let names := if (indexOf? "," list).any (0 < ·) then splitOn ',' list else words list
  (names.mergeSort (· ≤ ·)).mapM fun name => orFault (Version.ofDotted? name) (.noName name)

/-- What the words of a command line ask for: the settings, further arguments and the
versions. -/
def readCommand (args : List String) : Outcome (Settings × List String × List Version) := do
  let (s, rest) ← readWords ⟨{}, none⟩ args
  pure ({ s with language := lower s.language }, rest, ← versionsOf s.versionList)

end FlowBindings.Command
