import FlowBindings.Fault

/-!
# Directories

A directory of files, each with its path and its text. A path is followed part by part:
empty parts and dots stay where they are, two dots lead back, and every part but the last
must lead to a directory. A path that leads out of the directory reaches other
directories, of which nothing is known but that they are there.
-/

namespace FlowBindings

abbrev Directory := Table String String

namespace Directory

variable (d : Directory) (path : String)

/-- The parts of a path that lead somewhere. -/
def components : List String :=
  (Text.splitOn '/' path).filter fun c => c ≠ "" && c ≠ "."

def contents : List (List String × String) :=
  d.map fun (path, text) => (components path, text)

/-- Whether a path of parts is a directory: the whole, or one with files in it. -/
def isDirectory (path : List String) : Bool :=
  path.isEmpty || d.contents.any fun (file, _) => path.isPrefixOf file && path ≠ file

/-- The text of the file at a path of parts. Of two files at one place the last one is
there. -/
def file? (path : List String) : Option String :=
  (d.contents.reverse.find? fun (file, _) => file = path).map (·.2)

/-- A place in a directory. -/
inductive Place where
  | directory (path : List String)
  | file (path : List String) (text : String)
  | outside
  deriving DecidableEq, Repr

def step (part : String) : Place → Outcome Place
  | .file .. => throw (.notDirectory path)
  | .outside =>
    if part = "" || part = "." || part = ".." then pure .outside else throw (.noFile path)
  | .directory here =>
    if part = "" || part = "." then pure (.directory here)
    else if part = ".." then pure (if here.isEmpty then .outside else .directory here.dropLast)
    else
      let next := here ++ [part]
      match d.file? next with
      | some text => pure (.file next text)
      | none => if d.isDirectory next then pure (.directory next) else throw (.noFile path)

/-- Where a path leads. A path with a zero character leads nowhere, and one that begins
with a slash leads out of the directory. -/
def follow : Outcome Place := do
  if Text.hasChar path '\x00' then throw (.badValue "embedded null byte")
  let start : Place := if Text.startsWith path "/" then .outside else .directory []
  (Text.splitOn '/' path).foldlM (fun place part => d.step path part place) start

def contains : Bool := (d.follow path).toOption.isSome

/-- The file that a path leads to: the parts of its path and its text. -/
def locate : Outcome (List String × String) := do
  match ← d.follow path with
  | .file parts text => pure (parts, text)
  | _ => throw (.isDirectory path)

def read : Outcome String := do pure (← d.locate path).2

/-- What stands right inside the directory: names with the text of a file, or with
nothing if they are directories. -/
def entries : Table String (Option String) :=
  Table.ofPairs (d.contents.filterMap fun (parts, text) =>
    match parts with
    | [] => none
    | [name] => some (name, some text)
    | name :: _ => some (name, none))

/-- Write a file at a path of parts, where one stands. -/
def rewrite (parts : List String) (text : String) : Directory :=
  d.map fun (path, old) => (path, if components path = parts then text else old)

end Directory

end FlowBindings
