import FlowBindings.Directory
import FlowBindings.Protocol.Build

/-!
# Models

A model is what a directory of declaration files says about the versions asked
for: one protocol per version, and all of them unified. Files are read in the
order of their names. A file that is no sequence of declarations, or whose
declarations make no source, is rejected with one line that names it.
-/

namespace FlowBindings

/-- The protocols of the versions asked for, and their union. -/
structure Model where
  /-- The protocols, in the order in which files introduce their versions. -/
  protocols : Table Version Protocol
  unified : Unified
  deriving Repr, Inhabited

namespace Model

/-- The source of a file. Errors in its form are reported with the file's name;
numbers that are none end reading at once. -/
def readSource (name text : String) : Outcome Source :=
  match Declaration.parse text with
  | .error (.badInteger digits) => throw (.declaration (.badInteger digits))
  | .error e => throw (.exit 1 ["Parse error in " ++ name ++ ": " ++ e.message] "")
  | .ok ds =>
    match Source.ofDeclarations name ds with
    | .ok s => pure s
    | .error (.badVersion word) => throw (.source (.badVersion word))
    | .error e => throw (.exit 1 ["Error in " ++ name ++ ": " ++ e.message] "")

/-- The files of a directory that hold declarations, in the order of their
names: hidden files and editors' backup copies do not count. A directory in it is no
file, which is noticed when it is to be read. -/
def inputFiles (d : Directory) : Table String (Option String) :=
  let kept := d.entries.filter fun (name, _) =>
    !Text.startsWith name "." && !Text.endsWith name "~"
  kept.mergeSort fun a b => a.1 ≤ b.1

/-- The sources that speak about each version asked for; versions in the order
in which files introduce them. -/
def sourcesByVersion (targets : List Version) (sources : List Source) :
    Table Version (List Source) :=
  sources.foldl (fun table s =>
    s.versions.foldl (fun table v =>
      if v ∈ targets then table.update v [] (· ++ [s]) else table) table) []

/-- The model of a directory of files, for the versions asked for. -/
def load (files : Directory) (targets : List Version) : Outcome Model := do
  let sources ← (inputFiles files).mapM fun (name, text?) => do
    readSource name (← orFault text? (.isDirectory name))
  let protocols ← (sourcesByVersion targets sources).mapM fun (v, sources) =>
    match Protocol.build v sources with
    | .ok p => pure (v, p)
    | .error e => throw (.protocol e)
  match Unified.build protocols with
  | .ok u => pure { protocols := protocols, unified := u }
  | .error e => throw (.unified e)

def protocol? (m : Model) (v : Version) : Option Protocol :=
  m.protocols.get? v

def versions (m : Model) : List Version :=
  m.protocols.keys

/-- The type of an enum's values on the wire of a version, if the type is an
enum that declares one; otherwise the type itself. -/
def wireTypeOf (m : Model) (type : String) (v : Version) : Outcome String := do
  let some p := m.protocol? v | throw (.noEntry v.dotted)
  match (p.enum? type).bind fun e => e.params.get? "wire_type" with
  | some declared => pure (declared.getD type)
  | none => pure type

end Model

end FlowBindings
