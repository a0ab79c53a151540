import FlowBindings.Command.Options
import FlowBindings.Dissector.Generate
import FlowBindings.Loci.Tree
import FlowBindings.ObjectModel.Generate
import FlowBindings.Packing.Generate

/-!
# What the command does

The command reads declarations, makes the model of the versions asked for and hands it
to the generator of the language asked for.
-/

namespace FlowBindings.Command

inductive Target where
  | c
  | java
  | python
  | wireshark
  deriving DecidableEq, Repr

namespace Target

def ofName? (name : String) : Option Target :=
  Table.get? [("c", c), ("java", java), ("python", python), ("wireshark", wireshark)] name

def renewed? : Target → Option String
  | java => some "openflowj"
  | _ => none

end Target

/-- What a run of the command produces. -/
structure Product where
  printed : List String
  directory : String
  /-- The directory below it that is made anew, if one is. -/
  renewed? : Option String
  /-- The files, by their paths in the directory. -/
  files : Outcome Tree

def Product.install (p : Product) (existing : Tree) : Outcome Tree := do
  let kept := p.renewed?.elim existing fun d =>
    existing.filter fun (path, _) => !Text.startsWith path (d ++ "/")
  pure (kept.overlay (← p.files))

def Target.run (t : Target) (m : Model) (targets : List Version) (data : Directory) :
    List String × Outcome Tree :=
  match t with
  | .c => ([], Loci.generate m targets data)
  | .java =>
    let (tree, notes) := (ObjectModel.generate m targets ⟨true⟩ data ObjectModel.stageNames).run.run {}
    (notes.lines, tree.map (Tree.below "openflowj"))
  | .python => ([], Packing.generate m Version.all)
  | .wireshark => (Dissector.fieldReports m, Dissector.generate m Version.all)

def run (args : List String) (files : Directory) (data : Directory) : Outcome Product := do
  let (settings, _, targets) ← readCommand args
  let target ← orFault (Target.ofName? settings.language) (.noGenerator settings.language)
  let m ← Model.load files targets
  let (printed, tree) := target.run m targets data
  pure ⟨printed, settings.directory, target.renewed?, tree⟩

end FlowBindings.Command
