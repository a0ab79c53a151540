import FlowBindings.Packing.ClassText
import FlowBindings.Packing.Constants
import FlowBindings.Packing.Support
import FlowBindings.Tree

/-!
# Generating the modules

The files of the library of modules: one package for each version, with a module for
each family of classes.
-/

namespace FlowBindings.Packing

open Text

def directory : String := "pyloxi/loxi"

/-- What stands behind the classes of a module: the classes that other modules call by
a name without number, and the functions that parse messages. -/
def moduleEnd (v : Version) (module : String) : String :=
  if module = commonModule then
    match v with
    | .v10 => "match = match_v1\n"
    | .v11 => "match = match_v2\n"
    | .v15 => "match = match_v3\nstat = stat_v6\n"
    | _ => "match = match_v3\n"
  else when (module = "message") (plainText "_message_extra.py")

def moduleText (m : Model) (p : Protocol) (module : String) (classes : List Class) :
    Outcome String := do
  let texts ← classes.mapM fun c => do pure ((← (Draft.of m p c).text) ++ "\n")
  pure (notice ++ "\n" ++ generatedNote "module.py"
    ++ form [("package", packageOf p.version)] r"

|import struct
|import loxi
|import util
|import loxi.generic_util

|import sys
ofp = sys.modules['loxi.«package»']

"
    ++ concat texts ++ "\n" ++ moduleEnd p.version module)

def packageFiles (m : Model) (v : Version) : Outcome Tree := do
  let p ← orFault (m.protocol? v) (.noEntry v.dotted)
  let modules := modules p.classes
  let path (name : String) : String := packageOf v ++ "/" ++ name ++ ".py"
  let classes ← modules.mapM fun (name, classes) => do
    pure (path name, ← moduleText m p name classes)
  pure ([(path "__init__", packageText modules.keys), (path "util", functionsText v),
    (path "const", notice ++ "\n" ++ generatedNote "const.py" ++ "\n" ++ constantsText p)] ++ classes)

def generate (m : Model) (versions : List Version) : Outcome Tree := do
  let packages ← versions.mapM (packageFiles m)
  pure (Tree.below directory ((packages.foldl Tree.overlay
    [("__init__.py", rootText versions), ("pp.py", plainText "pp.py"), ("generic_util.py", sharedText),
     ("connection.py", plainText "connection.py")])))

end FlowBindings.Packing
