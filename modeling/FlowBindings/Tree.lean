import FlowBindings.Table
import FlowBindings.Text.Basic

/-!
# Trees of files

What a generator produces: files under paths relative to a directory of the
user's choice. A file written again replaces the earlier one.
-/

namespace FlowBindings

abbrev Tree := Table String String

namespace Tree

def baseName (path : String) : String :=
  ((Text.splitOn '/' path).getLast?).getD ""

def paths (t : Tree) : List String :=
  t.keys.mergeSort fun a b => a ≤ b

/-- The files of two trees; where both have a file, that of the second. -/
def overlay (t u : Tree) : Tree :=
  u.foldl (fun acc (path, text) => acc.set path text) t

def below (directory : String) (t : Tree) : Tree :=
  t.map fun (path, text) => (directory ++ "/" ++ path, text)

end Tree

end FlowBindings
