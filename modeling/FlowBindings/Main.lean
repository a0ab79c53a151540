import FlowBindings.Command.Generate

/-!
# The command line

Reads the declarations and the test data that lie beside the program, runs the command
and writes the files that it produces.
-/

open FlowBindings

/-- The files of a directory and of the directories below it, down to a depth, by their
paths from there. A directory that does not exist has none. -/
def filesBelow (directory inner : String) : Nat → IO (List (String × String))
  | 0 => pure []
  | depth + 1 => do
    let here := (← IO.currentDir) / directory / inner
    if !(← here.isDir) then return []
    let mut files := []
    for entry in ← here.readDir do
      let path := if inner.isEmpty then entry.fileName else inner ++ "/" ++ entry.fileName
      if ← entry.path.isDir then files := files ++ (← filesBelow directory path depth)
      else files := files ++ [(path, ← IO.FS.readFile entry.path)]
    return files

/-- Write a file, whose characters are the bytes to write, and the directories it is in. -/
def writeFile (directory path text : String) : IO Unit := do
  let place := (← IO.currentDir) / directory / path
  if let some parent := place.parent then IO.FS.createDirAll parent
  IO.println ("Writing " ++ path)
  IO.FS.writeBinFile place ⟨(text.toList.map fun c => c.toNat.toUInt8).toArray⟩

/-- Remove a directory with all that is in it, if it exists. -/
def removeDirectory (directory inner : String) : IO Unit := do
  let place := (← IO.currentDir) / directory / inner
  if ← place.isDir then IO.FS.removeDirAll place

def main (args : List String) : IO UInt32 := do
  let home := (← IO.appDir).toString
  let files ← filesBelow (home ++ "/openflow_input") "" 1
  let data ← filesBelow (home ++ "/test_data") "" 8
  match Command.run args files data with
  | .error (.exit status printed complaint) =>
    printed.forM IO.println
    IO.eprint complaint
    return status.toUInt32
  | .error e =>
    IO.eprintln e.message
    return 1
  | .ok product =>
    product.printed.forM IO.println
    match product.files with
    | .error e =>
      IO.eprintln e.message
      return 1
    | .ok tree =>
      product.renewed?.forM (removeDirectory product.directory)
      tree.forM fun (path, text) => writeFile product.directory path text
      return 0
