import Instrument.CommandLine.Generate
import Instrument.CommandLine.Serve

/-!
The programs. The first argument chooses between the generator and the server; the rest is for the
program. Files are read before it runs and written after it.
-/

open Instrument CommandLine

/-- Adds to the files what a path leads to. -/
def probe (files : FileTree) (path : String) : IO FileTree := do
  try
    return files.addFile path (← IO.FS.readBinFile path).toList
  catch
    | .inappropriateType _ 21 _ => return (files.makeDirectories path.toList).2
    | _ => return files

/-- Adds to the files what a path and the paths of the directories around it lead to. -/
def probeAll (files : FileTree) (path : String) : IO FileTree :=
  (Path.ancestors path.length path.toList).foldlM (fun files p => probe files (String.ofList p))
    files

/-- The files that the generator looks at. -/
def gather (o : Generate.Options) : IO FileTree := do
  let files ← o.config?.toList.foldlM probeAll {}
  match Generate.settings files o with
  | .ok s => (s.output :: s.headers).foldlM probeAll files
  | .error _ => return files

/-- Writes what a run has changed, prints its output and gives its exit code. -/
def conclude (before : FileTree) (o : Outcome) : IO UInt32 := do
  for (l, node) in before.changes o.files do
    match node with
    | .directory => IO.FS.createDirAll l.path
    | .file bytes => IO.FS.writeBinFile l.path bytes.toByteArray
  IO.print o.output
  o.errors.forM IO.eprintln
  match o.ending with
  | .exit code => return code.toUInt32
  | .serving => return 0

/-- Runs the program that the first argument names. -/
def main : List String → IO UInt32
  | "devgen" :: arguments => do
    let files ← match Generate.read arguments with
      | .ok (.run o) => gather o
      | _ => pure {}
    conclude files (Generate.outcome files arguments)
  | "devlink_server" :: arguments => do
    let files ← match Serve.read arguments with
      | .ok (.run o) => o.registers?.toList.foldlM probeAll {}
      | _ => pure {}
    conclude files (Serve.outcome files arguments)
  | _ => do
    IO.eprintln "error: expected devgen or devlink_server"
    return 2
