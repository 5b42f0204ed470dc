import Instrument.Generator.Artifact
import Instrument.Generator.Settings
import Instrument.Interface.Describe

/-!
A run of the generator. All headers are read and described before anything is written, so that a
fault in one of them leaves all files as they were. Main statement: if the headers cannot be
described, the run fails and no file or directory changes.
-/

namespace Instrument.Generator

open Interface (Description DeviceTable)

/-- What a run makes of the headers. -/
structure Generated where
  table : DeviceTable
  artifacts : List Artifact
deriving DecidableEq, Repr

/-- The devices that a header declares, each with the name by which the header is included. -/
def readHeader (files : FileTree) (word path : String) :
    Except GeneratorError (List (Description × String)) := do
  let source ← (files.readText path.toList).mapError (.file path)
  let found ← (Interface.descriptions word path source).mapError .declaration
  return found.map (·, String.ofList (Path.lastName path.toList))

/-- The devices that some headers declare. The first header with a fault tells the error. -/
def readHeaders (files : FileTree) (word : String) (paths : List String) :
    Except GeneratorError (List (Description × String)) :=
  (paths.mapM (readHeader files word)).map List.flatten

/-- Describes all devices and makes the files for them, in memory. -/
def build (files : FileTree) (settings : Settings) : Except GeneratorError Generated := do
  let found ← readHeaders files settings.word settings.headers
  let table ← (DeviceTable.ofDescriptions (found.map (·.1))).mapError .declaration
  let devices := (table.users.zip (found.map (·.2))).flatMap fun (d, header) =>
    deviceArtifacts d header
  return ⟨table, devices ++ tableArtifacts table⟩

/-- What a run leaves behind. -/
structure Aftermath where
  files : FileTree
  /-- The paths of the files that were written, in their order. -/
  written : List String := []
deriving DecidableEq, Repr

/-- Writes generated files to a directory; the first refusal ends that. -/
def writeAll (directory : String) : List Artifact → Aftermath → Option GeneratorError × Aftermath
  | [], a => (none, a)
  | artifact :: rest, a =>
    let path := Path.join directory.toList artifact.path.toList
    match a.files.write path (Text.utf8 artifact.contents) with
    | .error e => (some (.file (String.ofList path) e), a)
    | .ok files => writeAll directory rest ⟨files, a.written ++ [String.ofList path]⟩

/-- Writes generated files to a directory, which is made if there is none. -/
def writeArtifacts (directory : String) (artifacts : List Artifact) (files : FileTree) :
    Option GeneratorError × Aftermath :=
  match files.makeDirectories directory.toList with
  | (some e, files) => (some (.file directory e), ⟨files, []⟩)
  | (none, files) => writeAll directory artifacts ⟨files, []⟩

/-- A whole run. -/
def generate (files : FileTree) (settings : Settings) :
    Except GeneratorError Generated × Aftermath :=
  match build files settings with
  | .error e => (.error e, ⟨files, []⟩)
  | .ok generated =>
    match writeArtifacts settings.output generated.artifacts files with
    | (some e, a) => (.error e, a)
    | (none, a) => (.ok generated, a)

theorem generate_of_build_error {files : FileTree} {settings : Settings} {e : GeneratorError}
    (h : build files settings = .error e) : generate files settings = (.error e, ⟨files, []⟩) := by
  simp [generate, h]

end Instrument.Generator
