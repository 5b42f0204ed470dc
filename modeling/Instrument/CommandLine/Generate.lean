import Instrument.CommandLine.Outcome
import Instrument.Generator.Run

/-!
The command line of the generator. Settings come from a file or from the arguments themselves.
-/

namespace Instrument.CommandLine.Generate

open Generator

/-- How the generator is used. -/
def usage : String := lines
  ["devgen: device marshalling generator",
   "",
   "Usage: devgen --config <FILE>",
   "       devgen --output <DIR> <HEADER>...",
   "",
   "Options:",
   "  -c, --config <FILE>    TOML configuration",
   "  -o, --output <DIR>     Output directory",
   "  -p, --pragma <NAME>    Pragma namespace (default: devlink)",
   "  -v, --verbose          Verbose output",
   "  -h, --help             Show this help"]

/-- What the arguments say. -/
structure Options where
  config? : Option String := none
  output? : Option String := none
  word? : Option String := none
  headers : List String := []
  verbose : Bool := false
deriving DecidableEq, Repr

/-- Reads arguments after those that are read already. -/
def readMore (o : Options) : List String → Except ArgumentFault (Request Options)
  | [] => .ok (.run o)
  | argument :: rest =>
    if argument == "--config" || argument == "-c" then
      match rest with
      | value :: rest => readMore { o with config? := some value } rest
      | [] => .error (.missingValue argument)
    else if argument == "--output" || argument == "-o" then
      match rest with
      | value :: rest => readMore { o with output? := some value } rest
      | [] => .error (.missingValue argument)
    else if argument == "--pragma" || argument == "-p" then
      match rest with
      | value :: rest => readMore { o with word? := some value } rest
      | [] => .error (.missingValue argument)
    else if argument == "--verbose" || argument == "-v" then
      readMore { o with verbose := true } rest
    else if argument == "--help" || argument == "-h" then .ok .help
    else if argument.toList.head? == some '-' then .error (.unknownOption argument)
    else readMore { o with headers := o.headers ++ [argument] } rest

/-- Reads all arguments. -/
def read (arguments : List String) : Except ArgumentFault (Request Options) :=
  readMore {} arguments

/-- Why there are no settings to run under. -/
inductive SettingsError where
  /-- The arguments name neither a file of settings nor a directory and headers. -/
  | incomplete
  | load (e : GeneratorError)
deriving DecidableEq, Repr

/-- The reason in words. -/
def SettingsError.message : SettingsError → String
  | incomplete => "expected either --config <FILE> or --output <DIR> with headers"
  | load e => e.message

/-- The settings to run under. -/
def settings (files : FileTree) (o : Options) : Except SettingsError Settings :=
  let found : Except SettingsError Settings :=
    match o.config?, o.output?, o.headers with
    | some path, none, [] => (Settings.load files path).mapError .load
    | none, some output, first :: more => .ok { output := output, headers := first :: more }
    | _, _, _ => .error .incomplete
  found.map fun s => { s with word := o.word?.getD s.word }

/-- The part of the program that the log is about. -/
def logPart : String := "devlink::devgen"

/-- A device in the list of all devices. -/
def deviceLine (d : Interface.Description) : String :=
  "#" ++ toString d.id.toNat ++ " " ++ d.tag ++ " (" ++ toString d.operations.length ++
    " operations)"

/-- A run with readable arguments. -/
def run (files : FileTree) (o : Options) : Outcome :=
  match settings files o with
  | .error e => ⟨.exit 2, "", ["error: " ++ e.message], files⟩
  | .ok s =>
    let (result, a) := generate files s
    let written := if o.verbose then
        a.written.map fun path => logLine "DEBUG" logPart ("wrote " ++ path)
      else []
    match result with
    | .error e => ⟨.exit 1, "", written ++ ["error: " ++ e.message], a.files⟩
    | .ok generated =>
      let users := generated.table.users
      let summary := "generated " ++ toString generated.artifacts.length ++ " files for " ++
        toString users.length ++ " devices in " ++ s.output
      ⟨.exit 0, lines (users.map deviceLine ++ ["Output: " ++ s.output]),
        written ++ [logLine "INFO " logPart summary], a.files⟩

/-- The whole program. -/
def outcome (files : FileTree) (arguments : List String) : Outcome :=
  answer usage files (run files) (read arguments)

end Instrument.CommandLine.Generate
