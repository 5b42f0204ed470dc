import Instrument.CommandLine.Outcome
import Instrument.Device.Fleet
import Instrument.Device.Registers

/-!
The command line of the server, up to the point from which it serves clients.
-/

namespace Instrument.CommandLine.Serve

open Interface (Description)

/-- How the server is used. -/
def usage : String := lines
  ["devlink server",
   "",
   "Usage: devlink_server [OPTIONS]",
   "",
   "Options:",
   "  -b, --bind <ADDR>         Bind address (default: 0.0.0.0:36000)",
   "  -u, --unix <PATH>         Also listen on a Unix socket",
   "  -r, --registers <PATH>    Serve a register file",
   "      --size <BYTES>        Register window size (default: 4096)",
   "  -v, --verbose             Verbose output",
   "  -h, --help                Show this help"]

/-- What the arguments say. -/
structure Options where
  address : String := "0.0.0.0:36000"
  socket? : Option String := none
  registers? : Option String := none
  size : Nat := 4096
  verbose : Bool := false
deriving DecidableEq, Repr

/-- Reads arguments after those that are read already. -/
def readMore (o : Options) : List String → Except ArgumentFault (Request Options)
  | [] => .ok (.run o)
  | argument :: rest =>
    if argument == "--bind" || argument == "-b" then
      match rest with
      | value :: rest => readMore { o with address := value } rest
      | [] => .error (.missingValue argument)
    else if argument == "--unix" || argument == "-u" then
      match rest with
      | value :: rest => readMore { o with socket? := some value } rest
      | [] => .error (.missingValue argument)
    else if argument == "--registers" || argument == "-r" then
      match rest with
      | value :: rest => readMore { o with registers? := some value } rest
      | [] => .error (.missingValue argument)
    else if argument == "--size" then
      match rest with
      | value :: rest =>
        match Text.number? Text.limit64 value.toList with
        | some size => readMore { o with size := size } rest
        | none => .error (.registerSize value)
      | [] => .error (.missingValue argument)
    else if argument == "--verbose" || argument == "-v" then
      readMore { o with verbose := true } rest
    else if argument == "--help" || argument == "-h" then .ok .help
    else .error (.unknownOption argument)

/-- Reads all arguments. -/
def read (arguments : List String) : Except ArgumentFault (Request Options) :=
  readMore {} arguments

/-- Opens the window in a file, which is made if there is none. -/
def openWindow (files : FileTree) (path : String) (size : Nat) :
    Except SystemError (Window × FileTree) := do
  let _ ← Window.open [] size
  let before := match files.read path.toList with
    | .ok bytes => bytes
    | .error _ => []
  let window ← Window.open before size
  return (window, ← files.write path.toList window.file)

/-- The device for the window in a file, if one is asked for. -/
def openRegisters (files : FileTree) (o : Options) :
    Except SystemError (List Registers × FileTree) :=
  match o.registers? with
  | none => .ok ([], files)
  | some path => (openWindow files path o.size).map fun (window, files) => ([⟨window⟩], files)

/-- The longest path of a socket in bytes. -/
def maxSocketPath : Nat := 107

/-- Binds the server to a socket. A file at its path makes room for it; a directory does not, nor
does a file if the path goes on with a slash. On an empty path the socket gets a name of its own. -/
def bindSocket (files : FileTree) (path : List Char) : Except SystemError Unit := do
  if maxSocketPath < (Text.utf8 (String.ofList path)).length then throw .socketPathTooLong
  unless path.isEmpty do
    let stripped := Text.dropEndWhile (· == '/') path
    let l ← files.locate (if stripped.isEmpty then path else stripped)
    match files.node? l, path.getLast? == some '/' with
    | some .directory, _ | some (.file _), true => throw .addressInUse
    | none, true => throw .notFound
    | some (.file _), false | none, false => return

/-- Whether a host is given by up to four numbers with dots between them. All but the last are
bytes; the last fills the four bytes up. -/
def isNumeric (host : List Char) : Bool :=
  let numbers := Text.pieces (· == '.') host
  let bytes := numbers.dropLast
  host.all (fun c => c.isDigit || c == '.') && bytes.length < 4 &&
    bytes.all (fun n => (Text.number? 256 n).isSome) &&
    (Text.number? (Nat.pow 256 (4 - bytes.length)) (numbers.getLastD [])).isSome

/-- Binds the server to a host, which is a number or the machine itself. No other name can be
looked up, and there is no address of the longer kind, which is written with colons. -/
def bindHost (host : List Char) : Except SystemError Unit :=
  if host.contains ':' then .error .addressNotAvailable
  else if isNumeric host || host.map Char.toLower == "localhost".toList then .ok ()
  else .error .unknownHost

/-- Binds the server to its address and its socket; the address has to end with a port. -/
def bind (files : FileTree) (o : Options) : Except SystemError Unit := do
  let address := o.address.toList
  unless address.contains ':' do throw .invalidAddress
  let port := (Text.pieces (· == ':') address).getLastD []
  if (Text.number? Text.limit16 port).isNone then throw .invalidPort
  bindHost (address.take (address.length - (port.length + 1)))
  match o.socket? with
  | some path => bindSocket files path.toList
  | none => return

/-- A device in the list of all devices. -/
def deviceLine (d : Description) : String :=
  "  #" ++ toString d.id.toNat ++ " " ++ d.tag ++ " (" ++ toString d.operations.length ++
    " operations)"

/-- A device in the log. -/
def logDevice (d : Description) : String :=
  logLine "INFO " "devlink::device::manager" ("device #" ++ toString d.id.toNat ++ " " ++ d.tag ++
    " with " ++ toString d.operations.length ++ " operations")

/-- The first lines of every run. -/
def banner : String :=
  lines ["devlink server v" ++ Control.version, "=====================", ""]

/-- A run with readable arguments. -/
def run (files : FileTree) (o : Options) : Outcome :=
  let failure (output : String) (log : List String) (text : String) (files : FileTree) : Outcome :=
    ⟨.exit 1, output, log ++ ["server error: " ++ text], files⟩
  match openRegisters files o with
  | .error e => failure banner [] e.message files
  | .ok (devices, files) =>
    let opened := banner ++ lines (devices.map fun r =>
      "Registers: " ++ o.registers?.getD "" ++ " (" ++ toString r.window.size ++ " bytes)")
    match Fleet.ofDevices devices with
    | .error e => failure opened [] e.message files
    | .ok fleet =>
      let log := fleet.table.users.map logDevice
      let listed := opened ++ lines (fleet.table.devices.map deviceLine)
      match bind files o with
      | .error e => failure listed log e.message files
      | .ok () =>
        let socket := o.socket?.toList.map fun path => "Unix socket: " ++ path
        let serving := lines (["", "Listening on " ++ o.address] ++ socket ++
          ["Waiting for connections...", ""])
        ⟨.serving, listed ++ serving, log, files⟩

/-- The whole program. -/
def outcome (files : FileTree) (arguments : List String) : Outcome :=
  answer usage files (run files) (read arguments)

end Instrument.CommandLine.Serve
