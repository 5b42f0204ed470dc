import Instrument.Generator.Marshal
import Instrument.Interface.DeviceTable
import Instrument.Signature.Document

/-!
The files that are generated: for each device a header and a source, and for all devices together
a header with their numbers and names and the catalogue of signatures.
-/

namespace Instrument.Generator

open Interface (Description DeviceTable)

/-- A generated file; its path is relative to the directory of all of them. -/
structure Artifact where
  path : String
  contents : String
deriving DecidableEq, Repr

/-- The first line of each generated source. -/
def banner : String := "/// Generated by devgen. Do not edit."

/-- The name that keeps a header from being read twice. -/
def includeGuard (file : String) : String :=
  let name := (Text.upper file.toList).map fun c => if c == '.' || c == '-' then '_' else c
  "__DEVLINK_" ++ String.ofList name ++ "__"

/-- The name of the files of a device, without their endings. -/
def fileStem (d : Description) : String := lowerTag d ++ "_device"

/-- The lines of a header between its guards. -/
def guarded (file : String) (body : List String) : List String :=
  let guard := includeGuard file
  [banner, "", "#ifndef " ++ guard, "#define " ++ guard, ""] ++ body ++
    ["", "\x7d // namespace devlink", "", "#endif // " ++ guard]

/-- The header that declares the class that serves a device; `header` declares the device. -/
def deviceHeader (d : Description) (header : String) : String :=
  let serving := servingClass d
  let before := guarded (fileStem d ++ ".hpp") (
    ["#include <mutex>",
     "#include <devlink/device.hpp>",
     "#include \"" ++ header ++ "\"",
     "",
     "namespace devlink \x7b",
     "",
     "class " ++ serving ++ " : public DeviceBase \x7b",
     "  public:",
     "    enum Operation \x7b"] ++
    d.operations.map (fun op => "        " ++ op.tag ++ ",") ++
    ["        " ++ lowerTag d ++ "_op_num",
     "    \x7d;",
     "",
     "    " ++ serving ++ "(Server& server, " ++ d.name ++ "& dev)",
     "    : DeviceBase(server, " ++ toString d.id.toNat ++ ", \"" ++ d.tag ++ "\")",
     "    , THIS(&dev)",
     "    \x7b\x7d",
     "",
     "    int execute(Command& cmd);",
     "    bool is_failed();"] ++
    d.operations.flatMap (fun op =>
      ["",
       argumentsStruct op ++ "    int parse_arg_" ++ op.name ++ "(Command& cmd, " ++
        argumentsType op ++ "& args);",
       "    int execute_" ++ op.name ++ "(Command& cmd);"]) ++
    ["",
     "  private:",
     "    " ++ d.name ++ "* THIS;",
     "    std::mutex mutex;",
     "\x7d;"])
  unlines before

/-- The source of the class that serves a device. -/
def deviceSource (d : Description) : String :=
  unlines [banner, "", "#include \"" ++ fileStem d ++ ".hpp\"", "", "namespace devlink \x7b"] ++
    String.join (d.operations.map fun op =>
      unlines ["", "/////////////////////////////////////", "// " ++ op.tag, ""] ++
        parseFunction d op ++ "\n" ++ executeFunction d op) ++
    "\n" ++ serveFunctions d ++ unlines ["", "\x7d // namespace devlink"]

/-- A character in a text literal of a source. -/
def escapeLiteral (c : Char) : List Char :=
  match c with
  | '\n' => ['\\', 'n']
  | '"' => ['\\', '"']
  | '\\' => ['\\', '\\']
  | _ => [c]

/-- The header with the numbers and names of all devices. -/
def tableHeader (t : DeviceTable) : String :=
  unlines (guarded "devices_table.hpp" (
    ["#include <array>",
     "#include <cstdint>",
     "",
     "namespace devlink \x7b",
     "",
     "constexpr std::size_t device_num = " ++ toString t.devices.length ++ ";",
     "constexpr std::size_t max_op_num = " ++ toString t.width ++ ";",
     ""] ++
    t.devices.map (fun d =>
      "constexpr uint16_t " ++ d.tag ++ "_ID = " ++ toString d.id.toNat ++ ";") ++
    ["",
     "constexpr std::array<const char*, device_num> devices_names = \x7b"] ++
    t.devices.map (fun d => "    \"" ++ d.tag ++ "\",") ++
    ["\x7d;",
     "",
     "constexpr std::array<std::array<const char*, max_op_num>, device_num> " ++
      "operations_names = \x7b\x7b"] ++
    t.names.map (fun (_, _, tags) =>
      "    \x7b\x7b" ++ ", ".intercalate (tags.map fun tag => "\"" ++ tag ++ "\"") ++
        "\x7d\x7d,") ++
    ["\x7d\x7d;",
     "",
     "constexpr const char* discovery_table = \"" ++
      String.ofList (t.discovery.text.toList.flatMap escapeLiteral) ++ "\";"]))

/-- The files of a device. -/
def deviceArtifacts (d : Description) (header : String) : List Artifact :=
  [⟨fileStem d ++ ".hpp", deviceHeader d header⟩, ⟨fileStem d ++ ".cpp", deviceSource d⟩]

/-- The files of all devices together. -/
def tableArtifacts (t : DeviceTable) : List Artifact :=
  [⟨"devices_table.hpp", tableHeader t⟩, ⟨"devices.json", Signature.toText t.catalogue⟩]

end Instrument.Generator
