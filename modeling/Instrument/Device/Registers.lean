import Instrument.Device.Basic
import Instrument.Device.Window

/-!
The register device: words, single bits and blocks of words of a register window. Main statement:
an operation that fails leaves the window as it was.
-/

namespace Instrument

open Wire (ScalarType Scalar Elements)

/-- The register device. -/
structure Registers where
  window : Window
deriving DecidableEq, Repr

namespace Registers

/-- The declaration of the device. -/
def declaration : String :=
  "class Registers \x7b\n" ++
  "  public:\n" ++
  "    uint32_t read(uint32_t offset);\n" ++
  "    void write(uint32_t offset, uint32_t value);\n" ++
  "    void set_bit(uint32_t offset, uint32_t index);\n" ++
  "    void clear_bit(uint32_t offset, uint32_t index);\n" ++
  "    void toggle_bit(uint32_t offset, uint32_t index);\n" ++
  "\n" ++
  "    #pragma devlink write_array arg\x7bdata\x7d arg\x7blen\x7d\n" ++
  "    void write_buffer(uint32_t offset, const uint32_t* data, uint32_t len);\n" ++
  "\n" ++
  "    #pragma devlink read_array arg\x7blen\x7d\n" ++
  "    const uint32_t* read_buffer(uint32_t offset, uint32_t len);\n" ++
  "\n" ++
  "    uint32_t size();\n" ++
  "\n" ++
  "    #pragma devlink is_failed\n" ++
  "    bool is_failed();\n" ++
  "\x7d;\n"

/-- The error of an access outside the window. -/
def outside (r : Registers) (op : Interface.Operation) (offset : UInt32) (count : Nat) : Error :=
  .device "Registers" op.name (.outsideWindow count offset r.window.size)

/-- Replaces one word by what `f` makes of it and of the mask of one bit. -/
def update (r : Registers) (op : Interface.Operation) (args : Arguments)
    (f : UInt32 → UInt32 → UInt32) : Except Error (Reply × Registers) := do
  let offset ← args.word "offset"
  let index ← args.word "index"
  if 32 ≤ index then throw (.device "Registers" op.name (.bitIndex index))
  let some word := r.window.read? offset.toNat | throw (r.outside op offset 1)
  match r.window.write? offset.toNat (f word (1 <<< index)) with
  | some window => return (.none, ⟨window⟩)
  | none => throw (r.outside op offset 1)

/-- Writes words. -/
def writeWords (r : Registers) (op : Interface.Operation) (offset : UInt32)
    (words : List UInt32) : Except Error (Reply × Registers) :=
  match r.window.writeWords? offset.toNat words with
  | some window => .ok (.none, ⟨window⟩)
  | none => .error (r.outside op offset words.length)

/-- Reads words. -/
def readWords (r : Registers) (op : Interface.Operation) (offset : UInt32) (count : Nat) :
    Except Error (List UInt32) :=
  match r.window.readWords? offset.toNat count with
  | some words => .ok words
  | none => .error (r.outside op offset count)

/-- The answer to a call that succeeds, and the state after it. -/
def answer (r : Registers) (op : Interface.Operation) (args : Arguments) :
    Except Error (Reply × Registers) := do
  match op.name with
  | "read" =>
    let words ← r.readWords op (← args.word "offset") 1
    return (.scalar (Scalar.ofUInt32 (words.headD 0)), r)
  | "write" =>
    let offset ← args.word "offset"
    r.writeWords op offset [← args.word "value"]
  | "set_bit" => r.update op args (· ||| ·)
  | "clear_bit" => r.update op args fun word mask => word &&& ~~~mask
  | "toggle_bit" => r.update op args (· ^^^ ·)
  | "write_buffer" =>
    let offset ← args.word "offset"
    let data ← args.values .u32 "data"
    r.writeWords op offset (data.map fun s => UInt32.ofNat s.bits)
  | "read_buffer" =>
    let offset ← args.word "offset"
    let words ← r.readWords op offset (← args.word "len").toNat
    return (.elements (Elements.ofList .u32 (words.map Scalar.ofUInt32)), r)
  | "size" => return (.scalar (Scalar.ofUInt32 (UInt32.ofNat r.window.size)), r)
  | _ => throw (notImplemented "Registers" op)

/-- The answer to a call, and the state after it. -/
def execute (r : Registers) (op : Interface.Operation) (args : Arguments) :
    Except Error Reply × Registers :=
  match r.answer op args with
  | .ok (reply, r) => (.ok reply, r)
  | .error e => (.error e, r)

/-- As many words as lie between the offset and the end of the window. -/
def acceptBuffer (r : Registers) (args : Arguments) (requested : Nat) : Nat :=
  let offset := match args.word "offset" with
    | .ok offset => offset.toNat
    | .error _ => UInt32.size - 1
  min requested ((r.window.size - offset) / Window.wordSize)

instance : Device Registers where
  declaration _ := declaration
  execute := execute
  isFailed r := !r.window.isValid
  acceptBuffer r _ := r.acceptBuffer

theorem execute_of_error {r r' : Registers} {op : Interface.Operation} {args : Arguments}
    {e : Error} (h : r.execute op args = (.error e, r')) : r' = r := by
  simp only [execute] at h
  split at h <;> simp_all

end Registers

end Instrument
