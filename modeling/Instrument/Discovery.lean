import Instrument.Text.Blank
import Instrument.Text.Number
import Instrument.Text.Quoted

/-!
The discovery table: the text in which a server lists its devices and their operations. A row
begins with `#`, the number and the name of the device; the place of an operation in its row is
the number of the operation. The first line tells the width to which rows are filled up with empty
fields, and a line of its own ends the table.
-/

namespace Instrument

/-- Letters outside ASCII have no case here. -/
def asciiUpper (cs : List Char) : List Char := cs.map Char.toUpper

/-- A class name in upper case, with an underscore in front of each capital but the first
character. -/
def deviceTag (name : String) : String :=
  match name.toList with
  | [] => ""
  | c :: cs =>
    String.ofList (c.toUpper :: cs.flatMap fun c => if c.isUpper then ['_', c] else [c.toUpper])

namespace Discovery

/-- One device of a table. -/
structure Entry where
  id : UInt16
  name : String
  operations : List String
deriving DecidableEq, Repr

/-- Why a text is no table. -/
inductive Fault where
  | missingMark (line : String)
  | deviceId (line : String)
  | missingName (line : String)
  | rowWidth (line : String)
  | unexpected (line : String)
  | missingEnd
deriving DecidableEq, Repr

/-- The fault in words. -/
def Fault.message : Fault → String
  | missingMark line => "missing '#' in " ++ Text.quoted line
  | deviceId line => "invalid device id in " ++ Text.quoted line
  | missingName line => "missing device name in " ++ Text.quoted line
  | rowWidth line => "invalid row width " ++ Text.quoted line
  | unexpected line => "unexpected line " ++ Text.quoted line
  | missingEnd => "missing end-of-catalogue marker"

namespace Entry

/-- Reads a row. Blanks around fields and empty fields do not count. -/
def ofLine (line : List Char) : Except Fault Entry :=
  let line := Text.trim line
  let shown := String.ofList line
  match Text.after? ['#'] line with
  | none => .error (.missingMark shown)
  | some body =>
    let fields := (Text.pieces (· == ':') body).map Text.trim
    match fields.head?.bind (Text.number? Text.limit16) with
    | none => .error (.deviceId shown)
    | some id =>
      match fields.tail with
      | [] => .error (.missingName shown)
      | name :: operations =>
        if name.isEmpty then .error (.missingName shown)
        else .ok ⟨UInt16.ofNat id, String.ofList name,
          (operations.filter (!·.isEmpty)).map String.ofList⟩

/-- The number of an operation. -/
def operationId? (e : Entry) (operation : String) : Option UInt16 :=
  (e.operations.findIdx? (· == operation)).bind fun i =>
    if i < UInt16.size then some (UInt16.ofNat i) else none

/-- The row, filled up to `width` operations. -/
def line (e : Entry) (width : Nat) : String :=
  "#" ++ toString e.id.toNat ++ ":" ++ e.name ++ ":" ++
    String.join (e.operations.map (· ++ ":")) ++
    String.ofList (List.replicate (width - e.operations.length) ':')

end Entry

/-- The number of operations in the longest row. -/
def longest (entries : List Entry) : Nat :=
  entries.foldr (fun e n => max e.operations.length n) 0

theorem length_le_longest {entries : List Entry} {e : Entry} (h : e ∈ entries) :
    e.operations.length ≤ longest entries := by
  induction entries with
  | nil => simp at h
  | cons first rest ih =>
    rcases List.mem_cons.1 h with rfl | h
    · exact Nat.le_max_left ..
    · exact Nat.le_trans (ih h) (Nat.le_max_right ..)

/-- A discovery table; no row is longer than its width. -/
structure Table where
  width : Nat
  entries : List Entry
  length_le : ∀ e ∈ entries, e.operations.length ≤ width
deriving DecidableEq

namespace Table

/-- The table that is as wide as its longest row. -/
def ofEntries (entries : List Entry) : Table :=
  ⟨longest entries, entries, fun _ => length_le_longest⟩

/-- The table with at least a given width. -/
def widen (t : Table) (width : Nat) : Table :=
  ⟨max t.width width, t.entries, fun e h =>
    Nat.le_trans (t.length_le e h) (Nat.le_max_left ..)⟩

/-- The line that ends a table. -/
def endLine : String := "EOC"

/-- Reads lines up to the end of the table: the width, if one is told, and the rows. Only in front
of all rows, a line can tell the width. -/
def readLines (width : Option Nat) (first : Bool) :
    List (List Char) → Except Fault (Option Nat × List Entry)
  | [] => .error .missingEnd
  | line :: lines =>
    if line = endLine.toList then .ok (width, [])
    else if line.head? = some '#' then do
      let entry ← Entry.ofLine line
      let (width, entries) ← readLines width false lines
      return (width, entry :: entries)
    else if width.isNone && first then
      match Text.number? Text.limit64 line with
      | none => .error (.rowWidth (String.ofList line))
      | some n => readLines (some n) first lines
    else .error (.unexpected (String.ofList line))

/-- Reads a table. Blank lines do not count, nor does what follows the end of the table. -/
def ofText (text : List Char) : Except Fault Table := do
  let lines := ((Text.lines text).map Text.trim).filter (!·.isEmpty)
  let (width, entries) ← readLines none true lines
  return (ofEntries entries).widen (width.getD 0)

/-- The text of a table. -/
def text (t : Table) : String :=
  toString t.width ++ "\n" ++ String.join (t.entries.map fun e => e.line t.width ++ "\n") ++
    endLine ++ "\n"

/-- The device with a given name, or else the one with the tag of a class of that name. -/
def find? (t : Table) (name : String) : Option Entry :=
  (t.entries.find? (·.name == name)).or (t.entries.find? (·.name == deviceTag name))

/-- The device with a given number. -/
def findId? (t : Table) (id : UInt16) : Option Entry := t.entries.find? (·.id == id)

end Table

end Discovery

end Instrument
