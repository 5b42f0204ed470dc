import Instrument.Device.Window

/-!
The file behind a register window, also while no window is open on it. Others may write into the
file at any time, whether a window is open or not.
-/

namespace Instrument

/-- The file behind a window. -/
inductive Backing where
  | missing
  /-- A file on which no window is open. -/
  | closed (file : Bytes)
  | mapped (window : Window)
deriving DecidableEq, Repr

namespace Backing

/-- A file on which no window is open, if there is a file. -/
def ofFile? : Option Bytes → Backing
  | some file => .closed file
  | none => .missing

/-- What is in the file, if there is one. -/
def file? : Backing → Option Bytes
  | .missing => none
  | .closed file => some file
  | .mapped w => some w.file

/-- The open window. -/
def window? : Backing → Option Window
  | .mapped w => some w
  | .missing | .closed _ => none

/-- The file without its window. -/
def close (b : Backing) : Backing := ofFile? b.file?

/-- Closes the window and opens one of a given size. If that is refused no window is open. -/
def «open» (b : Backing) (size : Nat) : Except SystemError Window × Backing :=
  match Window.open (b.file?.getD []) size with
  | .ok w => (.ok w, .mapped w)
  | .error e => (.error e, b.close)

/-- The file after others wrote into it, which needs a file. -/
def poke (b : Backing) (offset : Nat) (new : Bytes) : Except SystemError Backing :=
  match b with
  | .missing => .error .notFound
  | .closed file => .ok (.closed (Window.overwrite file offset new))
  | .mapped w => .ok (.mapped (w.poke offset new))

@[simp] theorem file?_close (b : Backing) : b.close.file? = b.file? := by
  cases b <;> rfl

@[simp] theorem window?_close (b : Backing) : b.close.window? = none := by
  cases b <;> rfl

end Backing

end Instrument
