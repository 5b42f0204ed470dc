import Instrument.Device.Backing
import Instrument.Device.Registers
import Instrument.Proofs.Device.WordArray

/-!
Runs of a register device over a file that nobody else writes into: windows are opened with any
sizes, and operations are called on the open window. Main statement: from no file on, every run
answers as an array of words does, and what is in the file is the file of that array.
-/

namespace Instrument

open Wire (ScalarType Scalar Elements)

/-! ### Accesses -/

/-- An access to an array of words. -/
inductive Access where
  | read (offset : UInt32)
  | write (offset value : UInt32)
  /-- Replaces one bit of a word by what `f` makes of it. -/
  | changeBit (offset index : UInt32) (f : Bool → Bool)
  | writeBuffer (offset : UInt32) (new : List UInt32)
  | readBuffer (offset count : UInt32)
  | size

/-- The access that a call asks for. -/
def Access.ofCall (op : Interface.Operation) (args : Arguments) : Except Error Access := do
  match op.name with
  | "read" => return .read (← args.word "offset")
  | "write" => return .write (← args.word "offset") (← args.word "value")
  | "set_bit" => return .changeBit (← args.word "offset") (← args.word "index") fun _ => true
  | "clear_bit" => return .changeBit (← args.word "offset") (← args.word "index") fun _ => false
  | "toggle_bit" => return .changeBit (← args.word "offset") (← args.word "index") Bool.not
  | "write_buffer" =>
    let offset ← args.word "offset"
    return .writeBuffer offset ((← args.values .u32 "data").map fun s => UInt32.ofNat s.bits)
  | "read_buffer" => return .readBuffer (← args.word "offset") (← args.word "len")
  | "size" => return .size
  | _ => throw (notImplemented "Registers" op)

/-- A word with one bit replaced by what `f` makes of it, and every other bit as it is. -/
def changeBit (index : UInt32) (f : Bool → Bool) (word : UInt32) : UInt32 :=
  UInt32.ofNat (Nat.ofBits fun i : Fin 32 =>
    if i = index.toNat then f (word.toNat.testBit i) else word.toNat.testBit i)

theorem testBit_changeBit (index : UInt32) (f : Bool → Bool) (word : UInt32) {i : Nat}
    (hi : i < 32) :
    (changeBit index f word).toNat.testBit i =
      if i = index.toNat then f (word.toNat.testBit i) else word.toNat.testBit i := by
  rw [changeBit, UInt32.toNat_ofNat_of_lt' (Nat.ofBits_lt_two_pow _), Nat.testBit_ofBits_lt _ i hi]

theorem eq_changeBit {index word new : UInt32} {f : Bool → Bool}
    (h : ∀ i < 32, new.toNat.testBit i =
      if i = index.toNat then f (word.toNat.testBit i) else word.toNat.testBit i) :
    new = changeBit index f word := by
  apply UInt32.toNat_inj.1
  apply Nat.eq_of_testBit_eq
  intro i
  by_cases hi : i < 32
  · rw [h i hi, testBit_changeBit index f word hi]
  · have hpow : 2 ^ 32 ≤ 2 ^ i := Nat.pow_le_pow_right (by decide) (Nat.le_of_not_lt hi)
    rw [Nat.testBit_lt_two_pow (Nat.lt_of_lt_of_le new.toNat_lt hpow),
      Nat.testBit_lt_two_pow (Nat.lt_of_lt_of_le (changeBit index f word).toNat_lt hpow)]

section Masks

variable {index : UInt32} (h : index.toNat < 32) (word : UInt32)
include h

theorem testBit_mask {i : Nat} (hi : i < 32) :
    ((1 : UInt32) <<< index).toNat.testBit i = decide (i = index.toNat) := by
  have hone : (1 : UInt32).toNat = 2 ^ 0 := rfl
  rw [UInt32.toNat_shiftLeft, Nat.mod_eq_of_lt h, Nat.testBit_mod_two_pow, Nat.testBit_shiftLeft,
    hone, Nat.testBit_two_pow, decide_eq_true hi, Bool.true_and, ← Bool.decide_and,
    decide_eq_decide]
  omega

theorem or_mask : word ||| 1 <<< index = changeBit index (fun _ => true) word := by
  apply eq_changeBit
  intro i hi
  rw [UInt32.toNat_or, Nat.testBit_or, testBit_mask h hi]
  by_cases hindex : i = index.toNat <;> simp [hindex]

theorem xor_mask : word ^^^ 1 <<< index = changeBit index Bool.not word := by
  apply eq_changeBit
  intro i hi
  rw [UInt32.toNat_xor, Nat.testBit_xor, testBit_mask h hi]
  by_cases hindex : i = index.toNat <;> simp [hindex]

theorem and_not_mask : word &&& ~~~(1 <<< index) = changeBit index (fun _ => false) word := by
  apply eq_changeBit
  intro i hi
  have hnot : (~~~((1 : UInt32) <<< index)).toNat.testBit i = !decide (i = index.toNat) := by
    rw [← testBit_mask h hi, ← UInt32.toNat_toBitVec, UInt32.toBitVec_not, BitVec.testBit_toNat,
      BitVec.getLsbD_not, ← BitVec.testBit_toNat, UInt32.toNat_toBitVec, decide_eq_true hi,
      Bool.true_and]
  rw [UInt32.toNat_and, Nat.testBit_and, hnot]
  by_cases hindex : i = index.toNat <;> simp [hindex]

end Masks

/-! ### The device on an array -/

namespace WordArray

/-- The place of the word at an offset. An access that leaves the array is refused. -/
def find (a : WordArray) (offset : UInt32) (count : Nat) : Except DeviceFault Nat :=
  match a.place? offset.toNat count with
  | some place => .ok place
  | none => .error (.outsideWindow count offset a.size)

/-- What an access gives, and the array after it. -/
def perform (a : WordArray) : Access → Except DeviceFault (Reply × WordArray)
  | .read offset => do
    let place ← a.find offset 1
    return (.scalar (Scalar.ofUInt32 (a.words.getD place 0)), a)
  | .write offset value => do
    let place ← a.find offset 1
    return (.none, a.store place [value])
  | .changeBit offset index f => do
    if 32 ≤ index then throw (.bitIndex index)
    let place ← a.find offset 1
    return (.none, a.store place [changeBit index f (a.words.getD place 0)])
  | .writeBuffer offset new => do
    let place ← a.find offset new.length
    return (.none, a.store place new)
  | .readBuffer offset count => do
    let place ← a.find offset count.toNat
    return (.elements (Elements.ofList .u32 ((a.load place count.toNat).map Scalar.ofUInt32)), a)
  | .size => return (.scalar (Scalar.ofUInt32 (UInt32.ofNat a.size)), a)

/-- The answer to a call that succeeds, and the array after it. -/
def answer (a : WordArray) (op : Interface.Operation) (args : Arguments) :
    Except Error (Reply × WordArray) := do
  let access ← Access.ofCall op args
  (a.perform access).mapError (.device "Registers" op.name)

/-- The answer to a call, and the array after it. A call that fails leaves the array as it is. -/
def execute (a : WordArray) (op : Interface.Operation) (args : Arguments) :
    Except Error Reply × WordArray :=
  match a.answer op args with
  | .ok (reply, a) => (.ok reply, a)
  | .error e => (.error e, a)

/-- The register device on the file of an array. -/
def registers (a : WordArray) : Registers := ⟨a.window⟩

theorem find_eq_ok_iff {a : WordArray} {offset : UInt32} {count place : Nat} :
    a.find offset count = .ok place ↔ a.place? offset.toNat count = some place := by
  rw [find]
  cases a.place? offset.toNat count <;> simp

theorem head?_load {a : WordArray} {place : Nat} (h : place < a.words.length) :
    (a.load place 1).head? = some (a.words.getD place 0) := by
  rw [load, List.take_one, List.head?_drop, List.getElem?_eq_getElem h, Option.toList_some,
    List.head?_cons, List.getD_eq_getElem _ _ h]

variable (a : WordArray) (op : Interface.Operation)

theorem readWords_registers (offset : UInt32) (count : Nat) :
    a.registers.readWords op offset count =
      ((a.find offset count).map (a.load · count)).mapError (.device "Registers" op.name) := by
  rw [Registers.readWords, registers, readWords?_window, find]
  cases a.place? offset.toNat count <;> rfl

theorem writeWords_registers (offset : UInt32) (new : List UInt32) :
    a.registers.writeWords op offset new =
      ((a.find offset new.length).map fun place =>
        (Reply.none, (a.store place new).registers)).mapError (.device "Registers" op.name) := by
  rw [Registers.writeWords, registers, writeWords?_window, find]
  cases a.place? offset.toNat new.length <;> rfl

theorem update_registers (args : Arguments) {f : UInt32 → UInt32 → UInt32} {g : Bool → Bool}
    (h : ∀ index word : UInt32, index.toNat < 32 → f word (1 <<< index) = changeBit index g word) :
    a.registers.update op args f =
      (((do return .changeBit (← args.word "offset") (← args.word "index") g) >>= fun access =>
        (a.perform access).mapError (.device "Registers" op.name)) :
          Except Error (Reply × WordArray)).map fun (reply, a) => (reply, a.registers) := by
  rw [Registers.update]
  cases args.word "offset" with
  | error e => rfl
  | ok offset =>
  cases args.word "index" with
  | error e => rfl
  | ok index =>
  by_cases hindex : 32 ≤ index
  · simp only [bind, Except.bind, pure, Except.pure, perform, if_pos hindex]
    rfl
  · have hsmall : index.toNat < 32 := by
      rw [UInt32.le_iff_toNat_le] at hindex
      exact Nat.lt_of_not_le hindex
    simp only [bind, Except.bind, pure, Except.pure, perform, find, if_neg hindex, Window.read?,
      Window.write?, registers, readWords?_window, writeWords?_window, List.length_singleton]
    cases hplace : a.place? offset.toNat 1 with
    | none => rfl
    | some place =>
      have hinside : place < a.words.length := (place?_eq_some_iff.1 hplace).2
      simp only [Option.map_some, Option.bind_some, head?_load hinside, h index _ hsmall]
      rfl

theorem answer_registers (args : Arguments) :
    a.registers.answer op args = (a.answer op args).map fun (reply, a) => (reply, a.registers) := by
  rw [Registers.answer]
  -- the operations in the order of the declaration
  split
  all_goals rw [answer, Access.ofCall]
  · next hname =>
    simp only [hname]
    cases args.word "offset" with
    | error e => rfl
    | ok offset =>
    simp only [bind, Except.bind, pure, Except.pure, readWords_registers, hname, perform]
    cases hfind : a.find offset 1 with
    | error e => rfl
    | ok place =>
      have hinside : place < a.words.length := (place?_eq_some_iff.1 (find_eq_ok_iff.1 hfind)).2
      have hhead : (a.load place 1).headD 0 = a.words.getD place 0 := by
        rw [List.headD_eq_head?_getD, head?_load hinside, Option.getD_some]
      simp only [Except.map, Except.mapError, hhead]
  · next hname =>
    simp only [hname]
    cases args.word "offset" with
    | error e => rfl
    | ok offset =>
    cases args.word "value" with
    | error e => rfl
    | ok value =>
    simp only [bind, Except.bind, pure, Except.pure, writeWords_registers, hname, perform,
      List.length_singleton]
    cases a.find offset 1 <;> rfl
  · next hname =>
    simpa only [hname] using update_registers a op args fun index word h => or_mask h word
  · next hname =>
    simpa only [hname] using update_registers a op args fun index word h => and_not_mask h word
  · next hname =>
    simpa only [hname] using update_registers a op args fun index word h => xor_mask h word
  · next hname =>
    simp only [hname]
    cases args.word "offset" with
    | error e => rfl
    | ok offset =>
    cases args.values .u32 "data" with
    | error e => rfl
    | ok data =>
    simp only [bind, Except.bind, pure, Except.pure, writeWords_registers, hname, perform]
    cases a.find offset (data.map fun s => UInt32.ofNat s.bits).length <;> rfl
  · next hname =>
    simp only [hname]
    cases args.word "offset" with
    | error e => rfl
    | ok offset =>
    cases args.word "len" with
    | error e => rfl
    | ok count =>
    simp only [bind, Except.bind, pure, Except.pure, readWords_registers, hname, perform]
    cases a.find offset count.toNat <;> rfl
  · next hname =>
    simp only [hname]
    rfl
  · next hread hwrite hset hclear htoggle hwrites hreads hsize =>
    split <;> first | contradiction | rfl

theorem execute_registers (args : Arguments) :
    a.registers.execute op args =
      ((a.execute op args).1, (a.execute op args).2.registers) := by
  rw [Registers.execute, execute, answer_registers]
  cases a.answer op args <;> rfl

end WordArray

/-! ### Runs -/

/-- What is done with a file that may hold a window. -/
inductive WindowEvent where
  | «open» (size : Nat)
  | call (op : Interface.Operation) (args : Arguments)

/-- What comes of it. -/
inductive WindowAnswer where
  | opened (result : Except SystemError Unit)
  | replied (result : Except Error Reply)
  /-- No window is open. -/
  | absent

/-- Whether something was refused. -/
def WindowAnswer.IsFailure : WindowAnswer → Prop
  | opened result => ∃ e, result = .error e
  | replied result => ∃ e, result = .error e
  | absent => True

namespace Backing

/-- What one event comes to. -/
def step (b : Backing) : WindowEvent → WindowAnswer × Backing
  | .open size => (.opened ((b.open size).1.map fun _ => ()), (b.open size).2)
  | .call op args =>
    match b with
    | .mapped w =>
      let (reply, r) := Device.execute (⟨w⟩ : Registers) op args
      (.replied reply, .mapped r.window)
    | b => (.absent, b)

/-- What events come to, one after the other. -/
def run (b : Backing) : List WindowEvent → List WindowAnswer × Backing
  | [] => ([], b)
  | event :: events =>
    let (answer, b) := b.step event
    let (answers, b) := b.run events
    (answer :: answers, b)

theorem file?_step_of_isFailure {b : Backing} {event : WindowEvent}
    (h : (b.step event).1.IsFailure) : (b.step event).2.file? = b.file? := by
  cases event with
  | «open» size =>
    obtain ⟨e, he⟩ := h
    simp only [step, Backing.open] at he ⊢
    split at he
    · cases he
    · exact file?_close b
  | call op args =>
    cases b with
    | missing | closed file => rfl
    | mapped w =>
      obtain ⟨e, he⟩ := h
      have hreply : (Registers.execute ⟨w⟩ op args).1 = .error e := he
      have hkept : (Registers.execute ⟨w⟩ op args).2 = ⟨w⟩ :=
        Registers.execute_of_error (Prod.ext hreply rfl)
      exact congrArg (fun r : Registers => some r.window.file) hkept

end Backing

/-- The array that a file holds, if it holds one, and whether a window is open on it. -/
inductive Shown where
  | missing
  | closed (array : WordArray)
  | mapped (array : WordArray)

namespace Shown

/-- The array. -/
def array? : Shown → Option WordArray
  | missing => none
  | closed a | mapped a => some a

/-- The array without a window on it. -/
def close : Shown → Shown
  | missing => .missing
  | closed a | mapped a => .closed a

/-- What one event comes to. -/
def step (s : Shown) : WindowEvent → WindowAnswer × Shown
  | .open size =>
    match WordArray.reopen s.array? size with
    | .ok a => (.opened (.ok ()), .mapped a)
    | .error e => (.opened (.error e), s.close)
  | .call op args =>
    match s with
    | .mapped a => (.replied (a.execute op args).1, .mapped (a.execute op args).2)
    | s => (.absent, s)

/-- What events come to, one after the other. -/
def run (s : Shown) : List WindowEvent → List WindowAnswer × Shown
  | [] => ([], s)
  | event :: events =>
    let (answer, s) := s.step event
    let (answers, s) := s.run events
    (answer :: answers, s)

/-- The file that holds the array. -/
def backing : Shown → Backing
  | missing => .missing
  | closed a => .closed a.file
  | mapped a => .mapped a.window

theorem file?_backing (s : Shown) : s.backing.file? = s.array?.map WordArray.file := by
  cases s <;> rfl

theorem close_backing (s : Shown) : s.backing.close = s.close.backing := by
  cases s <;> rfl

theorem open_backing (s : Shown) (size : Nat) :
    s.backing.open size =
      match WordArray.reopen s.array? size with
      | .ok a => (.ok a.window, (Shown.mapped a).backing)
      | .error e => (.error e, s.close.backing) := by
  have hfile : s.backing.file?.getD [] = WordArray.fileOf s.array? := by
    rw [file?_backing]
    cases s <;> rfl
  rw [Backing.open, hfile, WordArray.open_fileOf, close_backing]
  cases WordArray.reopen s.array? size <;> rfl

theorem step_backing (s : Shown) (event : WindowEvent) :
    s.backing.step event = ((s.step event).1, (s.step event).2.backing) := by
  cases event with
  | «open» size =>
    rw [Backing.step, step, open_backing]
    cases WordArray.reopen s.array? size <;> rfl
  | call op args =>
    cases s with
    | missing | closed a => rfl
    | mapped a =>
      have h : Device.execute (⟨a.window⟩ : Registers) op args =
          ((a.execute op args).1, (a.execute op args).2.registers) := a.execute_registers op args
      simp only [backing, Backing.step, step, h]
      rfl

theorem run_backing (s : Shown) (events : List WindowEvent) :
    s.backing.run events = ((s.run events).1, (s.run events).2.backing) := by
  induction events generalizing s with
  | nil => rfl
  | cons event events ih =>
    simp only [Backing.run, run, step_backing, ih]

end Shown

namespace Backing

/-- From no file on, every run answers as the run of an array does, the file is the file of that
array with its header intact, and whatever is refused leaves the file as it is. -/
theorem run_missing (events : List WindowEvent) :
    missing.run events =
        ((Shown.missing.run events).1, (Shown.missing.run events).2.backing) ∧
      (∀ file, (missing.run events).2.file? = some file →
        ∃ size, file.take Window.headerSize = Window.header size ∧
          file.length = Window.headerSize + size) ∧
      (∀ w, (missing.run events).2.window? = some w → w.isValid) ∧
      ∀ event, ((missing.run events).2.step event).1.IsFailure →
        ((missing.run events).2.step event).2.file? = (missing.run events).2.file? := by
  have hrun : missing.run events =
      ((Shown.missing.run events).1, (Shown.missing.run events).2.backing) :=
    Shown.run_backing .missing events
  refine ⟨hrun, ?_, ?_, fun event h => file?_step_of_isFailure h⟩
  · intro file hfile
    rw [hrun, Shown.file?_backing] at hfile
    obtain ⟨a, -, rfl⟩ := Option.map_eq_some_iff.1 hfile
    exact ⟨a.size, a.take_file, a.length_file⟩
  · intro w hw
    rw [hrun] at hw
    cases hshown : (Shown.missing.run events).2 with
    | missing | closed a => rw [hshown] at hw; cases hw
    | mapped a =>
      rw [hshown] at hw
      cases hw
      exact a.isValid_window

end Backing

end Instrument
