import Instrument.Error
import Instrument.Text.Utf8
import Instrument.Wire.Scalar

/-!
A connection with a buffer for bytes that have arrived and were not asked for yet. Bytes arrive in
chunks, as the network cuts them; what a receiver gets does not depend on the cuts. Bytes that are
consumed stay in the buffer until the next chunk arrives, and the search for a marker goes on where
it came to an end before that. Main statements: consuming takes the next bytes that are unread, and
a chunk comes behind them.
-/

namespace Instrument.Network

/-- What happens on the stream: bytes arrive, or nothing does until a wait is over. -/
inductive Arrival where
  | chunk (bytes : Bytes)
  | pause
deriving DecidableEq, Repr

/-- How long a receiver waits. -/
inductive Patience where
  | unbounded
  /-- A time in milliseconds, and what the receiver calls that it waits for. -/
  | bounded (milliseconds : Nat) (marker : String)
deriving DecidableEq, Repr

/-- Bytes that have arrived; those in front of the position are consumed. -/
structure ReadBuffer where
  position : Nat
  bytes : Bytes
  position_le : position ≤ bytes.length
deriving DecidableEq, Repr

namespace ReadBuffer

/-- A buffer to which nothing has arrived. -/
def empty : ReadBuffer := ⟨0, [], Nat.zero_le _⟩

/-- The bytes that are not consumed. -/
def unread (b : ReadBuffer) : Bytes := b.bytes.drop b.position

/-- The buffer with a chunk behind the unread bytes; the consumed ones are given up. -/
def fill (b : ReadBuffer) (chunk : Bytes) : ReadBuffer := ⟨0, b.unread ++ chunk, Nat.zero_le _⟩

/-- Consumes the next `n` bytes, if that many are unread. -/
def take? (n : Nat) (b : ReadBuffer) : Option (Bytes × ReadBuffer) :=
  if h : b.position + n ≤ b.bytes.length then
    some (b.unread.take n, ⟨b.position + n, b.bytes, h⟩)
  else none

/-- The place where a marker begins for the first time. -/
def find? (marker : Bytes) : Bytes → Option Nat
  | [] => if marker.isEmpty then some 0 else none
  | b :: bs => if marker.isPrefixOf (b :: bs) then some 0 else (find? marker bs).map (· + 1)

/-- Consumes what comes before a marker and the marker; only the first is given out. If the first
`seen` unread bytes are known to hold no marker, one that begins among them can only begin in the
last of them, fewer than it is long. -/
def takeUntil? (marker : Bytes) (seen : Nat) (b : ReadBuffer) : Option (Bytes × ReadBuffer) := do
  let start := seen - (marker.length - 1)
  let place ← find? marker (b.unread.drop start)
  let (taken, rest) ← b.take? (start + place + marker.length)
  return (taken.take (start + place), rest)

@[simp] theorem unread_fill (b : ReadBuffer) (chunk : Bytes) :
    (b.fill chunk).unread = b.unread ++ chunk := rfl

theorem take?_eq (b : ReadBuffer) (n : Nat) :
    (b.take? n).map (fun (taken, rest) => (taken, rest.unread)) = Wire.split? n b.unread := by
  have hle := b.position_le
  simp only [take?, Wire.split?, unread, List.length_take, List.length_drop]
  split
  · rw [if_pos (by omega)]
    simp [List.drop_drop]
  · rw [if_neg (by omega)]
    rfl

end ReadBuffer

/-- One end of a stream. -/
structure Connection where
  input : ReadBuffer := .empty
  arriving : List Arrival := []
  /-- Whether the stream ends after what is arriving. -/
  closed : Bool := false
  /-- All bytes that were sent. -/
  sent : Bytes := []
deriving DecidableEq, Repr

/-- The most bytes that arrive in one chunk. -/
def chunkSize : Nat := 65536

/-- Bytes as the largest chunks that there can be. -/
def chunks (bs : Bytes) : List Arrival :=
  if _h : bs = [] then []
  else .chunk (bs.take chunkSize) :: chunks (bs.drop chunkSize)
termination_by bs.length
decreasing_by
  have := List.length_pos_iff.2 _h
  simp only [List.length_drop, chunkSize]
  omega

/-- The bytes that some arrivals bring. -/
def Arrival.flatten (arriving : List Arrival) : Bytes :=
  arriving.flatMap fun
    | .chunk bytes => bytes
    | .pause => []

@[simp] theorem Arrival.flatten_nil : flatten [] = [] := rfl

@[simp] theorem Arrival.flatten_chunk (bytes : Bytes) (arriving : List Arrival) :
    flatten (.chunk bytes :: arriving) = bytes ++ flatten arriving := rfl

@[simp] theorem Arrival.flatten_pause (arriving : List Arrival) :
    flatten (.pause :: arriving) = flatten arriving := rfl

namespace Connection

/-- A stream that brings some bytes and then ends, or stays open. -/
def ofBytes (incoming : Bytes) (closed : Bool) : Connection :=
  { arriving := chunks incoming, closed := closed }

/-- The bytes that are there and not consumed. -/
def buffer (c : Connection) : Bytes := c.input.unread

/-- All bytes that are there or arrive. -/
def pending (c : Connection) : Bytes := c.buffer ++ Arrival.flatten c.arriving

/-- The connection after more bytes were sent to it; bytes that have not arrived yet arrive
together. -/
def deliver (c : Connection) (bytes : Bytes) : Connection :=
  { c with arriving := chunks (Arrival.flatten c.arriving ++ bytes) }

/-- The connection after bytes were sent through it. -/
def send (c : Connection) (bytes : Bytes) : Connection := { c with sent := c.sent ++ bytes }

/-- Lets bytes arrive until what is looked for is found in the buffer; `look` is told how many of
the unread bytes it has seen in vain. A bounded wait of no time at all lets nothing arrive. -/
def gather {α : Type} (patience : Patience)
    (look : Nat → ReadBuffer → Option (α × ReadBuffer)) (closed : Bool) :
    List Arrival → Nat → ReadBuffer → Except Error α × ReadBuffer × List Arrival
  | arriving, seen, buffer =>
    match look seen buffer with
    | some (found, rest) => (.ok found, rest, arriving)
    | none =>
      let seen := buffer.unread.length
      match patience, arriving with
      | .bounded 0 marker, arriving => (.error (.timeout marker 0), buffer, arriving)
      | _, .chunk bytes :: rest => gather patience look closed rest seen (buffer.fill bytes)
      | .unbounded, .pause :: rest => gather patience look closed rest seen buffer
      | .bounded ms marker, .pause :: rest => (.error (.timeout marker ms), buffer.fill [], rest)
      | .unbounded, [] => (.error .connectionBroken, buffer.fill [], [])
      | .bounded ms marker, [] =>
        (.error (if closed then .connectionBroken else .timeout marker ms), buffer.fill [], [])

/-- Receives what is looked for. After a failure the buffer holds all that has arrived. -/
def receive {α : Type} (c : Connection) (patience : Patience)
    (look : Nat → ReadBuffer → Option (α × ReadBuffer)) : Except Error α × Connection :=
  let (result, input, arriving) := gather patience look c.closed c.arriving 0 c.input
  (result, { c with input := input, arriving := arriving })

/-- Receives a number of bytes. -/
def exactly (c : Connection) (n : Nat) : Except Error Bytes × Connection :=
  c.receive .unbounded fun _ => ReadBuffer.take? n

/-- Receives a number of bytes within a time. -/
def exactlyWithin (c : Connection) (n milliseconds : Nat) : Except Error Bytes × Connection :=
  c.receive (.bounded milliseconds "reply") fun _ => ReadBuffer.take? n

/-- Receives a 32-bit number, the highest byte first. -/
def word (c : Connection) : Except Error UInt32 × Connection :=
  (c.exactly 4).map (·.map fun bs => UInt32.ofNat (Wire.valueBE bs)) id

/-- Receives what comes before a marker, within a time; the marker is taken too. -/
def untilMarker (c : Connection) (marker : Bytes) (milliseconds : Nat) :
    Except Error Bytes × Connection :=
  c.receive (.bounded milliseconds (String.ofList (Text.ofUtf8Lossy marker)))
    (ReadBuffer.takeUntil? marker)

theorem flatten_chunks (bs : Bytes) : Arrival.flatten (chunks bs) = bs := by
  fun_induction chunks bs with
  | case1 => rfl
  | case2 bs _ ih => rw [Arrival.flatten_chunk, ih, List.take_append_drop]

theorem pending_deliver (c : Connection) (bytes : Bytes) :
    (c.deliver bytes).pending = c.pending ++ bytes := by
  simp [pending, buffer, deliver, flatten_chunks]

end Connection

end Instrument.Network
