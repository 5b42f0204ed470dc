import Instrument.Proofs.Network.Stream

/-!
A connection as a queue of bytes. Callers ask it for bytes, for numbers, and for what comes before a
marker, in any order. Main statement: each gets what a reader of the list of all bytes would take
from its front, or gets nothing and leaves the list as it is; and who gets what depends on the bytes
and on the places where nothing arrives for long, not on how the bytes are cut.
-/

namespace Instrument.Network

open Wire (split? bytesBE valueBE)

/-! ### Demands -/

/-- What a caller can ask a connection for. -/
inductive Demand where
  /-- A number of bytes, be it as a list of their own or for a place of that size. -/
  | exactly (n : Nat)
  | exactlyWithin (n milliseconds : Nat)
  /-- A 32-bit number, the highest byte first. -/
  | word
  /-- What comes before a marker. -/
  | untilMarker (marker : Bytes) (milliseconds : Nat)
deriving DecidableEq, Repr

/-- What a caller gets. -/
inductive Received where
  | bytes (bytes : Bytes)
  | word (n : UInt32)
deriving DecidableEq, Repr

namespace Demand

/-- How long the caller waits. -/
def patience : Demand → Patience
  | exactly _ | word => .unbounded
  | exactlyWithin _ milliseconds => .bounded milliseconds "reply"
  | untilMarker marker milliseconds =>
    .bounded milliseconds (String.ofList (Text.ofUtf8Lossy marker))

/-- Whether the caller waits at all. -/
def Waits (d : Demand) : Prop := ∀ marker, d.patience ≠ .bounded 0 marker

/-- What a reader takes from the front of a list of bytes, and what it leaves. What comes before a
marker ends where the marker occurs first. -/
inductive Takes : Demand → Bytes → Received → Bytes → Prop where
  | exactly (taken rest : Bytes) :
    Takes (.exactly taken.length) (taken ++ rest) (.bytes taken) rest
  | exactlyWithin (taken rest : Bytes) (milliseconds : Nat) :
    Takes (.exactlyWithin taken.length milliseconds) (taken ++ rest) (.bytes taken) rest
  | word (n : UInt32) (rest : Bytes) : Takes .word (bytesBE 4 n.toNat ++ rest) (.word n) rest
  | untilMarker {marker before rest : Bytes} (milliseconds : Nat)
      (hfirst : ∀ i < before.length, ¬marker <+: (before ++ marker ++ rest).drop i) :
    Takes (.untilMarker marker milliseconds) (before ++ marker ++ rest) (.bytes before) rest

/-- What is found for a demand at the front of some bytes, and what follows it. -/
def find : Demand → Bytes → Option (Received × Bytes)
  | exactly n, bs | exactlyWithin n _, bs => (split? n bs).map (Prod.map .bytes id)
  | word, bs => (split? 4 bs).map (Prod.map (fun bs => .word (UInt32.ofNat (valueBE bs))) id)
  | untilMarker marker _, bs => (Connection.splitAt? marker bs).map (Prod.map .bytes id)

theorem find_eq_some_iff {d : Demand} {bs rest : Bytes} {got : Received} :
    d.find bs = some (got, rest) ↔ d.Takes bs got rest := by
  constructor
  · intro h
    cases d with
    | exactly n | exactlyWithin n milliseconds =>
      obtain ⟨⟨taken, _⟩, hsplit, heq⟩ := Option.map_eq_some_iff.1 h
      obtain ⟨rfl, rfl⟩ := Prod.mk.inj heq
      obtain ⟨rfl, rfl⟩ := Wire.split?_eq_some_iff.1 hsplit
      constructor
    | word =>
      obtain ⟨⟨taken, left⟩, hsplit, heq⟩ := Option.map_eq_some_iff.1 h
      obtain ⟨rfl, rfl⟩ := Prod.mk.inj heq
      obtain ⟨hlen, rfl⟩ := Wire.split?_eq_some_iff.1 hsplit
      have hlt : valueBE taken < UInt32.size := by
        have := Wire.valueBE_lt taken
        rwa [hlen] at this
      have htaken : bytesBE 4 (UInt32.ofNat (valueBE taken)).toNat = taken := by
        rw [UInt32.toNat_ofNat_of_lt' hlt, Wire.bytesBE_valueBE_of_length hlen]
      have hword := Takes.word (UInt32.ofNat (valueBE taken)) left
      rwa [htaken] at hword
    | untilMarker marker milliseconds =>
      obtain ⟨⟨before, _⟩, hsplit, heq⟩ := Option.map_eq_some_iff.1 h
      obtain ⟨rfl, rfl⟩ := Prod.mk.inj heq
      obtain ⟨rfl, hfirst⟩ := Connection.splitAt?_eq_some.1 hsplit
      exact .untilMarker milliseconds hfirst
  · intro h
    cases h with
    | exactly | exactlyWithin => simp [find, Connection.split?_append]
    | word n =>
      have hsplit := Connection.split?_append (bytesBE 4 n.toNat) rest
      rw [Wire.length_bytesBE] at hsplit
      have hvalue : valueBE (bytesBE 4 n.toNat) = n.toNat :=
        Wire.valueBE_bytesBE_of_lt n.toNat_lt
      simp [find, hsplit, hvalue]
    | untilMarker milliseconds hfirst =>
      rw [find, Connection.splitAt?_eq_some.2 ⟨rfl, hfirst⟩]
      rfl

theorem find_eq_none_iff {d : Demand} {bs : Bytes} :
    d.find bs = none ↔ ∀ got rest, ¬d.Takes bs got rest := by
  simp only [← find_eq_some_iff, Option.eq_none_iff_forall_ne_some, Prod.forall, ne_eq]

end Demand

namespace Connection

/-- Serves one demand. -/
def serve (c : Connection) : Demand → Except Error Received × Connection
  | .exactly n => (c.exactly n).map (·.map .bytes) id
  | .exactlyWithin n milliseconds => (c.exactlyWithin n milliseconds).map (·.map .bytes) id
  | .word => c.word.map (·.map .word) id
  | .untilMarker marker milliseconds => (c.untilMarker marker milliseconds).map (·.map .bytes) id

/-- Serves demands, each from where the one before has left the connection. -/
def serveAll (c : Connection) : List Demand → List (Except Error Received) × Connection
  | [] => ([], c)
  | d :: ds =>
    let (result, c) := c.serve d
    let (results, c) := c.serveAll ds
    (result :: results, c)

theorem Outcome.map {α β : Type} {find : Bytes → Option (α × Bytes)} {patience : Patience}
    {closed : Bool} {arriving : List Arrival} {all left : Bytes} {result : Except Error α}
    (f : α → β) (h : Outcome find patience closed arriving all result left) :
    Outcome (fun bs => (find bs).map (Prod.map f id)) patience closed arriving all (result.map f)
      left := by
  cases h with
  | found h => exact .found (by rw [h]; rfl)
  | ended h => exact .ended (by rw [h]; rfl)
  | timedOut hbound h =>
    refine .timedOut hbound (h.imp_right (.imp_right fun ⟨hclosed, hnone⟩ => ⟨hclosed, ?_⟩))
    rw [hnone]
    rfl

theorem fst_word (c : Connection) :
    (c.serve .word).1 = (c.receive .unbounded fun _ => ReadBuffer.take? 4).1.map
      fun bs => .word (UInt32.ofNat (valueBE bs)) := by
  simp only [serve, word, exactly, Prod.map_fst]
  cases (c.receive .unbounded fun _ => ReadBuffer.take? 4).1 <;> rfl

theorem outcome_serve (c : Connection) (d : Demand) :
    Outcome d.find d.patience c.closed c.arriving c.pending (c.serve d).1 (c.serve d).2.pending := by
  cases d with
  | exactly n => exact (outcome_receive (finds_take? n) c _).map _
  | exactlyWithin n milliseconds => exact (outcome_receive (finds_take? n) c _).map _
  | word =>
    rw [fst_word]
    exact (outcome_receive (finds_take? 4) c _).map _
  | untilMarker marker milliseconds =>
    exact (outcome_receive (finds_takeUntil? marker) c _).map _

theorem suffix_serve (c : Connection) (d : Demand) :
    (c.serve d).2.arriving <:+ c.arriving := by
  cases d <;> exact suffix_gather

/-- What becomes of demands that are made of a list of bytes, one after the other, and what is left
of the list. A demand that fails leaves the list as it is: the list ends too early, or the caller
does not wait until the bytes are there; `pauses` tells whether that can be. -/
inductive Serves (pauses : Prop) :
    List Demand → Bytes → List (Except Error Received) → Bytes → Prop where
  | nil (bs : Bytes) : Serves pauses [] bs [] bs
  | taken {d : Demand} {ds : List Demand} {bs rest left : Bytes} {got : Received}
      {results : List (Except Error Received)} (h : d.Takes bs got rest)
      (hrest : Serves pauses ds rest results left) :
    Serves pauses (d :: ds) bs (.ok got :: results) left
  | ended {d : Demand} {ds : List Demand} {bs left : Bytes}
      {results : List (Except Error Received)} (h : ∀ got rest, ¬d.Takes bs got rest)
      (hrest : Serves pauses ds bs results left) :
    Serves pauses (d :: ds) bs (.error .connectionBroken :: results) left
  | timedOut {d : Demand} {ds : List Demand} {bs left : Bytes} {milliseconds : Nat}
      {marker : String} {results : List (Except Error Received)}
      (hbound : d.patience = .bounded milliseconds marker)
      (h : milliseconds = 0 ∨ pauses ∨ ∀ got rest, ¬d.Takes bs got rest)
      (hrest : Serves pauses ds bs results left) :
    Serves pauses (d :: ds) bs (.error (.timeout marker milliseconds) :: results) left

theorem serves_serveAll {pauses : Prop} (ds : List Demand) {c : Connection}
    (hpauses : .pause ∈ c.arriving → pauses) :
    Serves pauses ds c.pending (c.serveAll ds).1 (c.serveAll ds).2.pending := by
  induction ds generalizing c with
  | nil => exact .nil _
  | cons d ds ih =>
    have houtcome := outcome_serve c d
    have hrest := ih (c := (c.serve d).2) fun hmem => hpauses ((suffix_serve c d).subset hmem)
    simp only [serveAll]
    generalize (c.serve d).1 = result at houtcome ⊢
    generalize (c.serve d).2.pending = left at houtcome hrest
    cases houtcome with
    | found h => exact .taken (Demand.find_eq_some_iff.1 h) hrest
    | ended h => exact .ended (Demand.find_eq_none_iff.1 h) hrest
    | timedOut hbound h =>
      refine .timedOut hbound (h.imp_right (Or.imp hpauses ?_)) hrest
      exact fun ⟨_, hnone⟩ => Demand.find_eq_none_iff.1 hnone

end Connection

/-! ### Chunks -/

/-- The bytes that arrive before the first pause, and those that arrive after each pause. -/
def Arrival.bursts : List Arrival → Bytes × List Bytes
  | [] => ([], [])
  | .chunk bytes :: arriving => (bytes ++ (bursts arriving).1, (bursts arriving).2)
  | .pause :: arriving => ([], (bursts arriving).1 :: (bursts arriving).2)

namespace Connection

/-- The bytes that are there or arrive, taken apart at the pauses only. -/
def bursts (c : Connection) : Bytes × List Bytes :=
  (c.buffer ++ (Arrival.bursts c.arriving).1, (Arrival.bursts c.arriving).2)

/-- Lets bursts arrive until what is looked for is found. -/
def gatherBursts {α : Type} (patience : Patience) (find : Bytes → Option (α × Bytes))
    (closed : Bool) : Bytes → List Bytes → Except Error α × Bytes × List Bytes
  | now, later =>
    match find now with
    | some (found, rest) => (.ok found, rest, later)
    | none =>
      match patience, later with
      | .unbounded, next :: later => gatherBursts patience find closed (now ++ next) later
      | .bounded ms marker, next :: later => (.error (.timeout marker ms), now ++ next, later)
      | .unbounded, [] => (.error .connectionBroken, now, [])
      | .bounded ms marker, [] =>
        (.error (if closed then .connectionBroken else .timeout marker ms), now, [])

section

variable {α : Type} {look : Nat → ReadBuffer → Option (α × ReadBuffer)}
  {find : Bytes → Option (α × Bytes)} {patience : Patience} {closed : Bool}
  {arriving : List Arrival} {seen : Nat} {buffer : ReadBuffer}

/-- A receiver that waits gathers bursts, whatever the chunks are that they are made of. -/
theorem gather_eq_gatherBursts (h : Finds look find) (hseen : Unfound find seen buffer)
    (hwaits : ∀ marker, patience ≠ .bounded 0 marker) :
    ((gather patience look closed arriving seen buffer).1,
      (gather patience look closed arriving seen buffer).2.1.unread ++
        (Arrival.bursts (gather patience look closed arriving seen buffer).2.2).1,
      (Arrival.bursts (gather patience look closed arriving seen buffer).2.2).2) =
    gatherBursts patience find closed (buffer.unread ++ (Arrival.bursts arriving).1)
      (Arrival.bursts arriving).2 := by
  -- what was seen holds no match, so a search of the whole buffer finds what the next look finds
  fun_induction gather patience look closed arriving seen buffer with
  | case1 arriving seen buffer a rest hlook =>
    rw [gatherBursts.eq_def]
    simp only [h.stable _ (h.find_eq_some hseen hlook)]
  | case2 seen buffer hlook marker arriving hbound => exact absurd hbound (hwaits marker)
  | case3 seen buffer hlook _ bytes rest _ ih =>
    rw [ih (h.unfound_fill hseen hlook bytes), ReadBuffer.unread_fill, List.append_assoc]
    rfl
  | case4 seen buffer hlook _ rest hbound ih =>
    subst hbound
    rw [ih (h.unfound_unread hseen hlook), gatherBursts.eq_def .unbounded find closed
      (buffer.unread ++ (Arrival.bursts (.pause :: rest)).1)]
    simp only [Arrival.bursts, List.append_nil, h.find_eq_none hseen hlook]
  | case5 seen buffer hlook milliseconds marker rest _ hbound =>
    subst hbound
    rw [gatherBursts.eq_def]
    simp only [Arrival.bursts, List.append_nil, h.find_eq_none hseen hlook, ReadBuffer.unread_fill]
  | case6 seen buffer hlook hbound =>
    subst hbound
    rw [gatherBursts.eq_def]
    simp only [Arrival.bursts, List.append_nil, h.find_eq_none hseen hlook, ReadBuffer.unread_fill]
  | case7 seen buffer hlook milliseconds marker _ hbound =>
    subst hbound
    rw [gatherBursts.eq_def]
    simp only [Arrival.bursts, List.append_nil, h.find_eq_none hseen hlook, ReadBuffer.unread_fill]

/-- A receiver that waits gets what there is in the bursts. -/
theorem receive_eq_gatherBursts (h : Finds look find) (c : Connection)
    (hwaits : ∀ marker, patience ≠ .bounded 0 marker) :
    ((c.receive patience look).1, (c.receive patience look).2.bursts) =
      gatherBursts patience find c.closed c.bursts.1 c.bursts.2 :=
  gather_eq_gatherBursts h (.inl rfl) hwaits

end

/-- Whether two connections differ in nothing but the chunks in which bytes arrive and, with that,
in what has arrived already. -/
structure IsRecut (c c' : Connection) : Prop where
  bursts : c.bursts = c'.bursts
  closed : c.closed = c'.closed

namespace IsRecut

variable {c c' : Connection}

theorem receive (h : c.IsRecut c') {α : Type} {look : Nat → ReadBuffer → Option (α × ReadBuffer)}
    {find : Bytes → Option (α × Bytes)} (hfinds : Finds look find) {patience : Patience}
    (hwaits : ∀ marker, patience ≠ .bounded 0 marker) :
    (c.receive patience look).1 = (c'.receive patience look).1 ∧
      (c.receive patience look).2.IsRecut (c'.receive patience look).2 := by
  have heq := receive_eq_gatherBursts hfinds c hwaits
  rw [h.bursts, h.closed, ← receive_eq_gatherBursts hfinds c' hwaits] at heq
  obtain ⟨hresult, hleft⟩ := Prod.mk.inj heq
  exact ⟨hresult, hleft, h.closed⟩

theorem serve (h : c.IsRecut c') {d : Demand} (hwaits : d.Waits) :
    (c.serve d).1 = (c'.serve d).1 ∧ (c.serve d).2.IsRecut (c'.serve d).2 := by
  cases d with
  | exactly n | exactlyWithin n milliseconds =>
    obtain ⟨hresult, hleft⟩ := h.receive (finds_take? n) hwaits
    exact ⟨congrArg (Except.map Received.bytes) hresult, hleft⟩
  | word =>
    obtain ⟨hresult, hleft⟩ := h.receive (finds_take? 4) hwaits
    refine ⟨?_, hleft⟩
    rw [fst_word, fst_word]
    exact congrArg _ hresult
  | untilMarker marker milliseconds =>
    obtain ⟨hresult, hleft⟩ := h.receive (finds_takeUntil? marker) hwaits
    exact ⟨congrArg (Except.map Received.bytes) hresult, hleft⟩

theorem serveAll (h : c.IsRecut c') {ds : List Demand} (hwaits : ∀ d ∈ ds, d.Waits) :
    (c.serveAll ds).1 = (c'.serveAll ds).1 ∧ (c.serveAll ds).2.IsRecut (c'.serveAll ds).2 := by
  induction ds generalizing c c' with
  | nil => exact ⟨rfl, h⟩
  | cons d ds ih =>
    rw [List.forall_mem_cons] at hwaits
    obtain ⟨hresult, hleft⟩ := h.serve hwaits.1
    obtain ⟨hresults, hrest⟩ := ih hleft hwaits.2
    exact ⟨List.cons_eq_cons.2 ⟨hresult, hresults⟩, hrest⟩

end IsRecut

/-- A connection is a queue: whatever is asked of it, in any order, is taken from the front of the
bytes that are there or arrive, or fails and leaves them as they are. How the bytes are cut changes
nothing, provided that the callers wait at all. -/
theorem serveAll_queue (c : Connection) (ds : List Demand) :
    Serves (.pause ∈ c.arriving) ds c.pending (c.serveAll ds).1 (c.serveAll ds).2.pending ∧
      ∀ c', c.IsRecut c' → (∀ d ∈ ds, d.Waits) →
        (c.serveAll ds).1 = (c'.serveAll ds).1 ∧ (c.serveAll ds).2.IsRecut (c'.serveAll ds).2 :=
  ⟨serves_serveAll ds id, fun _ hrecut hwaits => hrecut.serveAll hwaits⟩

/-- A stream that comes in four chunks, with a marker that lies across three of them and begins
anew inside itself. -/
def cutStream : Connection where
  arriving := [.chunk [9, 1], .chunk [1, 1], .chunk [2, 0], .chunk [0, 1, 0]]
  closed := true

/-- The same stream in one piece. -/
def wholeStream : Connection where
  arriving := [.chunk [9, 1, 1, 1, 2, 0, 0, 1, 0]]
  closed := true

/-- What is asked of the stream; there are fewer than five bytes behind the marker. -/
def streamDemands : List Demand := [.untilMarker [1, 1, 2] 1000, .exactlyWithin 5 1000, .word]

/-- The same is received from the stream in chunks and in one piece. -/
theorem serveAll_queue_cutStream :
    wholeStream.IsRecut cutStream ∧ (∀ d ∈ streamDemands, d.Waits) ∧
      (wholeStream.serveAll streamDemands).1 =
        [.ok (.bytes [9, 1]), .error .connectionBroken, .ok (.word 256)] ∧
      (wholeStream.serveAll streamDemands).2.pending = [] := by
  have hrecut : wholeStream.IsRecut cutStream := ⟨rfl, rfl⟩
  have hwaits : ∀ d ∈ streamDemands, d.Waits := by
    simp [streamDemands, Demand.Waits, Demand.patience]
  obtain ⟨hresults, -⟩ := (serveAll_queue wholeStream streamDemands).2 cutStream hrecut hwaits
  exact ⟨hrecut, hwaits, hresults.trans rfl, rfl⟩

end Connection

end Instrument.Network
