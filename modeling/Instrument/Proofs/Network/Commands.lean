import Instrument.Proofs.Network.Stream
import Instrument.Proofs.Network.Truncation
import Instrument.Proofs.Success

/-!
Commands in a row. A session takes one command after the other from its connection, in whatever
pieces the bytes arrive. Main statement: envelopes that follow one another are read as the commands
that they were made of; if the row is cut off anywhere, just the commands before the cut are read,
and the stream has ended in a header or is broken in a payload.
-/

namespace Instrument

open Wire (split?)

namespace Network

/-! ### One command -/

namespace Connection

variable {c : Connection}

/-- Bytes that do not come are waited for until the stream is at its end. -/
theorem exactly_of_split?_eq_none {n : Nat} (h : split? n c.pending = none) :
    ∃ c', c.exactly n = (.error .connectionBroken, c') := by
  have houtcome := outcome_receive (finds_take? n) c .unbounded
  rcases hreceive : c.exactly n with ⟨result, c'⟩
  rw [exactly] at hreceive
  rw [hreceive] at houtcome
  dsimp only at houtcome
  generalize c'.pending = left at houtcome
  cases houtcome with
  | found hfind => rw [h] at hfind; cases hfind
  | ended => exact ⟨c', rfl⟩
  | timedOut hbound => cases hbound

theorem exactly_of_split?_eq_some {n : Nat} {taken rest : Bytes}
    (h : split? n c.pending = some (taken, rest)) :
    ∃ c', c.exactly n = (.ok taken, c') ∧ c'.pending = rest := by
  obtain ⟨rfl, hpending⟩ := Wire.split?_eq_some_iff.1 h
  exact exactly_of_pending hpending

/-- The next command does not depend on the pieces in which the bytes arrive, and what follows it
stays. -/
theorem readCommand_eq (c : Connection) :
    ∃ c', c.readCommand = ((nextCommand c.pending).result, c') ∧
      ∀ command rest, nextCommand c.pending = .command command rest → c'.pending = rest := by
  rw [readCommand, nextCommand]
  cases hheader : split? EnvelopeHeader.size c.pending with
  | none =>
    obtain ⟨c', hexactly⟩ := exactly_of_split?_eq_none hheader
    rw [hexactly]
    exact ⟨c', rfl, fun _ _ h => by cases h⟩
  | some split =>
    obtain ⟨raw, rest⟩ := split
    obtain ⟨c', hexactly, hpending⟩ := exactly_of_split?_eq_some hheader
    rw [hexactly]
    cases hraw : EnvelopeHeader.ofBytes raw with
    | error e =>
      simp only [hraw]
      exact ⟨c', rfl, fun _ _ h => by cases h⟩
    | ok header =>
      simp only [hraw]
      cases hpayload : split? header.payloadSize.toNat rest with
      | none =>
        obtain ⟨c'', hexactly'⟩ := exactly_of_split?_eq_none (hpending ▸ hpayload)
        rw [hexactly']
        exact ⟨c'', rfl, fun _ _ h => by cases h⟩
      | some split =>
        obtain ⟨payload, left⟩ := split
        obtain ⟨c'', hexactly', hleft⟩ := exactly_of_split?_eq_some (hpending ▸ hpayload)
        rw [hexactly']
        refine ⟨c'', rfl, fun _ _ h => ?_⟩
        cases h
        exact hleft

/-! ### Commands until the end -/

/-- The commands that come out of a connection when one is read after the other, and the error that
ends this, if it is not the end of the stream. -/
inductive Reads : Connection → List Command → Option Error → Prop
  | ended {c c' : Connection} (h : c.readCommand = (.ok none, c')) : Reads c [] none
  | failed {c c' : Connection} {e : Error} (h : c.readCommand = (.error e, c')) :
    Reads c [] (some e)
  | command {c c' : Connection} {command : Command} {commands : List Command}
      {ending : Option Error} (h : c.readCommand = (.ok (some command), c'))
      (hrest : Reads c' commands ending) : Reads c (command :: commands) ending

/-- How a stream ends of which so many bytes are left behind the last whole command: in a header, or
broken in a payload. -/
def cutEnding (left : Nat) : Option Error :=
  if left < EnvelopeHeader.size then none else some .connectionBroken

theorem reads_of_nextCommand {command : Command} {rest : Bytes} {commands : List Command}
    {ending : Option Error} (hnext : nextCommand c.pending = .command command rest)
    (hrest : ∀ c' : Connection, c'.pending = rest → c'.Reads commands ending) :
    c.Reads (command :: commands) ending := by
  obtain ⟨c', hread, hpending⟩ := readCommand_eq c
  rw [hnext] at hread
  exact .command hread (hrest c' (hpending command rest hnext))

theorem reads_nil (hc : c.pending = []) : c.Reads [] none := by
  obtain ⟨c', hread, -⟩ := readCommand_eq c
  rw [hc] at hread
  exact .ended hread

/-- Commands in a row are read one after the other. -/
theorem reads_of_isWhole {commands : List Command} (hwhole : ∀ command ∈ commands, command.IsWhole)
    (hc : c.pending = commands.flatMap Command.toBytes) : c.Reads commands none := by
  induction commands generalizing c with
  | nil => exact reads_nil hc
  | cons command commands ih =>
    rw [List.forall_mem_cons] at hwhole
    rw [List.flatMap_cons] at hc
    exact reads_of_nextCommand (hc ▸ nextCommand_of_isWhole hwhole.1 _) fun c' hc' => ih hwhole.2 hc'

/-- A stream without a whole command ends in a header or breaks in a payload. -/
theorem reads_of_cut {command : Command} (hwhole : command.IsWhole) {tail rest : Bytes}
    (hcut : command.toBytes ++ tail = c.pending ++ rest)
    (hlen : c.pending.length < command.toBytes.length) :
    c.Reads [] (cutEnding c.pending.length) := by
  obtain ⟨c', hread, -⟩ := readCommand_eq c
  rw [cutEnding]
  split
  · next hheader =>
    rw [nextCommand_eq_ended_iff.2 hheader] at hread
    exact .ended hread
  · next hheader =>
    rw [nextCommand_of_cut_payload hwhole hcut (Nat.not_lt.1 hheader) hlen] at hread
    exact .failed hread

/-- Of commands in a row that are cut off, the whole ones are read. The induction is on the commands,
with a connection of its own for what follows each of them. -/
theorem exists_reads_of_cut {commands : List Command} (hwhole : ∀ command ∈ commands, command.IsWhole)
    {cut rest : Bytes} (hcut : commands.flatMap Command.toBytes = cut ++ rest) :
    ∃ n ≤ commands.length,
      (∀ i < commands.length,
        i < n ↔ ((commands.take (i + 1)).flatMap Command.toBytes).length ≤ cut.length) ∧
      ∀ c : Connection, c.pending = cut → c.Reads (commands.take n)
        (cutEnding (cut.length - ((commands.take n).flatMap Command.toBytes).length)) := by
  induction commands generalizing cut with
  | nil =>
    obtain ⟨rfl, -⟩ := List.append_eq_nil_iff.1 hcut.symm
    exact ⟨0, Nat.le_refl 0, fun i hi => absurd hi (Nat.not_lt_zero i), fun c hc => reads_nil hc⟩
  | cons command commands ih =>
    rw [List.forall_mem_cons] at hwhole
    rw [List.flatMap_cons] at hcut
    by_cases hlen : command.toBytes.length ≤ cut.length
    · obtain ⟨cut, rfl⟩ : command.toBytes <+: cut :=
        List.prefix_of_prefix_length_le ⟨_, hcut⟩ ⟨_, rfl⟩ hlen
      rw [List.append_assoc] at hcut
      obtain ⟨n, hn, hcount, hreads⟩ := ih hwhole.2 (List.append_cancel_left hcut)
      refine ⟨n + 1, Nat.succ_le_succ hn, fun i hi => ?_, fun c hc => ?_⟩
      · cases i with
        | zero => simp
        | succ i =>
          rw [List.take_succ_cons, List.flatMap_cons, List.length_append, List.length_append,
            Nat.add_le_add_iff_left, ← hcount i (Nat.lt_of_succ_lt_succ hi),
            Nat.add_lt_add_iff_right]
      · rw [List.take_succ_cons, List.flatMap_cons, List.length_append, List.length_append,
          Nat.add_sub_add_left]
        exact reads_of_nextCommand (hc ▸ nextCommand_of_isWhole hwhole.1 cut) hreads
    -- the cut falls inside the first command
    · rw [Nat.not_le] at hlen
      refine ⟨0, Nat.zero_le _, fun i _ => ?_, fun c hc => ?_⟩
      · rw [List.take_succ_cons, List.flatMap_cons, List.length_append]
        omega
      · rw [List.take_zero, List.flatMap_nil, List.length_nil, Nat.sub_zero, ← hc]
        exact reads_of_cut hwhole.1 (hc ▸ hcut) (hc ▸ hlen)

/-! ### Envelopes -/

/-- Envelopes are written for payloads that are not too large and for no others. In a row they are
read as the commands that they were made of, and after a cut as those before it: command `i` is among
them if its envelope ends before the cut. A session makes the same of the bytes as such a reader,
and a header that it accepts is the only one with its values. -/
theorem reads_envelopes :
    (∀ messages : List (UInt16 × UInt16 × Bytes),
      (∀ m ∈ messages, m.2.2.length ≤ EnvelopeHeader.maxPayload) →
      ∃ envelopes, messages.mapM (fun m => envelope m.1 m.2.1 m.2.2) = .ok envelopes ∧
        (∀ c : Connection, c.pending = envelopes.flatten →
          c.Reads (messages.map fun m => .of m.1 m.2.1 m.2.2) none) ∧
        ∀ cut, cut <+: envelopes.flatten →
          ∃ n ≤ messages.length,
            (∀ i < messages.length, i < n ↔ (envelopes.take (i + 1)).flatten.length ≤ cut.length) ∧
            ∀ c : Connection, c.pending = cut →
              c.Reads ((messages.map fun m => .of m.1 m.2.1 m.2.2).take n)
                (cutEnding (cut.length - (envelopes.take n).flatten.length))) ∧
      (∀ c : Connection, c.readCommand.1 = (nextCommand c.pending).result) ∧
      (∀ device operation payload, EnvelopeHeader.maxPayload < payload.length →
        envelope device operation payload = .error (.payloadTooLarge payload.length)) ∧
      ∀ bytes header, bytes.length = EnvelopeHeader.size →
        EnvelopeHeader.ofBytes bytes = .ok header → header.toBytes = bytes := by
  refine ⟨fun messages hmessages => ?_, fun c => ?_,
    fun device operation payload hlarge => if_pos hlarge,
    fun bytes header hlen hok => EnvelopeHeader.toBytes_of_ofBytes hlen hok⟩
  · have hwhole : ∀ command ∈ messages.map fun m => Command.of m.1 m.2.1 m.2.2,
        command.IsWhole := by
      intro command hcommand
      obtain ⟨m, hm, rfl⟩ := List.mem_map.1 hcommand
      exact Command.isWhole_of (hmessages m hm)
    have hwritten : messages.mapM (fun m => envelope m.1 m.2.1 m.2.2) =
        .ok ((messages.map fun m => Command.of m.1 m.2.1 m.2.2).map Command.toBytes) := by
      rw [List.map_map]
      exact Success.mapM_eq_ok fun m hm => envelope_of_le (hmessages m hm)
    have hlength : (messages.map fun m => Command.of m.1 m.2.1 m.2.2).length = messages.length :=
      List.length_map ..
    rw [← hlength]
    -- from here on only commands matter, each of them whole
    generalize messages.map (fun m => Command.of m.1 m.2.1 m.2.2) = commands at hwhole hwritten ⊢
    refine ⟨commands.map Command.toBytes, hwritten, fun c hc => ?_, ?_⟩
    · rw [← List.flatMap_def] at hc
      exact reads_of_isWhole hwhole hc
    · rintro cut ⟨rest, hcut⟩
      rw [← List.flatMap_def] at hcut
      simp only [← List.map_take, ← List.flatMap_def]
      exact exists_reads_of_cut hwhole hcut.symm
  · obtain ⟨c', hread, -⟩ := readCommand_eq c
    rw [hread]

/-- What three envelopes are made of. -/
def threeMessages : List (UInt16 × UInt16 × Bytes) := [(2, 0, [7, 9]), (3, 1, []), (2, 1, [5])]

/-- The envelopes up to the payload of the third, in pieces. -/
def brokenStream : Connection where
  arriving := [.chunk [0, 0, 0, 0, 0], .chunk [2, 0, 0, 0, 0, 0, 2, 7], .pause,
    .chunk [9, 0, 0, 0, 0, 0, 3, 0, 1, 0, 0, 0, 0, 0, 0, 0, 0, 0], .chunk [2, 0, 1, 0, 0, 0, 1]]
  closed := true

/-- The first two commands are read, and nothing of the third. -/
theorem reads_envelopes_brokenStream :
    (∀ m ∈ threeMessages, m.2.2.length ≤ EnvelopeHeader.maxPayload) ∧
      brokenStream.Reads [.of 2 0 [7, 9], .of 3 1 []] (some .connectionBroken) := by
  have hmessages : ∀ m ∈ threeMessages, m.2.2.length ≤ EnvelopeHeader.maxPayload := by decide
  obtain ⟨envelopes, hwritten, -, hcuts⟩ := reads_envelopes.1 threeMessages hmessages
  obtain rfl : envelopes = [[0, 0, 0, 0, 0, 2, 0, 0, 0, 0, 0, 2, 7, 9],
      [0, 0, 0, 0, 0, 3, 0, 1, 0, 0, 0, 0], [0, 0, 0, 0, 0, 2, 0, 1, 0, 0, 0, 1, 5]] :=
    Except.ok.inj (hwritten.symm.trans rfl)
  obtain ⟨n, hn, hcount, hreads⟩ := hcuts brokenStream.pending (by decide)
  have hsecond : 1 < n := (hcount 1 (by decide)).2 (by decide)
  have hthird : ¬2 < n := fun h => absurd ((hcount 2 (by decide)).1 h) (by decide)
  obtain rfl : n = 2 := by omega
  exact ⟨hmessages, hreads brokenStream rfl⟩

end Connection

end Network

end Instrument
