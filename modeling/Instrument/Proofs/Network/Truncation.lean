import Instrument.Device.Scripted
import Instrument.Proofs.Call.Interruption
import Instrument.Proofs.Envelope
import Instrument.Proofs.Network.Activity

/-!
Streams that end within a call. Main statements: complete calls are served one after the other,
each by what comes after the one before; of a call that is cut off nothing is executed, but the
session ends there only if less than a header has come of the piece that is cut off.
-/

namespace Instrument

open Dialogue (Reaches)

namespace Network

/-! ### Reading commands -/

theorem nextCommand_eq_ended_iff {incoming : Bytes} :
    nextCommand incoming = .ended ↔ incoming.length < EnvelopeHeader.size := by
  rw [nextCommand, ← Wire.split?_eq_none_iff]
  cases Wire.split? EnvelopeHeader.size incoming with
  | none => simp
  | some split =>
    simp only [reduceCtorEq, iff_false]
    split
    · simp
    · split <;> simp

theorem nextCommand_of_toBytes_append {header : EnvelopeHeader}
    (hmax : header.payloadSize.toNat ≤ EnvelopeHeader.maxPayload) (rest : Bytes) :
    nextCommand (header.toBytes ++ rest) =
      (Wire.split? header.payloadSize.toNat rest).elim (.invalid .connectionBroken)
        fun split => .command ⟨header, split.1⟩ split.2 := by
  have hsplit : Wire.split? EnvelopeHeader.size (header.toBytes ++ rest) =
      some (header.toBytes, rest) := Wire.split?_eq_some_iff.2 ⟨header.length_toBytes, rfl⟩
  simp only [nextCommand, hsplit, EnvelopeHeader.ofBytes_toBytes hmax]
  cases Wire.split? header.payloadSize.toNat rest <;> rfl

/-- A whole command is read as itself, whatever follows it. -/
theorem nextCommand_of_isWhole {c : Command} (h : c.IsWhole) (rest : Bytes) :
    nextCommand (c.toBytes ++ rest) = .command c rest := by
  have hsplit : Wire.split? c.header.payloadSize.toNat (c.payload ++ rest) =
      some (c.payload, rest) := Wire.split?_eq_some_iff.2 ⟨h.1.symm, rfl⟩
  rw [Command.toBytes, List.append_assoc, nextCommand_of_toBytes_append (h.1 ▸ h.2), hsplit,
    Option.elim_some]

/-- A command that ends within its payload is none. -/
theorem nextCommand_of_cut_payload {c : Command} (h : c.IsWhole) {cut tail rest : Bytes}
    (hcut : c.toBytes ++ tail = cut ++ rest) (hheader : EnvelopeHeader.size ≤ cut.length)
    (hpayload : cut.length < c.toBytes.length) :
    nextCommand cut = .invalid .connectionBroken := by
  obtain ⟨more, rfl⟩ : ∃ more, cut = c.header.toBytes ++ more := by
    rw [Command.toBytes, List.append_assoc] at hcut
    have htake := congrArg (List.take c.header.toBytes.length) hcut
    rw [List.take_left, EnvelopeHeader.length_toBytes, List.take_append_of_le_length hheader]
      at htake
    have hsplit := List.take_append_drop EnvelopeHeader.size cut
    rw [← htake] at hsplit
    exact ⟨_, hsplit.symm⟩
  have hshort : more.length < c.header.payloadSize.toNat := by
    rw [Command.toBytes, List.length_append, List.length_append] at hpayload
    rw [h.1]
    omega
  rw [nextCommand_of_toBytes_append (h.1 ▸ h.2), Wire.split?_eq_none_iff.2 hshort,
    Option.elim_none]

namespace Hub

variable {δ : Type} [Device δ] {id : Nat} {hub hub' : Hub δ}

/-! ### Complete calls -/

/-- What a command asks for and what passes for it after the envelope, until its arguments are read
or cannot be. -/
structure IsCall (hub : Hub δ) (c : Command) (place : Option Nat) (site : CallSite)
    (t : Transcript) (args : Except Error Arguments) : Prop where
  route : hub.route c.header = .call place site
  completes : (site.decode site.operation.layout c.payload).run.Completes
    (hub.accept place site.operation) t args

/-- A session takes just these bytes for one command: they are a command that leads nowhere, or a
call that is executed. -/
inductive Takes (id : Nat) (hub : Hub δ) : Bytes → Hub δ → Prop
  | refused {c : Command} {text : String} (hc : c.IsWhole)
      (hroute : hub.route c.header = .refused text) :
      Takes id hub c.toBytes ((hub.countRequest id).update id (·.fail text))
  | call {c : Command} {place : Option Nat} {site : CallSite} {t : Transcript}
      {args : Except Error Arguments} {hub' : Hub δ} (hc : c.IsWhole)
      (hcall : hub.IsCall c place site t args)
      (hfinish : ((hub.countRequest id).update id (·.send (acknowledgements t.counts))).finish id
        place site args = (hub', none)) :
      Takes id hub (c.toBytes ++ t.bytes) hub'

/-- A session takes just these bytes for some commands in a row. -/
inductive TakesAll (id : Nat) : Hub δ → Bytes → Hub δ → Prop
  | nil (hub : Hub δ) : TakesAll id hub [] hub
  | cons {hub hub' hub'' : Hub δ} {bs bs' : Bytes} (hfirst : Takes id hub bs hub')
      (hrest : TakesAll id hub' bs' hub'') : TakesAll id hub (bs ++ bs') hub''

theorem serve_of_ended {incoming : Bytes} (hnext : nextCommand incoming = .ended) :
    hub.serve id incoming = hub.close id := by
  rw [serve]
  split
  · rfl
  · next h => rw [hnext] at h; cases h
  · next h => rw [hnext] at h; cases h

theorem serve_of_invalid {incoming : Bytes} {e : Error} (hnext : nextCommand incoming = .invalid e) :
    hub.serve id incoming = hub.abort id "" e := by
  rw [serve]
  split
  · next h => rw [hnext] at h; cases h
  · next h => rw [hnext] at h; cases h; rfl
  · next h => rw [hnext] at h; cases h

theorem serve_of_refused {incoming rest : Bytes} {c : Command} {text : String}
    (hnext : nextCommand incoming = .command c rest) (hroute : hub.route c.header = .refused text) :
    hub.serve id incoming = ((hub.countRequest id).update id (·.fail text)).serve id rest := by
  rw [serve]
  split
  · next h => rw [hnext] at h; cases h
  · next h => rw [hnext] at h; cases h
  · next h =>
    rw [hnext] at h
    cases h
    rw [hroute]

theorem serve_of_call {incoming rest : Bytes} {c : Command} {place : Option Nat}
    {site : CallSite} (hnext : nextCommand incoming = .command c rest)
    (hroute : hub.route c.header = .call place site) {args : Except Error Arguments}
    {rest' : Bytes} {read finished : Hub δ}
    (hread : (hub.countRequest id).readCall id place site c.payload rest = (args, rest', read))
    (hfinish : read.finish id place site args = (finished, none)) :
    hub.serve id incoming = finished.serve id rest' := by
  rw [serve]
  split
  · next h => rw [hnext] at h; cases h
  · next h => rw [hnext] at h; cases h
  · next h =>
    rw [hnext] at h
    cases h
    rw [hroute]
    simp only [hread, hfinish]

/-- After one command the session goes on with what follows it. -/
theorem serve_of_takes {bs : Bytes} (h : Takes id hub bs hub') (rest : Bytes) :
    hub.serve id (bs ++ rest) = hub'.serve id rest := by
  cases h with
  | refused hc hroute => exact serve_of_refused (nextCommand_of_isWhole hc rest) hroute
  | @call c place site t args hub' hc hcall hfinish =>
    obtain ⟨asked, hrun⟩ := Dialogue.run_of_completes hcall.completes rest
    have hread : (hub.countRequest id).readCall id place site c.payload (t.bytes ++ rest) =
        (args, rest, (hub.countRequest id).update id (·.send (acknowledgements t.counts))) := by
      have haccept : (hub.countRequest id).accept place site.operation =
          hub.accept place site.operation := rfl
      rw [readCall, haccept, hrun]
    rw [List.append_assoc]
    exact serve_of_call (nextCommand_of_isWhole hc _) hcall.route hread hfinish

/-- Complete calls are served in their order, and then what follows them. -/
theorem serve_of_takesAll {bs : Bytes} (h : TakesAll id hub bs hub') (rest : Bytes) :
    hub.serve id (bs ++ rest) = hub'.serve id rest := by
  induction h with
  | nil => rfl
  | cons hfirst _ ih => rw [List.append_assoc, serve_of_takes hfirst, ih]

/-! ### A call that is cut off -/

/-- A session has given up a call: its elements were acknowledged and it is logged as failed, but
nothing is executed. -/
def giveUp (hub : Hub δ) (id : Nat) (acknowledged : List UInt32) (e : Error) : Hub δ :=
  ((hub.countRequest id).update id (·.send (acknowledgements acknowledged))).update id
    (·.fail e.message)

omit [Device δ] in
theorem fleet_giveUp (hub : Hub δ) (id : Nat) (acknowledged : List UInt32) (e : Error) :
    (hub.giveUp id acknowledged e).fleet = hub.fleet := rfl

/-- A call that gives up for a missing piece fails, and the session goes on. -/
theorem finish_of_isMissing (hub : Hub δ) (place : Option Nat) {site : CallSite} {e : Error}
    (he : site.IsMissing e) :
    hub.finish id place site (.error e) = (hub.update id (·.fail e.message), none) := by
  cases he <;> rfl

/-- A session that gives up a call goes on with what has come of the missing piece. -/
theorem serve_of_cut (id : Nat) {c : Command} (hc : c.IsWhole) {place : Option Nat} {site : CallSite}
    {t : Transcript} {args : Except Error Arguments} (hcall : hub.IsCall c place site t args)
    {cut rest : Bytes} (hcut : t.bytes = cut ++ rest) (hrest : rest ≠ []) :
    ∃ t' size next left e,
      Reaches (hub.accept place site.operation)
        (site.decode site.operation.layout c.payload).run t' (.load size next) ∧
      cut = t'.bytes ++ left ∧ left.length < size ∧ site.IsMissing e ∧
      hub.serve id (c.toBytes ++ cut) = (hub.giveUp id t'.counts e).serve id left := by
  obtain ⟨t', size, next, left, e, asked, hreaches, hbytes, hleft, he, hrun⟩ :=
    Dialogue.run_of_cut (CallSite.givesUp_decode _ _) hcall.completes hcut hrest
  refine ⟨t', size, next, left, e, hreaches, hbytes, hleft, he, ?_⟩
  have hread : (hub.countRequest id).readCall id place site c.payload cut =
      (.error e, left,
        (hub.countRequest id).update id (·.send (acknowledgements t'.counts))) := by
    have haccept : (hub.countRequest id).accept place site.operation =
        hub.accept place site.operation := rfl
    rw [readCall, haccept, hrun]
  exact serve_of_call (nextCommand_of_isWhole hc cut) hcall.route hread
    (finish_of_isMissing _ place he)

/-- A session ends with what is left just if no header can be read from it. -/
theorem serve_eq_close_iff {s : SessionInfo} (hs : hub.registry.find? id = some s) {left : Bytes} :
    hub.serve id left = hub.close id ↔ left.length < EnvelopeHeader.size := by
  rw [← nextCommand_eq_ended_iff]
  constructor
  · intro hclose
    refine Decidable.byContradiction fun hne => ?_
    obtain ⟨s', hs', hgain⟩ := (gains_serve hub left).2 hne s hs
    obtain ⟨s'', hs'', hactivity⟩ := activity_close hs
    rw [hclose, hs''] at hs'
    cases hs'
    omega
  · exact serve_of_ended

omit [Device δ] in
/-- A session counts a call that fails without an answer, and is sent the numbers of elements. -/
theorem find?_giveUp_eq {s : SessionInfo} (hs : hub.registry.find? id = some s)
    (acknowledged : List UInt32) (e : Error) :
    (hub.giveUp id acknowledged e).registry.find? id =
      some (({ s with requests := s.requests + 1 }.send (acknowledgements acknowledged)).fail
        e.message) := by
  have hcounted := Registry.find?_countRequest hs
  have hsent := Registry.find?_update (f := (·.send (acknowledgements acknowledged)))
    (fun _ => rfl) hcounted
  exact Registry.find?_update (f := (·.fail e.message)) (fun _ => rfl) hsent

omit [Device δ] in
theorem find?_giveUp {s : SessionInfo} (hs : hub.registry.find? id = some s)
    (acknowledged : List UInt32) (e : Error) :
    ∃ s', (hub.giveUp id acknowledged e).registry.find? id = some s' :=
  ⟨_, find?_giveUp_eq hs acknowledged e⟩

/-- A stream that ends within a call. The complete calls before it are served in their order. If the
stream ends within the header or the payload, the session ends there. If it ends later, the call
fails and nothing is executed for it, but the session goes on with what has come of the missing
piece, and ends there just if that is less than a header. -/
theorem serve_of_truncated {calls : Bytes} (hcalls : TakesAll id hub calls hub') {c : Command}
    (hc : c.IsWhole) {s : SessionInfo} (hs : hub'.registry.find? id = some s)
    {tail cut rest : Bytes} (hcut : c.toBytes ++ tail = cut ++ rest) (hrest : rest ≠ []) :
    (cut.length < EnvelopeHeader.size → hub.serve id (calls ++ cut) = hub'.close id) ∧
    (EnvelopeHeader.size ≤ cut.length → cut.length < c.toBytes.length →
      hub.serve id (calls ++ cut) = hub'.abort id "" .connectionBroken) ∧
    (c.toBytes.length ≤ cut.length →
      ∀ (place : Option Nat) (site : CallSite) (t : Transcript) (args : Except Error Arguments),
        tail = t.bytes → hub'.IsCall c place site t args →
        ∃ t' size next left e,
          Reaches (hub'.accept place site.operation)
            (site.decode site.operation.layout c.payload).run t' (.load size next) ∧
          cut = c.toBytes ++ t'.bytes ++ left ∧ left.length < size ∧ site.IsMissing e ∧
          hub.serve id (calls ++ cut) = (hub'.giveUp id t'.counts e).serve id left ∧
          (hub.serve id (calls ++ cut) = (hub'.giveUp id t'.counts e).close id ↔
            left.length < EnvelopeHeader.size)) := by
  simp only [serve_of_takesAll hcalls]
  refine ⟨fun hlen => serve_of_ended (nextCommand_eq_ended_iff.2 hlen), fun hheader hpayload =>
    serve_of_invalid (nextCommand_of_cut_payload hc hcut hheader hpayload), ?_⟩
  rintro hlen place site t args rfl hcall
  -- the cut falls behind the command, in what the call still reads
  obtain ⟨more, rfl⟩ : ∃ more, cut = c.toBytes ++ more := by
    have htake := congrArg (List.take c.toBytes.length) hcut
    rw [List.take_left, List.take_append_of_le_length hlen] at htake
    have hsplit := List.take_append_drop c.toBytes.length cut
    rw [← htake] at hsplit
    exact ⟨_, hsplit.symm⟩
  rw [List.append_assoc] at hcut
  obtain ⟨t', size, next, left, e, hreaches, rfl, hleft, he, hserve⟩ :=
    serve_of_cut id hc hcall (List.append_cancel_left hcut) hrest
  obtain ⟨s', hs'⟩ := find?_giveUp hs t'.counts e
  refine ⟨t', size, next, left, e, hreaches, (List.append_assoc ..).symm, hleft, he, hserve, ?_⟩
  rw [hserve]
  exact serve_eq_close_iff hs'

/-! ### A pump whose bytes are cut off -/

/-- A pump takes bytes. -/
def pumpTake : Interface.Operation where
  name := "take"
  tag := "TAKE"
  id := 0
  resultType := "void"
  result := .void
  mode := .write
  arguments := [⟨"data", "std::vector<uint8_t>", true, true, .vector .u8⟩]
  buffer? := none
  lengthExpression? := none
  line := 3

/-- A pump answers. -/
def pumpPing : Interface.Operation where
  name := "ping"
  tag := "PING"
  id := 1
  resultType := "uint8_t"
  result := .scalar .u8
  mode := .read
  arguments := []
  buffer? := none
  lengthExpression? := none
  line := 4

/-- A server with a pump and with one session. -/
def pumpHub : Hub Scripted where
  fleet := ⟨⟨[⟨"Pump", "PUMP", 2, [pumpTake, pumpPing], none⟩]⟩,
    [{ Scripted.bare "" with
        script := [("take", .reply .none),
          ("ping", .reply (.scalar (Wire.Scalar.ofBits .u8 7)))] }], rfl⟩
  registry := { sessions := [{ id := 9, kind := .unix, peer := "unix", registered := true }] }

/-- The pump is to answer. -/
def pingCommand : Command := ⟨⟨2, 1, 0⟩, []⟩

/-- The pump is to take a hundred bytes. -/
def takeCommand : Command := ⟨⟨2, 0, 8⟩, [0, 0, 0, 0, 0, 0, 0, 100]⟩

/-- The hundred bytes begin like the other command. -/
def takenBytes : Bytes := pingCommand.toBytes ++ List.replicate 88 0

/-- The pump has answered. -/
def pingedHub : Hub Scripted :=
  (((pumpHub.countRequest 9).update 9 (·.send [])).finish 9 (some 0) ⟨"Pump", pumpPing⟩ (.ok [])).1

theorem isWhole_takeCommand : takeCommand.IsWhole := by decide

theorem takesAll_pingCommand : TakesAll 9 pumpHub pingCommand.toBytes pingedHub := by
  have hcall : pumpHub.IsCall pingCommand (some 0) ⟨"Pump", pumpPing⟩ [] (.ok []) := ⟨rfl, .refl _⟩
  have hfirst : Takes 9 pumpHub (pingCommand.toBytes ++ []) pingedHub := .call (by decide) hcall rfl
  simpa using TakesAll.cons hfirst (.nil _)

theorem isCall_takeCommand {hub : Hub Scripted}
    (hroute : hub.route takeCommand.header = .call (some 0) ⟨"Pump", pumpTake⟩) :
    hub.IsCall takeCommand (some 0) ⟨"Pump", pumpTake⟩
      (.ready 100 :: Transcript.ofBytes takenBytes) (.ok [("data", .vector ⟨.u8, takenBytes, rfl⟩)]) :=
  ⟨hroute, .acknowledge (.load takenBytes (.refl _))⟩

/-- Twelve bytes of the hundred have come, so that the session does not end there. -/
theorem serve_of_truncated_pump :
    ∃ t' size next left e,
      Reaches (pingedHub.accept (some 0) pumpTake)
        ((⟨"Pump", pumpTake⟩ : CallSite).decode pumpTake.layout takeCommand.payload).run t'
        (.load size next) ∧
      takeCommand.toBytes ++ pingCommand.toBytes = takeCommand.toBytes ++ t'.bytes ++ left ∧
      left.length < size ∧ (⟨"Pump", pumpTake⟩ : CallSite).IsMissing e ∧
      pumpHub.serve 9 (pingCommand.toBytes ++ (takeCommand.toBytes ++ pingCommand.toBytes)) =
        (pingedHub.giveUp 9 t'.counts e).serve 9 left ∧
      (pumpHub.serve 9 (pingCommand.toBytes ++ (takeCommand.toBytes ++ pingCommand.toBytes)) =
        (pingedHub.giveUp 9 t'.counts e).close 9 ↔ left.length < EnvelopeHeader.size) := by
  have hrest : List.replicate 88 (0 : UInt8) ≠ [] := by decide
  have hbytes : takenBytes =
      Transcript.bytes (.ready 100 :: Transcript.ofBytes takenBytes) :=
    (Transcript.bytes_ofBytes takenBytes).symm
  have hcut : takeCommand.toBytes ++ takenBytes =
      takeCommand.toBytes ++ pingCommand.toBytes ++ List.replicate 88 0 :=
    (List.append_assoc ..).symm
  exact (serve_of_truncated takesAll_pingCommand isWhole_takeCommand (s := _) rfl hcut hrest).2.2
    (by decide) (some 0) ⟨"Pump", pumpTake⟩ _ _ hbytes (isCall_takeCommand rfl)

/-- Those twelve bytes are executed as the command that they look like. -/
theorem executes_truncated_pump :
    pumpHub.IsCall takeCommand (some 0) ⟨"Pump", pumpTake⟩
      (.ready 100 :: Transcript.ofBytes takenBytes)
      (.ok [("data", .vector ⟨.u8, takenBytes, rfl⟩)]) ∧
    takeCommand.toBytes ++ takenBytes =
      takeCommand.toBytes ++ pingCommand.toBytes ++ List.replicate 88 0 ∧
    ((pumpHub.serve 9 (takeCommand.toBytes ++ pingCommand.toBytes)).registry.find? 9).map
      (fun s => (s.requests, s.output)) = some (2, [0, 0, 0, 100, 7]) :=
  ⟨isCall_takeCommand rfl, (List.append_assoc ..).symm, by decide +kernel⟩

end Hub

end Network

end Instrument
