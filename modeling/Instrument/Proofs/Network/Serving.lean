import Instrument.Network.Server
import Instrument.Proofs.Network.Lockstep
import Instrument.Proofs.Network.Truncation

/-!
A server of which one session handles a call while all others wait. Main statement: the session
takes the bytes of the call as they come and tells the numbers of elements that are due, as the
dialogue of the call has them; if the call fails, it has changed nothing else when it listens again.
-/

namespace Instrument

open Dialogue (Awaits Completes)
open Transcript (ofBytes)

/-! ### Dialogues that stop -/

namespace Dialogue

variable {α : Type} {accept : Arguments → Nat → Nat}

/-- More bytes are to be taken than there are. -/
inductive Lacks : Dialogue α → Bytes → Prop
  | load {size : Nat} {next : Option Bytes → Dialogue α} {bs : Bytes} (h : bs.length < size) :
      Lacks (.load size next) bs

/-- A dialogue that is not finished stops for lack of bytes. -/
theorem advance_cases (accept : Arguments → Nat → Nat) (d : Dialogue α) (c : Channel) :
    (∃ result, (d.advance accept false c).1 = .done result) ∨
      Lacks (d.advance accept false c).1 (d.advance accept false c).2.incoming := by
  induction d generalizing c with
  | done result => exact .inl ⟨result, rfl⟩
  | load size next ih =>
    simp only [advance]
    split
    · exact ih _ _
    · next hsplit => exact .inr (.load (Wire.split?_eq_none_iff.1 hsplit))
  | acknowledge count next ih =>
    simp only [advance]
    split <;> exact ih _ _
  | consent arguments requested next ih => exact ih _ _

/-- A dialogue that lacks bytes stays where it is. -/
theorem advance_of_lacks {d : Dialogue α} {c : Channel} (h : Lacks d c.incoming) :
    d.advance accept false c = (d, c) := by
  generalize hbs : c.incoming = bs at h
  cases h with
  | load h =>
    have hsplit := Wire.split?_eq_none_iff.2 (hbs ▸ h)
    simp [advance, hsplit]

/-- A dialogue that lacked bytes and does not any more takes some. -/
theorem length_advance_lt {d : Dialogue α} {bs : Bytes} (h : Lacks d bs) {c : Channel}
    (hc : ¬ Lacks d c.incoming) :
    (d.advance accept false c).2.incoming.length < c.incoming.length := by
  cases h with
  | @load size next _ h =>
    rcases hsplit : Wire.split? size c.incoming with _ | ⟨taken, rest⟩
    · exact absurd (.load (Wire.split?_eq_none_iff.1 hsplit)) hc
    · obtain ⟨hlen, hincoming⟩ := Wire.split?_eq_some_iff.1 hsplit
      have hle := length_advance_le accept false (next (some taken)) { c with incoming := rest }
      have htotal := congrArg List.length hincoming
      rw [List.length_append] at htotal
      simp only [advance, hsplit]
      exact Nat.lt_of_le_of_lt hle (by simp only; omega)

/-- Nothing is left of a transcript when a dialogue is done. -/
theorem eq_of_awaits_done {r result : α} {bs : Bytes} {t : Transcript}
    (h : Awaits accept (.done r) bs t result) : r = result ∧ bs = [] ∧ t = [] := by
  have hcompletes := h.completes
  generalize hu : ofBytes bs ++ t = u at hcompletes
  unfold Completes at hcompletes
  cases hcompletes
  obtain ⟨hbs, rfl⟩ := List.append_eq_nil_iff.1 hu
  exact ⟨rfl, List.map_eq_nil_iff.1 hbs, rfl⟩

/-- A dialogue that tells one number before it takes a byte waits for this byte. -/
theorem advance_of_completes_ready {d : Dialogue α} {result : α} {count : UInt32} {b : UInt8}
    {bytes : Bytes} (h : d.Completes accept (.ready count :: ofBytes (b :: bytes)) result) :
    ∃ d' asked, d.advance accept false { incoming := [] } =
        (d', { incoming := [], acknowledged := [count], asked := asked }) ∧ d'.Lacks [] := by
  have hcompletes : d.Completes accept (ofBytes [] ++ .ready count :: ofBytes (b :: bytes)) result :=
    h
  obtain ⟨d', buffered, ready, asked, t, hadvance, ht, hawaits⟩ :=
    advance_of_completes hcompletes (c := { incoming := [] }) rfl rfl
  have hshort := length_advance_le accept false d { incoming := [] }
  rw [hadvance] at hshort
  obtain rfl : buffered = [] := List.length_eq_zero_iff.1 (Nat.le_zero.1 hshort)
  obtain ⟨rfl, rfl⟩ : ready = [count] ∧ t = ofBytes (b :: bytes) := by
    cases ready with
    | nil => exact absurd ht.symm (hawaits.ne_ready _ _)
    | cons count' ready =>
      obtain ⟨hcount, hrest⟩ := List.cons.inj ht
      cases hcount
      cases ready with
      | nil => exact ⟨rfl, hrest.symm⟩
      | cons => cases hrest
  refine ⟨d', asked, hadvance, ?_⟩
  have hstops := d.advance_cases accept { incoming := [] }
  rw [hadvance] at hstops
  rcases hstops with ⟨result', hdone⟩ | hlacks
  · obtain rfl : d' = .done result' := hdone
    cases (eq_of_awaits_done hawaits).2.2
  · exact hlacks

/-- A dialogue that lacks bytes waits for those that come next. -/
theorem awaits_of_lacks {d : Dialogue α} {bs : Bytes} {t : Transcript} {result : α}
    (h : d.Lacks bs) (hd : d.Completes accept (ofBytes bs ++ t) result) :
    Awaits accept d bs t result := by
  obtain ⟨d', buffered, ready, asked, t', hadvance, rfl, hawaits⟩ :=
    advance_of_completes hd (c := { incoming := bs }) rfl rfl
  rw [advance_of_lacks h] at hadvance
  cases hadvance
  exact hawaits

end Dialogue

namespace Network

variable {δ : Type} [Device δ]

/-! ### One session -/

namespace Line

variable {l : Line} {hub hub' : Hub δ} {held held' : List Nat} {place : Option Nat} {i : Nat}
  {site : CallSite} {args : Except Error Arguments}

theorem readOn_fst (h : hub'.fleet = hub.fleet)
    (dialogue : Dialogue (Except Error Arguments)) :
    (l.readOn hub' place site dialogue).1 = (l.readOn hub place site dialogue).1 := by
  have haccept : hub'.accept place site.operation = hub.accept place site.operation := by
    funext args n
    simp only [Hub.accept, h]
  simp only [readOn, haccept]

variable {dialogue dialogue' : Dialogue (Except Error Arguments)} {channel : Dialogue.Channel}

/-- A session whose dialogue is done has the arguments of the call, or knows why it has none. -/
theorem readOn_of_done (hended : l.ended = false)
    (hadvance : dialogue.advance (hub.accept place site.operation) false
      { incoming := l.incoming } = (.done args, channel)) :
    l.readOn hub place site dialogue =
      ({ l with incoming := channel.incoming, stage := .calling place site args },
        hub.update l.id (·.send (Hub.acknowledgements channel.acknowledged))) := by
  simp only [readOn, hended, Bool.not_false, hadvance]

theorem readOn_of_lacks (hended : l.ended = false)
    (hadvance : dialogue.advance (hub.accept place site.operation) false
      { incoming := l.incoming } = (dialogue', channel)) (h : dialogue'.Lacks channel.incoming) :
    l.readOn hub place site dialogue =
      ({ l with incoming := channel.incoming, stage := .reading place site dialogue' },
        hub.update l.id (·.send (Hub.acknowledgements channel.acknowledged))) := by
  simp only [readOn, hended, Bool.not_false, hadvance]
  cases h
  rfl

/-- A session that cannot make a step cannot make one while fewer devices are free. -/
theorem step?_eq_none_of_subset (h : l.step? hub held = none) (hfleet : hub'.fleet = hub.fleet)
    (hheld : held ⊆ held') : l.step? hub' held' = none := by
  cases hstage : l.stage with
  | closed => simp only [step?, hstage]
  | listening =>
    simp only [step?, hstage] at h ⊢
    cases hnext : nextCommand l.incoming with
    | ended => simp_all
    | invalid e => cases e <;> simp_all
    | command c rest =>
      simp only [hnext] at h
      split at h <;> cases h
  | waiting place site payload =>
    simp only [step?, hstage] at h ⊢
    split at h
    · next hany =>
      cases place with
      | none => cases hany
      | some i =>
        have hmem : i ∈ held' := hheld (by simpa using hany)
        exact if_pos (by simpa using hmem)
    · cases h
  | reading place site dialogue =>
    simp only [step?, hstage] at h ⊢
    rw [readOn_fst hfleet]
    split at h
    · cases h
    · next hlt => exact if_neg hlt
  | calling place site args =>
    simp only [step?, hstage] at h ⊢
    by_cases hwait : (isReport place site && !held.isEmpty) = true
    -- a report waits for every device, and no fewer are held now
    · obtain ⟨hreport, hbusy⟩ := by simpa using hwait
      have hne : held' ≠ [] := fun hnil => hbusy (List.subset_nil.1 (hnil ▸ hheld))
      exact if_pos (by simpa using ⟨hreport, hne⟩)
    · rw [if_neg hwait] at h
      split at h
      · cases h
      · split at h <;> cases h

/-- A whole command is taken from the stream. -/
theorem step?_of_listening (hstage : l.stage = .listening) {c : Command} (hc : c.IsWhole)
    (hincoming : l.incoming = c.toBytes) (hroute : hub.route c.header = .call place site) :
    l.step? hub held = some ({ l with incoming := [], stage := .waiting place site c.payload },
      hub.countRequest l.id) := by
  have hnext : nextCommand l.incoming = .command c [] := by
    rw [hincoming, ← List.append_nil c.toBytes]
    exact nextCommand_of_isWhole hc []
  have hcounted : (hub.countRequest l.id).route c.header = .call place site := hroute
  simp only [step?, hstage, hnext, hcounted]

theorem step?_of_waiting {payload : Bytes} (hstage : l.stage = .waiting (some i) site payload)
    (hfree : i ∉ held) : l.step? hub held =
      some (l.readOn hub (some i) site (site.decode site.operation.layout payload).run) := by
  have hnone : ¬ (some i).any held.contains = true := by simpa using hfree
  simp only [step?, hstage]
  exact if_neg hnone

/-- A call of a device that fails is logged, and the session listens again. -/
theorem step?_of_calling_error {e : Error} (hstage : l.stage = .calling (some i) site (.error e))
    (he : Hub.endsSession e = false) : l.step? hub held =
      some ({ l with stage := .listening },
        hub.update l.id (·.fail (Hub.failureText site e))) := by
  simp [step?, hstage, isReport, Hub.respond, Hub.settle, he]

theorem step?_of_lacks (hstage : l.stage = .reading place site dialogue)
    (h : dialogue.Lacks l.incoming) (hended : l.ended = false) : l.step? hub held = none := by
  have hread : l.readOn hub place site dialogue =
      ({ l with incoming := l.incoming, stage := .reading place site dialogue },
        hub.update l.id (·.send (Hub.acknowledgements []))) :=
    readOn_of_lacks hended (Dialogue.advance_of_lacks h) h
  have hwork : ¬ (l.readOn hub place site dialogue).1.work < l.work := by
    rw [hread]
    simp only [work, hstage, Stage.rank, Nat.lt_irrefl, not_false_eq_true]
  simp only [step?, hstage]
  exact if_neg hwork

/-- A session with enough bytes for the next piece reads on. -/
theorem step?_of_reading (hstage : l.stage = .reading place site dialogue) {buffered : Bytes}
    (hlacked : dialogue.Lacks buffered) (h : ¬ dialogue.Lacks l.incoming)
    (hended : l.ended = false) :
    l.step? hub held = some (l.readOn hub place site dialogue) := by
  have hlt : (dialogue.advance (hub.accept place site.operation) false
      { incoming := l.incoming }).2.incoming.length < l.incoming.length :=
    Dialogue.length_advance_lt hlacked h
  have hincoming : (l.readOn hub place site dialogue).1.incoming =
      (dialogue.advance (hub.accept place site.operation) false
        { incoming := l.incoming }).2.incoming := by
    simp only [readOn, hended, Bool.not_false]
  have hrank : (l.readOn hub place site dialogue).1.stage.rank ≤ 3 := by
    simp only [readOn]
    split <;> simp [Stage.rank]
  have hwork : (l.readOn hub place site dialogue).1.work < l.work := by
    rw [work, work, hincoming, hstage]
    exact Nat.add_lt_add_of_lt_of_le hlt hrank
  simp only [step?, hstage]
  exact if_pos hwork

theorem step?_of_idle (hstage : l.stage = .listening) (hincoming : l.incoming = [])
    (hended : l.ended = false) : l.step? hub held = none := by
  have hnext : nextCommand l.incoming = .ended := by
    rw [hincoming]
    rfl
  simp [step?, hstage, hnext, hended]

end Line

/-! ### All sessions -/

namespace Server

variable {hub hub' : Hub δ} {lines lines' : List Line} {busy : List Nat}

theorem stepFirst?_eq_none_iff :
    stepFirst? hub busy lines = none ↔ ∀ l ∈ lines, l.step? hub busy = none := by
  induction lines with
  | nil => simp [stepFirst?]
  | cons l lines ih =>
    rw [List.forall_mem_cons, ← ih, stepFirst?]
    cases l.step? hub busy <;> simp

/-- If just one session can make a step, it makes it. -/
theorem stepFirst?_set {k : Nat} (hk : k < lines.length) {l l' : Line}
    (hothers : ∀ j m, j ≠ k → lines[j]? = some m → m.step? hub busy = none)
    (hstep : l.step? hub busy = some (l', hub')) :
    stepFirst? hub busy (lines.set k l) = some (lines.set k l', hub') := by
  induction lines generalizing k with
  | nil => cases hk
  | cons m lines ih =>
    cases k with
    | zero => simp only [List.set_cons_zero, stepFirst?, hstep]
    | succ k =>
      have hfirst : m.step? hub busy = none := hothers 0 m (Nat.zero_ne_add_one k) rfl
      have hrest := ih (Nat.lt_of_succ_lt_succ hk) fun j m' hj hm' =>
        hothers (j + 1) m' (fun heq => hj (Nat.succ.inj heq)) hm'
      simp only [List.set_cons_succ, stepFirst?, hfirst, hrest, Option.map_some]

theorem runLines_of_some (h : stepFirst? hub (held lines) lines = some (lines', hub')) :
    runLines hub lines = runLines hub' lines' := by
  rw [runLines]
  split
  · next hnone => cases h.symm.trans hnone
  · next hsome =>
    cases h.symm.trans hsome
    rfl

theorem runLines_of_none (h : stepFirst? hub (held lines) lines = none) :
    runLines hub lines = (lines, hub) := by
  rw [runLines]
  split
  · rfl
  · next hsome => cases h.symm.trans hsome

/-- A server at rest, at which a client has nothing under way and has read all that it was sent, and
the device at a place is free. -/
structure IsIdle (s : Server δ) (client : Nat) (place : Option Nat) (l : Line)
    (info : SessionInfo) : Prop where
  line : s.lines[client]? = some l
  listening : l.stage = .listening
  incoming : l.incoming = []
  stays : l.ended = false
  rest : stepFirst? s.hub (held s.lines) s.lines = none
  free : ∀ i ∈ place, i ∉ held s.lines
  session : s.hub.registry.find? l.id = some info
  delivered : l.delivered = info.output.length

namespace IsIdle

variable {s : Server δ} {k : Nat} {place : Option Nat} {l₀ l l' : Line} {info : SessionInfo}

theorem lt (h : s.IsIdle k place l₀ info) : k < s.lines.length :=
  (List.getElem?_eq_some_iff.1 h.line).1

theorem held_subset (h : s.IsIdle k place l₀ info) (l : Line) :
    held s.lines ⊆ held (s.lines.set k l) := by
  intro j hj
  obtain ⟨m, hm, hheld⟩ := List.mem_filterMap.1 hj
  obtain ⟨n, hn⟩ := List.mem_iff_getElem?.1 hm
  have hne : k ≠ n := by
    rintro rfl
    cases h.line.symm.trans hn
    rw [h.listening] at hheld
    cases hheld
  have hset : (s.lines.set k l)[n]? = some m := (List.getElem?_set_ne hne).trans hn
  exact List.mem_filterMap.2 ⟨m, List.mem_of_getElem? hset, hheld⟩

theorem notMem_held (h : s.IsIdle k place l₀ info) (hl : l.stage.held? = none)
    {i : Nat} (hplace : i ∈ place) : i ∉ held (s.lines.set k l) := by
  intro hi
  obtain ⟨m, hm, hheld⟩ := List.mem_filterMap.1 hi
  rcases List.mem_or_eq_of_mem_set hm with hm | rfl
  · exact h.free i hplace (List.mem_filterMap.2 ⟨m, hm, hheld⟩)
  · cases hl.symm.trans hheld

/-- The other sessions wait whatever the client's session does, as long as no device changes. -/
theorem others (h : s.IsIdle k place l₀ info) (hfleet : hub.fleet = s.hub.fleet) (l : Line)
    {j : Nat} {m : Line} (hm : s.lines[j]? = some m) :
    m.step? hub (held (s.lines.set k l)) = none :=
  Line.step?_eq_none_of_subset (stepFirst?_eq_none_iff.1 h.rest m (List.mem_of_getElem? hm)) hfleet
    (h.held_subset l)

theorem runLines_of_step (h : s.IsIdle k place l₀ info) (hfleet : hub.fleet = s.hub.fleet)
    (hstep : l.step? hub (held (s.lines.set k l)) = some (l', hub')) :
    runLines hub (s.lines.set k l) = runLines hub' (s.lines.set k l') :=
  runLines_of_some (stepFirst?_set h.lt (fun _ _ _ hm => h.others hfleet l hm) hstep)

theorem stepFirst?_eq_none (h : s.IsIdle k place l₀ info) (hfleet : hub.fleet = s.hub.fleet)
    (hstep : l.step? hub (held (s.lines.set k l)) = none) :
    stepFirst? hub (held (s.lines.set k l)) (s.lines.set k l) = none := by
  refine stepFirst?_eq_none_iff.2 fun m hm => ?_
  obtain ⟨j, hj⟩ := List.mem_iff_getElem?.1 hm
  by_cases hjk : k = j
  · subst hjk
    rw [List.getElem?_set_self h.lt] at hj
    cases hj
    exact hstep
  · rw [List.getElem?_set_ne hjk] at hj
    exact h.others hfleet l hj

theorem runLines_of_rest (h : s.IsIdle k place l₀ info) (hfleet : hub.fleet = s.hub.fleet)
    (hstep : l.step? hub (held (s.lines.set k l)) = none) :
    runLines hub (s.lines.set k l) = (s.lines.set k l, hub) :=
  runLines_of_none (h.stepFirst?_eq_none hfleet hstep)

end IsIdle

end Server

/-! ### A call that fails -/

omit [Device δ] in
theorem Registry.update_send (r : Registry) (id : Nat) (a b : Bytes) :
    (r.update id (·.send a)).update id (·.send b) = r.update id (·.send (a ++ b)) := by
  simp only [update, List.map_map]
  refine congrArg (fun sessions => { r with sessions := sessions }) (List.map_congr_left ?_)
  intro s _
  by_cases hs : (s.id == id) = true
  · simp only [Function.comp_apply, hs, if_true, SessionInfo.send, List.append_assoc]
  · simp only [Function.comp_apply, hs, Bool.false_eq_true, if_false]

namespace Hub

variable {id : Nat} {hub : Hub δ}

/-- The hub after a session has counted a command and told some numbers of elements. -/
def told (hub : Hub δ) (id : Nat) (counts : List UInt32) : Hub δ :=
  (hub.countRequest id).update id (·.send (acknowledgements counts))

omit [Device δ] in
theorem fleet_told (hub : Hub δ) (id : Nat) (counts : List UInt32) :
    (hub.told id counts).fleet = hub.fleet := rfl

omit [Device δ] in
theorem told_update (hub : Hub δ) (id : Nat) (counts ready : List UInt32) :
    (hub.told id counts).update id (·.send (acknowledgements ready)) =
      hub.told id (counts ++ ready) := by
  simp only [told, update, Registry.update_send, acknowledgements, List.flatMap_append]

omit [Device δ] in
theorem find?_told {info : SessionInfo} (h : hub.registry.find? id = some info)
    (counts : List UInt32) : (hub.told id counts).registry.find? id =
      some ({ info with requests := info.requests + 1 }.send (acknowledgements counts)) :=
  Registry.find?_update (f := (·.send (acknowledgements counts))) (fun _ => rfl)
    (Registry.find?_countRequest h)

end Hub

namespace Server

open Dialogue (Lacks)

variable {s : Server δ} {k i : Nat} {l₀ l : Line} {info : SessionInfo} {site : CallSite} {e : Error}

/-- How far a session has come with a call that will fail: some numbers of elements are told, and
the rest of the transcript still passes; or the call has failed, and the session listens. -/
inductive Handling (hub : Hub δ) (l : Line) (i : Nat) (site : CallSite) (e : Error) :
    List UInt32 → Transcript → Line → Hub δ → Prop
  | reading (counts : List UInt32) {t : Transcript} {d : Dialogue (Except Error Arguments)}
      {buffered : Bytes} (hlacks : d.Lacks buffered)
      (hawaits : Awaits (hub.accept (some i) site.operation) d buffered t (.error e)) :
      Handling hub l i site e counts t
        { l with incoming := buffered, stage := .reading (some i) site d } (hub.told l.id counts)
  | failed (counts : List UInt32) :
      Handling hub l i site e counts [] { l with incoming := [], stage := .listening }
        (hub.giveUp l.id counts e)

/-- A session that reads on in a call until it lacks bytes has told what was due before these. -/
theorem IsIdle.runLines_of_lacks (h : s.IsIdle k (some i) l₀ info) {hub : Hub δ}
    (hfleet : hub.fleet = s.hub.fleet) {reading : Line} (hended : reading.ended = false)
    {place : Option Nat} {d d' : Dialogue (Except Error Arguments)} {buffered : Bytes}
    {ready : List UInt32} {asked : List (Nat × Nat)}
    (hstep : reading.step? hub (held (s.lines.set k reading)) =
      some (reading.readOn hub place site d))
    (hadvance : d.advance (hub.accept place site.operation) false
      { incoming := reading.incoming } =
        (d', { incoming := buffered, acknowledged := ready, asked := asked }))
    (hlacks : d'.Lacks buffered) :
    runLines hub (s.lines.set k reading) =
      (s.lines.set k { reading with incoming := buffered, stage := .reading place site d' },
        hub.update reading.id (·.send (Hub.acknowledgements ready))) := by
  rw [Line.readOn_of_lacks hended hadvance hlacks] at hstep
  rw [h.runLines_of_step hfleet hstep]
  exact h.runLines_of_rest hfleet (Line.step?_of_lacks rfl hlacks hended)

/-- A session that reads on in a call tells what is due, and stops for lack of bytes or fails. -/
theorem runLines_of_readOn (h : s.IsIdle k (some i) l₀ info) (he : Hub.endsSession e = false)
    (htext : Hub.failureText site e = e.message) {counts : List UInt32} {t : Transcript}
    {d : Dialogue (Except Error Arguments)} {hub : Hub δ} (hfleet : hub.fleet = s.hub.fleet)
    (htold : ∀ ready, hub.update l.id (·.send (Hub.acknowledgements ready)) =
      s.hub.told l.id (counts ++ ready)) (hended : l.ended = false) {reading : Line} {bs : Bytes}
    {stage : Stage} (hreading : reading = { l with incoming := bs, stage := stage })
    (hstep : reading.step? hub (held (s.lines.set k reading)) =
      some (reading.readOn hub (some i) site d))
    (hd : d.Completes (s.hub.accept (some i) site.operation) (ofBytes bs ++ t) (.error e)) :
    ∃ ready t' l' hub', t = List.map Event.ready ready ++ t' ∧
      runLines hub (s.lines.set k reading) = (s.lines.set k l', hub') ∧
      Handling s.hub l i site e (counts ++ ready) t' l' hub' := by
  have haccept : hub.accept (some i) site.operation = s.hub.accept (some i) site.operation := by
    funext args n
    simp only [Hub.accept, hfleet]
  obtain ⟨d', buffered, ready, asked, t', hadvance, ht, hawaits⟩ :=
    Dialogue.advance_of_completes hd (c := { incoming := bs }) rfl rfl
  have hupdate := htold ready
  rw [← haccept] at hadvance
  have hstops := d.advance_cases (hub.accept (some i) site.operation) { incoming := bs }
  rw [hadvance] at hstops
  subst hreading
  have hgoes : Line.ended { l with incoming := bs, stage := stage } = false := hended
  -- the call fails at once, or waits for bytes before it can
  rcases hstops with ⟨r, hdone⟩ | hlacks
  · obtain rfl : d' = .done r := hdone
    obtain ⟨rfl, rfl, rfl⟩ := Dialogue.eq_of_awaits_done hawaits
    refine ⟨ready, [], _, _, ht, ?_, .failed _⟩
    rw [Line.readOn_of_done hgoes hadvance, List.nil_append, hupdate] at hstep
    rw [h.runLines_of_step hfleet hstep]
    refine (h.runLines_of_step (Hub.fleet_told ..) (Line.step?_of_calling_error rfl he)).trans ?_
    rw [htext]
    exact h.runLines_of_rest (Hub.fleet_giveUp ..) (Line.step?_of_idle rfl rfl hended)
  · refine ⟨ready, t', _, _, ht, ?_, .reading _ hlacks hawaits⟩
    rw [h.runLines_of_lacks hfleet hgoes hstep hadvance hlacks, List.nil_append, hupdate]

/-! ### The peer of the client -/

/-- The server with another state of a session and of what all sessions share. -/
def within (s : Server δ) (k : Nat) (l : Line) (hub : Hub δ) : Server δ :=
  { s with hub := hub, lines := s.lines.set k l }

omit [Device δ] in
theorem within_self (h : s.lines[k]? = some l) : s.within k l s.hub = s := by
  obtain ⟨hk, rfl⟩ := List.getElem?_eq_some_iff.1 h
  rw [within, List.set_getElem_self]

theorem modify_set (lines : List Line) (k : Nat) (l : Line) (f : Line → Line) :
    (lines.set k l).modify k f = lines.set k (f l) := by
  induction lines generalizing k with
  | nil => rw [List.set_nil, List.modify_nil, List.set_nil]
  | cons m lines ih =>
    cases k with
    | zero => rfl
    | succ k =>
      rw [List.set_cons_succ, List.modify_succ_cons, ih, List.set_cons_succ]

theorem deliver_within {hub hub' : Hub δ} {l' : Line} {bytes : Bytes} (hended : l.ended = false)
    (hopen : l.stage.rank ≠ 0)
    (h : runLines hub (s.lines.set k { l with incoming := l.incoming ++ bytes }) =
      (s.lines.set k l', hub')) :
    (s.within k l hub).deliver k bytes = s.within k l' hub' := by
  have hmodify : (s.lines.set k l).modify k (fun l =>
      if l.ended || l.stage.rank == 0 then l else { l with incoming := l.incoming ++ bytes }) =
      s.lines.set k { l with incoming := l.incoming ++ bytes } := by
    rw [modify_set, if_neg (by simp [hended, hopen])]
  simp only [deliver, hear, within, rest, hmodify, h]

/-- The client reads all that its session has been sent since. -/
theorem react_within (hk : k < s.lines.length) {hub hub' : Hub δ} {l' : Line} {bytes new : Bytes}
    (h : (s.within k l hub).deliver k bytes = s.within k l' hub') (hopen : l'.stage.rank ≠ 0)
    {info : SessionInfo} (hinfo : hub'.registry.find? l'.id = some info)
    (hnew : info.output.drop l'.delivered = new) :
    Peer.react (⟨s.within k l hub, k⟩ : ServerPeer δ) bytes =
      (⟨s.within k { l' with delivered := l'.delivered + new.length } hub', k⟩, new, false) := by
  have hline : (s.within k l' hub').lines[k]? = some l' := List.getElem?_set_self hk
  have houtput : (((s.within k l' hub').lines[k]?).elim [] fun l =>
      ((s.within k l' hub').hub.registry.find? l.id).elim [] (·.output)) = info.output := by
    rw [hline, Option.elim_some]
    change (hub'.registry.find? l'.id).elim [] _ = _
    rw [hinfo, Option.elim_some]
  have hall : new.take info.output.length = new := by
    rw [← hnew]
    exact List.take_of_length_le (by simp)
  have hreceive : (s.within k l' hub').receive k info.output.length =
      (new, s.within k { l' with delivered := l'.delivered + new.length } hub') := by
    simp only [receive, hline]
    simp only [within, hinfo, Option.elim_some, hnew, hall, modify_set]
  have hclosed : (s.within k { l' with delivered := l'.delivered + new.length } hub').isClosed k =
      false := by
    have hrank : ¬ l'.stage.rank = 0 := by simpa using hopen
    simp [isClosed, within, List.getElem?_set_self hk, hrank]
  simp only [Peer.react, h, houtput, hreceive, hclosed]

/-! ### The whole call -/

namespace Handling

variable {hub hub' : Hub δ} {l' : Line} {counts : List UInt32} {t : Transcript}

theorem line (h : Handling hub l i site e counts t l' hub') :
    l'.ended = l.ended ∧ l'.delivered = l.delivered ∧ l'.stage.rank ≠ 0 := by
  cases h <;> exact ⟨rfl, rfl, Nat.succ_ne_zero _⟩

theorem deliver (h : Handling hub l i site e counts t l' hub') (n : Nat) :
    Handling hub { l with delivered := n } i site e counts t { l' with delivered := n } hub' := by
  cases h with
  | reading hlacks hawaits => exact .reading counts hlacks hawaits
  | failed => exact .failed counts

/-- The session has been sent the numbers that are told, and nothing else. -/
theorem output (h : Handling hub l i site e counts t l' hub')
    (hinfo : hub.registry.find? l.id = some info) :
    ∃ info', hub'.registry.find? l'.id = some info' ∧
      info'.output = info.output ++ Hub.acknowledgements counts := by
  cases h with
  | reading => exact ⟨_, Hub.find?_told hinfo counts, rfl⟩
  | failed => exact ⟨_, Hub.find?_giveUp_eq hinfo counts e, rfl⟩

end Handling

/-- The server as the peer of the client, while it handles a call that will fail after some numbers
of elements are told: those that are told already have been read, and `t` still passes. -/
def Serving (s : Server δ) (k i : Nat) (l : Line) (site : CallSite) (e : Error)
    (counts : List UInt32) (t : Transcript) (p : ServerPeer δ) : Prop :=
  ∃ told l' hub, counts = told ++ t.counts ∧ p = ⟨s.within k l' hub, k⟩ ∧
    Handling s.hub { l with delivered := l.delivered + (Hub.acknowledgements told).length } i site e
      told t l' hub

variable {counts : List UInt32} {t : Transcript}

/-- What the session tells, the client gets. -/
theorem serving_of_handling (h : s.IsIdle k (some i) l₀ info) {told ready all : List UInt32}
    {l l' : Line} {hub hub' : Hub δ} {bytes : Bytes}
    (hdeliver : (s.within k l hub).deliver k bytes = s.within k l' hub')
    (hhandling : Handling s.hub
      { l₀ with delivered := l₀.delivered + (Hub.acknowledgements told).length } i site e
      all t l' hub') (hall : all = told ++ ready) (hcounts : counts = all ++ t.counts) :
    ∃ p, Peer.react (⟨s.within k l hub, k⟩ : ServerPeer δ) bytes =
        (p, Hub.acknowledgements ready, false) ∧ Serving s k i l₀ site e counts t p := by
  obtain ⟨-, hdelivered, hopen⟩ := hhandling.line
  obtain ⟨info', hinfo', houtput⟩ := hhandling.output h.session
  have hsplit : Hub.acknowledgements all =
      Hub.acknowledgements told ++ Hub.acknowledgements ready := hall ▸ List.flatMap_append
  have hnew : info'.output.drop l'.delivered = Hub.acknowledgements ready := by
    rw [houtput, hdelivered, h.delivered, hsplit, ← List.append_assoc, ← List.length_append,
      List.drop_left]
  refine ⟨_, react_within h.lt hdeliver hopen hinfo' hnew, all, _, hub', hcounts, rfl, ?_⟩
  rw [hdelivered, hsplit, List.length_append, ← Nat.add_assoc]
  exact hhandling.deliver _

/-- The session takes a command, and then waits for its device. -/
theorem IsIdle.runLines_of_command (h : s.IsIdle k (some i) l₀ info) {c : Command}
    (hc : c.IsWhole) (hroute : s.hub.route c.header = .call (some i) site) :
    runLines s.hub (s.lines.set k { l₀ with incoming := l₀.incoming ++ c.toBytes }) =
      runLines (s.hub.countRequest l₀.id) (s.lines.set k
        { l₀ with incoming := [], stage := .waiting (some i) site c.payload }) := by
  let listening : Line := { l₀ with incoming := l₀.incoming ++ c.toBytes }
  have hincoming : listening.incoming = c.toBytes := by
    change l₀.incoming ++ c.toBytes = c.toBytes
    rw [h.incoming, List.nil_append]
  exact h.runLines_of_step rfl
    (Line.step?_of_listening (l := listening) h.listening hc hincoming hroute)

/-- The session takes a command, and what is due at once is told. -/
theorem react_of_command (h : s.IsIdle k (some i) l₀ info) (he : Hub.endsSession e = false)
    (htext : Hub.failureText site e = e.message) {c : Command} (hc : c.IsWhole)
    (hroute : s.hub.route c.header = .call (some i) site)
    (hd : (site.decode site.operation.layout c.payload).run.Completes
      (s.hub.accept (some i) site.operation) t (.error e)) :
    ∃ ready t' p, t = List.map Event.ready ready ++ t' ∧
      Peer.react (⟨s, k⟩ : ServerPeer δ) c.toBytes = (p, Hub.acknowledgements ready, false) ∧
      Serving s k i l₀ site e t.counts t' p := by
  let waiting : Line := { l₀ with incoming := [], stage := .waiting (some i) site c.payload }
  have htake := h.runLines_of_command hc hroute
  have hfleet : (s.hub.countRequest l₀.id).fleet = s.hub.fleet := rfl
  have htold : ∀ ready, (s.hub.countRequest l₀.id).update l₀.id
      (·.send (Hub.acknowledgements ready)) = s.hub.told l₀.id ([] ++ ready) := fun _ => rfl
  obtain ⟨ready, t', l', hub', rfl, hrun, hhandling⟩ := runLines_of_readOn h he htext hfleet htold
    h.stays rfl (Line.step?_of_waiting (l := waiting) rfl (h.notMem_held rfl rfl)) hd
  have hdeliver := deliver_within h.stays (by rw [h.listening]; exact Nat.succ_ne_zero _)
    (htake.trans hrun)
  have hcounts : Transcript.counts (List.map Event.ready ready ++ t') =
      [] ++ ready ++ t'.counts := by
    rw [Transcript.counts_append, Transcript.counts_map_ready, List.nil_append]
  have hnone : Handling s.hub
      { l₀ with delivered := l₀.delivered + (Hub.acknowledgements []).length } i site e
      ([] ++ ready) t' l' hub' := hhandling
  obtain ⟨p, hreact, hserving⟩ := serving_of_handling h hdeliver hnone rfl hcounts
  rw [within_self h.line] at hreact
  exact ⟨ready, t', p, rfl, hreact, hserving⟩

/-- The session takes a command whose dialogue lacks bytes after some numbers: it tells these, and
waits in the middle of the call. -/
theorem react_of_command_of_lacks (h : s.IsIdle k (some i) l₀ info) {c : Command} (hc : c.IsWhole)
    (hroute : s.hub.route c.header = .call (some i) site) {d : Dialogue (Except Error Arguments)}
    {ready : List UInt32} {asked : List (Nat × Nat)}
    (hadvance : (site.decode site.operation.layout c.payload).run.advance
      (s.hub.accept (some i) site.operation) false { incoming := [] } =
        (d, { incoming := [], acknowledged := ready, asked := asked })) (hlacks : d.Lacks []) :
    Peer.react (⟨s, k⟩ : ServerPeer δ) c.toBytes =
      (⟨s.within k { l₀ with
          delivered := l₀.delivered + (Hub.acknowledgements ready).length, incoming := [],
          stage := .reading (some i) site d } (s.hub.told l₀.id ready), k⟩,
        Hub.acknowledgements ready, false) := by
  let waiting : Line := { l₀ with incoming := [], stage := .waiting (some i) site c.payload }
  have htake := h.runLines_of_command hc hroute
  have hfleet : (s.hub.countRequest l₀.id).fleet = s.hub.fleet := rfl
  have hended : waiting.ended = false := h.stays
  have hrun := h.runLines_of_lacks hfleet hended
    (Line.step?_of_waiting (l := waiting) rfl (h.notMem_held rfl rfl)) hadvance hlacks
  have hdeliver := deliver_within h.stays (by rw [h.listening]; exact Nat.succ_ne_zero _)
    (htake.trans hrun)
  have hnew : ({ info with requests := info.requests + 1 }.send
      (Hub.acknowledgements ready)).output.drop l₀.delivered = Hub.acknowledgements ready := by
    rw [SessionInfo.send, h.delivered, List.drop_left]
  have hreact := react_within h.lt hdeliver (Nat.succ_ne_zero _)
    (Hub.find?_told h.session ready) hnew
  rw [within_self h.line] at hreact
  exact hreact

/-- A session that lacked bytes gets some: it waits for more, or reads on. -/
theorem react_of_reading (h : s.IsIdle k (some i) l₀ info) (he : Hub.endsSession e = false)
    (htext : Hub.failureText site e = e.message) {told : List UInt32}
    {d : Dialogue (Except Error Arguments)} {buffered bytes : Bytes} (hlacks : d.Lacks buffered)
    (hd : d.Completes (s.hub.accept (some i) site.operation) (ofBytes (buffered ++ bytes) ++ t)
      (.error e)) (hcounts : counts = told ++ t.counts) :
    ∃ ready t' p, t = List.map Event.ready ready ++ t' ∧
      Peer.react (⟨s.within k { l₀ with
            delivered := l₀.delivered + (Hub.acknowledgements told).length, incoming := buffered,
            stage := .reading (some i) site d } (s.hub.told l₀.id told), k⟩ : ServerPeer δ) bytes =
        (p, Hub.acknowledgements ready, false) ∧ Serving s k i l₀ site e counts t' p := by
  let waiting : Line := { l₀ with
    delivered := l₀.delivered + (Hub.acknowledgements told).length, incoming := buffered,
    stage := .reading (some i) site d }
  let reading : Line := { waiting with incoming := buffered ++ bytes }
  have hwaits : waiting.ended = false := h.stays
  have hended : reading.ended = false := h.stays
  by_cases hlack : d.Lacks reading.incoming
  · have hrest := h.runLines_of_rest (Hub.fleet_told s.hub l₀.id told)
      (Line.step?_of_lacks (l := reading) rfl hlack hended)
    obtain ⟨p, hreact, hserving⟩ := serving_of_handling h
      (deliver_within hwaits (Nat.succ_ne_zero _) hrest)
      (.reading _ hlack (Dialogue.awaits_of_lacks hlack hd)) (List.append_nil told).symm hcounts
    exact ⟨[], t, p, rfl, hreact, hserving⟩
  · obtain ⟨ready, t', l', hub', rfl, hrun, hhandling⟩ := runLines_of_readOn h he htext
      (l := { l₀ with delivered := l₀.delivered + (Hub.acknowledgements told).length })
      (Hub.fleet_told ..) (Hub.told_update s.hub l₀.id told) h.stays rfl
      (Line.step?_of_reading (l := reading) rfl hlacks hlack hended) hd
    rw [Transcript.counts_append, Transcript.counts_map_ready, ← List.append_assoc] at hcounts
    obtain ⟨p, hreact, hserving⟩ := serving_of_handling h
      (deliver_within hwaits (Nat.succ_ne_zero _) hrun) hhandling rfl hcounts
    exact ⟨ready, t', p, rfl, hreact, hserving⟩

/-- A server follows what passes for a call that will fail. -/
theorem follows_serving (h : s.IsIdle k (some i) l₀ info) (he : Hub.endsSession e = false)
    (htext : Hub.failureText site e = e.message) : Follows (Serving s k i l₀ site e counts) where
  ne_ready := by
    rintro count t p ⟨told, l, hub, -, -, hhandling⟩
    cases hhandling with
    | reading _ hawaits => exact hawaits.ne_ready _ _ rfl
  react := by
    rintro b bytes t p ⟨told, l, hub, hcounts, rfl, hhandling⟩
    generalize hu : ofBytes (b :: bytes) ++ t = u at hhandling hcounts
    cases hhandling with
    | failed => cases hu
    | @reading u d buffered hlacks hawaits =>
      subst hu
      have hcompletes := hawaits.completes
      rw [← List.append_assoc, ← Transcript.ofBytes_append] at hcompletes
      rw [Transcript.counts_append, Transcript.counts_ofBytes, List.nil_append] at hcounts
      exact react_of_reading h he htext hlacks hcompletes hcounts

/-- When nothing is left to pass, the call has failed, and the session listens as before. -/
theorem eq_of_serving_nil (h : s.IsIdle k (some i) l₀ info) {p : ServerPeer δ}
    (hp : Serving s k i l₀ site e counts [] p) :
    p = ⟨s.within k
      { l₀ with delivered := l₀.delivered + (Hub.acknowledgements counts).length }
      (s.hub.giveUp l₀.id counts e), k⟩ := by
  obtain ⟨told, l, hub, hcounts, rfl, hhandling⟩ := hp
  cases hhandling with
  | reading hlacks hawaits =>
    rw [(hawaits.finished rfl).1] at hlacks
    cases hlacks
  | failed =>
    obtain rfl : counts = told := hcounts.trans (List.append_nil _)
    rw [← h.incoming, ← h.listening]

end Server

end Network

end Instrument
