import Instrument.Proofs.Call.Advancing
import Instrument.Proofs.Network.Moves
import Instrument.Proofs.Network.Readiness
import Instrument.Proofs.Network.Serving

/-!
What a session owes its client. A client that makes a call is to be told the numbers of elements
that it wants to send, and then the reply. Main statement: in every step that a session makes, it
tells its client just what is due next and nothing else, or a number of elements for which the
client gives up.
-/

namespace Instrument.Network

open Client (Part Request)
open Dialogue (Completes Reaches)

/-! ### Promises -/

/-- What a client is to be told. -/
inductive Promise where
  /-- That as many elements are taken. -/
  | count (size : Nat)
  /-- What an operation answers to some arguments. -/
  | reply (site : CallSite) (args : Arguments)
deriving DecidableEq, Repr

namespace Promise

/-- A message that tells a client what it is to be told. -/
inductive Kept : Promise → Message → Prop
  | count (n : UInt32) : Kept (.count n.toNat) (.count n)
  | reply {site : CallSite} {args : Arguments} {reply : Reply} {bytes : Bytes}
      (hbytes : site.encode reply = .ok (some bytes)) :
      Kept (.reply site args) (.reply site args reply bytes)

/-- What a client is to be told that wants to send some numbers of elements, one after the other,
and then waits for a reply, or for none. -/
def due (sizes : List Nat) (reply? : Option (CallSite × Arguments)) : List Promise :=
  sizes.map .count ++ reply?.toList.map fun (site, args) => .reply site args

/-- Numbers that are told are those that are due. -/
theorem kept_counts (counts : List UInt32) :
    List.Forall₂ Kept (due (counts.map UInt32.toNat) none) (counts.map .count) := by
  induction counts with
  | nil => exact .nil
  | cons n counts ih => exact .cons (.count n) ih

theorem due_append (sizes sizes' : List Nat) (reply? : Option (CallSite × Arguments)) :
    due (sizes ++ sizes') reply? = due sizes none ++ due sizes' reply? := by
  simp [due]

/-- Nothing is due after a reply. -/
theorem eq_nil_of_reply {sizes : List Nat} {reply? : Option (CallSite × Arguments)}
    {before after : List Promise} {site : CallSite} {args : Arguments}
    (h : due sizes reply? = before ++ .reply site args :: after) : after = [] := by
  induction sizes generalizing before with
  | nil =>
    cases reply? with
    | none => simp [due] at h
    | some reply =>
      obtain ⟨-, hcons⟩ | ⟨-, hnil⟩ := List.singleton_eq_append_iff.1 h
      · exact (List.cons.inj hcons).2
      · cases hnil
  | cons size sizes ih =>
    cases before with
    | nil => cases h
    | cons p before => exact ih (List.cons.inj h).2

end Promise

/-- A byte that stands before a number ends what stands before the number. -/
theorem Transcript.cut_before_ready {t passed left : Transcript} {b : UInt8} {n : UInt32}
    (h : t ++ [.ready n] = passed ++ .byte b :: left) :
    ∃ between, left = between ++ [.ready n] ∧ t = passed ++ .byte b :: between := by
  rcases List.eq_nil_or_concat left with rfl | ⟨between, last, rfl⟩
  · cases (List.append_inj' h rfl).2
  · rw [List.concat_eq_append, ← List.cons_append, ← List.append_assoc] at h
    obtain ⟨ht, hlast⟩ := List.append_inj' h rfl
    cases hlast
    exact ⟨between, List.concat_eq_append, ht⟩

/-! ### Calls -/

/-- A call that a client makes, and where it leads. -/
structure Asked where
  device : UInt16
  operation : UInt16
  parts : List Part
  place : Option Nat
  site : CallSite

namespace Asked

variable {δ : Type} {hub hub' : Hub δ}

/-- What the client sends. -/
def sending (a : Asked) : Sending := .call a.device a.operation a.parts

/-- The arguments that the operation gets. -/
def received (a : Asked) : Arguments := a.site.operation.received a.parts

/-- What is answered, if anything is. -/
def reply? (a : Asked) : Option (CallSite × Arguments) :=
  if a.site.operation.mode = .write then none else some (a.site, a.received)

/-- How the arguments are read. -/
def dialogue (a : Asked) : Dialogue (Except Error Arguments) :=
  (a.site.decode a.site.operation.layout a.sending.command.payload).run

/-- All that the client is to be told. -/
def promises (a : Asked) : List Promise := Promise.due (Request.ofParts a.parts).sizes a.reply?

/-- Whether the call leads where it is said to, and passes what the operation takes. -/
structure IsValid (a : Asked) (hub : Hub δ) : Prop where
  route : hub.route a.sending.command.header = .call a.place a.site
  call : a.site.operation.IsCall a.parts
  sized : ∀ values, .vector values ∈ a.parts → values.size < UInt64.size
  fits : a.sending.command.payload.length ≤ EnvelopeHeader.maxPayload

namespace IsValid

variable {a : Asked}

theorem isWhole (h : a.IsValid hub) : a.sending.command.IsWhole :=
  ⟨UInt32.toNat_ofNat_of_lt'
    (Nat.lt_of_le_of_lt h.fits (by decide : EnvelopeHeader.maxPayload < UInt32.size)), h.fits⟩

theorem of_table (h : a.IsValid hub) (htable : hub'.fleet.table = hub.fleet.table) :
    a.IsValid hub' :=
  ⟨by rw [Hub.route_eq htable]; exact h.route, h.call, h.sized, h.fits⟩

end IsValid

end Asked

/-- A stream of some calls, and all that is to be told for them. -/
inductive Calls {δ : Type} (hub : Hub δ) : Bytes → List Promise → Prop
  | nil : Calls hub [] []
  | cons {a : Asked} {stream : Bytes} {due : List Promise} (ha : a.IsValid hub)
      (hrest : Calls hub stream due) :
      Calls hub (a.sending.bytes ++ stream) (a.promises ++ due)

namespace Calls

variable {δ : Type} {hub hub' : Hub δ} {stream : Bytes} {due : List Promise}

theorem of_table (h : Calls hub stream due) (htable : hub'.fleet.table = hub.fleet.table) :
    Calls hub' stream due := by
  induction h with
  | nil => exact .nil
  | cons ha _ ih => exact .cons (ha.of_table htable) ih

theorem concat (h : Calls hub stream due) {a : Asked} (ha : a.IsValid hub) :
    Calls hub (stream ++ a.sending.bytes) (due ++ a.promises) := by
  induction h with
  | nil =>
    have hone := Calls.cons ha .nil
    rwa [List.append_nil, List.append_nil] at hone
  | cons hfirst _ ih =>
    rw [List.append_assoc, List.append_assoc]
    exact .cons hfirst ih

end Calls

/-- What a command is of which a part has come. -/
theorem nextCommand_of_begun {c : Command} (hc : c.IsWhole) {incoming more rest : Bytes}
    (hstream : incoming ++ more = c.toBytes ++ rest) :
    nextCommand incoming = .ended ∨ nextCommand incoming = .invalid .connectionBroken ∨
      ∃ left, nextCommand incoming = .command c left ∧ left ++ more = rest := by
  rcases Dialogue.incoming_cases hstream with ⟨left, hsplit, hmore⟩ | ⟨b, after, -, hsplit⟩
  · obtain ⟨-, rfl⟩ := Wire.split?_eq_some_iff.1 hsplit
    exact .inr (.inr ⟨left, nextCommand_of_isWhole hc left, hmore⟩)
  · by_cases hheader : incoming.length < EnvelopeHeader.size
    · exact .inl (nextCommand_eq_ended_iff.2 hheader)
    · exact .inr (.inl (nextCommand_of_cut_payload hc hstream.symm (Nat.le_of_not_lt hheader)
        (Wire.split?_eq_none_iff.1 hsplit)))

/-! ### What lies ahead -/

/-- What a session is still to tell once it has read all of a stream. -/
inductive Ahead {δ : Type} [Device δ] (hub : Hub δ) : Stage → Bytes → List Promise → Prop
  | listening {stream : Bytes} {due : List Promise} (hcalls : Calls hub stream due) :
      Ahead hub .listening stream due
  | waiting {a : Asked} {stream : Bytes} {due : List Promise} (ha : a.IsValid hub)
      (hcalls : Calls hub stream due) :
      Ahead hub (.waiting a.place a.site a.sending.command.payload)
        (a.sending.transcript.bytes ++ stream) (a.promises ++ due)
  | reading {a : Asked} {d : Dialogue (Except Error Arguments)} {t : Transcript} {stream : Bytes}
      {due : List Promise}
      (hreads : Completes (hub.accept a.place a.site.operation) d t (.ok a.received))
      (hcalls : Calls hub stream due) :
      Ahead hub (.reading a.place a.site d) (t.bytes ++ stream)
        (Promise.due (t.counts.map UInt32.toNat) a.reply? ++ due)
  | calling {a : Asked} {stream : Bytes} {due : List Promise} (hcalls : Calls hub stream due) :
      Ahead hub (.calling a.place a.site (.ok a.received)) stream (Promise.due [] a.reply? ++ due)
  /-- A session that has ended reads nothing. -/
  | closed (stream : Bytes) : Ahead hub .closed stream []

variable {δ : Type} [Device δ]

theorem Hub.accept_eq {hub hub' : Hub δ} {place : Option Nat}
    (h : ∀ i, place = some i → hub'.fleet.devices[i]? = hub.fleet.devices[i]?)
    (op : Interface.Operation) : hub'.accept place op = hub.accept place op := by
  cases place with
  | none => rfl
  | some i =>
    funext args requested
    simp only [accept, Option.bind_some, h i rfl]

theorem Ahead.of_fleet {hub hub' : Hub δ} {stage : Stage} {stream : Bytes} {due : List Promise}
    (h : Ahead hub stage stream due) (htable : hub'.fleet.table = hub.fleet.table)
    (hdevice : ∀ i, stage.held? = some i → hub'.fleet.devices[i]? = hub.fleet.devices[i]?) :
    Ahead hub' stage stream due := by
  cases h with
  | listening hcalls => exact .listening (hcalls.of_table htable)
  | waiting ha hcalls => exact .waiting (ha.of_table htable) (hcalls.of_table htable)
  | @reading a d t stream due hreads hcalls =>
    have hplace : ∀ i, a.place = some i → hub'.fleet.devices[i]? = hub.fleet.devices[i]? := hdevice
    rw [← Hub.accept_eq hplace] at hreads
    exact .reading hreads (hcalls.of_table htable)
  | calling hcalls => exact .calling (hcalls.of_table htable)
  | closed stream => exact .closed stream

/-- How a session stands with a client that has sent it some bytes, is to send more of a call, and
is still to take what is due. The messages of the client's own that it has not taken tell it what is
due next; or there is a number among them, or there will be one, for which the client gives up. -/
inductive Tracks (hub : Hub δ) (stage : Stage) (incoming more : Bytes) (due : List Promise)
    (own : List Message) : Prop
  /-- What is lost will never be told. -/
  | keeps {kept ahead lost : List Promise} (hdue : due = kept ++ (ahead ++ lost))
      (hkept : List.Forall₂ Promise.Kept kept own)
      (hahead : Ahead hub stage (incoming ++ more) ahead)
  | refuses {place : Option Nat} {site : CallSite} {d d' : Dialogue (Except Error Arguments)}
      {t : Transcript} {n : UInt32} {size : Nat} {rest : Bytes} {kept later : List Promise}
      (hstage : stage = .reading place site d)
      (hdue : due = kept ++ (Promise.due (t.counts.map UInt32.toNat) none ++ .count size :: later))
      (hkept : List.Forall₂ Promise.Kept kept own)
      (hreads : Reaches (hub.accept place site.operation) d (t ++ [.ready n]) d')
      (hstream : incoming ++ more = t.bytes ++ rest) (hne : n.toNat ≠ size)
  | refused {n : UInt32} {size : Nat} {kept later : List Promise} {told rest : List Message}
      (hdue : due = kept ++ .count size :: later) (hown : own = told ++ .count n :: rest)
      (hkept : List.Forall₂ Promise.Kept kept told) (hne : n.toNat ≠ size)

namespace Tracks

variable {hub hub' : Hub δ} {stage : Stage} {incoming more : Bytes} {due : List Promise}
  {own : List Message}

/-- What others do changes nothing between a session and its client. -/
theorem of_fleet (h : Tracks hub stage incoming more due own)
    (htable : hub'.fleet.table = hub.fleet.table)
    (hdevice : ∀ i, stage.held? = some i → hub'.fleet.devices[i]? = hub.fleet.devices[i]?) :
    Tracks hub' stage incoming more due own := by
  cases h with
  | keeps hdue hkept hahead => exact .keeps hdue hkept (hahead.of_fleet htable hdevice)
  | @refuses place _ _ _ _ _ _ _ _ _ hstage hdue hkept hreads hstream hne =>
    subst hstage
    have hplace : ∀ i, place = some i → hub'.fleet.devices[i]? = hub.fleet.devices[i]? := hdevice
    rw [← Hub.accept_eq hplace] at hreads
    exact .refuses rfl hdue hkept hreads hstream hne
  | refused hdue hown hkept hne => exact .refused hdue hown hkept hne

end Tracks

/-! ### Reading on -/

namespace Line

variable {l : Line} {hub : Hub δ} {place : Option Nat} {site : CallSite}
  {d d' : Dialogue (Except Error Arguments)} {c : Dialogue.Channel}

theorem counts_of_advance (hended : l.ended = false)
    (h : d.advance (hub.accept place site.operation) false { incoming := l.incoming } = (d', c)) :
    l.counts hub place site d = c.acknowledged := by
  simp only [counts, hended, Bool.not_false, h]

theorem readOn_of_ne_done (hended : l.ended = false)
    (h : d.advance (hub.accept place site.operation) false { incoming := l.incoming } = (d', c))
    (hne : ∀ args, d' ≠ .done args) :
    (l.readOn hub place site d).1 =
      { l with incoming := c.incoming, stage := .reading place site d' } := by
  simp only [readOn, hended, Bool.not_false, h]

end Line

theorem ne_done_of_reaches {accept : Arguments → Nat → Nat}
    {d d' : Dialogue (Except Error Arguments)} {b : UInt8} {t : Transcript}
    (h : Reaches accept d (.byte b :: t) d') (args : Except Error Arguments) : d ≠ .done args := by
  rintro rfl
  cases (Dialogue.eq_of_reaches_done h).1

section ReadOn

variable {l : Line} {hub : Hub δ} {more rest : Bytes} {due kept : List Promise}
  {own : List Message} {d : Dialogue (Except Error Arguments)} {t : Transcript}

omit [Device δ] in
theorem kept_append_counts (hkept : List.Forall₂ Promise.Kept kept own) (counts : List UInt32) :
    List.Forall₂ Promise.Kept (kept ++ Promise.due (counts.map UInt32.toNat) none)
      (own ++ counts.map .count) :=
  List.rel_append hkept (Promise.kept_counts counts)

/-- A session that reads the arguments of a call tells the numbers that are due. -/
theorem tracks_readOn (hended : l.ended = false) {a : Asked}
    (hreads : Completes (hub.accept a.place a.site.operation) d t (.ok a.received))
    {ahead lost : List Promise} (hcalls : Calls hub rest ahead)
    (hstream : l.incoming ++ more = t.bytes ++ rest)
    (hdue : due = kept ++ (Promise.due (t.counts.map UInt32.toNat) a.reply? ++ ahead ++ lost))
    (hkept : List.Forall₂ Promise.Kept kept own) :
    Tracks hub (l.readOn hub a.place a.site d).1.stage (l.readOn hub a.place a.site d).1.incoming
      more due (own ++ (l.counts hub a.place a.site d).map .count) := by
  cases Dialogue.comes_of_reaches hreads
    (c := { incoming := l.incoming }) rfl hstream with
  -- the dialogue stops for a byte that is still to come
  | @waits passed asked left b d₁ incoming ht hleft hmore hadvance =>
    rw [Line.readOn_of_ne_done hended hadvance (ne_done_of_reaches hleft),
      Line.counts_of_advance hended hadvance]
    have hahead := Ahead.reading hleft hcalls
    rw [← hmore] at hahead
    have hnow : due = (kept ++ Promise.due (passed.counts.map UInt32.toNat) none) ++
        (Promise.due ((Transcript.counts (.byte b :: left)).map UInt32.toNat) a.reply? ++ ahead ++
          lost) := by
      rw [hdue, ht, Transcript.counts_append, List.map_append, Promise.due_append]
      simp only [List.append_assoc]
    exact .keeps hnow (kept_append_counts hkept passed.counts) hahead
  -- the dialogue is done, and the call is made with what it received
  | @arrives asked incoming hmore hadvance =>
    rw [Line.readOn_of_done hended hadvance, Line.counts_of_advance hended hadvance]
    have hahead : Ahead hub (.calling a.place a.site (.ok a.received)) rest
        (Promise.due [] a.reply? ++ ahead) := .calling hcalls
    rw [← hmore] at hahead
    have hnow : due = (kept ++ Promise.due (t.counts.map UInt32.toNat) none) ++
        (Promise.due [] a.reply? ++ ahead ++ lost) := by
      rw [hdue, ← List.append_nil (t.counts.map UInt32.toNat), Promise.due_append]
      simp only [List.append_assoc, List.append_nil]
    exact .keeps hnow (kept_append_counts hkept t.counts) hahead

/-- A session that will refuse a transfer tells the numbers that are due, or refuses it. -/
theorem tracks_readOn_of_refuses (hended : l.ended = false) {place : Option Nat} {site : CallSite}
    {d' : Dialogue (Except Error Arguments)} {n : UInt32} {size : Nat} {later : List Promise}
    (hreads : Reaches (hub.accept place site.operation) d (t ++ [.ready n]) d')
    (hstream : l.incoming ++ more = t.bytes ++ rest)
    (hdue : due = kept ++ (Promise.due (t.counts.map UInt32.toNat) none ++ .count size :: later))
    (hkept : List.Forall₂ Promise.Kept kept own) (hne : n.toNat ≠ size) :
    Tracks hub (l.readOn hub place site d).1.stage (l.readOn hub place site d).1.incoming more due
      (own ++ (l.counts hub place site d).map .count) := by
  have hbytes : l.incoming ++ more = Transcript.bytes (t ++ [.ready n]) ++ rest := by
    rw [hstream, Transcript.bytes_append]
    simp
  cases Dialogue.comes_of_reaches hreads (c := { incoming := l.incoming }) rfl hbytes with
  | @waits passed asked left b d₁ incoming ht hleft hmore hadvance =>
    rw [Line.readOn_of_ne_done hended hadvance (ne_done_of_reaches hleft),
      Line.counts_of_advance hended hadvance]
    obtain ⟨between, rfl, rfl⟩ := Transcript.cut_before_ready ht
    have hnow : due = (kept ++ Promise.due (passed.counts.map UInt32.toNat) none) ++
        (Promise.due ((Transcript.counts (.byte b :: between)).map UInt32.toNat) none ++
          .count size :: later) := by
      rw [hdue, Transcript.counts_append, List.map_append, Promise.due_append]
      simp only [List.append_assoc]
    have hafter : incoming ++ more = Transcript.bytes (.byte b :: between) ++ rest := by
      rw [hmore, ← List.cons_append, Transcript.bytes_append]
      simp
    exact .refuses rfl hnow (kept_append_counts hkept passed.counts) hleft hafter hne
  | @arrives asked incoming hmore hadvance =>
    -- The number of elements is told, whatever is told after it.
    obtain ⟨told, htold⟩ := Dialogue.prefix_acknowledged_advance (hub.accept place site.operation)
      false d' ⟨incoming, true, [] ++ Transcript.counts (t ++ [.ready n]), asked⟩
    have hcounts : l.counts hub place site d = t.counts ++ n :: told := by
      rw [Line.counts_of_advance hended (hadvance.trans (Prod.eta _).symm), ← htold]
      simp
    rw [hcounts, List.map_append, List.map_cons, ← List.append_assoc]
    have hnow : due = (kept ++ Promise.due (t.counts.map UInt32.toNat) none) ++
        .count size :: later := by
      rw [hdue, List.append_assoc]
    exact .refused hnow rfl (kept_append_counts hkept t.counts) hne

/-- A session that begins to read the arguments of a call tells the numbers that are due, or
refuses a transfer. -/
theorem tracks_start (hended : l.ended = false) (hdescribed : hub.fleet.AllDescribed) {a : Asked}
    (ha : a.IsValid hub) {ahead lost : List Promise} (hcalls : Calls hub rest ahead)
    (hstream : l.incoming ++ more = a.sending.transcript.bytes ++ rest)
    (hdue : due = kept ++ (a.promises ++ ahead ++ lost))
    (hkept : List.Forall₂ Promise.Kept kept own) :
    Tracks hub (l.readOn hub a.place a.site a.dialogue).1.stage
      (l.readOn hub a.place a.site a.dialogue).1.incoming more due
      (own ++ (l.counts hub a.place a.site a.dialogue).map .count) := by
  rw [Asked.promises] at hdue
  cases CallSite.verdict (Hub.isDescribed_of_route hdescribed ha.route) ha.call ha.sized
    (hub.accept a.place a.site.operation) with
  | completes hreads hbytes hcounts =>
    rw [← hcounts] at hdue
    exact tracks_readOn hended hreads hcalls (by rw [hbytes]; exact hstream) hdue hkept
  | @refuses t n size later d' hreads hbytes hcounts hne =>
    obtain ⟨unread, hunread⟩ := hbytes
    have hbytes : a.sending.transcript.bytes = t.bytes ++ unread := hunread.symm
    have hlater : l.incoming ++ more = t.bytes ++ (unread ++ rest) := by
      rw [hstream, hbytes, List.append_assoc]
    have hnow : due = kept ++ (Promise.due (t.counts.map UInt32.toNat) none ++
        .count size :: (Promise.due later a.reply? ++ ahead ++ lost)) := by
      rw [hdue, hcounts, Promise.due_append]
      simp only [Promise.due, List.map_cons, List.append_assoc, List.cons_append]
    exact tracks_readOn_of_refuses hended hreads hlater hnow hkept hne

end ReadOn

/-! ### Answers -/

namespace Hub

variable {hub : Hub δ} {id : Nat} {place : Option Nat} {site : CallSite} {args : Arguments}

theorem answer_cases (hub : Hub δ) (id : Nat) (place : Option Nat) (site : CallSite)
    (args : Arguments) :
    hub.answer id place site args = [] ∨ ∃ reply bytes,
      hub.answer id place site args = [.reply site args reply bytes] ∧
        site.encode reply = .ok (some bytes) := by
  unfold answer
  split
  · exact .inl rfl
  · next reply _ =>
    split
    · next bytes hbytes => exact .inr ⟨reply, bytes, rfl, hbytes⟩
    · exact .inl rfl

/-- An operation that declares no reply sends none. -/
theorem answer_of_write (hmode : site.operation.mode = .write) :
    hub.answer id place site args = [] := by
  rcases hub.answer_cases id place site args with hnone | ⟨reply, bytes, -, hbytes⟩
  · exact hnone
  · have hsent := CallSite.isSent_of_encode (by rw [hmode]; nofun) hbytes
    cases hsent <;> simp_all

theorem own_answer : Message.own (hub.answer id place site args) =
    hub.answer id place site args := by
  rcases hub.answer_cases id place site args with hnone | ⟨reply, bytes, hone, -⟩
  · rw [hnone]
    rfl
  · rw [hone]
    rfl

/-- A call that fails is not answered. -/
theorem answer_of_respond (h : (hub.respond id place site (.ok args)).1.toOption = none) :
    hub.answer id place site args = [] := by
  have hrespond : (hub.respond id place site (.ok args)).1 =
      (hub.perform id place site.operation args).1.bind site.encode := rfl
  rw [hrespond] at h
  unfold answer
  cases hperform : (hub.perform id place site.operation args).1 with
  | error e => rfl
  | ok reply =>
    rw [hperform] at h
    simp only [Except.bind] at h
    cases hencode : site.encode reply with
    | error e => simp only [hencode]
    | ok out =>
      rw [hencode] at h
      cases h

end Hub

/-! ### Steps -/

namespace Tracks

variable {hub hub' : Hub δ} {l l' : Line} {more : Bytes} {busy : List Nat} {sizes : List Nat}
  {reply? : Option (CallSite × Arguments)} {own : List Message}

omit [Device δ] in
/-- The command of the first of some calls, of whose stream a part has come. -/
theorem next_of_calls {incoming : Bytes} {due : List Promise}
    (h : Calls hub (incoming ++ more) due) :
    nextCommand incoming = .ended ∨ nextCommand incoming = .invalid .connectionBroken ∨
      ∃ (a : Asked) (left stream : Bytes) (ahead : List Promise), a.IsValid hub ∧
        nextCommand incoming = .command a.sending.command left ∧
        left ++ more = a.sending.transcript.bytes ++ stream ∧ Calls hub stream ahead ∧
        due = a.promises ++ ahead := by
  generalize hstream : incoming ++ more = stream at h
  cases h with
  | nil =>
    obtain ⟨rfl, -⟩ := List.append_eq_nil_iff.1 hstream
    exact .inl rfl
  | @cons a stream ahead ha hcalls =>
    rw [Sending.bytes, List.append_assoc] at hstream
    rcases nextCommand_of_begun ha.isWhole hstream with h | h | ⟨left, h, hleft⟩
    · exact .inl h
    · exact .inr (.inl h)
    · exact .inr (.inr ⟨a, left, stream, ahead, ha, h, hleft, hcalls, rfl⟩)

/-- The reply that is due is sent, or none will come. -/
theorem of_answers {a : Asked} {kept ahead lost : List Promise} {stream : Bytes} {hub' : Hub δ}
    (hdue : Promise.due sizes reply? = kept ++ (Promise.due [] a.reply? ++ ahead ++ lost))
    (hkept : List.Forall₂ Promise.Kept kept own) (hcalls : Calls hub stream ahead)
    (htable : hub'.fleet.table = hub.fleet.table) {incoming : Bytes}
    (hstream : incoming ++ more = stream) :
    Tracks hub' .listening incoming more (Promise.due sizes reply?)
      (own ++ hub.answer l.id a.place a.site a.received) := by
  have hahead : Ahead hub' .listening (incoming ++ more) ahead := by
    rw [hstream]
    exact .listening (hcalls.of_table htable)
  by_cases hmode : a.site.operation.mode = .write
  · rw [Hub.answer_of_write hmode, List.append_nil]
    rw [Asked.reply?, if_pos hmode] at hdue
    exact .keeps hdue hkept hahead
  · rw [Asked.reply?, if_neg hmode] at hdue
    rcases hub.answer_cases l.id a.place a.site a.received with hnone | ⟨reply, bytes, hone, hbytes⟩
    · -- the reply is lost, and nothing is due after it
      have hlast := Promise.eq_nil_of_reply hdue
      obtain ⟨rfl, rfl⟩ := List.append_eq_nil_iff.1 hlast
      rw [hnone, List.append_nil]
      have hnow : Promise.due sizes reply? = kept ++ ([] ++ [.reply a.site a.received]) := hdue
      exact .keeps hnow hkept hahead
    · rw [hone]
      have hnow : Promise.due sizes reply? =
          (kept ++ [.reply a.site a.received]) ++ (ahead ++ lost) := by
        rw [hdue, List.append_assoc, List.append_assoc]
        rfl
      exact .keeps hnow (List.rel_append hkept (.cons (.reply hbytes) .nil)) hahead

/-- A session that listens takes the next command once it has come. -/
theorem steps_of_listening {kept ahead lost : List Promise}
    (hdue : Promise.due sizes reply? = kept ++ (ahead ++ lost))
    (hkept : List.Forall₂ Promise.Kept kept own) (hcalls : Calls hub (l.incoming ++ more) ahead)
    (hlistening : l.stage = .listening) (hended : l.ended = false)
    (hstep : l.Steps hub busy l' hub') :
    Tracks hub' l'.stage l'.incoming more (Promise.due sizes reply?) own := by
  -- the stream is cut inside a command, or begins with one of the calls ahead
  have hnext := next_of_calls hcalls
  cases hstep with
  | closes _ hgone => cases hended.symm.trans hgone
  | aborts _ hinvalid he =>
    rcases hnext with h | h | ⟨a, left, stream, ahead', -, h, -⟩
    · cases hinvalid.symm.trans h
    · cases hinvalid.symm.trans h
      cases hended.symm.trans (he rfl)
    · cases hinvalid.symm.trans h
  | refuses _ hcommand hroute =>
    rcases hnext with h | h | ⟨a, left, stream, ahead', ha, h, -⟩
    · cases hcommand.symm.trans h
    · cases hcommand.symm.trans h
    · cases hcommand.symm.trans h
      cases ha.route.symm.trans hroute
  | takes _ hcommand hroute =>
    rcases hnext with h | h | ⟨a, left, stream, ahead', ha, h, hleft, hrest, rfl⟩
    · cases hcommand.symm.trans h
    · cases hcommand.symm.trans h
    · cases hcommand.symm.trans h
      cases ha.route.symm.trans hroute
      have hwaiting := Ahead.waiting ha hrest
      rw [← hleft] at hwaiting
      exact .keeps hdue hkept (hwaiting.of_fleet rfl fun _ _ => rfl)
  | starts h | reads h | answers h | breaks h => cases hlistening.symm.trans h

/-- A session that has read the arguments of a call sends the reply that is due, or none will
come. -/
theorem steps_of_calling {a : Asked} {kept ahead lost : List Promise} {stream : Bytes}
    (hdue : Promise.due sizes reply? = kept ++ (Promise.due [] a.reply? ++ ahead ++ lost))
    (hkept : List.Forall₂ Promise.Kept kept own) (hcalls : Calls hub stream ahead)
    (hstream : l.incoming ++ more = stream)
    (hcalling : l.stage = .calling a.place a.site (.ok a.received)) (hended : l.ended = false)
    (hstep : l.Steps hub busy l' hub') :
    Tracks hub' l'.stage l'.incoming more (Promise.due sizes reply?)
      (own ++ Message.own (l.tells hub l.id)) := by
  have htable := hstep.fleet.1
  have hown : Message.own (l.tells hub l.id) = hub.answer l.id a.place a.site a.received := by
    simp only [Line.tells, hcalling, hended, and_self, if_true, Message.own_append,
      Hub.own_announces, Hub.own_answer, List.nil_append]
  rw [hown]
  cases hstep with
  | answers hstage =>
    cases hcalling.symm.trans hstage
    exact of_answers hdue hkept hcalls htable hstream
  | breaks hstage e hanswer =>
    cases hcalling.symm.trans hstage
    have hnow : Promise.due sizes reply? =
        kept ++ ([] ++ (Promise.due [] a.reply? ++ ahead ++ lost)) := hdue
    rw [Hub.answer_of_respond (hanswer hended), List.append_nil]
    exact .keeps hnow hkept (.closed _)
  | closes h | aborts h | refuses h | takes h | starts h | reads h => cases hcalling.symm.trans h

/-- Whatever step a session makes, it stands well with its client after it. -/
theorem steps (h : Tracks hub l.stage l.incoming more (Promise.due sizes reply?) own)
    (hended : l.ended = false) (hdescribed : hub.fleet.AllDescribed)
    (hstep : l.Steps hub busy l' hub') :
    Tracks hub' l'.stage l'.incoming more (Promise.due sizes reply?)
      (own ++ Message.own (l.tells hub l.id)) := by
  cases h with
  | refused hdue hown hkept hne =>
    rw [hown, List.append_assoc]
    exact .refused hdue rfl hkept hne
  -- a refusal shows when the line reads on, and in no other step
  | refuses hreading hdue hkept hreads hstream hne =>
    cases hstep with
    | reads hstage =>
      cases hreading.symm.trans hstage
      have hreadOn := tracks_readOn_of_refuses hended hreads hstream hdue hkept hne
      simp only [Line.tells, hreading, if_true, Message.own_map_count]
      exact hreadOn.of_fleet rfl fun _ _ => rfl
    | closes h | aborts h | refuses h | takes h | starts h | answers h | breaks h =>
      cases hreading.symm.trans h
  -- as long as the promises are kept, the stage of the line tells what lies ahead
  | @keeps kept ahead lost hdue hkept hahead =>
    generalize hstage : l.stage = stage at hahead
    generalize hstream : l.incoming ++ more = stream at hahead
    cases hahead with
    | listening hcalls =>
      subst hstream
      simp only [Line.tells, hstage, Message.own_nil, List.append_nil]
      exact steps_of_listening hdue hkept hcalls hstage hended hstep
    | waiting ha hcalls =>
      simp only [Line.tells, hstage, if_true, Message.own_map_count]
      cases hstep with
      | starts hwaiting =>
        cases hstage.symm.trans hwaiting
        have hstart := tracks_start hended hdescribed ha hcalls hstream hdue hkept
        exact hstart.of_fleet rfl fun _ _ => rfl
      | closes h | aborts h | refuses h | takes h | reads h | answers h | breaks h =>
        cases hstage.symm.trans h
    | reading hreads hcalls =>
      simp only [Line.tells, hstage, if_true, Message.own_map_count]
      cases hstep with
      | reads hreading =>
        cases hstage.symm.trans hreading
        have hreadOn := tracks_readOn hended hreads hcalls hstream hdue hkept
        exact hreadOn.of_fleet rfl fun _ _ => rfl
      | closes h | aborts h | refuses h | takes h | starts h | answers h | breaks h =>
        cases hstage.symm.trans h
    | calling hcalls => exact steps_of_calling hdue hkept hcalls hstream hstage hended hstep
    | closed =>
      cases hstep with
      | closes h | aborts h | refuses h | takes h | starts h | reads h | answers h | breaks h =>
        cases hstage.symm.trans h

end Tracks

/-! ### What a client does -/

theorem Ahead.concat {hub : Hub δ} {stage : Stage} {stream : Bytes} {due : List Promise}
    (h : Ahead hub stage stream due) {a : Asked} (ha : a.IsValid hub) :
    stage = .closed ∨ Ahead hub stage (stream ++ a.sending.bytes) (due ++ a.promises) := by
  cases h with
  | listening hcalls => exact .inr (.listening (hcalls.concat ha))
  | waiting hfirst hcalls =>
    rw [List.append_assoc, List.append_assoc]
    exact .inr (.waiting hfirst (hcalls.concat ha))
  | reading hreads hcalls =>
    rw [List.append_assoc, List.append_assoc]
    exact .inr (.reading hreads (hcalls.concat ha))
  | calling hcalls =>
    rw [List.append_assoc]
    exact .inr (.calling (hcalls.concat ha))
  | closed => exact .inl rfl

namespace Tracks

variable {hub : Hub δ} {l : Line} {stage : Stage} {incoming bytes more : Bytes} {size : Nat}
  {sizes : List Nat} {reply? : Option (CallSite × Arguments)} {due : List Promise} {m : Message}
  {own : List Message}

/-- What a client sends comes behind what it has sent before. -/
theorem hear (h : Tracks hub stage incoming (bytes ++ more) due own) :
    Tracks hub stage (incoming ++ bytes) more due own := by
  cases h with
  | keeps hdue hkept hahead =>
    rw [← List.append_assoc] at hahead
    exact .keeps hdue hkept hahead
  | refuses hstage hdue hkept hreads hstream hne =>
    rw [← List.append_assoc] at hstream
    exact .refuses hstage hdue hkept hreads hstream hne
  | refused hdue hown hkept hne => exact .refused hdue hown hkept hne

/-- A session that has ended takes nothing. -/
theorem hear_closed (h : Tracks hub .closed incoming (bytes ++ more) due own) :
    Tracks hub .closed incoming more due own := by
  cases h with
  | keeps hdue hkept hahead =>
    cases hahead
    exact .keeps hdue hkept (.closed _)
  | refuses hstage => cases hstage
  | refused hdue hown hkept hne => exact .refused hdue hown hkept hne

/-- A client that is to be told nothing makes a call. -/
theorem ask (h : Tracks hub stage incoming [] (Promise.due [] none) own) {a : Asked}
    (ha : a.IsValid hub) : Tracks hub stage incoming a.sending.bytes a.promises own := by
  cases h with
  | @keeps kept ahead lost hdue hkept hahead =>
    obtain ⟨rfl, hnil⟩ := List.append_eq_nil_iff.1 hdue.symm
    obtain ⟨rfl, rfl⟩ := List.append_eq_nil_iff.1 hnil
    rw [List.append_nil] at hahead
    rcases hahead.concat ha with rfl | hahead
    · have hnow : a.promises = [] ++ ([] ++ a.promises) := rfl
      exact .keeps hnow hkept (.closed _)
    · have hnow : a.promises = [] ++ (a.promises ++ []) := by rw [List.append_nil, List.nil_append]
      exact .keeps hnow hkept hahead
  | refuses _ hdue =>
    have hnil := List.append_eq_nil_iff.1 (List.append_eq_nil_iff.1 hdue.symm).2
    cases hnil.2
  | refused hdue => cases (List.append_eq_nil_iff.1 hdue.symm).2

/-- What a client takes for a number that is due is a number, and only if it is the one that is due
does the client go on. -/
theorem take_count
    (h : Tracks hub stage incoming more (Promise.due (size :: sizes) reply?) (m :: own)) :
    ∃ n, m = .count n ∧
      (n.toNat = size → Tracks hub stage incoming more (Promise.due sizes reply?) own) := by
  have hcons : Promise.due (size :: sizes) reply? = .count size :: Promise.due sizes reply? := rfl
  rw [hcons] at h
  cases h with
  | keeps hdue hkept hahead =>
    cases hkept with
    | cons hfirst hrest =>
      obtain ⟨rfl, hlater⟩ := List.cons.inj hdue
      cases hfirst with
      | count n => exact ⟨n, rfl, fun _ => .keeps hlater hrest hahead⟩
  | refuses hstage hdue hkept hreads hstream hne =>
    cases hkept with
    | cons hfirst hrest =>
      obtain ⟨rfl, hlater⟩ := List.cons.inj hdue
      cases hfirst with
      | count n => exact ⟨n, rfl, fun _ => .refuses hstage hlater hrest hreads hstream hne⟩
  -- the count that breaks a promise is the first message only if none was kept before it
  | refused hdue hown hkept hne =>
    cases hkept with
    | nil =>
      obtain ⟨hsize, -⟩ := List.cons.inj hdue
      obtain ⟨rfl, -⟩ := List.cons.inj hown
      cases hsize
      exact ⟨_, rfl, fun heq => absurd heq hne⟩
    | cons hfirst hrest =>
      obtain ⟨rfl, hlater⟩ := List.cons.inj hdue
      obtain ⟨rfl, htold⟩ := List.cons.inj hown
      cases hfirst with
      | count n => exact ⟨n, rfl, fun _ => .refused hlater htold hrest hne⟩

/-- What a client takes for the reply that is due is that reply. -/
theorem take_reply {site : CallSite} {args : Arguments}
    (h : Tracks hub stage incoming more (Promise.due [] (some (site, args))) (m :: own)) :
    ∃ reply bytes, m = .reply site args reply bytes ∧ site.encode reply = .ok (some bytes) ∧
      Tracks hub stage incoming more (Promise.due [] none) own := by
  have hone : Promise.due [] (some (site, args)) = [.reply site args] := rfl
  rw [hone] at h
  cases h with
  | keeps hdue hkept hahead =>
    cases hkept with
    | cons hfirst hrest =>
      obtain ⟨rfl, hlater⟩ := List.cons.inj hdue
      cases hfirst with
      | reply hbytes => exact ⟨_, _, rfl, hbytes, .keeps hlater hrest hahead⟩
  | refuses hstage hdue hkept hreads hstream hne =>
    cases hkept with
    | cons hfirst hrest =>
      obtain ⟨rfl, hlater⟩ := List.cons.inj hdue
      have hnil := List.append_eq_nil_iff.1 (List.append_eq_nil_iff.1 hlater.symm).2
      cases hnil.2
  | refused hdue hown hkept hne =>
    cases hkept with
    | nil => cases hdue
    | cons hfirst hrest =>
      obtain ⟨rfl, hlater⟩ := List.cons.inj hdue
      cases (List.append_eq_nil_iff.1 hlater.symm).2

end Tracks

end Instrument.Network
