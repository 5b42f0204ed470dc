import Instrument.Proofs.Call.Telling
import Instrument.Proofs.Generator.Rebuilding

/-!
What comes of a pack, whatever its sender does. The first obstacle decides: bytes that do not come,
a transfer that is larger than the receiver is ready for, or a sender that cannot be told so. Main
statements: a transfer and a pack each have an outcome, from any stream, and are read with just this
outcome; and no transfer takes more from the stream at once than the largest.
-/

namespace Instrument

open Dialogue (Answers Channel Loads)
open Interface (Argument Buffer Operation PlacedPack TakesUp)
open Wire (Elements PayloadReader Scalar ScalarType TupleFormat)
open Exchange (Ends ends_bind ends_bind_of_error ends_bind_pure)

variable {w : Answers} {c c' c'' : Channel}

/-! ### Transfers -/

theorem transferLimit_mul_le (element : ScalarType) :
    transferLimit element * element.width ≤ maxTransfer :=
  Nat.div_mul_le_self _ _

/-- A transfer of elements, as its receiver sees it. -/
structure Transfer where
  element : ScalarType
  /-- The number of elements that are to come. -/
  count : Nat
  /-- The number of elements that the receiver takes. -/
  ready : Nat
  ready_le : ready ≤ transferLimit element
  /-- The error if these numbers differ. -/
  refused : Error
  /-- The error if elements are missing. -/
  missing : Error

namespace Transfer

/-- Tells the sender how many elements are taken, and takes all of them or none. -/
def exchange (t : Transfer) : Exchange Elements := do
  .acknowledge t.ready
  if t.ready ≠ t.count then throw t.refused
  let raw ← .load (t.count * t.element.width) t.missing
  .require (Elements.ofBytes? t.element raw) t.missing

/-- What comes of a transfer: either the sender is told exactly how many elements are taken, or the
error of telling it is the outcome. -/
inductive Outcome (w : Answers) (t : Transfer) (c : Channel) :
    Except Error Elements → Channel → Prop
  | untold {k : UInt32} {e : Error} (hk : k.toNat = t.ready) (htell : w.tell c k = .error e) :
    Outcome w t c (.error e) c
  | refused {k : UInt32} (hk : k.toNat = t.ready) (htell : w.tell c k = .ok ())
    (hne : t.ready ≠ t.count) : Outcome w t c (.error t.refused) (c.told k)
  | missing {k : UInt32} (hk : k.toNat = t.ready) (htell : w.tell c k = .ok ())
    (heq : t.ready = t.count) (hshort : c.incoming.length < t.count * t.element.width) :
    Outcome w t c (.error t.missing) (c.told k)
  | received {k : UInt32} {values : Elements} {rest : Bytes} (hk : k.toNat = t.ready)
    (htell : w.tell c k = .ok ()) (heq : t.ready = t.count) (htype : values.type = t.element)
    (hsize : values.size = t.count) (hincoming : c.incoming = values.raw ++ rest) :
    Outcome w t c (.ok values) ((c.told k).after rest)

variable {t : Transfer} {result : Except Error Elements}

theorem ready_lt (t : Transfer) : t.ready < UInt32.size :=
  Nat.lt_of_le_of_lt (Nat.le_trans t.ready_le (Network.Client.Part.transferLimit_le _)) (by decide)

theorem ends_of_outcome (h : t.Outcome w c result c') : Ends w t.exchange c result c' := by
  unfold exchange
  cases h with
  | untold hk htell =>
    rw [← hk]
    exact ends_bind_of_error (Exchange.ends_acknowledge_of_error htell) _
  | refused hk htell hne =>
    rw [← hk] at hne ⊢
    refine ends_bind (Exchange.ends_acknowledge htell) ?_
    simp only [hne, ne_eq, not_false_eq_true, if_true]
    rfl
  | @missing k hk htell heq hshort =>
    have hshort : (c.told k).incoming.length < t.count * t.element.width := hshort
    rw [← heq, ← hk] at hshort ⊢
    refine ends_bind (Exchange.ends_acknowledge htell) ?_
    simp only [ne_eq, not_true_eq_false, if_false]
    exact ends_bind_of_error (Exchange.ends_load_of_lt hshort _) _
  | @received k values rest hk htell heq htype hsize hincoming =>
    have hincoming : (c.told k).incoming = values.raw ++ rest := hincoming
    have hlength : t.count * t.element.width = values.raw.length := by
      rw [values.length_raw, hsize, htype]
    rw [hlength, ← heq, ← hk, ← htype]
    refine ends_bind (Exchange.ends_acknowledge htell) ?_
    simp only [ne_eq, not_true_eq_false, if_false]
    refine ends_bind (Exchange.ends_load hincoming _) ?_
    rw [values.ofBytes?_raw]
    rfl

theorem exists_outcome (w : Answers) (t : Transfer) (c : Channel) :
    ∃ result c', t.Outcome w c result c' := by
  have hk : (UInt32.ofNat t.ready).toNat = t.ready := UInt32.toNat_ofNat_of_lt' t.ready_lt
  cases htell : w.tell c (.ofNat t.ready) with
  | error e => exact ⟨_, _, .untold hk htell⟩
  | ok told =>
    by_cases heq : t.ready = t.count
    · by_cases hshort : c.incoming.length < t.count * t.element.width
      · exact ⟨_, _, .missing hk htell heq hshort⟩
      · have hlength : (c.incoming.take (t.count * t.element.width)).length =
            t.count * t.element.width := by
          rw [List.length_take, Nat.min_eq_left (Nat.not_lt.1 hshort)]
        let values : Elements :=
          ⟨t.element, c.incoming.take (t.count * t.element.width), by
            rw [hlength, Nat.mul_mod_left]⟩
        have hsize : values.size = t.count := by
          rw [Elements.size, hlength, Nat.mul_div_cancel _ t.element.width_pos]
        exact ⟨_, _, .received hk htell heq rfl hsize (List.take_append_drop ..).symm⟩
    · exact ⟨_, _, .refused hk htell heq⟩

/-- No transfer is larger than the largest. -/
theorem loads_exchange (t : Transfer) : t.exchange.run.Loads (· ≤ maxTransfer) := by
  refine Exchange.loads_bind (fun _ => trivial) fun _ => ?_
  split
  · trivial
  · next heq =>
    have hle : t.count * t.element.width ≤ maxTransfer := by
      rw [← not_not.1 heq]
      exact Nat.le_trans (Nat.mul_le_mul_right _ t.ready_le) (transferLimit_mul_le _)
    exact Exchange.loads_bind (Exchange.loads_load (P := (· ≤ maxTransfer)) hle _) fun _ => trivial

theorem error_of_outcome {e : Error} (h : t.Outcome w c (.error e) c') :
    (∃ c k, w.tell c k = .error e) ∨ e = t.missing ∨ (t.ready ≠ t.count ∧ e = t.refused) := by
  cases h with
  | untold _ htell => exact .inl ⟨_, _, htell⟩
  | refused _ _ hne => exact .inr (.inr ⟨hne, rfl⟩)
  | missing _ _ _ _ => exact .inr (.inl rfl)

end Transfer

namespace CallSite

variable {site : CallSite} {payload bytes : Bytes} {p : PlacedPack} {taken : List Argument}
  {found : Arguments}

/-- The transfer of the elements of a vector. -/
def vectorTransfer (site : CallSite) (element : ScalarType) (count : Nat) : Transfer :=
  ⟨element, count, min count (transferLimit element), Nat.min_le_right .., site.vectorReceive,
    site.vectorReceive⟩

/-- The transfer of the elements of a buffer, of which the device accepts some. -/
def bufferTransfer (site : CallSite) (b : Buffer) (requested accepted : Nat) : Transfer :=
  ⟨b.element, requested, min accepted (transferLimit b.element), Nat.min_le_right ..,
    .device site.device site.operation.name
      (.bufferRefused requested (min accepted (transferLimit b.element))),
    site.arrayExtract⟩

/-! ### Packs -/

/-- The bytes of a pack, inside the payload or from the stream. -/
inductive BytesOf (payload : Bytes) (p : PlacedPack) (c : Channel) : Bytes → Channel → Prop
  | envelope {offset : Nat} (hregion : p.region = .envelope offset)
    (hinside : offset + p.size ≤ payload.length) :
    BytesOf payload p c ((payload.drop offset).take p.size) c
  | reload {bytes rest : Bytes} (hregion : p.region = .reload) (hsize : bytes.length = p.size)
    (hincoming : c.incoming = bytes ++ rest) : BytesOf payload p c bytes (c.after rest)

/-- What comes of a pack. -/
inductive PackOutcome (w : Answers) (site : CallSite) (payload : Bytes) (p : PlacedPack)
    (c : Channel) : Except Error Arguments → Channel → Prop
  | missing (hregion : p.region = .reload) (hshort : c.incoming.length < p.size) :
    PackOutcome w site payload p c
      (.error (.bufferReload site.device site.operation.name p.size)) c
  | scalars {bytes : Bytes} {values : List Scalar} {c' : Channel} (hcategory : p.category = .scalar)
    (hbytes : BytesOf payload p c bytes c')
    (hvalues : TupleFormat.unpackFields? .big
      ((site.arguments p.members).map (·.kind.element)) bytes = some values) :
    PackOutcome w site payload p c
      (.ok (Generator.namedScalars (site.arguments p.members) values)) c'
  | array {a : Argument} {values : Elements} {c' : Channel} (ha : site.arguments p.members = [a])
    (hkind : a.kind = .array values.type values.size) (hbytes : BytesOf payload p c values.raw c') :
    PackOutcome w site payload p c (.ok [(a.name, .array values)]) c'
  | vector {a : Argument} {element : ScalarType} {bytes : Bytes} {count : Scalar}
    {result : Except Error Elements} {c' c'' : Channel} (ha : site.arguments p.members = [a])
    (hkind : a.kind = .vector element) (hbytes : BytesOf payload p c bytes c')
    (hcount : Scalar.decodeBE? .u64 bytes = some count)
    (htransfer : (site.vectorTransfer element count.bits).Outcome w c' result c'') :
    PackOutcome w site payload p c (result.map fun values => [(a.name, .vector values)]) c''

/-- A number that is all there is to read. -/
theorem readScalar?_ofBytes {type : ScalarType} {value : Scalar}
    (h : Scalar.decodeBE? type bytes = some value) :
    ∃ r, (PayloadReader.ofBytes bytes).readScalar? type = some (value, r) := by
  have hlength : type.width ≤ bytes.length := by
    rw [← Nat.not_lt, ← Wire.split?_eq_none_iff]
    intro hnone
    rw [Scalar.decodeBE?, hnone] at h
    cases h
  obtain ⟨value', r, hvalue, hread, -⟩ :=
    Generator.readScalar?_of_le (Generator.drop_ofBytes bytes) type hlength []
  rw [List.append_nil, h] at hvalue
  exact ⟨r, Option.some.inj hvalue ▸ hread⟩

theorem length_of_bytesOf (h : BytesOf payload p c bytes c') : bytes.length = p.size := by
  cases h with
  | envelope _ hinside =>
    rw [List.length_take, List.length_drop]
    omega
  | reload _ hsize _ => exact hsize

theorem ends_packBytes (hheld : payload.length < UInt64.size) (h : BytesOf payload p c bytes c') :
    Ends w (site.packBytes payload p) c (.ok bytes) c' := by
  unfold packBytes
  cases h with
  | envelope hregion hinside =>
    simp only [hregion, Interface.wrap_of_lt (Nat.lt_of_le_of_lt hinside hheld)]
    rw [if_pos ⟨Nat.le_add_right _ _, hinside⟩, Nat.add_sub_cancel_left]
    rfl
  | reload hregion hsize hincoming =>
    rw [hregion, ← hsize]
    exact Exchange.ends_load hincoming _

theorem exists_bytesOf (hinside : Generator.IsInside payload p) (c : Channel) :
    (p.region = .reload ∧ c.incoming.length < p.size) ∨
      ∃ bytes c', BytesOf payload p c bytes c' := by
  cases hregion : p.region with
  | envelope offset => exact .inr ⟨_, _, .envelope hregion (hinside offset hregion)⟩
  | reload =>
    by_cases hshort : c.incoming.length < p.size
    · exact .inl ⟨rfl, hshort⟩
    · have hlength : (c.incoming.take p.size).length = p.size := by
        rw [List.length_take, Nat.min_eq_left (Nat.not_lt.1 hshort)]
      exact .inr ⟨_, _, .reload hregion hlength (List.take_append_drop ..).symm⟩

variable (hplaced : Generator.IsPlaced site.operation payload p taken)
include hplaced

theorem arguments_of_isPlaced : site.arguments p.members = taken := hplaced.members_eq

/-- An argument that is no scalar has a pack of its own. -/
theorem category_ne_of_single {a : Argument} (ha : site.arguments p.members = [a])
    (hne : a.kind.category ≠ .scalar) : p.category ≠ .scalar := by
  obtain rfl := ha.symm.trans (arguments_of_isPlaced hplaced)
  have htakes := hplaced.takes
  generalize p.category = category at htakes
  cases htakes with
  | scalars _ hscalar => exact absurd (hscalar a (List.mem_singleton_self a)) hne
  | single _ _ => exact hne

theorem exists_scalars (hcategory : p.category = .scalar) (hbytes : BytesOf payload p c bytes c') :
    ∃ values : List Scalar,
      TupleFormat.unpackFields? .big ((site.arguments p.members).map (·.kind.element)) bytes =
        some values ∧
      site.readScalars p.size (.ofBytes bytes) (site.arguments p.members) =
        .ok (Generator.namedScalars (site.arguments p.members) values) ∧
      values.map (·.type) = (site.arguments p.members).map (·.kind.element) := by
  rw [arguments_of_isPlaced hplaced]
  have hscalar : ∀ a ∈ taken, a.kind.category = .scalar := by
    have htakes := hplaced.takes
    generalize p.category = category at htakes hcategory
    cases htakes with
    | scalars _ hscalar => exact hscalar
    | single _ hne => exact absurd hcategory hne
  have hsize : bytes.length = Interface.extents (taken.map (·.kind)) :=
    (length_of_bytesOf hbytes).trans hplaced.size
  have hread := Generator.readScalars_of_extents site p.size hscalar
    (Generator.drop_ofBytes bytes) hsize []
  rwa [List.append_nil] at hread

omit hplaced in
/-- What a pack with one argument holds is what is read for this argument. -/
theorem ends_readPack_single {a : Argument} {result : Except Error ArgumentValue}
    (hheld : payload.length < UInt64.size) (hbytes : BytesOf payload p c bytes c')
    (ha : site.arguments p.members = [a])
    (hcategory : p.category ≠ .scalar)
    (h : Ends w (site.readSingle p.size (.ofBytes bytes) a) c' result c'') :
    Ends w (site.readPack payload p) c (result.map fun value => [(a.name, value)]) c'' := by
  have hloop : Ends w
      ([a].mapM fun a => return (a.name, ← site.readSingle p.size (.ofBytes bytes) a)) c'
      (result.map fun value => [(a.name, value)]) c'' := by
    rw [List.mapM_cons, List.mapM_nil]
    simp only [pure_bind, bind_assoc]
    exact ends_bind_pure h _
  refine ends_bind (ends_packBytes hheld hbytes) ?_
  simp only [ha]
  cases hp : p.category with
  | scalar => exact absurd hp hcategory
  | array | vector => exact hloop

/-- A pack is read with the outcome that it has. -/
theorem ends_readPack {result : Except Error Arguments}
    (h : site.PackOutcome w payload p c result c') :
    Ends w (site.readPack payload p) c result c' := by
  cases h with
  | missing hregion hshort =>
    refine ends_bind_of_error ?_ _
    rw [packBytes, hregion]
    exact Exchange.ends_load_of_lt hshort _
  | @scalars bytes values _ hcategory hbytes hvalues =>
    obtain ⟨values', hvalues', hread, -⟩ := exists_scalars hplaced hcategory hbytes
    obtain rfl : values = values' := Option.some.inj (hvalues.symm.trans hvalues')
    refine ends_bind (ends_packBytes hplaced.held hbytes) ?_
    simp only [hcategory, hread]
    rfl
  -- the size of the pack gives the number of elements back
  | @array a values _ ha hkind hbytes =>
    have hsize : p.size / values.type.width = values.size := by
      rw [← length_of_bytesOf hbytes, Elements.size]
    obtain ⟨r, hread⟩ := PayloadReader.readElements?_raw values
    have hsingle : Ends w (site.readSingle p.size (.ofBytes values.raw) a) c' (.ok (.array values))
        c' := by
      rw [readSingle, hkind]
      simp only [hsize, hread]
      rfl
    exact ends_readPack_single hplaced.held hbytes ha
      (category_ne_of_single hplaced ha (by simp [hkind, Interface.ArgumentKind.category])) hsingle
  | @vector a element bytes count result c₁ _ ha hkind hbytes hcount htransfer =>
    have hreceive : Ends w (site.receiveVector element (.ofBytes bytes)) c₁ result c' := by
      obtain ⟨r, hread⟩ := readScalar?_ofBytes hcount
      rw [receiveVector, hread]
      exact Transfer.ends_of_outcome htransfer
    have hsingle : Ends w (site.readSingle p.size (.ofBytes bytes) a) c₁ (result.map .vector)
        c' := by
      rw [readSingle, hkind]
      exact ends_bind_pure hreceive _
    have hpack := ends_readPack_single hplaced.held hbytes ha
      (category_ne_of_single hplaced ha (by simp [hkind, Interface.ArgumentKind.category])) hsingle
    cases result <;> exact hpack

theorem exists_packOutcome (w : Answers) (c : Channel) :
    ∃ result c', site.PackOutcome w payload p c result c' := by
  rcases exists_bytesOf hplaced.inside c with ⟨hregion, hshort⟩ | ⟨bytes, c', hbytes⟩
  · exact ⟨_, _, .missing hregion hshort⟩
  by_cases hcategory : p.category = .scalar
  · obtain ⟨values, hvalues, -⟩ := exists_scalars hplaced hcategory hbytes
    exact ⟨_, _, .scalars hcategory hbytes hvalues⟩
  -- a pack of anything but scalars has one member
  · obtain ⟨a, ha, hne⟩ : ∃ a, taken = [a] ∧ a.kind.category ≠ .scalar := by
      have htakes := hplaced.takes
      generalize p.category = category at htakes hcategory
      cases htakes with
      | scalars _ _ => exact absurd rfl hcategory
      | @single _ a _ hne => exact ⟨a, rfl, hne⟩
    have harguments : site.arguments p.members = [a] := (arguments_of_isPlaced hplaced).trans ha
    have hsize : bytes.length = a.kind.extent := by
      rw [length_of_bytesOf hbytes, hplaced.size, ha]
      rfl
    cases hkind : a.kind with
    | scalar type => exact absurd (by rw [hkind]; rfl) hne
    | array element length =>
      rw [hkind] at hsize
      have hwhole : bytes.length % element.width = 0 := by
        rw [hsize]
        exact Nat.mul_mod_right ..
      have hlength : length = bytes.length / element.width := by
        rw [hsize]
        exact (Nat.mul_div_cancel_left _ element.width_pos).symm
      exact ⟨_, _, @PackOutcome.array w site payload p c a ⟨element, bytes, hwhole⟩ c' harguments
        (by rw [hkind, hlength]; rfl) hbytes⟩
    | vector element =>
      rw [hkind] at hsize
      have hfull : ScalarType.u64.width ≤ bytes.length := Nat.le_of_eq hsize.symm
      obtain ⟨count, hcount, -⟩ := Generator.decodeBE?_of_le hfull []
      rw [List.append_nil] at hcount
      obtain ⟨result, c'', htransfer⟩ :=
        (site.vectorTransfer element count.bits).exists_outcome w c'
      exact ⟨_, _, .vector harguments hkind hbytes hcount htransfer⟩

end CallSite

end Instrument
