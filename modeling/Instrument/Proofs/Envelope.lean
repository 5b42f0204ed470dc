import Instrument.Envelope

/-!
Headers of envelopes that are written and read. Main statement: a header that is written is read as
the same header, unless it announces more than the largest payload.
-/

namespace Instrument

open Wire (bytesBE valueBE)

namespace EnvelopeHeader

/-- Where the fields of a header stand. -/
theorem fields_toBytes (h : EnvelopeHeader) :
    h.toBytes.take 4 = bytesBE 4 0 ∧ (h.toBytes.drop 4).take 2 = bytesBE 2 h.device.toNat ∧
      (h.toBytes.drop 6).take 2 = bytesBE 2 h.operation.toNat ∧
      (h.toBytes.drop 8).take 4 = bytesBE 4 h.payloadSize.toNat := by
  simp [toBytes, List.drop_append, List.take_of_length_le, List.drop_eq_nil_of_le]

theorem ofBytes_toBytes {h : EnvelopeHeader} (hmax : h.payloadSize.toNat ≤ maxPayload) :
    ofBytes h.toBytes = .ok h := by
  obtain ⟨hreserved, hdevice, hoperation, hpayload⟩ := fields_toBytes h
  have hdeviceValue : valueBE (bytesBE 2 h.device.toNat) = h.device.toNat :=
    Wire.valueBE_bytesBE_of_lt h.device.toNat_lt
  have hoperationValue : valueBE (bytesBE 2 h.operation.toNat) = h.operation.toNat :=
    Wire.valueBE_bytesBE_of_lt h.operation.toNat_lt
  have hpayloadValue : valueBE (bytesBE 4 h.payloadSize.toNat) = h.payloadSize.toNat :=
    Wire.valueBE_bytesBE_of_lt h.payloadSize.toNat_lt
  have hzero : valueBE (bytesBE 4 0) = 0 := Wire.valueBE_bytesBE_of_lt (by decide)
  simp only [ofBytes, hreserved, hdevice, hoperation, hpayload, hdeviceValue, hoperationValue,
    hpayloadValue, hzero]
  simp [Nat.not_lt.2 hmax]

end EnvelopeHeader

theorem envelope_eq_ok_iff {device operation : UInt16} {payload sent : Bytes} :
    envelope device operation payload = .ok sent ↔
      payload.length ≤ EnvelopeHeader.maxPayload ∧
        sent = (⟨device, operation, UInt32.ofNat payload.length⟩ : EnvelopeHeader).toBytes ++
          payload := by
  rw [envelope]
  split
  · next h => simp [Nat.not_le.2 h]
  · next h =>
    rw [Except.ok.injEq, eq_comm]
    exact ⟨fun hsent => ⟨Nat.not_lt.1 h, hsent⟩, fun hsent => hsent.2⟩

namespace Command

/-- Whether the header of a command fits its payload, and the payload is not too large. -/
def IsWhole (c : Command) : Prop :=
  c.header.payloadSize.toNat = c.payload.length ∧ c.payload.length ≤ EnvelopeHeader.maxPayload

instance (c : Command) : Decidable c.IsWhole := inferInstanceAs (Decidable (_ ∧ _))

theorem isWhole_of {device operation : UInt16} {payload : Bytes}
    (h : payload.length ≤ EnvelopeHeader.maxPayload) :
    (Command.of device operation payload).IsWhole := by
  have hlt : payload.length < UInt32.size := Nat.lt_of_le_of_lt h (by decide)
  exact ⟨UInt32.toNat_ofNat_of_lt' hlt, h⟩

end Command

theorem envelope_of_le {device operation : UInt16} {payload : Bytes}
    (h : payload.length ≤ EnvelopeHeader.maxPayload) :
    envelope device operation payload = .ok (Command.of device operation payload).toBytes :=
  envelope_eq_ok_iff.2 ⟨h, rfl⟩

end Instrument
