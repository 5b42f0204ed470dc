import Instrument.Error
import Instrument.Wire.Bytes

/-!
Command envelopes. A header of twelve bytes, its numbers with the highest byte first, holds four
bytes that must be zero, the numbers of a device and of an operation, and the size of the payload
that follows. Main statement: a header that is accepted is written as the same bytes.
-/

namespace Instrument

open Wire (bytesBE valueBE)

/-- The header of an envelope. -/
structure EnvelopeHeader where
  device : UInt16
  operation : UInt16
  payloadSize : UInt32
deriving DecidableEq, Repr

namespace EnvelopeHeader

/-- The size of a header in bytes. -/
def size : Nat := 12

/-- The largest payload of an envelope. -/
def maxPayload : Nat := 131072

/-- The size of the header and the payload. -/
def totalSize (h : EnvelopeHeader) : Nat := size + h.payloadSize.toNat

/-- The bytes of a header. -/
def toBytes (h : EnvelopeHeader) : Bytes :=
  bytesBE 4 0 ++ bytesBE 2 h.device.toNat ++ bytesBE 2 h.operation.toNat ++
    bytesBE 4 h.payloadSize.toNat

/-- Reads the twelve bytes of a header. -/
def ofBytes (bytes : Bytes) : Except Error EnvelopeHeader :=
  let reserved := valueBE (bytes.take 4)
  let payloadSize := valueBE ((bytes.drop 8).take 4)
  if reserved ≠ 0 then .error (.reservedField (UInt32.ofNat reserved))
  else if maxPayload < payloadSize then .error (.payloadTooLarge payloadSize)
  else .ok ⟨UInt16.ofNat (valueBE ((bytes.drop 4).take 2)),
    UInt16.ofNat (valueBE ((bytes.drop 6).take 2)), UInt32.ofNat payloadSize⟩

@[simp] theorem length_toBytes (h : EnvelopeHeader) : h.toBytes.length = size := by
  simp [toBytes, size]

/-- Twelve bytes are the fields of a header in their order. -/
theorem eq_append_fields {bytes : Bytes} (hlen : bytes.length = size) :
    bytes = bytes.take 4 ++ (bytes.drop 4).take 2 ++ (bytes.drop 6).take 2 ++
      (bytes.drop 8).take 4 := by
  have hend : (bytes.drop 8).take 4 = bytes.drop 8 :=
    List.take_of_length_le (by simp [hlen, size])
  rw [hend, List.append_assoc, List.append_assoc]
  conv => lhs; rw [← List.take_append_drop 4 bytes]
  congr 1
  conv => lhs; rw [← List.take_append_drop 2 (bytes.drop 4), List.drop_drop]
  congr 1
  conv => lhs; rw [← List.take_append_drop 2 (bytes.drop 6), List.drop_drop]

theorem toBytes_of_ofBytes {bytes : Bytes} {h : EnvelopeHeader} (hlen : bytes.length = size)
    (hok : ofBytes bytes = .ok h) : h.toBytes = bytes := by
  simp only [ofBytes] at hok
  split at hok
  · cases hok
  · next hzero =>
    split at hok
    · cases hok
    · cases hok
      have hfield (offset width : Nat) (hfits : offset + width ≤ size) :
          ((bytes.drop offset).take width).length = width := by
        simp only [List.length_take, List.length_drop, hlen]
        omega
      have hdevice := hfield 4 2 (by decide)
      have hoperation := hfield 6 2 (by decide)
      have hpayload := hfield 8 4 (by decide)
      have hreserved : (bytes.take 4).length = 4 := hfield 0 4 (by decide)
      have hdeviceLt := Wire.valueBE_lt ((bytes.drop 4).take 2)
      have hoperationLt := Wire.valueBE_lt ((bytes.drop 6).take 2)
      have hpayloadLt := Wire.valueBE_lt ((bytes.drop 8).take 4)
      rw [hdevice] at hdeviceLt
      rw [hoperation] at hoperationLt
      rw [hpayload] at hpayloadLt
      rw [toBytes, UInt16.toNat_ofNat_of_lt' hdeviceLt, UInt16.toNat_ofNat_of_lt' hoperationLt,
        UInt32.toNat_ofNat_of_lt' hpayloadLt, ← Decidable.not_not.1 hzero,
        Wire.bytesBE_valueBE_of_length hreserved, Wire.bytesBE_valueBE_of_length hdevice,
        Wire.bytesBE_valueBE_of_length hoperation, Wire.bytesBE_valueBE_of_length hpayload]
      exact (eq_append_fields hlen).symm

end EnvelopeHeader

/-- A header and the payload after it. -/
structure Command where
  header : EnvelopeHeader
  payload : Bytes
deriving DecidableEq, Repr

namespace Command

/-- The bytes of a command. -/
def toBytes (c : Command) : Bytes := c.header.toBytes ++ c.payload

/-- The command whose envelope holds these. -/
def of (device operation : UInt16) (payload : Bytes) : Command :=
  ⟨⟨device, operation, UInt32.ofNat payload.length⟩, payload⟩

end Command

/-- The bytes of an envelope. -/
def envelope (device operation : UInt16) (payload : Bytes) : Except Error Bytes :=
  if EnvelopeHeader.maxPayload < payload.length then .error (.payloadTooLarge payload.length)
  else
    let header : EnvelopeHeader := ⟨device, operation, UInt32.ofNat payload.length⟩
    .ok (header.toBytes ++ payload)

end Instrument
