import Instrument.Wire.Payload

/-!
Payloads written and read. Main statement: what has been put into a payload is read from it again,
and nothing behind it is touched; and whatever a reader is asked for, it stays within its buffer,
gives what is asked for just if that many bytes are left, and otherwise stays where it is.
-/

namespace Instrument.Wire

/-! ### Fields -/

namespace PayloadReader

variable {r r' : PayloadReader}

theorem take?_of_drop {field tail : Bytes} (h : r.buffer.drop r.position = field ++ tail) :
    ∃ r', r.take? field.length = some (field, r') ∧ r'.buffer.drop r'.position = tail := by
  have hlen : r.position + field.length ≤ r.buffer.length := by
    have := congrArg List.length h
    have := r.position_le
    simp only [List.length_drop, List.length_append] at *
    omega
  refine ⟨⟨r.buffer, r.position + field.length, hlen⟩, ?_, ?_⟩
  · rw [take?, dif_pos hlen, h, List.take_left]
  · rw [← List.drop_drop, h, List.drop_left]

theorem readScalar?_of_drop {value : Scalar} {tail : Bytes}
    (h : r.buffer.drop r.position = value.encodeBE ++ tail) :
    ∃ r', r.readScalar? value.type = some (value, r') ∧ r'.buffer.drop r'.position = tail := by
  obtain ⟨r', htake, hdrop⟩ := take?_of_drop h
  rw [Scalar.length_encodeBE] at htake
  have hvalue : Scalar.decodeBE? value.type value.encodeBE = some value := by
    simpa using value.decodeBE?_encodeBE []
  exact ⟨r', by simp [readScalar?, htake, hvalue], hdrop⟩

theorem readElements?_of_drop {values : Elements} {tail : Bytes}
    (h : r.buffer.drop r.position = values.raw ++ tail) :
    ∃ r', r.readElements? values.type values.size = some (values, r') ∧
      r'.buffer.drop r'.position = tail := by
  obtain ⟨r', htake, hdrop⟩ := take?_of_drop h
  rw [values.length_raw] at htake
  exact ⟨r', by simp [readElements?, htake, values.ofBytes?_raw], hdrop⟩

theorem readElements?_raw (values : Elements) :
    ∃ r, (ofBytes values.raw).readElements? values.type values.size = some (values, r) := by
  have hdrop : (ofBytes values.raw).buffer.drop (ofBytes values.raw).position =
      values.raw ++ [] := by simp [ofBytes]
  obtain ⟨r, hread, -⟩ := readElements?_of_drop hdrop
  exact ⟨r, hread⟩

end PayloadReader

/-! ### Requests -/

namespace PayloadItem

/-- The request that an item answers. -/
def request : PayloadItem → PayloadRequest
  | scalar value => .scalar value.type
  | elements values => .elements values.type values.size

/-- The bytes of an item: a value with its highest byte first, elements as they are. -/
def bytes : PayloadItem → Bytes
  | scalar value => value.encodeBE
  | elements values => values.raw

end PayloadItem

namespace PayloadRequest

/-- How many bytes are asked for. -/
def size : PayloadRequest → Nat
  | scalar type => type.width
  | elements type count => count * type.width

/-- What some bytes are read as. -/
def decode? : PayloadRequest → Bytes → Option PayloadItem
  | scalar type, field => (Scalar.decodeBE? type field).map .scalar
  | elements type _, field => (Elements.ofBytes? type field).map .elements

/-- Bytes of the right number can be read. -/
theorem decode?_of_length {request : PayloadRequest} {field : Bytes}
    (h : field.length = request.size) :
    ∃ item, request.decode? field = some item ∧ item.request = request := by
  cases request with
  | scalar type =>
    have hsplit : split? type.width field = some (field, []) :=
      split?_eq_some_iff.2 ⟨h, (List.append_nil field).symm⟩
    refine ⟨.scalar (Scalar.ofBits type (valueBE field)), ?_, rfl⟩
    rw [decode?, Scalar.decodeBE?, hsplit]
    rfl
  | elements type count =>
    have hlen : field.length = count * type.width := h
    have hwhole : field.length % type.width = 0 := by
      rw [hlen]
      exact Nat.mul_mod_left ..
    refine ⟨.elements ⟨type, field, hwhole⟩, ?_, ?_⟩
    · rw [decode?, Elements.ofBytes?, dif_pos hwhole]
      rfl
    · rw [PayloadItem.request, Elements.size, hlen, Nat.mul_div_cancel count type.width_pos]

end PayloadRequest

namespace PayloadReader

variable {r r' : PayloadReader} {request : PayloadRequest} {item : PayloadItem}

/-- What is read for a request, and the reader behind it. -/
def read? (r : PayloadReader) : PayloadRequest → Option (PayloadItem × PayloadReader)
  | .scalar type => (r.readScalar? type).map (Prod.map .scalar id)
  | .elements type count => (r.readElements? type count).map (Prod.map .elements id)

theorem read?_of_take? {field : Bytes} (h : r.take? request.size = some (field, r')) :
    r.read? request = (request.decode? field).map (·, r') := by
  cases request with
  | scalar type =>
    have htake : r.take? type.width = some (field, r') := h
    cases hvalue : Scalar.decodeBE? type field <;>
      simp [read?, readScalar?, PayloadRequest.decode?, htake, hvalue]
  | elements type count =>
    have htake : r.take? (count * type.width) = some (field, r') := h
    cases hvalues : Elements.ofBytes? type field <;>
      simp [read?, readElements?, PayloadRequest.decode?, htake, hvalues]

theorem read?_of_take?_eq_none (h : r.take? request.size = none) : r.read? request = none := by
  cases request <;> simp_all [read?, readScalar?, readElements?, PayloadRequest.size]

theorem read?_of_drop {tail : Bytes} (h : r.buffer.drop r.position = item.bytes ++ tail) :
    ∃ r', r.read? item.request = some (item, r') ∧ r'.buffer.drop r'.position = tail := by
  cases item with
  | scalar value =>
    obtain ⟨r', hread, hdrop⟩ := readScalar?_of_drop h
    exact ⟨r', by simp [read?, PayloadItem.request, hread], hdrop⟩
  | elements values =>
    obtain ⟨r', hread, hdrop⟩ := readElements?_of_drop h
    exact ⟨r', by simp [read?, PayloadItem.request, hread], hdrop⟩

end PayloadReader

/-! ### Serving -/

/-- What comes of a request: either as many bytes as it asks for are left, and it is answered and
the reader moves behind them, or nothing happens. -/
inductive PayloadReader.Serves (r : PayloadReader) (request : PayloadRequest) :
    Option PayloadItem → PayloadReader → Prop where
  | answered {item : PayloadItem} {r' : PayloadReader} (hfits : request.size ≤ r.remaining)
      (hread : r.read? request = some (item, r')) (hrequest : item.request = request)
      (hbuffer : r'.buffer = r.buffer) (hposition : r'.position = r.position + request.size) :
    Serves r request (some item) r'
  | refused (hshort : r.remaining < request.size) (hread : r.read? request = none) :
    Serves r request none r

namespace PayloadReader

variable {r r' : PayloadReader} {request : PayloadRequest}

/-- The positions within a buffer of fewer than 2⁶⁴ bytes are numbers of 64 bits, so that sums and
products that are none lie beyond the end. -/
theorem advance_eq (hbuffer : r.buffer.length < Text.limit64) (n : Nat) :
    r.advance n = ((r.take? n).map Prod.fst, ((r.take? n).map Prod.snd).getD r) := by
  by_cases h : r.position + n ≤ r.buffer.length
  · rw [advance, dif_pos ⟨by omega, h⟩, take?, dif_pos h]
    rfl
  · rw [advance, dif_neg fun hn => h hn.2, take?, dif_neg h]
    rfl

theorem serve_of_take? {field : Bytes} (hbuffer : r.buffer.length < Text.limit64)
    (h : r.take? request.size = some (field, r')) :
    r.serve request = (request.decode? field, r') := by
  have hadvance : r.advance request.size = (some field, r') := by
    rw [advance_eq hbuffer, h]
    rfl
  have hsize : request.size < Text.limit64 := by
    obtain ⟨hposition, -, hsame⟩ := position_of_take? h
    have := r'.position_le
    rw [hsame] at this
    omega
  cases request <;> simp_all [serve, PayloadRequest.size, PayloadRequest.decode?]

theorem serve_of_take?_eq_none (hbuffer : r.buffer.length < Text.limit64)
    (h : r.take? request.size = none) : r.serve request = (none, r) := by
  have hadvance : r.advance request.size = (none, r) := by
    rw [advance_eq hbuffer, h]
    rfl
  cases request <;> simp_all [serve, PayloadRequest.size]

theorem serves_serve (hbuffer : r.buffer.length < Text.limit64) (request : PayloadRequest) :
    r.Serves request (r.serve request).1 (r.serve request).2 := by
  cases htake : r.take? request.size with
  | none =>
    rw [serve_of_take?_eq_none hbuffer htake]
    have hshort : ¬request.size ≤ r.remaining := fun hfits => by
      simpa [htake] using (r.take?_isSome_iff request.size).2 hfits
    exact .refused (Nat.lt_of_not_le hshort) (read?_of_take?_eq_none htake)
  | some taken =>
    obtain ⟨field, r'⟩ := taken
    obtain ⟨hposition, hlen, hsame⟩ := position_of_take? htake
    obtain ⟨item, hdecode, hrequest⟩ := PayloadRequest.decode?_of_length hlen
    have hfits := (r.take?_isSome_iff request.size).1 (by rw [htake]; rfl)
    have hread : r.read? request = some (item, r') := by rw [read?_of_take? htake, hdecode]; rfl
    rw [serve_of_take? hbuffer htake, hdecode]
    exact .answered hfits hread hrequest hsame hposition

/-- The outcome is determined by what is read, be it there or not. -/
theorem Serves.eq_read? {result : Option PayloadItem} (h : r.Serves request result r') :
    result = (r.read? request).map Prod.fst ∧ r' = ((r.read? request).map Prod.snd).getD r := by
  cases h with
  | answered _ hread => simp [hread]
  | refused _ hread => simp [hread]

theorem Serves.isSome_iff {result : Option PayloadItem} (h : r.Serves request result r') :
    result.isSome ↔ request.size ≤ r.remaining := by
  cases h with
  | answered hfits => simpa using hfits
  | refused hshort => simpa using hshort

theorem Serves.moves {item : PayloadItem} (h : r.Serves request (some item) r') :
    item.request = request ∧ r'.position = r.position + request.size := by
  cases h with
  | answered _ _ hrequest _ hposition => exact ⟨hrequest, hposition⟩

theorem Serves.stays (h : r.Serves request none r') : r' = r := by
  cases h with
  | refused => rfl

/-- Serves requests, each from where the one before has left the reader. -/
def serveAll (r : PayloadReader) : List PayloadRequest → List (Option PayloadItem) × PayloadReader
  | [] => ([], r)
  | request :: requests =>
    let (result, r) := r.serve request
    let (results, r) := r.serveAll requests
    (result :: results, r)

theorem Serves.buffer_eq {result : Option PayloadItem} (h : r.Serves request result r') :
    r'.buffer = r.buffer := by
  cases h with
  | answered _ _ _ hsame => exact hsame
  | refused => rfl

theorem buffer_serveAll (hbuffer : r.buffer.length < Text.limit64)
    (requests : List PayloadRequest) : (r.serveAll requests).2.buffer = r.buffer := by
  induction requests generalizing r with
  | nil => rfl
  | cons request requests ih =>
    have hsame := (serves_serve hbuffer request).buffer_eq
    have hrest : (r.serve request).2.buffer.length < Text.limit64 := by rwa [hsame]
    exact (ih hrest).trans hsame

theorem serveAll_of_drop {items : List PayloadItem} {tail : Bytes}
    (hbuffer : r.buffer.length < Text.limit64)
    (h : r.buffer.drop r.position = items.flatMap PayloadItem.bytes ++ tail) :
    ∃ r', r.serveAll (items.map PayloadItem.request) = (items.map some, r') ∧
      r'.buffer.drop r'.position = tail := by
  induction items generalizing r with
  | nil => exact ⟨r, rfl, h⟩
  | cons item items ih =>
    rw [List.flatMap_cons, List.append_assoc] at h
    obtain ⟨r₁, hread, hdrop⟩ := read?_of_drop h
    obtain ⟨hresult, hrest⟩ := (serves_serve hbuffer item.request).eq_read?
    have hserve : r.serve item.request = (some item, r₁) := by
      refine Prod.ext ?_ ?_
      · rw [hresult, hread]; rfl
      · rw [hrest, hread]; rfl
    have hsame : r₁.buffer = r.buffer := by
      simpa [hserve] using (serves_serve hbuffer item.request).buffer_eq
    obtain ⟨r', hall, htail⟩ := ih (by rwa [hsame]) hdrop
    exact ⟨r', by simp [serveAll, hserve, hall], htail⟩

end PayloadReader

/-! ### Writing -/

namespace Payload

/-- What has been put since the last reset, after what stands there already. -/
def since (items : List PayloadItem) : List Step → List PayloadItem
  | [] => items
  | .put item :: steps => since (items ++ [item]) steps
  | .reset :: steps => since [] steps

theorem bytes_step_put (p : Payload) (item : PayloadItem) :
    (p.step (.put item)).bytes = p.bytes ++ item.bytes := by
  cases item <;> rfl

theorem bytes_foldl_step {p : Payload} {items : List PayloadItem}
    (h : p.bytes = items.flatMap PayloadItem.bytes) (steps : List Step) :
    (steps.foldl step p).bytes = (since items steps).flatMap PayloadItem.bytes := by
  induction steps generalizing p items with
  | nil => exact h
  | cons s steps ih =>
    cases s with
    | put item =>
      refine ih ?_
      rw [bytes_step_put, h, List.flatMap_append, List.flatMap_singleton]
    | reset => exact ih rfl

end Payload

namespace PayloadReader

/-- The items put since the last reset are read from what is written and whatever follows it, which
is left; and from any offset and after any requests the reader is within its buffer, answers a
request just if as many bytes as it asks for are left, and stays where it is if they are not. -/
theorem restores_and_stays_within :
    (∀ (steps : List Payload.Step) (appended : Bytes),
      let written := (steps.foldl Payload.step {}).bytes
      let items := Payload.since [] steps
      (written ++ appended).length < Text.limit64 →
        ∃ r, (ofBytes (written ++ appended)).serveAll (items.map PayloadItem.request) =
            (items.map some, r) ∧ r.buffer.drop r.position = appended) ∧
    ∀ (buffer : Bytes) (offset : Nat) (requests : List PayloadRequest),
      buffer.length < Text.limit64 →
      let r := ((ofOffset buffer offset).serveAll requests).2
      r.buffer = buffer ∧ r.position ≤ buffer.length ∧
        r.position + r.remaining = buffer.length ∧
        ∀ request,
          ((r.serve request).1.isSome ↔ request.size ≤ r.remaining) ∧
          (∀ item, (r.serve request).1 = some item → item.request = request ∧
            (r.serve request).2.position = r.position + request.size) ∧
          ((r.serve request).1 = none → (r.serve request).2 = r) := by
  refine ⟨fun steps appended hlength => ?_, fun buffer offset requests hlength => ?_⟩
  · have hempty : (Payload.mk []).bytes = [].flatMap PayloadItem.bytes := rfl
    have hwritten := Payload.bytes_foldl_step hempty steps
    exact serveAll_of_drop hlength (by rw [← hwritten]; rfl)
  · have hsame : ((ofOffset buffer offset).serveAll requests).2.buffer = buffer :=
      buffer_serveAll (r := ofOffset buffer offset) hlength requests
    generalize ((ofOffset buffer offset).serveAll requests).2 = r at hsame
    subst hsame
    have hle := r.position_le
    refine ⟨rfl, hle, Nat.add_sub_cancel' hle, fun request => ?_⟩
    have h := serves_serve hlength request
    exact ⟨h.isSome_iff, fun item hitem => (hitem ▸ h).moves, fun hnone => (hnone ▸ h).stays⟩

/-- A number that is taken out again, then a number below zero, a block of elements, and a truth
value. -/
def startedOver : List Payload.Step :=
  [.put (.scalar (.ofBits .u8 9)), .reset, .put (.scalar (.ofBits .i32 0xFFFFFFFE)),
    .put (.elements (.ofList .u16 [.ofBits .u16 1, .ofBits .u16 0x0203])),
    .put (.scalar (.ofBool true))]

/-- The payload is fourteen bytes with what is appended, and asking for 2⁶³ elements of eight bytes
each from a short buffer is refused. -/
theorem restores_and_stays_within_startedOver :
    (let written := (startedOver.foldl Payload.step {}).bytes
      let items := Payload.since [] startedOver
      (written ++ [5, 6, 7, 8, 9]).length < Text.limit64 ∧
        written ++ [5, 6, 7, 8, 9] = [0xFF, 0xFF, 0xFF, 0xFE, 1, 0, 3, 2, 1, 5, 6, 7, 8, 9] ∧
        ∃ r, (ofBytes (written ++ [5, 6, 7, 8, 9])).serveAll (items.map PayloadItem.request) =
            (items.map some, r) ∧ r.buffer.drop r.position = [5, 6, 7, 8, 9]) ∧
    let r := ((ofOffset [1, 2, 3] 1).serveAll [.scalar .u8]).2
    [1, 2, 3].length < Text.limit64 ∧ r.position + r.remaining = 3 ∧
      (r.serve (.elements .u64 0x8000000000000000)).1.isSome = false := by
  have hshort : ([1, 2, 3] : Bytes).length < Text.limit64 := by decide
  obtain ⟨-, -, hsum, hserve⟩ :=
    restores_and_stays_within.2 [1, 2, 3] 1 [.scalar .u8] hshort
  have hrestores := restores_and_stays_within.1 startedOver [5, 6, 7, 8, 9] (by decide)
  refine ⟨⟨by decide, by decide, hrestores⟩, hshort, hsum, ?_⟩
  rw [Bool.eq_false_iff]
  intro hsome
  have hfits := (hserve (.elements .u64 0x8000000000000000)).1.1 hsome
  have hsize : 3 < (PayloadRequest.elements .u64 0x8000000000000000).size := by decide
  have hleft : ((ofOffset [1, 2, 3] 1).serveAll [.scalar .u8]).2.remaining ≤ 3 :=
    Nat.le_trans (Nat.le_add_left ..) (Nat.le_of_eq hsum)
  omega

end PayloadReader

end Instrument.Wire
