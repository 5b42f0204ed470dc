import Instrument.Network.Connection

/-!
What is received from a connection. Main statements: a search that is resumed finds the marker where
it stands first; if what is asked for is found in the bytes that are there or arrive, then just this
is received, however they are cut; and whoever does not wait long enough gets an error that ends the
connection, and leaves every byte there.
-/

namespace Instrument.Network

open Wire (split?)

/-- Whether a receiver that waits this long gets what arrives: it waits at all, and nothing that
arrives makes it wait to the end. -/
def Patience.Outlasts : Patience → List Arrival → Prop
  | .unbounded, _ => True
  | .bounded milliseconds _, arriving => 0 < milliseconds ∧ .pause ∉ arriving

theorem pause_notMem_chunks (bs : Bytes) : Arrival.pause ∉ chunks bs := by
  fun_induction chunks bs with
  | case1 => exact List.not_mem_nil
  | case2 bs _ ih =>
    intro hmem
    rcases List.mem_cons.1 hmem with hmem | hmem
    · cases hmem
    · exact ih hmem

/-! ### Markers -/

namespace ReadBuffer

variable {marker bs : Bytes}

/-- A marker is found where it begins first. -/
theorem find?_eq_some_iff {i : Nat} :
    find? marker bs = some i ↔ marker <+: bs.drop i ∧ ∀ j < i, ¬marker <+: bs.drop j := by
  induction bs generalizing i with
  | nil =>
    cases i with
    | zero => simp [find?]
    | succ i =>
      refine iff_of_false (by simp [find?]) fun ⟨hbegins, hbefore⟩ => ?_
      exact hbefore 0 (Nat.succ_pos i) (by simpa using hbegins)
  | cons b bs ih =>
    rw [find?]
    by_cases hhead : marker <+: b :: bs
    · rw [if_pos (List.isPrefixOf_iff_prefix.2 hhead)]
      cases i with
      | zero => simpa using hhead
      | succ i =>
        exact iff_of_false (by simp) fun ⟨_, hbefore⟩ => hbefore 0 (Nat.succ_pos i) hhead
    -- not here, so the first place is one further in the rest
    · rw [if_neg (mt List.isPrefixOf_iff_prefix.1 hhead)]
      cases i with
      | zero => simpa using hhead
      | succ i =>
        rw [Option.map_eq_some_iff]
        constructor
        · rintro ⟨_, hfound, ⟨⟩⟩
          obtain ⟨hbegins, hbefore⟩ := ih.1 hfound
          refine ⟨hbegins, fun j hj => ?_⟩
          cases j with
          | zero => exact hhead
          | succ j => exact hbefore j (Nat.lt_of_succ_lt_succ hj)
        · rintro ⟨hbegins, hbefore⟩
          exact ⟨i, ih.2 ⟨hbegins, fun j hj => hbefore (j + 1) (Nat.succ_lt_succ hj)⟩, rfl⟩

theorem find?_eq_none_iff : find? marker bs = none ↔ ∀ j, ¬marker <+: bs.drop j := by
  induction bs with
  | nil => simp [find?]
  | cons b bs ih =>
    rw [find?]
    by_cases hhead : marker <+: b :: bs
    · rw [if_pos (List.isPrefixOf_iff_prefix.2 hhead)]
      exact iff_of_false (by simp) fun h => h 0 hhead
    · rw [if_neg (mt List.isPrefixOf_iff_prefix.1 hhead), Option.map_eq_none_iff, ih]
      constructor
      · intro h j
        cases j with
        | zero => exact hhead
        | succ j => exact h j
      · exact fun h j => h (j + 1)

theorem add_length_le_of_find? {i : Nat} (h : find? marker bs = some i) :
    i + marker.length ≤ bs.length := by
  obtain ⟨hbegins, hbefore⟩ := find?_eq_some_iff.1 h
  have hlen := hbegins.length_le
  rw [List.length_drop] at hlen
  by_cases hi : i ≤ bs.length
  · omega
  · refine absurd ?_ (hbefore bs.length (by omega))
    rwa [List.drop_length, ← List.drop_eq_nil_of_le (Nat.le_of_not_le hi)]

/-- A search can begin behind places where the marker does not begin. -/
theorem find?_drop {start : Nat} (h : ∀ j < start, ¬marker <+: bs.drop j) :
    (find? marker (bs.drop start)).map (start + ·) = find? marker bs := by
  rcases hfound : find? marker (bs.drop start) with _ | i
  · rw [find?_eq_none_iff] at hfound
    refine (find?_eq_none_iff.2 fun j => ?_).symm
    by_cases hj : j < start
    · exact h j hj
    · have := hfound (j - start)
      rwa [List.drop_drop, Nat.add_sub_cancel' (Nat.le_of_not_lt hj)] at this
  · obtain ⟨hbegins, hbefore⟩ := find?_eq_some_iff.1 hfound
    rw [List.drop_drop] at hbegins
    refine (find?_eq_some_iff.2 ⟨hbegins, fun j hj => ?_⟩).symm
    by_cases hlt : j < start
    · exact h j hlt
    · have := hbefore (j - start) (by omega)
      rwa [List.drop_drop, Nat.add_sub_cancel' (Nat.le_of_not_lt hlt)] at this

/-- If a marker does not stand in the first bytes, it begins in none but the last of them, which
are fewer than it is long. -/
theorem not_prefix_of_find?_take {seen : Nat} (h : find? marker (bs.take seen) = none) :
    ∀ j < seen - (marker.length - 1), ¬marker <+: bs.drop j := by
  intro j hj hbegins
  have hnone := find?_eq_none_iff.1 h j
  rw [List.drop_take, List.prefix_take_iff] at hnone
  exact hnone ⟨hbegins, by omega⟩

theorem take?_of_le {b : ReadBuffer} {n : Nat} (h : n ≤ b.unread.length) :
    ∃ rest, b.take? n = some (b.unread.take n, rest) ∧ rest.unread = b.unread.drop n := by
  have hsplit : split? n b.unread = some (b.unread.take n, b.unread.drop n) :=
    Wire.split?_eq_some_iff.2 ⟨List.length_take_of_le h, (List.take_append_drop n _).symm⟩
  obtain ⟨⟨taken, rest⟩, htake, heq⟩ := Option.map_eq_some_iff.1 ((b.take?_eq n).trans hsplit)
  obtain ⟨rfl, hrest⟩ := Prod.mk.inj heq
  exact ⟨rest, htake, hrest⟩

end ReadBuffer

namespace Connection

/-! ### What a receiver looks for -/

/-- What is found in some bytes is found in the same place when more bytes follow them. -/
def Stable {α : Type} (enough : Bytes → Option (α × Bytes)) : Prop :=
  ∀ {buffer : Bytes} {a : α} {left : Bytes} (more : Bytes), enough buffer = some (a, left) →
    enough (buffer ++ more) = some (a, left ++ more)

theorem stable_split? (n : Nat) : Stable (split? n) := by
  intro buffer taken left more h
  obtain ⟨hlen, rfl⟩ := Wire.split?_eq_some_iff.1 h
  exact Wire.split?_eq_some_iff.2 ⟨hlen, List.append_assoc ..⟩

theorem split?_append (taken rest : Bytes) :
    split? taken.length (taken ++ rest) = some (taken, rest) :=
  Wire.split?_eq_some_iff.2 ⟨rfl, rfl⟩

/-- What stands before the first occurrence of a marker, and what follows it. -/
def splitAt? (marker bs : Bytes) : Option (Bytes × Bytes) :=
  (ReadBuffer.find? marker bs).map fun i => (bs.take i, bs.drop (i + marker.length))

/-- A marker is not found earlier than it stands. -/
theorem splitAt?_eq_some {marker bs before after : Bytes} :
    splitAt? marker bs = some (before, after) ↔
      bs = before ++ marker ++ after ∧ ∀ j < before.length, ¬marker <+: bs.drop j := by
  simp only [splitAt?, Option.map_eq_some_iff, Prod.mk.injEq]
  constructor
  · rintro ⟨i, hi, rfl, rfl⟩
    obtain ⟨⟨rest, hrest⟩, hbefore⟩ := ReadBuffer.find?_eq_some_iff.1 hi
    refine ⟨?_, fun j hj => hbefore j (by rw [List.length_take] at hj; omega)⟩
    rw [← List.drop_drop, ← hrest, List.drop_left, List.append_assoc, hrest,
      List.take_append_drop]
  · rintro ⟨rfl, hbefore⟩
    refine ⟨before.length, ReadBuffer.find?_eq_some_iff.2 ⟨?_, hbefore⟩, ?_, ?_⟩
    · rw [List.append_assoc, List.drop_left]
      exact List.prefix_append ..
    · rw [List.append_assoc, List.take_left]
    · rw [← List.length_append, List.drop_left]

/-- A marker of one byte ends what stands before the first such byte. -/
theorem splitAt?_eq_some_iff {marker : UInt8} {bs before after : Bytes} :
    splitAt? [marker] bs = some (before, after) ↔
      bs = before ++ marker :: after ∧ marker ∉ before := by
  rw [splitAt?_eq_some, List.append_assoc, List.singleton_append]
  refine and_congr_right fun hbs => ?_
  subst hbs
  constructor
  · intro hbefore hmem
    obtain ⟨j, hj, rfl⟩ := List.getElem_of_mem hmem
    refine hbefore j hj ?_
    rw [List.drop_append_of_le_length (Nat.le_of_lt hj), List.drop_eq_getElem_cons hj,
      List.cons_append, List.cons_prefix_cons]
    exact ⟨rfl, List.nil_prefix⟩
  · intro hmarker j hj hbegins
    rw [List.drop_append_of_le_length (Nat.le_of_lt hj), List.drop_eq_getElem_cons hj,
      List.cons_append, List.cons_prefix_cons] at hbegins
    exact hmarker (hbegins.1 ▸ List.getElem_mem hj)

theorem stable_splitAt? (marker : Bytes) : Stable (splitAt? marker) := by
  intro buffer before left more h
  obtain ⟨hbuffer, hbefore⟩ := splitAt?_eq_some.1 h
  refine splitAt?_eq_some.2 ⟨by rw [hbuffer]; simp, fun j hj hbegins => hbefore j hj ?_⟩
  have hlen : j + marker.length ≤ buffer.length := by
    rw [hbuffer]
    simp only [List.length_append]
    omega
  rw [List.drop_append_of_le_length (by omega)] at hbegins
  exact List.prefix_of_prefix_length_le hbegins (List.prefix_append ..) (by
    rw [List.length_drop]
    omega)

/-- Whether nothing is found in the first `seen` unread bytes. -/
def Unfound {α : Type} (find : Bytes → Option α) (seen : Nat) (buffer : ReadBuffer) : Prop :=
  seen = 0 ∨ find (buffer.unread.take seen) = none

/-- Whether looking at a buffer, of which the first unread bytes were seen in vain, finds what there
is to be found in the unread bytes, and consumes it. -/
structure Finds {α : Type} (look : Nat → ReadBuffer → Option (α × ReadBuffer))
    (find : Bytes → Option (α × Bytes)) : Prop where
  stable : Stable find
  look_eq : ∀ {seen : Nat} {buffer : ReadBuffer}, Unfound find seen buffer →
    (look seen buffer).map (fun (a, rest) => (a, rest.unread)) = find buffer.unread

theorem finds_take? (n : Nat) : Finds (fun _ => ReadBuffer.take? n) (split? n) where
  stable := stable_split? n
  look_eq _ := ReadBuffer.take?_eq ..

/-- A search that is resumed finds the first occurrence of the marker. -/
theorem finds_takeUntil? (marker : Bytes) :
    Finds (ReadBuffer.takeUntil? marker) (splitAt? marker) where
  stable := stable_splitAt? marker
  look_eq := by
    intro seen buffer hseen
    have hstart : ∀ j < seen - (marker.length - 1), ¬marker <+: buffer.unread.drop j := by
      rcases hseen with rfl | hseen
      · intro j hj
        omega
      · exact ReadBuffer.not_prefix_of_find?_take (Option.map_eq_none_iff.1 hseen)
    have hfind := ReadBuffer.find?_drop hstart
    simp only [splitAt?, ← hfind, ReadBuffer.takeUntil?, Option.bind_eq_bind]
    rcases hplace : ReadBuffer.find? marker (buffer.unread.drop (seen - (marker.length - 1)))
      with _ | place
    · rfl
    rw [hplace, Option.map_some] at hfind
    obtain ⟨rest, htake, hrest⟩ :=
      ReadBuffer.take?_of_le (ReadBuffer.add_length_le_of_find? hfind.symm)
    simp only [Option.bind_some, htake, Option.pure_def, Option.map_some, hrest]
    rw [List.take_take, Nat.min_eq_left (Nat.le_add_right ..)]

/-! ### Gathering -/

variable {α : Type} {look : Nat → ReadBuffer → Option (α × ReadBuffer)}
  {find : Bytes → Option (α × Bytes)} {patience : Patience} {closed : Bool}
  {arriving : List Arrival} {seen : Nat} {buffer : ReadBuffer}

namespace Finds

theorem find_eq_some (h : Finds look find) (hseen : Unfound find seen buffer) {a : α}
    {rest : ReadBuffer} (hlook : look seen buffer = some (a, rest)) :
    find buffer.unread = some (a, rest.unread) := by
  rw [← h.look_eq hseen, hlook]
  rfl

theorem find_eq_none (h : Finds look find) (hseen : Unfound find seen buffer)
    (hlook : look seen buffer = none) : find buffer.unread = none := by
  rw [← h.look_eq hseen, hlook]
  rfl

/-- Bytes that arrive come behind those that are seen in vain. -/
theorem unfound_fill (h : Finds look find) (hseen : Unfound find seen buffer)
    (hlook : look seen buffer = none) (bytes : Bytes) :
    Unfound find buffer.unread.length (buffer.fill bytes) := by
  refine .inr ?_
  rw [ReadBuffer.unread_fill, List.take_left]
  exact h.find_eq_none hseen hlook

theorem unfound_unread (h : Finds look find) (hseen : Unfound find seen buffer)
    (hlook : look seen buffer = none) : Unfound find buffer.unread.length buffer := by
  refine .inr ?_
  rw [List.take_length]
  exact h.find_eq_none hseen hlook

end Finds

/-- What becomes of a receiver, and which bytes are then left of all that are there or arrive: it
gets what it asks for, the stream ends before that has come, or the wait is over. -/
inductive Outcome (find : Bytes → Option (α × Bytes)) (patience : Patience) (closed : Bool)
    (arriving : List Arrival) (all : Bytes) : Except Error α → Bytes → Prop where
  | found {a : α} {rest : Bytes} (h : find all = some (a, rest)) :
    Outcome find patience closed arriving all (.ok a) rest
  | ended (h : find all = none) :
    Outcome find patience closed arriving all (.error .connectionBroken) all
  | timedOut {milliseconds : Nat} {marker : String} (hbound : patience = .bounded milliseconds marker)
    (h : milliseconds = 0 ∨ .pause ∈ arriving ∨ closed = false ∧ find all = none) :
    Outcome find patience closed arriving all (.error (.timeout marker milliseconds)) all

namespace Outcome

variable {all left : Bytes} {result : Except Error α}

theorem cons {a : Arrival} (h : Outcome find patience closed arriving all result left) :
    Outcome find patience closed (a :: arriving) all result left := by
  cases h with
  | found h => exact .found h
  | ended h => exact .ended h
  | timedOut hbound h => exact .timedOut hbound (h.imp_right (.imp_left (List.mem_cons_of_mem _)))

/-- What is there for a receiver is received by one that waits for it; another gives up, and with
that gives up the connection. -/
theorem eq_or_isFatal (h : Outcome find patience closed arriving all result left) {a : α}
    {rest : Bytes} (hfind : find all = some (a, rest)) :
    result = .ok a ∧ left = rest ∨
      ¬patience.Outlasts arriving ∧ ∃ e, result = .error e ∧ e.isFatal = true := by
  cases h with
  | found h =>
    obtain ⟨rfl, rfl⟩ := Prod.mk.inj (Option.some.inj (h.symm.trans hfind))
    exact .inl ⟨rfl, rfl⟩
  | ended h => rw [h] at hfind; cases hfind
  | timedOut hbound h =>
    refine .inr ⟨?_, _, rfl, rfl⟩
    rw [hbound]
    rintro ⟨hpos, hpause⟩
    rcases h with rfl | hmem | ⟨-, hnone⟩
    · exact absurd hpos (Nat.lt_irrefl 0)
    · exact hpause hmem
    · rw [hnone] at hfind; cases hfind

end Outcome

/-- What becomes of a receiver does not depend on how the bytes are cut. -/
theorem outcome_gather (h : Finds look find) (hseen : Unfound find seen buffer) :
    Outcome find patience closed arriving (buffer.unread ++ Arrival.flatten arriving)
      (gather patience look closed arriving seen buffer).1
      ((gather patience look closed arriving seen buffer).2.1.unread ++
        Arrival.flatten (gather patience look closed arriving seen buffer).2.2) := by
  -- by the rounds of the wait: a find, a chunk, a pause within the bound, or an end
  fun_induction gather patience look closed arriving seen buffer with
  | case1 arriving seen buffer a rest hlook =>
    exact .found (h.stable _ (h.find_eq_some hseen hlook))
  | case2 seen buffer hlook marker arriving hbound => exact .timedOut hbound (.inl rfl)
  | case3 seen buffer hlook _ bytes rest _ ih =>
    have hrest := (ih (h.unfound_fill hseen hlook bytes)).cons (a := .chunk bytes)
    rwa [ReadBuffer.unread_fill, List.append_assoc] at hrest
  | case4 seen buffer hlook _ rest hbound ih =>
    subst hbound
    exact (ih (h.unfound_unread hseen hlook)).cons
  | case5 seen buffer hlook milliseconds marker rest _ hbound =>
    rw [ReadBuffer.unread_fill, List.append_nil]
    exact .timedOut hbound (.inr (.inl (List.mem_cons_self ..)))
  | case6 seen buffer hlook hbound =>
    rw [ReadBuffer.unread_fill, List.append_nil]
    refine .ended ?_
    rw [Arrival.flatten_nil, List.append_nil]
    exact h.find_eq_none hseen hlook
  | case7 seen buffer hlook milliseconds marker _ hbound =>
    rw [ReadBuffer.unread_fill, List.append_nil]
    have hnone : find (buffer.unread ++ Arrival.flatten []) = none := by
      rw [Arrival.flatten_nil, List.append_nil]
      exact h.find_eq_none hseen hlook
    cases closed with
    | true => exact .ended hnone
    | false => exact .timedOut hbound (.inr (.inr ⟨rfl, hnone⟩))

theorem suffix_gather :
    (gather patience look closed arriving seen buffer).2.2 <:+ arriving := by
  fun_induction gather patience look closed arriving seen buffer with
  | case1 | case2 | case6 | case7 => exact List.suffix_refl _
  | case3 | case4 => next ih => exact ih.trans (List.suffix_cons _ _)
  | case5 => exact List.suffix_cons _ _

/-! ### Receiving -/

variable {c : Connection}

theorem outcome_receive (h : Finds look find) (c : Connection) (patience : Patience) :
    Outcome find patience c.closed c.arriving c.pending (c.receive patience look).1
      (c.receive patience look).2.pending :=
  outcome_gather h (.inl rfl)

/-- What is asked for is received, and what follows it stays. -/
theorem receive_of_finds (patience : Patience) (h : Finds look find) {a : α} {rest : Bytes}
    (hpatience : patience.Outlasts c.arriving) (hfind : find c.pending = some (a, rest)) :
    ∃ c', c.receive patience look = (.ok a, c') ∧ c'.pending = rest ∧ c'.sent = c.sent ∧
      c'.arriving <:+ c.arriving := by
  rcases (outcome_receive h c patience).eq_or_isFatal hfind with ⟨hresult, hrest⟩ | ⟨hgaveUp, -⟩
  · exact ⟨_, Prod.ext hresult rfl, hrest, rfl, suffix_gather⟩
  · exact absurd hpatience hgaveUp

/-- A wait ends if nothing arrives. -/
theorem receive_of_silence (milliseconds : Nat) (marker : String) (h : Finds look find)
    (hfind : find c.buffer = none) (harriving : c.arriving = []) (hclosed : c.closed = false) :
    ∃ c', c.receive (.bounded milliseconds marker) look =
        (.error (.timeout marker milliseconds), c') ∧ c'.buffer = c.buffer ∧ c'.arriving = [] := by
  have hlook : look 0 c.input = none := Option.map_eq_none_iff.1 ((h.look_eq (.inl rfl)).trans hfind)
  rw [receive, harriving, gather.eq_def]
  dsimp only
  rw [hlook]
  cases milliseconds with
  | zero => exact ⟨_, rfl, rfl, rfl⟩
  | succ milliseconds =>
    simp only [hclosed, Bool.false_eq_true, if_false]
    exact ⟨_, rfl, List.append_nil _, rfl⟩

/-- The bytes that are asked for are received, and those that follow them stay. -/
theorem receive_of_pending (patience : Patience) {taken rest : Bytes}
    (hpatience : patience.Outlasts c.arriving) (h : c.pending = taken ++ rest) :
    ∃ c', c.receive patience (fun _ => ReadBuffer.take? taken.length) = (.ok taken, c') ∧
      c'.pending = rest ∧ c'.sent = c.sent ∧ c'.arriving <:+ c.arriving :=
  receive_of_finds patience (finds_take? _) hpatience (h ▸ split?_append taken rest)

theorem exactly_of_pending {taken rest : Bytes} (h : c.pending = taken ++ rest) :
    ∃ c', c.exactly taken.length = (.ok taken, c') ∧ c'.pending = rest := by
  obtain ⟨c', hreceive, hpending, _⟩ := receive_of_pending .unbounded trivial h
  exact ⟨c', hreceive, hpending⟩

/-- However long a receiver waits, it gets what is asked for, or gives up. -/
theorem receive_cases (patience : Patience) (h : Finds look find) {a : α} {rest : Bytes}
    (hfind : find c.pending = some (a, rest)) :
    (∃ c', c.receive patience look = (.ok a, c') ∧ c'.pending = rest) ∨
      ∃ e c', c.receive patience look = (.error e, c') ∧ e.isFatal = true := by
  rcases (outcome_receive h c patience).eq_or_isFatal hfind with
    ⟨hresult, hrest⟩ | ⟨-, e, hresult, he⟩
  · exact .inl ⟨_, Prod.ext hresult rfl, hrest⟩
  · exact .inr ⟨e, _, Prod.ext hresult rfl, he⟩

end Connection

end Instrument.Network
