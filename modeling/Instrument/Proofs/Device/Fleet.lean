import Instrument.Device.Fleet
import Instrument.Proofs.Interface.Numbering

/-!
The operations of a server. Main statement: every operation that a device of a server has, the
control device among them, is one that some class declares.
-/

namespace Instrument

open Interface (Description)
open Success

namespace Interface

/-- Whether some class declares every operation of a device. -/
def Description.AllDescribed (d : Description) : Prop := ∀ op ∈ d.operations, op.IsDescribed

theorem allDescribed_of_descriptions {space origin source : String} {found : List Description}
    (h : descriptions space origin source = .ok found) : ∀ d ∈ found, d.AllDescribed := by
  intro d hd op hop
  obtain ⟨_, _, _, c, -, -, hof⟩ := areDeclared_of_descriptions h d hd
  exact ⟨_, c, d, hof, hop⟩

theorem allDescribed_of_numberFrom {seen : List String} {index : Nat}
    {found numbered : List Description} (h : numberFrom seen index found = .ok numbered)
    (hfound : ∀ d ∈ found, d.AllDescribed) : ∀ d ∈ numbered, d.AllDescribed := by
  induction found generalizing seen index numbered with
  | nil =>
    cases h
    exact hfound
  | cons d rest ih =>
    rw [numberFrom] at h
    split at h
    · cases h
    split at h
    · cases h
    simp only [bind_eq_ok_iff, pure_eq_ok_iff] at h
    obtain ⟨more, hmore, rfl⟩ := h
    rw [List.forall_mem_cons] at hfound ⊢
    exact ⟨hfound.1, ih hmore hfound.2⟩

/-- The control device is declared by a class, too. -/
theorem allDescribed_control : control.AllDescribed := by
  obtain ⟨_, c, -, hof⟩ := isOfClass_control
  exact fun _ hop => ⟨_, c, _, hof, hop⟩

end Interface

theorem allDescribed_of_describeFrom {index : Nat} {declarations : List String}
    {found : List Description} (h : describeFrom index declarations = .ok found) :
    ∀ d ∈ found, d.AllDescribed := by
  induction declarations generalizing index found with
  | nil =>
    cases h
    exact fun d hd => nomatch hd
  | cons declaration rest ih =>
    simp only [describeFrom, bind_eq_ok_iff, pure_eq_ok_iff] at h
    obtain ⟨first, hfirst, more, hmore, rfl⟩ := h
    rw [List.forall_mem_cons]
    refine ⟨?_, ih hmore⟩
    simp only [describeOne, bind_eq_ok_iff] at hfirst
    obtain ⟨all, hall, hone⟩ := hfirst
    split at hone
    · next d =>
      rw [pure_eq_ok_iff] at hone
      exact hone ▸ Interface.allDescribed_of_descriptions hall d (List.mem_singleton_self d)
    · cases hone

namespace Fleet

variable {δ : Type}

/-- The devices of a fleet are declared by classes. -/
def AllDescribed (fleet : Fleet δ) : Prop := ∀ d ∈ fleet.table.users, d.AllDescribed

theorem allDescribed_of_ofDevices [Device δ] {devices : List δ} {fleet : Fleet δ}
    (h : ofDevices devices = .ok fleet) : fleet.AllDescribed := by
  unfold ofDevices at h
  split at h
  · cases h
  · next found hfound =>
    split at h
    · cases h
    · next users htable =>
      cases h
      exact Interface.allDescribed_of_numberFrom htable (allDescribed_of_describeFrom hfound)

theorem AllDescribed.of_find? {fleet : Fleet δ} (h : fleet.AllDescribed) {id : UInt16}
    {d : Description} {place : Option Nat} (hfind : fleet.find? id = some (d, place)) :
    d.AllDescribed := by
  unfold find? at hfind
  split at hfind
  · cases hfind
    exact Interface.allDescribed_control
  · simp only [Option.bind_eq_some_iff, Option.map_eq_some_iff] at hfind
    obtain ⟨i, -, d', hget, hd⟩ := hfind
    cases hd
    exact h d (List.mem_of_getElem? hget)

end Fleet

end Instrument
