import Instrument.Proofs.Json.Written
import Instrument.Signature.Document

/-!
Documents of catalogues that are read back. Main statement: a catalogue is read back from its text,
whatever its names and texts hold and whatever numbers it has.
-/

namespace Instrument.Json

/-! ### Documents that are values -/

theorem takeDigits_eq {n : Nat} {cs : List Char}
    (h : cs.foldl (fun n c => 10 * n + (c.toNat - '0'.toNat)) n < Text.limit64) :
    takeDigits n cs = (cs.foldl (fun n c => 10 * n + (c.toNat - '0'.toNat)) n, 0) := by
  have hle (n : Nat) (cs : List Char) :
      n ≤ cs.foldl (fun n c => 10 * n + (c.toNat - '0'.toNat)) n := by
    induction cs generalizing n with
    | nil => exact Nat.le_refl n
    | cons c cs ih => exact Nat.le_trans (Nat.le_add_right_of_le (by omega)) (ih _)
  induction cs generalizing n with
  | nil => rfl
  | cons c cs ih =>
    rw [List.foldl_cons] at h ⊢
    rw [takeDigits, if_pos (Nat.lt_of_le_of_lt (hle _ cs) h), ih h]

theorem digitsValue_toDigits (n : Nat) : Text.digitsValue (Nat.toDigits 10 n) = n :=
  Nat.ofDigitChars_toDigits (by decide) (by decide)

/-- A natural number of 64 bits is an integer. -/
theorem value?_ofNat {n : Nat} (h : n < Text.limit64) :
    (Numeral.ofNat n).value? = some (.integer n) := by
  have hvalue := digitsValue_toDigits n
  rw [Text.digitsValue] at hvalue
  have htake : takeDigits 0 (Nat.toDigits 10 n) = (n, 0) := by
    rw [takeDigits_eq (by rwa [hvalue]), hvalue]
  simp [Numeral.value?, Numeral.ofNat, htake]

/-- A record of values is a value. -/
theorem isSome_value?_record {depth : Nat} {members : List (String × Tree)}
    (h : ∀ m ∈ members, (m.2.value? depth).isSome) :
    ((Tree.record members).value? (depth + 1)).isSome := by
  have hmembers (found : List (String × Value)) :
      (memberValues? depth found (members.map fun m => (some m.1, m.2))).isSome := by
    induction members generalizing found with
    | nil => rfl
    | cons m members ih =>
      obtain ⟨hm, hmore⟩ := List.forall_mem_cons.1 h
      obtain ⟨value, hvalue⟩ := Option.isSome_iff_exists.1 hm
      simpa [memberValues?, hvalue] using ih hmore _
  simpa [Tree.record, Tree.value?] using hmembers []

end Instrument.Json

namespace Instrument.Signature

open Json (Tree)

/-! ### Fields of records -/

theorem mapM_map_eq_some {α β γ : Type} {f : β → Option γ} {g : α → β} {k : α → γ} {l : List α}
    (h : ∀ a ∈ l, f (g a) = some (k a)) : (l.map g).mapM f = some (l.map k) := by
  induction l with
  | nil => rfl
  | cons a l ih =>
    rw [List.forall_mem_cons] at h
    simp [h.1, ih h.2]

theorem keyed?_map (members : List (String × Tree)) :
    keyed? (members.map fun (key, value) => (some key, value)) = some members := by
  induction members with
  | nil => rfl
  | cons m members ih => simp [keyed?, ih]

/-- A key that is different from the others stands for its value. -/
theorem single?_of_mem {members : List (String × Tree)} (h : (members.map Prod.fst).Nodup)
    {m : String × Tree} (hm : m ∈ members) : single? members m.1 = some m.2 := by
  have hfilter : members.filter (·.1 == m.1) = [m] := by
    induction members with
    | nil => cases hm
    | cons first members ih =>
      rw [List.map_cons, List.nodup_cons] at h
      rcases List.mem_cons.1 hm with rfl | hm
      · rw [List.filter_cons_of_pos (by simp), List.filter_eq_nil_iff.2]
        intro other hother
        simpa using fun heq : other.1 = m.1 => h.1 (heq ▸ List.mem_map_of_mem hother)
      · have hfirst : first.1 ≠ m.1 := fun heq => h.1 (heq ▸ List.mem_map_of_mem hm)
        rw [List.filter_cons_of_neg (by simpa using hfirst), ih h.2 hm]
  rw [single?, hfilter]

/-- The fields of a record are found if their names differ. -/
theorem fields?_record {members : List (String × Tree)} (h : (members.map Prod.fst).Nodup) :
    fields? (members.map Prod.fst) (.record members) = some (members.map Prod.snd) := by
  simp only [fields?, Tree.record, keyed?_map, Option.bind_eq_bind, Option.bind_some]
  exact mapM_map_eq_some fun m hm => single?_of_mem h hm

/-- The kind of a shape is told apart from its fields. -/
theorem splitKind?_record {kind : String} {members : List (String × Tree)}
    (h : "kind" ∉ members.map Prod.fst) :
    splitKind? (.record (("kind", .text kind) :: members)) = some (kind, .record members) := by
  have hother : ∀ m ∈ members, m.1 ≠ "kind" := fun m hm heq =>
    h (heq ▸ List.mem_map_of_mem hm)
  have hnone : members.filter (·.1 == "kind") = [] :=
    List.filter_eq_nil_iff.2 fun m hm => by simpa using hother m hm
  have hall : members.filter (·.1 != "kind") = members :=
    List.filter_eq_self.2 fun m hm => by simpa using hother m hm
  have hsingle : single? (("kind", .text kind) :: members) "kind" = some (.text kind) := by
    rw [single?, List.filter_cons_of_pos rfl, hnone]
  have hrest : (("kind", Tree.text kind) :: members).filter (·.1 != "kind") = members := by
    rw [List.filter_cons_of_neg (by simp), hall]
  simp only [Tree.record, splitKind?, keyed?_map, Option.bind_eq_bind, Option.bind_some, hsingle,
    hrest]
  rfl

theorem text?_text (s : String) : text? (.text s) = some s := rfl

theorem fields?_text (name s : String) :
    fields? [name] (.record [(name, .text s)]) = some [.text s] :=
  @fields?_record [(name, _)] (by simp)

theorem nat?_nat {limit n : Nat} (h : n < limit) : nat? limit (.nat n) = some n := by
  simp [nat?, Tree.nat, Json.Numeral.ofNat, Json.digitsValue_toDigits, h]

theorem id?_nat (id : UInt16) : id? (.nat id.toNat) = some id := by
  have hlt : id.toNat < Text.limit16 := id.toNat_lt
  rw [id?, nat?_nat hlt, Option.map_some, UInt16.ofNat_toNat]

theorem list?_array {α : Type} {item? : Tree → Option α} {document : α → Tree}
    (h : ∀ a, item? (document a) = some a) (items : List α) :
    list? item? (.array (items.map document)) = some items := by
  rw [list?, mapM_map_eq_some fun a _ => h a, List.map_id']

/-! ### Reading what is written -/

/-- What stands in the document of a shape is a value. -/
theorem ReturnShape.isSome_value?_document (shape : ReturnShape) (depth : Nat) :
    (shape.document.value? (depth + 1)).isSome := by
  have hlength {length : UInt64} : ((Tree.nat length.toNat).value? depth).isSome := by
    rw [Tree.nat, Tree.value?, Json.value?_ofNat length.toNat_lt]
    rfl
  cases shape <;> exact Json.isSome_value?_record (by simp [Tree.text, Tree.value?, hlength])

theorem ReturnShape.ofDocument?_document (shape : ReturnShape) :
    ofDocument? shape.document = some shape := by
  obtain ⟨value, hvalue⟩ := Option.isSome_iff_exists.1 (shape.isSome_value?_document 122)
  rw [ofDocument?, show Json.maxDepth - shapeDepth = 122 + 1 from rfl, hvalue, Option.bind_eq_bind,
    Option.bind_some]
  cases shape with
  | void | string => rfl
  | array dtype length =>
    have hfields : fields? ["dtype", "len"]
        (.record [("dtype", .text dtype), ("len", .nat length.toNat)]) =
          some [.text dtype, .nat length.toNat] :=
      @fields?_record [("dtype", _), ("len", _)] (by simp)
    have hlength : nat? Text.limit64 (.nat length.toNat) = some length.toNat :=
      nat?_nat length.toNat_lt
    rw [document, splitKind?_record (by simp)]
    simp [hfields, text?_text, hlength]
  | scalar dtype | vector dtype | buffer dtype | tuple dtype =>
    rw [document, splitKind?_record (by simp)]
    simp [fields?_text, text?_text]

theorem Argument.ofDocument?_document (a : Argument) : ofDocument? a.document = some a := by
  have hfields : fields? ["name", "type"] a.document = some [.text a.name, .text a.type] :=
    @fields?_record [("name", _), ("type", _)] (by simp)
  rw [ofDocument?, hfields]
  rfl

theorem Function.ofDocument?_document (f : Function) : ofDocument? f.document = some f := by
  have hfields : fields? ["name", "id", "ret_type", "io_type", "returns", "args"] f.document =
      some [.text f.name, .nat f.id.toNat, .text f.resultType, .text f.mode, f.returns.document,
        .array (f.arguments.map Argument.document)] :=
    @fields?_record [("name", _), ("id", _), ("ret_type", _), ("io_type", _), ("returns", _),
      ("args", _)] (by simp)
  rw [ofDocument?, hfields]
  simp [text?_text, id?_nat, ReturnShape.ofDocument?_document,
    list?_array Argument.ofDocument?_document]

theorem Device.ofDocument?_document (d : Device) : ofDocument? d.document = some d := by
  have hfields : fields? ["class", "tag", "id", "functions"] d.document =
      some [.text d.className, .text d.tag, .nat d.id.toNat,
        .array (d.functions.map Function.document)] :=
    @fields?_record [("class", _), ("tag", _), ("id", _), ("functions", _)] (by simp)
  rw [ofDocument?, hfields]
  simp [text?_text, id?_nat, list?_array Function.ofDocument?_document]

/-! ### Texts of catalogues -/

theorem isPlain_record {members : List (String × Tree)}
    (h : ∀ t ∈ members.map Prod.snd, t.IsPlain) : (Tree.record members).IsPlain :=
  .record fun _ hm => h _ (List.mem_map_of_mem hm)

theorem isPlain_array {α : Type} {document : α → Tree} (h : ∀ a, (document a).IsPlain)
    (items : List α) : (Tree.array (items.map document)).IsPlain :=
  .array (List.forall_mem_map.2 fun a _ => h a)

theorem ReturnShape.isPlain_document (shape : ReturnShape) : shape.document.IsPlain := by
  cases shape <;> exact isPlain_record (by simp [Tree.IsPlain.text, Tree.IsPlain.nat])

theorem Argument.isPlain_document (a : Argument) : a.document.IsPlain :=
  isPlain_record (by simp [Tree.IsPlain.text])

theorem Function.isPlain_document (f : Function) : f.document.IsPlain :=
  isPlain_record (by
    simp [Tree.IsPlain.text, Tree.IsPlain.nat, ReturnShape.isPlain_document,
      isPlain_array Argument.isPlain_document])

theorem Device.isPlain_document (d : Device) : d.document.IsPlain :=
  isPlain_record (by
    simp [Tree.IsPlain.text, Tree.IsPlain.nat, isPlain_array Function.isPlain_document])

/-- A catalogue is read back from its text. -/
theorem ofText?_toText (catalogue : Catalogue) : ofText? (toText catalogue) = some catalogue := by
  have hread := (isPlain_array Device.isPlain_document catalogue).ofText?_toText_append
  rw [ofText?, toText, String.toList_ofList, hread]
  exact list?_array Device.ofDocument?_document catalogue

end Instrument.Signature
