import Instrument.Text.Blank
import Instrument.Text.Case
import Instrument.Text.Letter

/-!
What upper case, lower case and the characters of names leave out. Main statements: no small ASCII
letter is left in a text in upper case; characters of names are no blanks; a text without blanks
and colons in it has none in upper case either; a text without slashes has none in lower case; and
texts that hold no small ASCII letter and no capital of another script are told apart in lower case.
-/

namespace Instrument.Text

/-- What is asked of the characters of a text is decided by looking at these alone, where the
library would look at every character that there is. -/
instance decidableForallMem {P : Char → Prop} [DecidablePred P] (cs : List Char) :
    Decidable (∀ c ∈ cs, P c) :=
  List.decidableBAll P cs

/-! ### Sets of characters that are apart -/

/-- Whether no interval of one set meets one of the other. -/
def CodePoints.areApart (a b : CodePoints) : Bool :=
  a.all fun r => b.all fun s => Nat.blt r.2 s.1 || Nat.blt s.2 r.1

theorem CodePoints.lt_or_lt_of_areApart {a b : CodePoints} (h : a.areApart b = true)
    {r s : Nat × Nat} (hr : r ∈ a) (hs : s ∈ b) : r.2 < s.1 ∨ s.2 < r.1 := by
  have hapart := List.all_eq_true.1 (List.all_eq_true.1 h r hr) s hs
  simpa [Nat.blt_eq] using hapart

theorem CodePoints.has_eq_false_of_areApart {a b : CodePoints} {c : Char}
    (h : a.areApart b = true) (ha : a.has c = true) : b.has c = false := by
  rw [CodePoints.has, List.any_eq_true] at ha
  obtain ⟨r, hr, hc⟩ := ha
  rw [CodePoints.has, List.any_eq_false]
  intro s hs hc'
  simp only [Bool.and_eq_true, decide_eq_true_eq] at hc hc'
  rcases lt_or_lt_of_areApart h hr hs with hlt | hlt <;> omega

/-- What holds of the first 128 characters. -/
theorem forall_ascii {P : Char → Prop} (h : ∀ n < 128, P (Char.ofNat n)) {c : Char}
    (hc : c.toNat < 128) : P c := by
  have := h c.toNat hc
  rwa [Char.ofNat_toNat] at this

/-! ### Characters of names -/

theorem areApart_word_blank :
    (alphabeticCodePoints ++ numericCodePoints).areApart blankCodePoints = true := by
  decide +kernel

/-- A character of a name is no blank. -/
theorem isBlank_eq_false_of_isWordChar {c : Char} (h : isWordChar c = true) :
    isBlank c = false := by
  by_cases hc : c.toNat < 128
  · revert h
    exact forall_ascii (P := fun c => isWordChar c = true → isBlank c = false)
      (by decide) hc
  · simp only [isWordChar, isAlphanumeric, hc, if_false, Bool.or_eq_true, beq_iff_eq] at h
    rcases h with h | rfl
    · refine CodePoints.has_eq_false_of_areApart areApart_word_blank ?_
      simpa [CodePoints.has, List.any_append] using h
    · exact absurd (by decide) hc

/-- What holds of the ten digits. -/
theorem forall_digit {P : Char → Prop} (h : ∀ n < 128, (Char.ofNat n).isDigit = true →
    P (Char.ofNat n)) {c : Char} (hc : c.isDigit = true) : P c := by
  have hlt : c.toNat < 128 := by
    have hle := hc
    simp only [Char.isDigit, Bool.and_eq_true, decide_eq_true_eq] at hle
    have : c.toNat ≤ 57 := hle.2
    omega
  exact forall_ascii (P := fun c => c.isDigit = true → P c) h hlt hc

/-- A digit is a character of a name. -/
theorem isWordChar_of_isDigit {c : Char} (h : c.isDigit = true) : isWordChar c = true :=
  forall_digit (P := fun c => isWordChar c = true) (by decide) h

/-- Whether a character can stand anywhere in a field of a discovery table. -/
def IsFieldChar (c : Char) : Prop := isBlank c = false ∧ c ≠ ':'

instance (c : Char) : Decidable (IsFieldChar c) := inferInstanceAs (Decidable (_ ∧ _))

theorem isFieldChar_of_isWordChar {c : Char} (h : isWordChar c = true) : IsFieldChar c := by
  refine ⟨isBlank_eq_false_of_isWordChar h, ?_⟩
  rintro rfl
  exact absurd h (by decide)

/-! ### Upper case -/

/-- The colon, the small ASCII letters, and the blanks. -/
def reservedCodePoints : CodePoints := (0x3a, 0x3a) :: (0x61, 0x7a) :: blankCodePoints

/-- The interval that holds what a run gives. -/
def CaseRun.images (run : CaseRun) : Nat × Nat :=
  (((run.first : Int) + run.shift).toNat, ((run.last : Int) + run.shift).toNat)

theorem areApart_upperRuns :
    CodePoints.areApart (upperRuns.map CaseRun.images) reservedCodePoints = true := by
  decide

theorem areApart_upperExpansions :
    CodePoints.areApart (upperExpansions.flatMap fun e => e.2.map fun n => (n, n))
      reservedCodePoints = true := by
  decide

theorem CaseRun.within_images {run : CaseRun} {n m : Nat} (h : run.image? n = some m) :
    run.images.1 ≤ m ∧ m ≤ run.images.2 := by
  unfold CaseRun.image? at h
  split at h
  · obtain rfl := Option.some.inj h
    simp only [CaseRun.images]
    omega
  · cases h

/-- A code point outside a set gives a character outside it, as the set does not hold the character
that stands for no code point. -/
theorem has_ofNat_eq_false {set : CodePoints} {n : Nat} (hzero : set.has (Char.ofNat 0) = false)
    (h : ∀ range ∈ set, n < range.1 ∨ range.2 < n) : set.has (Char.ofNat n) = false := by
  by_cases hn : n.isValidChar
  · have hpoint : (Char.ofNat n).toNat = n := by
      rw [Char.ofNat, dif_pos hn]
      rfl
    rw [CodePoints.has, List.any_eq_false]
    intro range hrange
    simp only [hpoint, Bool.and_eq_true, decide_eq_true_eq]
    rcases h range hrange with hlt | hlt <;> omega
  · have hnone : Char.ofNat n = Char.ofNat 0 := by
      rw [Char.ofNat, dif_neg hn]
      rfl
    rwa [hnone]

theorem toUpper_of_not_ascii {c : Char} (h : ¬c.toNat < 128) : c.toUpper = c := by
  refine dif_neg ?_
  rintro ⟨-, hle⟩
  have : c.toNat ≤ 122 := hle
  omega

/-- A change of case by some tables gives nothing in a set that lies apart from what the tables
give, unless it leaves the character as it is. -/
theorem eq_or_has_eq_false_of_mem_changeCase {runs : List CaseRun}
    {expansions : List (Nat × List Nat)} {set : CodePoints} {c x : Char}
    (hzero : set.has (Char.ofNat 0) = false)
    (hruns : CodePoints.areApart (runs.map CaseRun.images) set = true)
    (hexpansions :
      CodePoints.areApart (expansions.flatMap fun e => e.2.map fun n => (n, n)) set = true)
    (h : x ∈ changeCase runs expansions c) : x = c ∨ set.has x = false := by
  unfold changeCase at h
  split at h
  · next points hpoints =>
    right
    obtain ⟨n, hn, rfl⟩ := List.mem_map.1 h
    refine has_ofNat_eq_false hzero fun range hrange => ?_
    obtain ⟨before, after, hsplit, -⟩ := List.lookup_eq_some_iff.1 hpoints
    have hentry : (c.toNat, points) ∈ expansions := by simp [hsplit]
    have hpoint : (n, n) ∈ expansions.flatMap fun e => e.2.map fun n => (n, n) :=
      List.mem_flatMap.2 ⟨_, hentry, List.mem_map.2 ⟨n, hn, rfl⟩⟩
    exact CodePoints.lt_or_lt_of_areApart hexpansions hpoint hrange
  · split at h
    · next point hpoint =>
      right
      obtain ⟨run, hrun, himage⟩ := List.exists_of_findSome?_eq_some hpoint
      have hwithin := CaseRun.within_images himage
      rw [List.mem_singleton.1 h]
      refine has_ofNat_eq_false hzero fun range hrange => ?_
      have := CodePoints.lt_or_lt_of_areApart hruns (List.mem_map_of_mem hrun) hrange
      omega
    · exact .inl (List.mem_singleton.1 h)

/-- The upper case of a character holds nothing of what is reserved, unless it is the character
itself or its capital. -/
theorem eq_or_has_eq_false_of_mem_upperChar {c x : Char} (h : x ∈ upperChar c) :
    x = c.toUpper ∨ reservedCodePoints.has x = false := by
  unfold upperChar at h
  split at h
  · exact .inl (List.mem_singleton.1 h)
  · next hc =>
    rw [toUpper_of_not_ascii hc]
    exact eq_or_has_eq_false_of_mem_changeCase rfl areApart_upperRuns areApart_upperExpansions h

theorem eq_slash_of_toUpper {c : Char} (h : c.toUpper = '/') : c = '/' := by
  by_cases hc : c.toNat < 128
  · revert h
    exact forall_ascii (P := fun c => c.toUpper = '/' → c = '/') (by decide) hc
  · rwa [toUpper_of_not_ascii hc] at h

theorem toUpper_toUpper (c : Char) : c.toUpper.toUpper = c.toUpper := by
  by_cases hc : c.toNat < 128
  · exact forall_ascii (P := fun c => c.toUpper.toUpper = c.toUpper) (by decide) hc
  · rw [toUpper_of_not_ascii hc, toUpper_of_not_ascii hc]

theorem toUpper_of_has_eq_false {c : Char} (h : reservedCodePoints.has c = false) :
    c.toUpper = c := by
  by_cases hc : c.toNat < 128
  · revert h
    exact forall_ascii (P := fun c => reservedCodePoints.has c = false → c.toUpper = c)
      (by decide) hc
  · exact toUpper_of_not_ascii hc

/-- No small ASCII letter is left in upper case. -/
theorem map_toUpper_upper (cs : List Char) : (upper cs).map Char.toUpper = upper cs := by
  refine (List.map_congr_left fun x hx => ?_).trans (List.map_id _)
  obtain ⟨c, -, hx⟩ := List.mem_flatMap.1 hx
  rcases eq_or_has_eq_false_of_mem_upperChar hx with rfl | hreserved
  · exact toUpper_toUpper c
  · exact toUpper_of_has_eq_false hreserved

theorem isFieldChar_toUpper {c : Char} (h : IsFieldChar c) : IsFieldChar c.toUpper := by
  by_cases hc : c.toNat < 128
  · revert h
    exact forall_ascii (P := fun c => IsFieldChar c → IsFieldChar c.toUpper)
      (by decide) hc
  · rwa [toUpper_of_not_ascii hc]

theorem isFieldChar_of_has_eq_false {c : Char} (h : reservedCodePoints.has c = false) :
    IsFieldChar c := by
  simp only [reservedCodePoints, CodePoints.has, List.any_cons, Bool.or_eq_false_iff] at h
  refine ⟨h.2.2, ?_⟩
  rintro rfl
  exact absurd h.1 (by decide)

theorem upperChar_ne_nil (c : Char) : upperChar c ≠ [] := by
  unfold upperChar changeCase
  split
  · simp
  split
  · next points hpoints =>
    have hall : upperExpansions.all (fun e => !e.2.isEmpty) = true := by decide
    obtain ⟨before, after, hsplit, -⟩ := List.lookup_eq_some_iff.1 hpoints
    have hne := List.all_eq_true.1 hall (c.toNat, points) (by simp [hsplit])
    simpa using hne
  · split <;> simp

theorem upper_ne_nil {cs : List Char} (h : cs ≠ []) : upper cs ≠ [] := by
  obtain ⟨c, cs, rfl⟩ := List.exists_cons_of_ne_nil h
  simp [upper, upperChar_ne_nil]

/-- Upper case brings no blank and no colon. -/
theorem isFieldChar_of_mem_upper {cs : List Char} (h : ∀ c ∈ cs, IsFieldChar c) :
    ∀ x ∈ upper cs, IsFieldChar x := by
  intro x hx
  obtain ⟨c, hc, hx⟩ := List.mem_flatMap.1 hx
  rcases eq_or_has_eq_false_of_mem_upperChar hx with rfl | hreserved
  · exact isFieldChar_toUpper (h c hc)
  · exact isFieldChar_of_has_eq_false hreserved

/-! ### Lower case -/

/-- The slash. -/
def slashCodePoints : CodePoints := [(0x2f, 0x2f)]

theorem areApart_lowerRuns :
    CodePoints.areApart (lowerRuns.map CaseRun.images) slashCodePoints = true := by
  decide

theorem areApart_lowerExpansions :
    CodePoints.areApart (lowerExpansions.flatMap fun e => e.2.map fun n => (n, n))
      slashCodePoints = true := by
  decide

/-- Only a slash has one in lower case. -/
theorem eq_slash_of_mem_lowerChar {c : Char} (h : '/' ∈ lowerChar c) : c = '/' := by
  unfold lowerChar at h
  split at h
  · next hc =>
    revert h
    exact forall_ascii (P := fun c => '/' ∈ [c.toLower] → c = '/') (by decide) hc
  · rcases eq_or_has_eq_false_of_mem_changeCase rfl areApart_lowerRuns areApart_lowerExpansions h
      with heq | hslash
    · exact heq.symm
    · exact absurd hslash (by decide)

theorem slash_not_mem_lowerAfter {cs : List Char} (h : '/' ∉ cs) (afterCased : Bool) :
    '/' ∉ lowerAfter afterCased cs := by
  induction cs generalizing afterCased with
  | nil => simp [lowerAfter]
  | cons c cs ih =>
    rw [List.mem_cons, not_or] at h
    rw [lowerAfter, List.mem_append, not_or]
    refine ⟨?_, ih h.2 _⟩
    split
    · split <;> decide
    · exact fun hmem => h.1 (eq_slash_of_mem_lowerChar hmem).symm

/-- Lower case brings no slash. -/
theorem slash_not_mem_lower {cs : List Char} (h : '/' ∉ cs) : '/' ∉ lower cs :=
  slash_not_mem_lowerAfter h false

/-- Whether a character stays as it is in lower case, capital ASCII letters aside. -/
def KeepsCase (c : Char) : Prop := c.toNat < 128 ∨ lowerChar c = [c]

instance (c : Char) : Decidable (KeepsCase c) := inferInstanceAs (Decidable (_ ∨ _))

theorem toLower_of_not_ascii {c : Char} (h : ¬c.toNat < 128) : c.toLower = c := by
  refine dif_neg ?_
  rintro ⟨-, hle⟩
  have : c.toNat ≤ 90 := hle
  omega

theorem lowerChar_of_keepsCase {c : Char} (h : KeepsCase c) : lowerChar c = [c.toLower] := by
  by_cases hc : c.toNat < 128
  · rw [lowerChar, if_pos hc]
  · rw [h.resolve_left hc, toLower_of_not_ascii hc]

/-- The sigma, whose lower case depends on its place, does not stay as it is. -/
theorem lowerAfter_of_keepsCase {cs : List Char} (h : ∀ c ∈ cs, KeepsCase c) (afterCased : Bool) :
    lowerAfter afterCased cs = cs.map Char.toLower := by
  induction cs generalizing afterCased with
  | nil => rfl
  | cons c cs ih =>
    rw [List.forall_mem_cons] at h
    have hsigma : c ≠ 'Σ' := by
      rintro rfl
      exact absurd h.1 (by decide)
    rw [lowerAfter, if_neg hsigma, lowerChar_of_keepsCase h.1, ih h.2]
    rfl

theorem toUpper_toLower (c : Char) : c.toLower.toUpper = c.toUpper := by
  by_cases hc : c.toNat < 128
  · exact forall_ascii (P := fun c => c.toLower.toUpper = c.toUpper) (by decide) hc
  · rw [toLower_of_not_ascii hc]

/-- Texts without small ASCII letters that keep their case beyond ASCII are told apart in lower
case. -/
theorem eq_of_lower_eq {cs ds : List Char} (hcs : ∀ c ∈ cs, KeepsCase c)
    (hds : ∀ d ∈ ds, KeepsCase d) (hcs' : cs.map Char.toUpper = cs)
    (hds' : ds.map Char.toUpper = ds) (h : lower cs = lower ds) : cs = ds := by
  have hback (es : List Char) (hes : ∀ e ∈ es, KeepsCase e) :
      (lower es).map Char.toUpper = es.map Char.toUpper := by
    rw [lower, lowerAfter_of_keepsCase hes, List.map_map]
    exact List.map_congr_left fun e _ => toUpper_toLower e
  rw [← hcs', ← hback cs hcs, h, hback ds hds, hds']

end Instrument.Text
