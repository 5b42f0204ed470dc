import Mathlib.Data.List.Chain
import Mathlib.Data.List.Infix
import Instrument.Interface.LengthExpression

/-!
Length expressions segment by segment. An expression is put together from plain text and references.
Main statement: its source is put together from the same segments, each of them on its own, up to a
reference that is not closed; and every text is such an expression.
-/

namespace Instrument.Interface

/-! ### Segments -/

/-- What a reference names. -/
inductive Referent where
  | argument
  | member
deriving DecidableEq, Repr

namespace Referent

/-- What a reference begins with. -/
def opening : Referent → List Char
  | argument => "arg\x7b".toList
  | member => "this\x7b".toList

/-- What stands for the beginning of a reference in the source. -/
def replacement : Referent → List Char
  | argument => "args.".toList
  | member => "THIS->".toList

end Referent

/-- A part of a length expression. -/
inductive Segment where
  | plain (text : List Char)
  | reference (r : Referent) (body : List Char)
deriving DecidableEq, Repr

namespace Segment

/-- The characters of a segment. -/
def text : Segment → List Char
  | plain text => text
  | reference r body => r.opening ++ body ++ ['}']

/-- The source of a segment. -/
def source : Segment → List Char
  | plain text => text
  | reference r body => r.replacement ++ body

/-- Whether a segment is plain text. -/
def isPlain : Segment → Bool
  | plain _ => true
  | reference .. => false

end Segment

/-- Whether no reference begins in a text. -/
def IsPlain (text : List Char) : Prop := ∀ r : Referent, ¬r.opening <:+: text

instance (text : List Char) : Decidable (IsPlain text) :=
  decidable_of_iff (¬Referent.argument.opening <:+: text ∧ ¬Referent.member.opening <:+: text)
    ⟨fun h r => by cases r <;> simp [h], fun h => ⟨h .argument, h .member⟩⟩

/-- Whether a segment can stand between others: no reference begins in plain text, and the body of a
reference does not close it. -/
def Segment.IsValid : Segment → Prop
  | plain text => IsPlain text
  | reference _ body => '}' ∉ body

instance (s : Segment) : Decidable s.IsValid :=
  match s with
  | .plain text => inferInstanceAs (Decidable (IsPlain text))
  | .reference _ body => inferInstanceAs (Decidable ('}' ∉ body))

/-- The texts in front of, between and behind the references of an expression. Plain segments side
by side are one text; between references side by side the text is empty. -/
def stretches : List Segment → List (List Char)
  | [] => [[]]
  | .plain text :: ss =>
    match stretches ss with
    | [] => [text]
    | stretch :: more => (text ++ stretch) :: more
  | .reference .. :: ss => [] :: stretches ss

/-- Whether references begin only where segments say so, and end at the first closing brace. -/
structure IsExpression (ss : List Segment) : Prop where
  plain : ∀ text ∈ stretches ss, IsPlain text
  closed : ∀ r body, Segment.reference r body ∈ ss → '}' ∉ body

theorem exists_stretches (ss : List Segment) :
    ∃ stretch more, stretches ss = stretch :: more ∧ stretch <+: ss.flatMap Segment.text := by
  induction ss with
  | nil => exact ⟨[], [], rfl, List.nil_prefix⟩
  | cons s ss ih =>
    cases s with
    | plain text =>
      obtain ⟨stretch, more, hss, hprefix⟩ := ih
      refine ⟨text ++ stretch, more, by rw [stretches, hss], ?_⟩
      exact (List.prefix_append_right_inj text).2 hprefix
    | reference r body => exact ⟨[], stretches ss, rfl, List.nil_prefix⟩

theorem stretches_plain_plain (text text' : List Char) (ss : List Segment) :
    stretches (.plain text :: .plain text' :: ss) = stretches (.plain (text ++ text') :: ss) := by
  obtain ⟨stretch, more, hss, -⟩ := exists_stretches ss
  simp only [stretches, hss, List.append_assoc]

theorem stretches_plain_reference (text : List Char) (r : Referent) (body : List Char)
    (ss : List Segment) :
    stretches (.plain text :: .reference r body :: ss) = text :: stretches ss := by
  simp only [stretches, List.append_nil]

section

variable {text text' body : List Char} {r : Referent} {ss : List Segment}

theorem isPlain_nil : IsPlain [] := by
  intro r hr
  rw [List.infix_nil] at hr
  cases r <;> exact absurd hr (by decide)

theorem isExpression_plain_iff : IsExpression [.plain text] ↔ IsPlain text := by
  constructor
  · intro h
    exact h.plain text (by simp [stretches])
  · intro h
    refine ⟨?_, fun r body hmem => by simp at hmem⟩
    simpa [stretches] using h

theorem isExpression_plain_plain_iff :
    IsExpression (.plain text :: .plain text' :: ss) ↔
      IsExpression (.plain (text ++ text') :: ss) := by
  constructor
  · rintro ⟨hplain, hclosed⟩
    refine ⟨stretches_plain_plain .. ▸ hplain, fun r body hmem => hclosed r body ?_⟩
    simpa using hmem
  · rintro ⟨hplain, hclosed⟩
    refine ⟨stretches_plain_plain .. ▸ hplain, fun r body hmem => hclosed r body ?_⟩
    simpa using hmem

theorem isExpression_plain_reference_iff :
    IsExpression (.plain text :: .reference r body :: ss) ↔
      IsPlain text ∧ '}' ∉ body ∧ IsExpression ss := by
  constructor
  · rintro ⟨hplain, hclosed⟩
    rw [stretches_plain_reference, List.forall_mem_cons] at hplain
    refine ⟨hplain.1, hclosed r body (by simp), hplain.2, fun r body hmem => ?_⟩
    exact hclosed r body (by simp [hmem])
  · rintro ⟨htext, hbody, hplain, hclosed⟩
    refine ⟨?_, fun r' body' hmem => ?_⟩
    · rw [stretches_plain_reference, List.forall_mem_cons]
      exact ⟨htext, hplain⟩
    · simp only [List.mem_cons, reduceCtorEq, Segment.reference.injEq, false_or] at hmem
      rcases hmem with ⟨rfl, rfl⟩ | hmem
      · exact hbody
      · exact hclosed r' body' hmem

theorem isExpression_plain_nil_iff : IsExpression (.plain [] :: ss) ↔ IsExpression ss := by
  have hstretches : stretches (.plain [] :: ss) = stretches ss := by
    obtain ⟨stretch, more, hss, -⟩ := exists_stretches ss
    simp only [stretches, hss, List.nil_append]
  constructor
  · rintro ⟨hplain, hclosed⟩
    exact ⟨hstretches ▸ hplain, fun r body hmem => hclosed r body (by simp [hmem])⟩
  · rintro ⟨hplain, hclosed⟩
    exact ⟨hstretches ▸ hplain, fun r body hmem => hclosed r body (by simpa using hmem)⟩

theorem isExpression_nil : IsExpression [] :=
  isExpression_plain_nil_iff.1 (isExpression_plain_iff.2 isPlain_nil)

/-- A character goes in front of plain text if no reference begins with it. -/
theorem isExpression_plain_cons {c : Char} (h : IsExpression ss)
    (hopen : ∀ r : Referent, ¬r.opening <+: c :: ss.flatMap Segment.text) :
    IsExpression (.plain [c] :: ss) := by
  obtain ⟨stretch, more, hss, hprefix⟩ := exists_stretches ss
  obtain ⟨hplain, hclosed⟩ := h
  rw [hss, List.forall_mem_cons] at hplain
  refine ⟨?_, fun r body hmem => hclosed r body (by simpa using hmem)⟩
  simp only [stretches, hss, List.forall_mem_cons, List.singleton_append]
  refine ⟨fun r hr => ?_, hplain.2⟩
  rcases List.infix_cons_iff.1 hr with hr | hr
  · exact hopen r (hr.trans ((List.prefix_cons_inj c).2 hprefix))
  · exact hplain.1 r hr

/-- Where no plain segments stand side by side, each segment can be looked at on its own. -/
theorem isExpression_iff_of_apart (ss : List Segment)
    (h : ss.IsChain fun s s' => ¬(s.isPlain ∧ s'.isPlain)) :
    IsExpression ss ↔ ∀ s ∈ ss, s.IsValid := by
  match ss with
  | [] => simp [isExpression_nil]
  | [.plain text] => simp [isExpression_plain_iff, Segment.IsValid]
  | .plain text :: .plain text' :: ss => exact absurd ⟨rfl, rfl⟩ (List.isChain_cons_cons.1 h).1
  | .plain text :: .reference r body :: ss =>
    rw [isExpression_plain_reference_iff, isExpression_iff_of_apart ss h.tail.tail,
      List.forall_mem_cons, List.forall_mem_cons]
    exact Iff.rfl
  | .reference r body :: ss =>
    rw [← isExpression_plain_nil_iff, isExpression_plain_reference_iff,
      isExpression_iff_of_apart ss h.tail, List.forall_mem_cons]
    exact and_iff_right isPlain_nil

end

/-! ### Where references begin -/

section

variable {text body tail rest : List Char} {r : Referent}

theorem openReference?_eq_some_iff {replacement inside : List Char} :
    openReference? text = some (replacement, inside) ↔
      ∃ r : Referent, r.replacement = replacement ∧ text = r.opening ++ inside := by
  constructor
  · intro h
    obtain ⟨form, hform, heq⟩ := List.exists_of_findSome?_eq_some h
    obtain ⟨rest, hrest, hpair⟩ := Option.map_eq_some_iff.1 heq
    cases hpair
    rw [Text.after?_eq_some_iff] at hrest
    simp only [referenceForms, List.mem_cons, List.not_mem_nil, or_false] at hform
    rcases hform with rfl | rfl
    · exact ⟨.argument, rfl, hrest⟩
    · exact ⟨.member, rfl, hrest⟩
  · rintro ⟨r, rfl, rfl⟩
    cases r <;> rfl

theorem openReference?_eq_none_iff :
    openReference? text = none ↔ ∀ r : Referent, ¬r.opening <+: text := by
  rw [Option.eq_none_iff_forall_not_mem]
  constructor
  · rintro h r ⟨inside, rfl⟩
    exact h (r.replacement, inside) (openReference?_eq_some_iff.2 ⟨r, rfl, rfl⟩)
  · rintro h ⟨replacement, inside⟩ hsome
    obtain ⟨r, -, rfl⟩ := openReference?_eq_some_iff.1 hsome
    exact h r (List.prefix_append ..)

/-- No opening begins inside an opening: its first character stands nowhere else in one. -/
theorem head?_opening_not_mem_tail (r r' : Referent) {c : Char} (hc : r.opening.head? = some c) :
    c ∉ r'.opening.tail := by
  cases r <;> cases r' <;> cases hc <;> decide

theorem exists_opening_eq_cons (r : Referent) : ∃ c cs, r.opening = c :: cs := by
  cases r <;> exact ⟨_, _, rfl⟩

/-! ### The source of each segment -/

theorem lengthSource_cons_of_none {c : Char} (h : openReference? (c :: rest) = none) :
    lengthSource (c :: rest) = c :: lengthSource rest := by
  rw [lengthSource]
  split
  · rfl
  · next heq => cases h.symm.trans heq

theorem forall_ne_closing (hbody : '}' ∉ body) : ∀ c ∈ body, (c != '}') = true := by
  intro c hc
  rw [bne_iff_ne]
  rintro rfl
  exact hbody hc

theorem span_closing (hbody : '}' ∉ body) (rest : List Char) :
    (body ++ '}' :: rest).takeWhile (· != '}') = body ∧
      (body ++ '}' :: rest).dropWhile (· != '}') = '}' :: rest := by
  have hall := forall_ne_closing hbody
  constructor
  · rw [List.takeWhile_append_of_pos hall, List.takeWhile_cons_of_neg (by simp), List.append_nil]
  · rw [List.dropWhile_append_of_pos hall, List.dropWhile_cons_of_neg (by simp)]

/-- A reference is translated, and the rest goes on behind the brace that closes it. -/
theorem lengthSource_reference (hbody : '}' ∉ body) :
    lengthSource ((Segment.reference r body).text ++ rest) =
      (Segment.reference r body).source ++ lengthSource rest := by
  obtain ⟨c, cs, hcs⟩ := exists_opening_eq_cons r
  have hopen : openReference? (c :: (cs ++ (body ++ '}' :: rest))) =
      some (r.replacement, body ++ '}' :: rest) :=
    openReference?_eq_some_iff.2 ⟨r, rfl, by rw [hcs, List.cons_append]⟩
  obtain ⟨htake, hdrop⟩ := span_closing hbody rest
  have htext : (Segment.reference r body).text ++ rest = c :: (cs ++ (body ++ '}' :: rest)) := by
    simp [Segment.text, hcs]
  rw [htext, lengthSource]
  split
  · next heq => cases hopen.symm.trans heq
  · next heq =>
    cases hopen.symm.trans heq
    split
    · next hnil => cases hdrop.symm.trans hnil
    · next hafter =>
      cases hdrop.symm.trans hafter
      rw [htake, Segment.source]

/-- From a reference that is not closed on, the text is taken as it stands. -/
theorem lengthSource_unclosed (htail : '}' ∉ tail) :
    lengthSource (r.opening ++ tail) = r.opening ++ tail := by
  obtain ⟨c, cs, hcs⟩ := exists_opening_eq_cons r
  have hopen : openReference? (c :: (cs ++ tail)) = some (r.replacement, tail) :=
    openReference?_eq_some_iff.2 ⟨r, rfl, by rw [hcs, List.cons_append]⟩
  have hdrop : tail.dropWhile (· != '}') = [] := by
    rw [← List.append_nil tail, List.dropWhile_append_of_pos (forall_ne_closing htail),
      List.dropWhile_nil]
  rw [hcs, List.cons_append, lengthSource]
  split
  · next heq => cases hopen.symm.trans heq
  · next heq =>
    cases hopen.symm.trans heq
    split
    · rfl
    · next hafter => cases hdrop.symm.trans hafter

/-- Whether a text is empty or begins with a character that a reference begins with. -/
def MayOpen (text : List Char) : Prop :=
  ∀ c, text.head? = some c → ∃ r : Referent, r.opening.head? = some c

/-- Plain text is taken as it stands: with what follows it no other reference begins. -/
theorem lengthSource_plain (h : IsPlain text) (hrest : MayOpen rest) :
    lengthSource (text ++ rest) = text ++ lengthSource rest := by
  induction text with
  | nil => rfl
  | cons c text ih =>
    have htail : IsPlain text := fun r hr => h r (List.infix_cons hr)
    have hnone : openReference? (c :: (text ++ rest)) = none := by
      rw [openReference?_eq_none_iff]
      rintro r ⟨inside, hinside⟩
      rw [← List.cons_append] at hinside
      rcases List.append_eq_append_iff.1 hinside with ⟨more, htext, -⟩ | ⟨more, hopening, hmore⟩
      · exact h r ⟨[], more, htext.symm⟩
      cases more with
      | nil => exact h r (by simp [hopening])
      | cons d more =>
        obtain ⟨r', hr'⟩ := hrest d (by rw [hmore]; rfl)
        refine head?_opening_not_mem_tail r' r hr' ?_
        rw [hopening]
        simp
    rw [List.cons_append, lengthSource_cons_of_none hnone, ih htail, List.cons_append]

/-! ### Expressions -/

variable {ss : List Segment}

theorem mayOpen_append (r : Referent) (cs : List Char) : MayOpen (r.opening ++ cs) := by
  obtain ⟨c, opening, hcons⟩ := exists_opening_eq_cons r
  intro d hd
  rw [hcons] at hd
  exact ⟨r, by rw [hcons]; exact hd⟩

theorem mayOpen_reference (r : Referent) (body cs : List Char) :
    MayOpen ((Segment.reference r body).text ++ cs) := by
  rw [Segment.text, List.append_assoc, List.append_assoc]
  exact mayOpen_append r _

/-- Segments behind some plain text are translated one by one, and then what follows them. -/
theorem lengthSource_segments_append (h : IsExpression (.plain text :: ss))
    (hrest : MayOpen rest) :
    lengthSource (text ++ (ss.flatMap Segment.text ++ rest)) =
      text ++ (ss.flatMap Segment.source ++ lengthSource rest) := by
  induction ss generalizing text with
  | nil =>
    have hplain : IsPlain text := h.plain text (by simp [stretches])
    exact lengthSource_plain hplain hrest
  | cons s ss ih =>
    cases s with
    | plain text' =>
      have hboth := ih (isExpression_plain_plain_iff.1 h)
      simpa [Segment.text, Segment.source] using hboth
    | reference r body =>
      obtain ⟨hplain, hbody, hss⟩ := isExpression_plain_reference_iff.1 h
      have hmore := ih (isExpression_plain_nil_iff.2 hss)
      rw [List.nil_append, List.nil_append] at hmore
      rw [List.flatMap_cons, List.flatMap_cons, List.append_assoc, List.append_assoc,
        lengthSource_plain hplain (mayOpen_reference r body _), lengthSource_reference hbody, hmore]

theorem closing_not_mem_takeWhile (cs : List Char) : '}' ∉ cs.takeWhile (· != '}') := fun hmem =>
  absurd (List.all_eq_true.1 List.all_takeWhile _ hmem) (by decide)

/-- Every text is put together from segments, up to a reference that is not closed. -/
theorem exists_segments (cs : List Char) :
    ∃ ss, IsExpression ss ∧ (cs = ss.flatMap Segment.text ∨
      ∃ (r : Referent) (tail : List Char), '}' ∉ tail ∧
        cs = ss.flatMap Segment.text ++ (r.opening ++ tail)) := by
  fun_induction lengthSource cs with
  | case1 => exact ⟨[], isExpression_nil, .inl rfl⟩
  -- no reference opens here: the character joins the plain text in front of the next segment
  | case2 c rest hnone ih =>
    obtain ⟨ss, hss, htext⟩ := ih
    have hprefix : ss.flatMap Segment.text <+: rest := by
      rcases htext with rfl | ⟨r, tail, -, rfl⟩
      · exact List.prefix_rfl
      · exact List.prefix_append ..
    refine ⟨.plain [c] :: ss, isExpression_plain_cons hss fun r hr => ?_, ?_⟩
    · exact openReference?_eq_none_iff.1 hnone r (hr.trans ((List.prefix_cons_inj c).2 hprefix))
    · rcases htext with rfl | ⟨r, tail, htail, rfl⟩
      · exact .inl rfl
      · exact .inr ⟨r, tail, htail, rfl⟩
  -- a reference that nothing closes takes all that is left
  | case3 c rest replacement inside hopen hdrop =>
    obtain ⟨r, -, htext⟩ := openReference?_eq_some_iff.1 hopen
    have hinside : inside.takeWhile (· != '}') = inside := by
      rw [← List.append_nil (inside.takeWhile _), ← hdrop, List.takeWhile_append_dropWhile]
    have hclosing : '}' ∉ inside := hinside ▸ closing_not_mem_takeWhile inside
    exact ⟨[], isExpression_nil, .inr ⟨r, inside, hclosing, htext⟩⟩
  | case4 c rest replacement inside hopen d after hdrop ih =>
    obtain ⟨ss, hss, hafter⟩ := ih
    obtain ⟨r, -, htext⟩ := openReference?_eq_some_iff.1 hopen
    obtain rfl : d = '}' := by
      have hd := List.head?_dropWhile_not (· != '}') inside
      simpa [hdrop] using hd
    have hbody := closing_not_mem_takeWhile inside
    have hcs : c :: rest =
        (Segment.reference r (inside.takeWhile (· != '}'))).text ++ after := by
      rw [htext, Segment.text, List.append_assoc, List.append_assoc, List.singleton_append,
        ← hdrop, List.takeWhile_append_dropWhile]
    refine ⟨.reference r (inside.takeWhile (· != '}')) :: ss, ?_, ?_⟩
    · rw [← isExpression_plain_nil_iff, isExpression_plain_reference_iff]
      exact ⟨isPlain_nil, hbody, hss⟩
    · rw [hcs, List.flatMap_cons]
      rcases hafter with rfl | ⟨r', tail, htail, rfl⟩
      · exact .inl rfl
      · exact .inr ⟨r', tail, htail, (List.append_assoc ..).symm⟩

/-- The source of an expression is put together from its segments. Where its last reference is not
closed, that is so up to this reference, and from there on the text is taken as it stands. Every
text is such an expression. -/
theorem lengthSource_segments :
    (∀ ss, IsExpression ss →
      lengthSource (ss.flatMap Segment.text) = ss.flatMap Segment.source ∧
      ∀ (r : Referent) (tail : List Char), '}' ∉ tail →
        lengthSource (ss.flatMap Segment.text ++ (r.opening ++ tail)) =
          ss.flatMap Segment.source ++ (r.opening ++ tail)) ∧
    ∀ cs, ∃ ss, IsExpression ss ∧ (cs = ss.flatMap Segment.text ∨
      ∃ (r : Referent) (tail : List Char), '}' ∉ tail ∧
        cs = ss.flatMap Segment.text ++ (r.opening ++ tail)) := by
  refine ⟨fun ss hss => ?_, exists_segments⟩
  have hsegments (rest : List Char) (hrest : MayOpen rest) :
      lengthSource (ss.flatMap Segment.text ++ rest) =
        ss.flatMap Segment.source ++ lengthSource rest :=
    lengthSource_segments_append (isExpression_plain_nil_iff.2 hss) hrest
  constructor
  · have hall := hsegments [] fun c hc => by cases hc
    have hnil : lengthSource [] = [] := by rw [lengthSource]
    rwa [hnil, List.append_nil, List.append_nil] at hall
  · intro r tail htail
    rw [hsegments _ (mayOpen_append r tail), lengthSource_unclosed htail]

theorem lengthSource_segments_window :
    let ss : List Segment := [.plain "2*".toList, .reference .argument "n".toList,
      .plain "+thi".toList, .reference .member "arg\x7bsize()".toList, .plain "-ar".toList]
    IsExpression ss ∧ '}' ∉ "g\x7bopen".toList ∧
      lengthSource "2*arg\x7bn\x7d+thithis\x7barg\x7bsize()\x7d-ararg\x7bg\x7bopen".toList =
        "2*args.n+thiTHIS->arg\x7bsize()-ararg\x7bg\x7bopen".toList := by
  have hss : IsExpression [.plain "2*".toList, .reference .argument "n".toList,
      .plain "+thi".toList, .reference .member "arg\x7bsize()".toList, .plain "-ar".toList] := by
    rw [isExpression_iff_of_apart _ (by decide)]
    decide
  exact ⟨hss, by decide, (lengthSource_segments.1 _ hss).2 .argument "g\x7bopen".toList (by decide)⟩

end

end Instrument.Interface
