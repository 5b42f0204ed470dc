import Instrument.Proofs.Header.Comments
import Instrument.Proofs.Interface.Annotation

/-!
Lines of a header without its comments. Each is the line that it was, with spaces in places. Main
statement: the pragma above a declaration is the same without the comments if and only if none
stands on the line of the pragma, or that line holds no directive, with its comments or without.
-/

namespace Instrument.Interface

open Header (Lexeme lexemes uncommented)

/-! ### Lines of a header without its comments -/

/-- Whether a character can stand for another in a header without its comments: it is the same, or
a space in place of one that is not blank. -/
def Veils (c d : Char) : Prop := d = c ∨ Text.isBlank c = false ∧ d = ' '

theorem veils_blankOut (c : Char) : Veils c (Header.blankOut c) := by
  rw [Header.blankOut]
  split
  · exact .inl rfl
  · next h => exact .inr ⟨by simpa using h, rfl⟩

theorem forall₂_veils_uncommented (source : List Char) :
    List.Forall₂ Veils source (uncommented source) := by
  have hself (cs : List Char) : List.Forall₂ Veils cs cs := List.forall₂_same.2 fun _ _ => .inl rfl
  have hparts (ls : List Lexeme) :
      List.Forall₂ Veils (ls.flatMap Lexeme.text) (ls.flatMap Lexeme.uncommented) := by
    induction ls with
    | nil => exact .nil
    | cons l ls ih =>
      rw [List.flatMap_cons, List.flatMap_cons]
      refine List.rel_append ?_ ih
      cases l with
      | comment text =>
        exact List.forall₂_map_right_iff.2 (List.forall₂_same.2 fun c _ => veils_blankOut c)
      | newline | blank | directive | token | unended => exact hself _
  have hsource := hparts (lexemes true source)
  rwa [Header.flatMap_text_lexemes] at hsource

theorem Veils.eq_iff {c d e : Char} (h : Veils c d) (hblank : Text.isBlank e = true)
    (he : e ≠ ' ') : d = e ↔ c = e := by
  rcases h with rfl | ⟨hc, rfl⟩
  · exact Iff.rfl
  · refine ⟨fun hspace => absurd hspace.symm he, ?_⟩
    rintro rfl
    cases hc.symm.trans hblank

theorem forall₂_pieces {p : Char → Bool} (hp : ∀ c d, Veils c d → p d = p c) {cs ds : List Char}
    (h : List.Forall₂ Veils cs ds) :
    List.Forall₂ (List.Forall₂ Veils) (Text.pieces p cs) (Text.pieces p ds) := by
  induction h with
  | nil => exact .cons .nil .nil
  | @cons c d cs ds hcd _ ih =>
    rw [Text.pieces, Text.pieces, hp c d hcd]
    split
    · exact .cons .nil ih
    · generalize Text.pieces p cs = before at ih ⊢
      generalize Text.pieces p ds = after at ih ⊢
      cases ih with
      | nil => exact .cons (.cons hcd .nil) .nil
      | cons hpiece hrest => exact .cons (.cons hcd hpiece) hrest

theorem forall₂_dropLast {α β : Type} {R : α → β → Prop} {l : List α} {l' : List β}
    (h : List.Forall₂ R l l') : List.Forall₂ R l.dropLast l'.dropLast := by
  rw [List.dropLast_eq_take, List.dropLast_eq_take, h.length_eq]
  exact List.forall₂_take _ h

theorem rel_getLast? {α β : Type} {R : α → β → Prop} {l : List α} {l' : List β}
    (h : List.Forall₂ R l l') : Option.Rel R l.getLast? l'.getLast? := by
  have hreverse := List.forall₂_reverse_iff.2 h
  rw [← List.head?_reverse, ← List.head?_reverse]
  generalize l.reverse = before at hreverse ⊢
  generalize l'.reverse = after at hreverse ⊢
  cases hreverse with
  | nil => exact .none
  | cons hhead _ => exact .some hhead

theorem forall₂_dropReturn {l l' : List Char} (h : List.Forall₂ Veils l l') :
    List.Forall₂ Veils (Text.dropReturn l) (Text.dropReturn l') := by
  have hlast : l'.getLast? = some '\r' ↔ l.getLast? = some '\r' := by
    have hrel := rel_getLast? h
    generalize l.getLast? = last at hrel ⊢
    generalize l'.getLast? = last' at hrel ⊢
    cases hrel with
    | none => exact Iff.rfl
    | some hcd =>
      rw [Option.some_inj, Option.some_inj]
      exact hcd.eq_iff (by decide) (by decide)
  rw [Text.dropReturn, Text.dropReturn]
  by_cases hreturn : l.getLast? = some '\r'
  · rw [if_pos hreturn, if_pos (hlast.2 hreturn)]
    exact forall₂_dropLast h
  · rwa [if_neg hreturn, if_neg (mt hlast.1 hreturn)]

/-- The lines of a header without its comments are those of the header, with spaces in places. -/
theorem forall₂_lines {cs ds : List Char} (h : List.Forall₂ Veils cs ds) :
    List.Forall₂ (List.Forall₂ Veils) (Text.lines cs) (Text.lines ds) := by
  have hpieces := forall₂_pieces (p := (· == '\n'))
    (fun c d hcd => by
      rw [Bool.eq_iff_iff, beq_iff_eq, beq_iff_eq, hcd.eq_iff (by decide) (by decide)]) h
  refine List.rel_append ?_ ?_
  · rw [List.forall₂_map_left_iff, List.forall₂_map_right_iff]
    exact (forall₂_dropLast hpieces).imp fun _ _ => forall₂_dropReturn
  · have hrel := rel_getLast? hpieces
    generalize (Text.pieces (· == '\n') cs).getLast? = last at hrel ⊢
    generalize (Text.pieces (· == '\n') ds).getLast? = last' at hrel ⊢
    cases hrel with
    | none => exact .nil
    | some hlast =>
      cases hlast with
      | nil => exact .nil
      | cons hcd hrest => exact .cons (.cons hcd hrest) .nil

/-! ### Directives without comments -/

/-- What is not blank of a line that holds a directive. -/
theorem visible_of_directiveOn? {«namespace» line d : List Char}
    (h : directiveOn? «namespace» line = some d) :
    Text.visible line =
      '#' :: ("pragma".toList ++ (Text.visible «namespace» ++ Text.visible d)) := by
  -- what is between the parts of a pragma line is blank
  have hblank {cs rest : List Char} (hrest : afterBlank? cs = some rest) :
      Text.visible rest = Text.visible cs := by
    cases cs with
    | nil =>
      cases hrest
      rfl
    | cons c cs =>
      rw [afterBlank?] at hrest
      split at hrest
      · cases hrest
        exact Text.visible_trimStart (c :: cs)
      · cases hrest
  simp only [directiveOn?, bind, Option.bind_eq_some_iff] at h
  obtain ⟨keyword, hsign, name, hkeyword, h⟩ := h
  split at h
  · cases h
  simp only [Option.bind_eq_some_iff] at h
  obtain ⟨name', hname, text, htext, text', htext', hd⟩ := h
  obtain rfl := Option.some.inj hd
  have hmark : Text.visible ['#'] = ['#'] := Text.visible_of_forall (by decide)
  have hpragma : Text.visible "pragma".toList = "pragma".toList :=
    Text.visible_of_forall Directive.isWord_pragmaKeyword.notBlank
  rw [← Text.visible_trimStart line, Text.after?_eq_some_iff.1 hsign, Text.visible_append, hmark,
    ← Text.visible_trimStart keyword, Text.after?_eq_some_iff.1 hkeyword, Text.visible_append,
    hpragma, ← hblank hname, Text.after?_eq_some_iff.1 htext, Text.visible_append,
    Text.visible_trim, hblank htext']
  rfl

/-- Of a line without its comments, what is not blank is part of what was not blank, and all of it
only if the line is the same. -/
theorem visible_sublist_of_veils {l l' : List Char} (h : List.Forall₂ Veils l l') :
    (Text.visible l').Sublist (Text.visible l) ∧
      ((Text.visible l').length = (Text.visible l).length → l' = l) := by
  induction h with
  | nil => exact ⟨List.Sublist.refl _, fun _ => rfl⟩
  | @cons c d cs ds hcd _ ih =>
    obtain ⟨hsub, heq⟩ := ih
    rcases hcd with rfl | ⟨hc, rfl⟩
    · cases hd : Text.isBlank d with
      | true =>
        rw [Text.visible_cons_of_isBlank hd, Text.visible_cons_of_isBlank hd]
        exact ⟨hsub, fun hlength => congrArg (d :: ·) (heq hlength)⟩
      | false =>
        rw [Text.visible_cons_of_not_isBlank hd, Text.visible_cons_of_not_isBlank hd]
        exact ⟨hsub.cons_cons d, fun hlength => congrArg (d :: ·) (heq (Nat.succ.inj hlength))⟩
    · rw [Text.visible_cons_of_isBlank (by decide), Text.visible_cons_of_not_isBlank hc]
      refine ⟨hsub.cons c, fun hlength => ?_⟩
      have hle := hsub.length_le
      rw [hlength, List.length_cons] at hle
      exact absurd hle (Nat.not_succ_le_self _)

/-- Lines that hold directives with the same characters that are not blank are the same. -/
theorem eq_of_directiveOn? {«namespace» l l' d d' : List Char} (h : List.Forall₂ Veils l l')
    (hd : directiveOn? «namespace» l = some d) (hd' : directiveOn? «namespace» l' = some d')
    (hsame : Text.visible d' = Text.visible d) : l' = l := by
  refine (visible_sublist_of_veils h).2 ?_
  rw [visible_of_directiveOn? hd, visible_of_directiveOn? hd', hsame]

/-- The line of a directive without its comments holds, if any, a directive with part of what was
not blank. -/
theorem visible_sublist_of_directiveOn? {«namespace» l l' d d' : List Char}
    (h : List.Forall₂ Veils l l') (hd : directiveOn? «namespace» l = some d)
    (hd' : directiveOn? «namespace» l' = some d') :
    (Text.visible d').Sublist (Text.visible d) := by
  have hsub := (visible_sublist_of_veils h).1
  rw [visible_of_directiveOn? hd, visible_of_directiveOn? hd'] at hsub
  simpa only [← List.cons_append, List.append_sublist_append_left, List.cons_sublist_cons]
    using hsub

/-! ### The directive above a line -/

section

variable {«namespace» source : List Char} {n : Nat}

/-- The directive that line `n` of a header holds, counted from 0. -/
def directiveAt? («namespace» source : List Char) (n : Nat) : Option (List Char) :=
  (Text.lines source)[n]?.bind (directiveOn? «namespace»)

theorem line_lt_of_mem_pragmasFrom {first : Nat} {texts : List (List Char)} {p : Pragma}
    (h : p ∈ pragmasFrom «namespace» first texts) : p.line < first + texts.length := by
  induction texts generalizing first with
  | nil => cases h
  | cons text texts ih =>
    rw [pragmasFrom, List.mem_append] at h
    rw [List.length_cons]
    rcases h with h | h
    · obtain ⟨d, -, rfl⟩ := Option.map_eq_some_iff.1 (Option.mem_toList.1 h)
      exact Nat.lt_add_of_pos_right (Nat.succ_pos _)
    · have := ih h
      omega

/-- The pragma above a line is what the line before it holds. -/
theorem pragmaAbove?_pragmas («namespace» source : List Char) (n : Nat) :
    pragmaAbove? (pragmas «namespace» source) (n + 2) =
      (directiveAt? «namespace» source n).map fun d => ⟨n + 1, String.ofList d⟩ := by
  by_cases hn : n < (Text.lines source).length
  · have hsplit : Text.lines source = (Text.lines source).take n ++
        (Text.lines source)[n] :: (Text.lines source).drop (n + 1) := by
      rw [List.getElem_cons_drop, List.take_append_drop]
    have habove := pragmaAbove?_pragmasFrom «namespace» 1 ((Text.lines source).take n)
      (Text.lines source)[n] ((Text.lines source).drop (n + 1))
    rw [← hsplit, List.length_take, Nat.min_eq_left hn.le, Nat.add_comm 1 n] at habove
    rw [pragmas, habove, directiveAt?, List.getElem?_eq_getElem hn]
    rfl
  · rw [directiveAt?, List.getElem?_eq_none (Nat.not_lt.1 hn), pragmaAbove?, List.find?_eq_none.2]
    · rfl
    · intro p hp
      have := line_lt_of_mem_pragmasFrom hp
      simp
      omega

/-- There is no pragma above the first line. -/
theorem pragmaAbove?_eq_none {line : Nat} (h : line < 2) :
    pragmaAbove? (pragmas «namespace» source) line = none := by
  rw [pragmaAbove?, List.find?_eq_none]
  intro p hp
  have := le_line_of_mem_pragmasFrom hp
  simp
  omega

theorem rel_getElem? {α β : Type} {R : α → β → Prop} {l : List α} {l' : List β}
    (h : List.Forall₂ R l l') (n : Nat) : Option.Rel R l[n]? l'[n]? := by
  induction h generalizing n with
  | nil => exact .none
  | cons hhead _ ih =>
    cases n with
    | zero => exact .some hhead
    | succ n => exact ih n

/-- Whether comments leave alone what line `n` says, counted from 0: none stands on it, or it holds
no directive, neither with its comments nor without them. -/
def IsPlainLine («namespace» source : List Char) (n : Nat) : Prop :=
  (Text.lines (uncommented source))[n]? = (Text.lines source)[n]? ∨
    directiveAt? «namespace» source n = none ∧
      directiveAt? «namespace» (uncommented source) n = none

instance («namespace» source : List Char) (n : Nat) :
    Decidable (IsPlainLine «namespace» source n) :=
  inferInstanceAs (Decidable (_ ∨ _ ∧ _))

/-- Two directives on the same line, with comments and without, are on the line itself if what is
not blank in them is the same. -/
theorem isPlainLine_of_visible {d d' : List Char} (hd : directiveAt? «namespace» source n = some d)
    (hd' : directiveAt? «namespace» (uncommented source) n = some d')
    (hsame : Text.visible d' = Text.visible d) : IsPlainLine «namespace» source n := by
  obtain ⟨l, hl, hd⟩ := Option.bind_eq_some_iff.1 hd
  obtain ⟨l', hl', hd'⟩ := Option.bind_eq_some_iff.1 hd'
  have hrel := rel_getElem? (forall₂_lines (forall₂_veils_uncommented source)) n
  rw [hl, hl'] at hrel
  cases hrel with
  | some hveils =>
    refine .inl ?_
    rw [hl, hl', eq_of_directiveOn? hveils hd hd' hsame]

theorem visible_sublist_of_directiveAt? {d d' : List Char}
    (hd : directiveAt? «namespace» source n = some d)
    (hd' : directiveAt? «namespace» (uncommented source) n = some d') :
    (Text.visible d').Sublist (Text.visible d) := by
  obtain ⟨l, hl, hd⟩ := Option.bind_eq_some_iff.1 hd
  obtain ⟨l', hl', hd'⟩ := Option.bind_eq_some_iff.1 hd'
  have hrel := rel_getElem? (forall₂_lines (forall₂_veils_uncommented source)) n
  rw [hl, hl'] at hrel
  cases hrel with
  | some hveils => exact visible_sublist_of_directiveOn? hveils hd hd'

/-- The directive on a line is the same without the comments if and only if they leave it alone. -/
theorem directiveAt?_uncommented_iff :
    directiveAt? «namespace» (uncommented source) n = directiveAt? «namespace» source n ↔
      IsPlainLine «namespace» source n := by
  constructor
  · intro heq
    cases hd : directiveAt? «namespace» source n with
    | none => exact .inr ⟨hd, heq.trans hd⟩
    | some d => exact isPlainLine_of_visible hd (heq.trans hd) rfl
  · rintro (heq | ⟨hnone, hnone'⟩)
    · rw [directiveAt?, heq, directiveAt?]
    · rw [hnone, hnone']

/-- The pragma above a line is the same without the comments if and only if they leave alone the
line on which it would stand. -/
theorem pragmaAbove?_uncommented_iff :
    pragmaAbove? (pragmas «namespace» (uncommented source)) (n + 2) =
        pragmaAbove? (pragmas «namespace» source) (n + 2) ↔ IsPlainLine «namespace» source n := by
  rw [pragmaAbove?_pragmas, pragmaAbove?_pragmas, ← directiveAt?_uncommented_iff]
  refine ⟨fun h => Option.map_injective ?_ h, fun h => by rw [h]⟩
  intro d d' hsame
  exact String.ofList_injective (Pragma.mk.inj hsame).2

end

end Instrument.Interface
