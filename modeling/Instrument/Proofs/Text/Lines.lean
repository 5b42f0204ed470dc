import Mathlib.Data.List.Basic
import Instrument.Proofs.Text.Pieces

/-!
Lines where they stand in a text. Main statement: the lines of a text, counted from 0, are what
stands between line feeds, each behind as many line feeds as its number says.
-/

namespace Instrument.Text

/-- The number of the physical line on which a character stands behind some text. -/
def lineBehind (front : List Char) : Nat := front.count '\n' + 1

/-- A text has a line behind `front` and in front of `behind`, which the line feed begins that ends
the line. Only the last line can go without one, and not if it is empty. -/
structure IsLine (cs front line behind : List Char) : Prop where
  append : front ++ (line ++ behind) = cs
  begins : front = [] ∨ front.getLast? = some '\n'
  whole : '\n' ∉ line
  ends : behind = [] ∧ line ≠ [] ∨ behind.head? = some '\n'

/-- A line without the carriage return in front of the line feed that ends it. -/
def shownLine (line behind : List Char) : List Char :=
  if behind.isEmpty then line else dropReturn line

/-! ### One line after the other -/

variable {cs l line before front behind rest : List Char} {n : Nat}

theorem lines_append_newline (h : '\n' ∉ l) (rest : List Char) :
    lines (l ++ '\n' :: rest) = dropReturn l :: lines rest := by
  have hl : ∀ c ∈ l, (c == '\n') = false := by
    intro c hc
    rw [beq_eq_false_iff_ne]
    rintro rfl
    exact h hc
  have hpieces : pieces (· == '\n') (l ++ '\n' :: rest) = l :: pieces (· == '\n') rest :=
    pieces_append_cons hl rfl rest
  obtain ⟨f, fs, hfs⟩ := List.exists_cons_of_ne_nil (pieces_ne_nil (· == '\n') rest)
  simp only [lines, hpieces, hfs, List.dropLast_cons_cons, List.map_cons, List.getLast?_cons_cons,
    List.cons_append]

theorem lines_of_not_mem (h : '\n' ∉ l) : lines l = if l = [] then [] else [l] := by
  have hl : ∀ c ∈ l, (c == '\n') = false := by
    intro c hc
    rw [beq_eq_false_iff_ne]
    rintro rfl
    exact h hc
  rw [lines, pieces_of_forall hl]
  cases l <;> rfl

/-- Any other line stands behind the first one and its line feed. -/
theorem isLine_append_iff :
    IsLine (l ++ '\n' :: rest) (l ++ '\n' :: front) line behind ↔
      IsLine rest front line behind := by
  have hbegins : (l ++ '\n' :: front = [] ∨ (l ++ '\n' :: front).getLast? = some '\n') ↔
      (front = [] ∨ front.getLast? = some '\n') := by
    cases front with
    | nil => simp
    | cons c front => simp [List.getLast?_append, List.getLast?_cons_cons]
  constructor
  · rintro ⟨happend, hb, hwhole, hends⟩
    exact ⟨by simpa using happend, hbegins.1 hb, hwhole, hends⟩
  · rintro ⟨happend, hb, hwhole, hends⟩
    exact ⟨by simpa using happend, hbegins.2 hb, hwhole, hends⟩

/-- Behind a line feed the text before a line holds the first line. -/
theorem IsLine.exists_front (h : IsLine (l ++ '\n' :: rest) front line behind) (hl : '\n' ∉ l)
    (hfront : front ≠ []) : ∃ front', front = l ++ '\n' :: front' := by
  have hmem : '\n' ∈ front := List.mem_of_getLast? (h.begins.resolve_left hfront)
  obtain ⟨first, front', rfl, hfirst⟩ := List.eq_append_cons_of_mem hmem
  have happend := h.append
  rw [List.append_assoc, List.cons_append] at happend
  obtain ⟨rfl, -⟩ := append_cons_inj hfirst hl happend
  exact ⟨front', rfl⟩

theorem count_newline_of_not_mem (h : '\n' ∉ l) (front : List Char) :
    (l ++ '\n' :: front).count '\n' = front.count '\n' + 1 := by
  rw [List.count_append, List.count_eq_zero.2 h, List.count_cons_self, Nat.zero_add]

theorem IsLine.front_eq_nil_of_count (h : IsLine cs front line behind)
    (hcount : front.count '\n' = 0) : front = [] :=
  h.begins.resolve_right fun hlast =>
    absurd (List.mem_of_getLast? hlast) (List.count_eq_zero.1 hcount)

theorem IsLine.newline_mem (h : IsLine cs front line behind) (hfront : front ≠ []) :
    '\n' ∈ cs := by
  rw [← h.append]
  exact List.mem_append_left _ (List.mem_of_getLast? (h.begins.resolve_left hfront))

/-- A text without line feeds is one line. -/
theorem isLine_nil_iff_of_not_mem (h : '\n' ∉ cs) :
    IsLine cs [] line behind ↔ line = cs ∧ behind = [] ∧ cs ≠ [] := by
  constructor
  · rintro ⟨happend, -, -, ⟨rfl, hne⟩ | hhead⟩
    · rw [List.nil_append, List.append_nil] at happend
      exact ⟨happend, rfl, happend ▸ hne⟩
    · refine absurd ?_ h
      rw [← happend]
      exact List.mem_append_right _ (List.mem_append_right _ (List.mem_of_mem_head? hhead))
  · rintro ⟨rfl, rfl, hne⟩
    exact ⟨by simp, .inl rfl, h, .inl ⟨rfl, hne⟩⟩

theorem isLine_nil_iff_of_append (h : '\n' ∉ l) :
    IsLine (l ++ '\n' :: rest) [] line behind ↔ line = l ∧ behind = '\n' :: rest := by
  constructor
  · rintro ⟨happend, -, hwhole, ⟨rfl, -⟩ | hhead⟩
    · rw [List.nil_append, List.append_nil] at happend
      exact absurd (happend ▸ List.mem_append_right _ (List.mem_cons_self ..)) hwhole
    · obtain ⟨more, rfl⟩ := List.head?_eq_some_iff.1 hhead
      obtain ⟨rfl, rfl⟩ := append_cons_inj hwhole h happend
      exact ⟨rfl, rfl⟩
  · rintro ⟨rfl, rfl⟩
    exact ⟨rfl, .inl rfl, h, .inr rfl⟩

/-- A line with a number stands behind as many line feeds. The induction is on the number; the
first line is taken off in each step. -/
theorem getElem?_lines_iff :
    (lines cs)[n]? = some l ↔
      ∃ front line behind, IsLine cs front line behind ∧ front.count '\n' = n ∧
        shownLine line behind = l := by
  induction n generalizing cs with
  -- the first line ends with the first line feed, or is all there is
  | zero =>
    constructor
    · intro hl
      by_cases hmem : '\n' ∈ cs
      · obtain ⟨first, rest, rfl, hfirst⟩ := List.eq_append_cons_of_mem hmem
        rw [lines_append_newline hfirst, List.getElem?_cons_zero, Option.some_inj] at hl
        exact ⟨[], first, _, (isLine_nil_iff_of_append hfirst).2 ⟨rfl, rfl⟩, rfl, hl⟩
      · rw [lines_of_not_mem hmem] at hl
        split at hl
        · cases hl
        · next hne =>
          cases hl
          exact ⟨[], l, [], (isLine_nil_iff_of_not_mem hmem).2 ⟨rfl, rfl, hne⟩, rfl, rfl⟩
    · rintro ⟨front, line, behind, hline, hcount, rfl⟩
      obtain rfl := hline.front_eq_nil_of_count hcount
      by_cases hmem : '\n' ∈ cs
      · obtain ⟨first, rest, rfl, hfirst⟩ := List.eq_append_cons_of_mem hmem
        obtain ⟨rfl, rfl⟩ := (isLine_nil_iff_of_append hfirst).1 hline
        rw [lines_append_newline hfirst]
        rfl
      · obtain ⟨rfl, rfl, hne⟩ := (isLine_nil_iff_of_not_mem hmem).1 hline
        rw [lines_of_not_mem hmem, if_neg hne]
        rfl
  -- line n + 1 is line n of what follows the first line feed
  | succ n ih =>
    by_cases hmem : '\n' ∈ cs
    · obtain ⟨first, rest, rfl, hfirst⟩ := List.eq_append_cons_of_mem hmem
      rw [lines_append_newline hfirst, List.getElem?_cons_succ, ih]
      constructor
      · rintro ⟨front, line, behind, hline, rfl, hshown⟩
        exact ⟨_, line, behind, isLine_append_iff.2 hline, count_newline_of_not_mem hfirst front,
          hshown⟩
      · rintro ⟨front, line, behind, hline, hcount, hshown⟩
        have hne : front ≠ [] := by
          rintro rfl
          cases hcount
        obtain ⟨front, rfl⟩ := hline.exists_front hfirst hne
        rw [count_newline_of_not_mem hfirst] at hcount
        exact ⟨front, line, behind, isLine_append_iff.1 hline, Nat.succ.inj hcount, hshown⟩
    · have hnone : (lines cs)[n + 1]? = none := by
        rw [lines_of_not_mem hmem]
        split <;> rfl
      rw [hnone]
      constructor
      · intro hl
        cases hl
      · rintro ⟨front, line, behind, hline, hcount, -⟩
        refine absurd (hline.newline_mem ?_) hmem
        rintro rfl
        cases hcount

/-! ### Places with one line feed between them -/

theorem exists_shownLine_append (line behind : List Char) :
    ∃ ending, line = shownLine line behind ++ ending := by
  rw [shownLine, dropReturn]
  split
  · exact ⟨[], (List.append_nil line).symm⟩
  split
  · next hlast => exact ⟨['\r'], (List.dropLast_append_getLast? '\r' hlast).symm⟩
  · exact ⟨[], (List.append_nil line).symm⟩

/-- Of two places in a text, the one on the next line is behind the other. -/
theorem exists_append_of_count_newline {after : List Char} (h : before ++ after = front ++ rest)
    (hcount : front.count '\n' = before.count '\n' + 1) :
    ∃ between, front = before ++ between ∧ between.count '\n' = 1 := by
  rcases List.append_eq_append_iff.1 h with ⟨between, rfl, -⟩ | ⟨extra, rfl, -⟩
  · rw [List.count_append] at hcount
    exact ⟨between, rfl, by omega⟩
  · rw [List.count_append] at hcount
    omega

end Instrument.Text
