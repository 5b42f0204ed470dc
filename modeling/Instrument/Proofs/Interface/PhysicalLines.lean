import Instrument.Proofs.Header.PhysicalLines
import Instrument.Proofs.Interface.CommentedLines

/-!
Pragmas and declarations by the places where they stand in a header. Main statement: the line of a
pragma, a class or a method is one more than the line feeds in front of it; so the pragma above a
declaration is the one with a single line feed between its number sign and the declaration.
-/

namespace Instrument.Interface

open Header (ClassStandsBehind MethodStandsBehind)
open Text (IsLine lineBehind shownLine)

/-! ### Places of pragmas -/

/-- A header holds a pragma with its number sign behind the text `front`: nothing but blanks stands
before the sign on its line, and the line says what the pragma asks for. -/
def HoldsPragma («namespace» source front : List Char) (directive : String) : Prop :=
  ∃ before blanks line behind d, front = before ++ blanks ∧ (∀ c ∈ blanks, Text.isBlank c) ∧
    IsLine source before (blanks ++ '#' :: line) behind ∧
    directiveOn? «namespace» (shownLine (blanks ++ '#' :: line) behind) = some d ∧
    directive = String.ofList d

/-- A pragma stands on the line directly above a declaration behind the text `front`: one line feed
is between its sign and the declaration. -/
def StandsAbove («namespace» source front : List Char) (p : Pragma) : Prop :=
  ∃ before between, front = before ++ between ∧ between.count '\n' = 1 ∧
    HoldsPragma «namespace» source before p.directive ∧ p.line = lineBehind before

/-- A declaration that stands behind some text has the number of the physical line on which its
first character stands, and the pragma above this number is the one on the line directly above. -/
structure IsOnItsLine («namespace» source : List Char) (standsBehind : List Char → Prop)
    (line : Nat) : Prop where
  stands : ∃ front rest, source = front ++ rest ∧ standsBehind front
  line_eq : ∀ front, standsBehind front → line = lineBehind front
  above : ∀ front, standsBehind front → ∀ p,
    pragmaAbove? (pragmas «namespace» source) line = some p ↔
      StandsAbove «namespace» source front p

section

variable {«namespace» source front rest line behind d : List Char} {p : Pragma} {n : Nat}

/-- A line that holds a directive begins with a number sign, but for blanks. -/
theorem exists_of_directiveOn? (h : directiveOn? «namespace» (shownLine line behind) = some d) :
    ∃ blanks more, line = blanks ++ '#' :: more ∧ ∀ c ∈ blanks, Text.isBlank c := by
  obtain ⟨ending, hline⟩ := Text.exists_shownLine_append line behind
  generalize shownLine line behind = shown at h hline
  simp only [directiveOn?, bind, Option.bind_eq_some_iff] at h
  obtain ⟨more, hsign, -⟩ := h
  have hshown := List.takeWhile_append_dropWhile (p := Text.isBlank) (l := shown)
  rw [← Text.trimStart, Text.after?_eq_some_iff.1 hsign] at hshown
  refine ⟨shown.takeWhile Text.isBlank, more ++ ending, ?_, List.all_eq_true.1 List.all_takeWhile⟩
  rw [← List.cons_append, ← List.append_assoc, hline]
  exact congrArg (· ++ ending) hshown.symm

/-- The directive on a line is that of a pragma with its sign behind as many line feeds. -/
theorem directiveAt?_eq_some_iff {directive : String} :
    (∃ d, directiveAt? «namespace» source n = some d ∧ directive = String.ofList d) ↔
      ∃ front, front.count '\n' = n ∧ HoldsPragma «namespace» source front directive := by
  -- Blanks before the sign are on its line, so none of them is a line feed.
  have hcount {before blanks more behind : List Char}
      (hline : IsLine source before (blanks ++ '#' :: more) behind) :
      (before ++ blanks).count '\n' = before.count '\n' := by
    have hblanks : '\n' ∉ blanks := fun hmem => hline.whole (List.mem_append_left _ hmem)
    rw [List.count_append, List.count_eq_zero.2 hblanks, Nat.add_zero]
  constructor
  · rintro ⟨d, hat, rfl⟩
    obtain ⟨l, hl, hd⟩ := Option.bind_eq_some_iff.1 hat
    obtain ⟨before, line, behind, hline, rfl, rfl⟩ := Text.getElem?_lines_iff.1 hl
    obtain ⟨blanks, more, rfl, hblanks⟩ := exists_of_directiveOn? hd
    exact ⟨before ++ blanks, hcount hline, before, blanks, more, behind, d, rfl, hblanks, hline, hd,
      rfl⟩
  · rintro ⟨front, rfl, before, blanks, more, behind, d, rfl, -, hline, hd, rfl⟩
    refine ⟨d, ?_, rfl⟩
    rw [directiveAt?, Text.getElem?_lines_iff.2 ⟨_, _, _, hline, (hcount hline).symm, rfl⟩]
    exact hd

/-- The pragmas among some lines are the directives on them, with their numbers. -/
theorem mem_pragmasFrom_iff {first : Nat} {texts : List (List Char)} :
    p ∈ pragmasFrom «namespace» first texts ↔
      ∃ n d, texts[n]?.bind (directiveOn? «namespace») = some d ∧
        p = ⟨first + n, String.ofList d⟩ := by
  induction texts generalizing first with
  | nil => simp [pragmasFrom]
  | cons text texts ih =>
    rw [pragmasFrom, List.mem_append, Option.mem_toList, Option.map_eq_some_iff, ih]
    constructor
    · rintro (⟨d, hd, rfl⟩ | ⟨n, d, hd, rfl⟩)
      · exact ⟨0, d, hd, rfl⟩
      · exact ⟨n + 1, d, hd, by rw [Nat.add_assoc, Nat.add_comm 1]⟩
    · rintro ⟨n, d, hd, rfl⟩
      cases n with
      | zero => exact .inl ⟨d, hd, rfl⟩
      | succ n => exact .inr ⟨n, d, hd, by rw [Nat.add_assoc, Nat.add_comm 1]⟩

/-- The pragmas of a header are those that it holds, each with the number of its physical line. -/
theorem mem_pragmas_iff :
    p ∈ pragmas «namespace» source ↔
      ∃ front, HoldsPragma «namespace» source front p.directive ∧ p.line = lineBehind front := by
  rw [pragmas, mem_pragmasFrom_iff]
  constructor
  · rintro ⟨n, d, hat, rfl⟩
    obtain ⟨front, rfl, hholds⟩ := directiveAt?_eq_some_iff.1 ⟨d, hat, rfl⟩
    exact ⟨front, hholds, Nat.add_comm ..⟩
  · rintro ⟨front, hholds, hline⟩
    obtain ⟨d, hat, hd⟩ := directiveAt?_eq_some_iff.2 ⟨front, rfl, hholds⟩
    refine ⟨_, d, hat, ?_⟩
    rw [← hd, Nat.add_comm, ← lineBehind, ← hline]

theorem HoldsPragma.exists_append {directive : String}
    (h : HoldsPragma «namespace» source front directive) : ∃ rest, front ++ rest = source := by
  obtain ⟨before, blanks, line, behind, d, rfl, -, hline, -⟩ := h
  exact ⟨'#' :: line ++ behind, by rw [← hline.append]; simp⟩

/-- The pragma above the number of a place in a header stands directly above that place. -/
theorem pragmaAbove?_lineBehind_iff :
    pragmaAbove? (pragmas «namespace» (front ++ rest)) (lineBehind front) = some p ↔
      StandsAbove «namespace» (front ++ rest) front p := by
  cases hcount : front.count '\n' with
  | zero =>
    rw [lineBehind, hcount, pragmaAbove?_eq_none (by decide)]
    constructor
    · intro h
      cases h
    · rintro ⟨before, between, rfl, hbetween, -⟩
      rw [List.count_append] at hcount
      omega
  | succ n =>
    rw [lineBehind, hcount, pragmaAbove?_pragmas, Option.map_eq_some_iff]
    constructor
    · rintro ⟨d, hat, rfl⟩
      obtain ⟨before, rfl, hholds⟩ := directiveAt?_eq_some_iff.1 ⟨d, hat, rfl⟩
      obtain ⟨after, happend⟩ := hholds.exists_append
      obtain ⟨between, hfront, hbetween⟩ := Text.exists_append_of_count_newline happend hcount
      exact ⟨before, between, hfront, hbetween, hholds, rfl⟩
    · rintro ⟨before, between, hfront, hbetween, hholds, hline⟩
      rw [hfront, List.count_append, hbetween] at hcount
      obtain ⟨d, hat, hd⟩ := directiveAt?_eq_some_iff.2 ⟨before, Nat.succ.inj hcount, hholds⟩
      refine ⟨d, hat, ?_⟩
      rw [← hd, ← Nat.succ.inj hcount, ← lineBehind, ← hline]

end

/-! ### Declarations and the pragmas above them -/

section

variable («namespace» : List Char) {source : List Char} {found : List Header.Class}
  {c : Header.Class} {m : Header.Method} {standsBehind : List Char → Prop} {line i j : Nat}

/-- A declaration is on its line if it stands in the header and has the number of its place. -/
theorem IsOnItsLine.of_line_eq (hstands : ∃ front, standsBehind front)
    (happend : ∀ front, standsBehind front → ∃ rest, source = front ++ rest)
    (hline : ∀ front, standsBehind front → line = lineBehind front) :
    IsOnItsLine «namespace» source standsBehind line where
  stands := by
    obtain ⟨front, hfront⟩ := hstands
    obtain ⟨rest, hrest⟩ := happend front hfront
    exact ⟨front, rest, hrest, hfront⟩
  line_eq := hline
  above front hfront p := by
    obtain ⟨rest, rfl⟩ := happend front hfront
    rw [hline front hfront]
    exact pragmaAbove?_lineBehind_iff

theorem isOnItsLine_class (h : Header.classes source = .ok found) (hc : found[i]? = some c) :
    IsOnItsLine «namespace» source
      (fun front => ClassStandsBehind source front (found.take i) c) c.line :=
  .of_line_eq «namespace» (Header.exists_classStandsBehind h hc) (fun _ h => h.exists_append)
    fun _ h => h.line_eq

theorem isOnItsLine_method (h : Header.classes source = .ok found) (hc : found[i]? = some c)
    (hm : c.methods[j]? = some m) :
    IsOnItsLine «namespace» source
      (fun front => ∃ isPublic, MethodStandsBehind source front (found.take i)
        ⟨c.name, c.line, isPublic, c.methods.take j⟩ m) m.line :=
  .of_line_eq «namespace» (Header.exists_methodStandsBehind h hc hm)
    (fun _ ⟨_, h⟩ => h.exists_append) fun _ ⟨_, h⟩ => h.line_eq

/-- The lines of a header are physical ones, whatever comments, literals and directives stand in it.
Its pragmas are those that it holds, each with the number of the line of its sign. Each class and
each method that it declares stands in it, after those that are declared before, and has the number
of the line on which it begins; and a pragma is above it just if this is the one on the line
directly above. -/
theorem lines_physical (source : List Char) :
    (∀ p, p ∈ pragmas «namespace» source ↔
      ∃ front, HoldsPragma «namespace» source front p.directive ∧ p.line = lineBehind front) ∧
    ∀ found, Header.classes source = .ok found → ∀ i c, found[i]? = some c →
      IsOnItsLine «namespace» source
        (fun front => ClassStandsBehind source front (found.take i) c) c.line ∧
      ∀ j m, c.methods[j]? = some m →
        IsOnItsLine «namespace» source
          (fun front => ∃ isPublic, MethodStandsBehind source front (found.take i)
            ⟨c.name, c.line, isPublic, c.methods.take j⟩ m) m.line := by
  refine ⟨fun p => mem_pragmas_iff, ?_⟩
  intro found h i c hc
  refine ⟨isOnItsLine_class «namespace» h hc, ?_⟩
  intro j m hm
  exact isOnItsLine_method «namespace» h hc hm

/-- A lamp with a directive on two lines, a comment on two lines and a literal on two lines before
the pragma of its method. -/
def lampSource : String :=
  "#define LIMIT \\\n  8\n/* for\n   the desk */\nclass Lamp \x7b\n  public:\n" ++
    "    const char *label = \"a\\\"\nb\";\n    #pragma devlink exclude\n    void off();\n\x7d;\n"

/-- What the header of the lamp declares. -/
def lampClass : Header.Class := ⟨"Lamp", 5, [⟨"off", 10, "void", [], true⟩]⟩

theorem lines_physical_lamp :
    Header.classes lampSource.toList = .ok [lampClass] ∧
    (∃ front, ClassStandsBehind lampSource.toList front [] lampClass ∧ lineBehind front = 5) ∧
    ∃ front isPublic, MethodStandsBehind lampSource.toList front [] ⟨"Lamp", 5, isPublic, []⟩
        ⟨"off", 10, "void", [], true⟩ ∧
      lineBehind front = 10 ∧
      StandsAbove "devlink".toList lampSource.toList front ⟨9, "exclude"⟩ := by
  have hclasses : Header.classes lampSource.toList = .ok [lampClass] := by
    rw [← Success.toOption_eq_some_iff]
    decide +kernel
  have habove : pragmaAbove? (pragmas "devlink".toList lampSource.toList) 10 =
      some ⟨9, "exclude"⟩ := by
    decide +kernel
  obtain ⟨-, hdeclared⟩ := lines_physical "devlink".toList lampSource.toList
  obtain ⟨hclass, hmethods⟩ := hdeclared [lampClass] hclasses 0 lampClass rfl
  have hmethod := hmethods 0 ⟨"off", 10, "void", [], true⟩ rfl
  obtain ⟨front, -, -, hfront⟩ := hclass.stands
  obtain ⟨front', -, -, isPublic, hfront'⟩ := hmethod.stands
  exact ⟨hclasses, ⟨front, hfront, (hclass.line_eq front hfront).symm⟩, front', isPublic, hfront',
    (hmethod.line_eq front' ⟨isPublic, hfront'⟩).symm,
    (hmethod.above front' ⟨isPublic, hfront'⟩ _).1 habove⟩

end

end Instrument.Interface
