import Instrument.Proofs.Header.Written

/-!
Classes in headers. A class is written with its methods on a line each, and a preprocessor line may
stand above a method. Main statement: a header of written classes declares these classes, with the
lines on which they stand.
-/

namespace Instrument.Header

/-! ### Classes as they are written -/

/-- Items with their first lines, the first of which is `start`; `height` counts the lines of an
item. -/
def placed {β : Type} (height : β → Nat) (start : Nat) : List β → List (β × Nat)
  | [] => []
  | b :: bs => (b, start) :: placed height (start + height b) bs

/-- A method with what stands on the line above it, if something does. -/
structure AnnotatedMethod (α : Type) where
  above? : Option α
  method : WrittenMethod
deriving DecidableEq, Repr

/-- A class all of whose methods are public. -/
structure AnnotatedClass (α : Type) where
  name : String
  methods : List (AnnotatedMethod α)
deriving DecidableEq, Repr

section

variable {α : Type} (spell : α → List Char)

namespace AnnotatedMethod

/-- The lines of a method; `spell` tells what stands behind the number sign of the line above. -/
def lines (m : AnnotatedMethod α) : List Line :=
  (m.above?.toList.map fun a => .directive (spell a)) ++ [.code m.method.pieces]

/-- The number of lines of a method. -/
def height (m : AnnotatedMethod α) : Nat := m.above?.toList.length + 1

/-- What a method is read as that begins on line `start`. -/
def declared (m : AnnotatedMethod α) (start : Nat) : Method :=
  m.method.method (start + m.above?.toList.length)

/-- Whether a method can be written with the line above it. -/
structure IsWritable (m : AnnotatedMethod α) : Prop where
  above : ∀ a ∈ m.above?, (Line.directive (spell a)).IsValid
  method : m.method.IsWritable

end AnnotatedMethod

namespace AnnotatedClass

/-- The first line of a class. -/
def opening (c : AnnotatedClass α) : Line :=
  .code [.word "class", .blank, .word c.name, .blank, .mark '{']

/-- The line after which members are public. -/
def access : Line := .code [.blank, .blank, .word "public", .mark ':']

/-- The last line of a class. -/
def closing : Line := .code [.mark '}', .mark ';']

/-- The lines of a class. -/
def lines (c : AnnotatedClass α) : List Line :=
  c.opening :: access :: (c.methods.flatMap (·.lines spell) ++ [closing])

/-- The number of lines of a class. -/
def height (c : AnnotatedClass α) : Nat := c.methods.foldr (fun m n => m.height + n) 3

/-- The methods of a class that begins on line `start`, with their first lines. -/
def placedMethods (c : AnnotatedClass α) (start : Nat) : List (AnnotatedMethod α × Nat) :=
  placed AnnotatedMethod.height (start + 2) c.methods

/-- What a class is read as that begins on line `start`. -/
def declared (c : AnnotatedClass α) (start : Nat) : Class :=
  ⟨c.name, start, (c.placedMethods start).map fun m => m.1.declared m.2⟩

/-- Whether a class can be written. -/
structure IsWritable (c : AnnotatedClass α) : Prop where
  name : IsName c.name
  methods : ∀ m ∈ c.methods, m.IsWritable spell

end AnnotatedClass

/-- The lines of a header. -/
def headerLines (cs : List (AnnotatedClass α)) : List Line := cs.flatMap (·.lines spell)

/-- The classes of a header, with their first lines. -/
def placedClasses (cs : List (AnnotatedClass α)) : List (AnnotatedClass α × Nat) :=
  placed AnnotatedClass.height 1 cs

/-! ### Lines and their numbers -/

variable {spell}

theorem AnnotatedMethod.length_lines (m : AnnotatedMethod α) :
    (m.lines spell).length = m.height := by
  simp [lines, height]

theorem AnnotatedClass.length_lines (c : AnnotatedClass α) :
    (c.lines spell).length = c.height := by
  have hmethods (ms : List (AnnotatedMethod α)) : (ms.flatMap (·.lines spell)).length + 3 =
      ms.foldr (fun m n => m.height + n) 3 := by
    induction ms with
    | nil => rfl
    | cons m ms ih =>
      rw [List.flatMap_cons, List.length_append, m.length_lines, Nat.add_assoc, ih, List.foldr_cons]
  rw [height, ← hmethods, lines, List.length_cons, List.length_cons, List.length_append,
    List.length_singleton]

theorem AnnotatedMethod.IsWritable.isValid_lines {m : AnnotatedMethod α} (h : m.IsWritable spell) :
    ∀ l ∈ m.lines spell, l.IsValid := by
  intro l hl
  rcases List.mem_append.1 hl with hl | hl
  · obtain ⟨a, ha, rfl⟩ := List.mem_map.1 hl
    exact h.above a (Option.mem_toList.1 ha)
  · obtain rfl := List.mem_singleton.1 hl
    exact isValid_method h.method

theorem AnnotatedClass.IsWritable.isValid_lines {c : AnnotatedClass α} (h : c.IsWritable spell) :
    ∀ l ∈ c.lines spell, l.IsValid := by
  have hopening : c.opening.IsValid := by
    refine ⟨?_, ?_⟩
    · simp only [List.forall_mem_cons]
      exact ⟨by decide, trivial, h.name, trivial, by decide, by simp⟩
    · simp [AreApart, List.isChain_cons_cons, Piece.joins]
  simp only [AnnotatedClass.lines, List.forall_mem_cons, List.forall_mem_append]
  refine ⟨hopening, by decide, ?_, by decide, by simp⟩
  intro l hl
  obtain ⟨m, hm, hl⟩ := List.mem_flatMap.1 hl
  exact (h.methods m hm).isValid_lines l hl

theorem isValid_headerLines {cs : List (AnnotatedClass α)} (h : ∀ c ∈ cs, c.IsWritable spell) :
    ∀ l ∈ headerLines spell cs, l.IsValid := by
  intro l hl
  obtain ⟨c, hc, hl⟩ := List.mem_flatMap.1 hl
  exact (h c hc).isValid_lines l hl

/-! ### Reading a header -/

/-- The methods of a class are found, one after the other. -/
theorem classBody_methods {ms : List (AnnotatedMethod α)} (h : ∀ m ∈ ms, m.IsWritable spell)
    (last line : Nat) (className : String) (start : Nat) (rest : List Token) :
    classBody last line className true
        (lineTokens start (ms.flatMap (·.lines spell)) ++ rest) =
      (classBody last line className true rest).map fun r =>
        ((placed AnnotatedMethod.height start ms).map (fun m => m.1.declared m.2) ++ r.1, r.2) := by
  induction ms generalizing start with
  | nil =>
    simp only [List.flatMap_nil, lineTokens, List.nil_append, placed, List.map_nil]
    cases classBody last line className true rest <;> rfl
  | cons m ms ih =>
    rw [List.forall_mem_cons] at h
    have hlines : lineTokens start (m.lines spell) =
        onLine (start + m.above?.toList.length) (pieceKinds m.method.pieces) := by
      cases habove : m.above? with
      | none => simp [AnnotatedMethod.lines, habove, lineTokens, Line.kinds, onLine]
      | some a => simp [AnnotatedMethod.lines, habove, lineTokens, Line.kinds, onLine]
    rw [List.flatMap_cons, lineTokens_append, hlines, List.append_assoc,
      classBody_method h.1.method, AnnotatedMethod.length_lines, ih h.2]
    cases classBody last line className true rest <;> rfl

/-- The body of a class is read up to the closing brace. -/
theorem classBody_class {c : AnnotatedClass α} (h : c.IsWritable spell) (last line start : Nat)
    (rest : List Token) :
    classBody last line c.name false
        (⟨.word "public", start + 1⟩ :: ⟨.symbol ':', start + 1⟩ ::
          (lineTokens (start + 2) (c.methods.flatMap (·.lines spell) ++ [AnnotatedClass.closing]) ++
            rest)) =
      .ok ((c.placedMethods start).map (fun m => m.1.declared m.2),
        ⟨.symbol ';', start + 2 + (c.methods.flatMap (·.lines spell)).length⟩ :: rest) := by
  have haccess (ts : List Token) : bodyItem last c.name false ⟨.word "public", start + 1⟩
      (⟨.symbol ':', start + 1⟩ :: ts) = .ok (.access true, ts) := rfl
  have hclosing (n : Nat) : lineTokens n [AnnotatedClass.closing] ++ rest =
    ⟨.symbol '}', n⟩ :: ⟨.symbol ';', n⟩ :: rest := rfl
  have hclosed (n : Nat) : classBody last line c.name true (⟨.symbol '}', n⟩ ::
      ⟨.symbol ';', n⟩ :: rest) = .ok ([], ⟨.symbol ';', n⟩ :: rest) := by
    rw [classBody_cons]
    rfl
  rw [classBody_cons, haccess]
  simp only [lineTokens_append, List.append_assoc, hclosing]
  rw [classBody_methods h.methods, hclosed, Except.map, List.append_nil]
  rfl

/-- A class is found, and then those after it. -/
theorem topLevel_class {c : AnnotatedClass α} (h : c.IsWritable spell) (last start : Nat)
    (rest : List Token) :
    topLevel last (lineTokens start (c.lines spell) ++ rest) =
      (topLevel last rest).map (c.declared start :: ·) := by
  have hcons : lineTokens start (c.lines spell) ++ rest =
      ⟨.word "class", start⟩ :: ⟨.word c.name, start⟩ :: ⟨.symbol '{', start⟩ ::
        ⟨.word "public", start + 1⟩ :: ⟨.symbol ':', start + 1⟩ ::
          (lineTokens (start + 2) (c.methods.flatMap (·.lines spell) ++ [AnnotatedClass.closing]) ++
            rest) := rfl
  have hopens (ts : List Token) : opensClass? ⟨.word "class", start⟩
      (⟨.word c.name, start⟩ :: ⟨.symbol '{', start⟩ :: ts) = some (c.name, ts) := rfl
  have hstruct : Token.isWord ⟨.word "class", start⟩ "struct" = false := rfl
  have hafter (n : Nat) : afterClass (⟨.symbol ';', n⟩ :: rest) = rest := rfl
  rw [hcons, topLevel_cons, topItem_of_opensClass? last (hopens _), hstruct, classBody_class h]
  simp only [Except.map, hafter]
  rfl

/-- Classes are found, one after the other. -/
theorem topLevel_classes {cs : List (AnnotatedClass α)} (h : ∀ c ∈ cs, c.IsWritable spell)
    (last start : Nat) :
    topLevel last (lineTokens start (headerLines spell cs)) =
      .ok ((placed AnnotatedClass.height start cs).map fun c => c.1.declared c.2) := by
  induction cs generalizing start with
  | nil => exact topLevel_nil last
  | cons c cs ih =>
    rw [List.forall_mem_cons] at h
    rw [headerLines, List.flatMap_cons, lineTokens_append, topLevel_class h.1,
      AnnotatedClass.length_lines, ← headerLines, ih h.2]
    rfl

/-- A header declares the classes that are written. -/
theorem classes_headerLines {cs : List (AnnotatedClass α)} (h : ∀ c ∈ cs, c.IsWritable spell) :
    classes (lineText (headerLines spell cs)) =
      .ok ((placedClasses cs).map fun c => c.1.declared c.2) := by
  have htokens : tokens (lineText (headerLines spell cs)) =
      .ok (lineTokens 1 (headerLines spell cs)) := scan_lineText (isValid_headerLines h) 1
  rw [classes, htokens]
  exact topLevel_classes h _ 1

end

end Instrument.Header
