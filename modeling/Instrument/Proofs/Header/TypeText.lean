import Instrument.Header.Method
import Instrument.Proofs.Header.Spelling
import Instrument.Proofs.WireType

/-!
Types in headers. A type is written with marks for constants and references around it. Main
statement: the tokens of a written type have the canonical text of the type, with its marks.
-/

namespace Instrument

open Wire (ScalarType)
open Header (Piece)

namespace Header

/-- Parameters between commas. -/
def joinedPieces : List Piece → List Piece
  | [] => []
  | [p] => [p]
  | p :: q :: ps => p :: .mark ',' :: .blank :: joinedPieces (q :: ps)

/-- A template of the standard library and its parameters. -/
def templatePieces (name : String) (parameters : List Piece) : List Piece :=
  .word "std" :: .scope :: .word name :: .mark '<' :: joinedPieces parameters ++ [.mark '>']

end Header

open Header

/-- The parts of which the text of a type consists. -/
def WireType.pieces : WireType → List Piece
  | void => [.word "void"]
  | scalar type => [.word type.cppName]
  | array element length => templatePieces "array" [.word element.cppName, .number length]
  | vector element => templatePieces "vector" [.word element.cppName]
  | cString => [.word "const", .blank, .word "char", .blank, .mark '*']
  | string => [.word "std", .scope, .word "string"]
  | tuple fields => templatePieces "tuple" (fields.map (.word ·.cppName))
  | pointer element => [.word element.cppName, .blank, .mark '*']
  | unsupported _ => []

/-- A type as a declaration gives it. -/
structure MarkedType where
  type : WireType
  isConst : Bool
  byReference : Bool
deriving DecidableEq, Repr

namespace MarkedType

/-- The parts of a type with its marks. -/
def pieces (m : MarkedType) : List Piece :=
  (if m.isConst then [.word "const", .blank] else []) ++ m.type.pieces ++
    if m.byReference then [.mark '&'] else []

/-- The canonical text of a type with its marks. -/
def text (m : MarkedType) : String :=
  String.ofList (WireType.marked m.type.text.toList m.isConst m.byReference)

theorem text_eq (m : MarkedType) :
    m.text = (if m.isConst then "const " else "") ++ m.type.text ++
      if m.byReference then " &" else "" := by
  rw [← String.toList_inj, MarkedType.text, WireType.marked]
  cases m.isConst <;> cases m.byReference <;>
    simp [WireType.constMark_eq, WireType.referenceMark_eq]

/-- Whether a type has a place on the wire and marks that its text can tell. -/
structure IsWritable (m : MarkedType) : Prop where
  isSupported : m.type.IsSupported
  constant : m.type = .cString → m.isConst = false
  reference : m.byReference = true → m.type ≠ .cString ∧ m.type.isPointer = false

instance (m : MarkedType) : Decidable m.IsWritable :=
  decidable_of_iff (m.type.IsSupported ∧ (m.type = .cString → m.isConst = false) ∧
      (m.byReference = true → m.type ≠ .cString ∧ m.type.isPointer = false))
    ⟨fun h => ⟨h.1, h.2.1, h.2.2⟩, fun h => ⟨h.1, h.2, h.3⟩⟩

section

variable {m : MarkedType} (h : m.IsWritable)
include h

theorem IsWritable.unqualified_text (hw : m.type ≠ .cString) :
    Unqualified.of m.text.toList = ⟨m.type.text.toList, m.byReference, m.isConst⟩ := by
  rw [text, String.toList_ofList,
    WireType.unqualified_marked (WireType.isBare_text h.isSupported hw)]

/-- The type is read back from its text with marks. -/
theorem IsWritable.classify_unqualified :
    WireType.classify (Unqualified.of m.text.toList).type = m.type := by
  by_cases hw : m.type = .cString
  · have hreference : m.byReference = false := by
      rw [Bool.eq_false_iff]
      exact fun hreference => (h.reference hreference).1 hw
    rw [text_eq, hw, h.constant hw, hreference]
    decide
  · rw [h.unqualified_text hw]
    exact WireType.classify_text h.isSupported

/-- No type but one has the text that stands for no parameters. -/
theorem IsWritable.text_ne_void (hvoid : m.type ≠ .void) : m.text ≠ "void" := by
  intro htext
  have hread := h.classify_unqualified
  rw [htext] at hread
  exact hvoid (hread.symm.trans (by decide))

theorem IsWritable.text_ne_empty : m.text ≠ "" := by
  intro htext
  have hread := h.classify_unqualified
  have hempty : WireType.classify (Unqualified.of "".toList).type =
    .unsupported (.unknown "") := by decide
  rw [htext, hempty] at hread
  have hsupported := h.isSupported
  rw [← hread] at hsupported
  exact hsupported

end

end MarkedType

namespace Header

/-! ### The text of tokens -/

/-- Tokens that stand on one line. -/
def onLine (line : Nat) (kinds : List TokenKind) : List Token := kinds.map (⟨·, line⟩)

section

variable (line : Nat) (k : TokenKind) (kinds more : List TokenKind)

theorem onLine_nil : onLine line [] = [] := rfl

theorem onLine_cons : onLine line (k :: kinds) = ⟨k, line⟩ :: onLine line kinds := rfl

theorem onLine_append : onLine line (kinds ++ more) = onLine line kinds ++ onLine line more :=
  List.map_append

end

theorem typeTextAfter_append (before : Option TokenKind) (ts us : List Token) :
    typeTextAfter before (ts ++ us) =
      typeTextAfter before ts ++ typeTextAfter ((ts.getLast?.map (·.kind)).or before) us := by
  induction ts generalizing before with
  | nil => simp [typeTextAfter]
  | cons t ts ih =>
    have hlast : (((t :: ts).getLast?.map (·.kind)).or before) =
        (ts.getLast?.map (·.kind)).or (some t.kind) := by
      cases ts with
      | nil => rfl
      | cons u ts =>
        rw [List.getLast?_cons_cons]
        cases h : (u :: ts).getLast? with
        | none => simp at h
        | some last => rfl
    rw [List.cons_append, typeTextAfter, typeTextAfter, ih, hlast, String.append_assoc]

/-- The text of a part that is a word or a number. -/
def Piece.spelling : Piece → String
  | .word text => text
  | .number n => toString n
  | _ => ""

/-- Whether a part is a word or a number. -/
def Piece.isParameter : Piece → Bool
  | .word _ | .number _ => true
  | _ => false

/-- Parameters follow a bracket or a comma. -/
theorem typeTextAfter_joined {ps : List Piece} (h : ∀ p ∈ ps, p.isParameter = true) {c : Char}
    (hc : (TokenKind.symbol c).separatesWord = false) (line : Nat) :
    typeTextAfter (some (.symbol c)) (onLine line (pieceKinds (joinedPieces ps))) =
      ", ".intercalate (ps.map Piece.spelling) := by
  induction ps generalizing c with
  | nil => rfl
  | cons p ps ih =>
    rw [List.forall_mem_cons] at h
    have hfirst (rest : List TokenKind) (k : TokenKind) (hk : p.kind? = some k) :
        typeTextAfter (some (.symbol c)) (onLine line (k :: rest)) =
          p.spelling ++ typeTextAfter (some k) (onLine line rest) := by
      cases p with
      | word text =>
        cases hk
        simp [onLine, typeTextAfter, hc, Piece.spelling]
      | number n =>
        cases hk
        simp [onLine, typeTextAfter, hc, Piece.spelling]
      | _ => cases h.1
    obtain ⟨k, hk⟩ : ∃ k, p.kind? = some k := by
      cases p with
      | word text => exact ⟨_, rfl⟩
      | number n => exact ⟨_, rfl⟩
      | _ => cases h.1
    -- a comma stands behind every parameter but the last
    cases ps with
    | nil =>
      have hkinds : pieceKinds (joinedPieces [p]) = [k] := by
        simp [joinedPieces, pieceKinds, hk]
      rw [hkinds, hfirst [] k hk]
      simp [onLine, typeTextAfter, String.intercalate_singleton]
    | cons q ps =>
      have hkinds : pieceKinds (joinedPieces (p :: q :: ps)) =
          k :: .symbol ',' :: pieceKinds (joinedPieces (q :: ps)) := by
        rw [joinedPieces, pieceKinds, List.filterMap_cons_some hk]
        rfl
      have hcomma : typeTextAfter (some k)
          (onLine line (.symbol ',' :: pieceKinds (joinedPieces (q :: ps)))) =
            ", " ++ typeTextAfter (some (.symbol ','))
              (onLine line (pieceKinds (joinedPieces (q :: ps)))) := rfl
      have hne : (q :: ps).map Piece.spelling ≠ [] := by simp
      rw [hkinds, hfirst _ k hk, hcomma, ih h.2 rfl, List.map_cons (a := p),
        String.intercalate_cons_of_ne_nil hne, String.append_assoc]

theorem typeTextAfter_template (name : String) {ps : List Piece}
    (h : ∀ p ∈ ps, p.isParameter = true) (line : Nat) :
    typeTextAfter none (onLine line (pieceKinds (templatePieces name ps))) =
      "std::" ++ name ++ "<" ++ ", ".intercalate (ps.map Piece.spelling) ++ ">" := by
  have hkinds : pieceKinds (templatePieces name ps) =
      [.word "std", .scope, .word name, .symbol '<'] ++ pieceKinds (joinedPieces ps) ++
        [.symbol '>'] := by
    simp [templatePieces, pieceKinds, Piece.kind?]
  have hfront : typeTextAfter none
      (onLine line [.word "std", .scope, .word name, .symbol '<']) = "std::" ++ name ++ "<" := by
    rw [← String.toList_inj]
    simp [onLine, typeTextAfter, TokenKind.separatesWord]
  have hclose (before : Option TokenKind) :
      typeTextAfter before (onLine line [.symbol '>']) = ">" := by
    simp [onLine, typeTextAfter]
  rw [hkinds, onLine, List.map_append, List.map_append, typeTextAfter_append,
    typeTextAfter_append, ← onLine, ← onLine, ← onLine, hfront, hclose]
  congr 2
  exact typeTextAfter_joined h rfl line

/-- The tokens of a type have its text. -/
theorem typeTextAfter_pieces {w : WireType} (h : w.IsSupported) (line : Nat) :
    typeTextAfter none (onLine line (pieceKinds w.pieces)) = w.text := by
  have hwords (fields : List ScalarType) :
      (fields.map (Piece.word ·.cppName)).map Piece.spelling = fields.map ScalarType.cppName := by
    simp [Function.comp_def, Piece.spelling]
  cases w with
  | unsupported reason => exact absurd h id
  | void => rfl
  | cString => rfl
  | string => rfl
  | scalar type =>
    simp [WireType.pieces, pieceKinds, Piece.kind?, onLine, typeTextAfter, WireType.text]
  | pointer element =>
    have hkinds : pieceKinds (WireType.pointer element).pieces =
      [.word element.cppName, .symbol '*'] := rfl
    rw [hkinds]
    simp [onLine, typeTextAfter, WireType.text]
  | vector element =>
    rw [WireType.pieces, typeTextAfter_template "vector" (by simp [Piece.isParameter])]
    simp [Piece.spelling, WireType.text, String.intercalate_singleton]
  | array element length =>
    rw [WireType.pieces, typeTextAfter_template "array" (by simp [Piece.isParameter]),
      ← String.toList_inj]
    simp [Piece.spelling, WireType.text]
  | tuple fields =>
    rw [WireType.pieces, typeTextAfter_template "tuple" (by simp [Piece.isParameter]), hwords]
    rfl

/-! ### What types consist of -/

/-- Words of which types consist. -/
def typeVocabulary : List String :=
  ["const", "void", "char", "std", "string", "array", "vector", "tuple"] ++
    ScalarType.all.map ScalarType.cppName

/-- Marks of which types consist. -/
def typeMarks : List Char := ['<', '>', ',', '*', '&']

/-- Whether a token can be part of a type. -/
def TokenKind.isOfType : TokenKind → Bool
  | .word text => typeVocabulary.contains text
  | .number _ | .scope => true
  | .symbol c => typeMarks.contains c
  | .literal => false

/-- Whether a part can be part of a type. -/
def Piece.isOfType (p : Piece) : Bool := p.kind?.all TokenKind.isOfType

theorem isOfType_cppName (type : ScalarType) : (Piece.word type.cppName).isOfType = true := by
  cases type <;> decide

theorem mem_joinedPieces {p : Piece} {ps : List Piece} (h : p ∈ joinedPieces ps) :
    p ∈ ps ∨ p = .mark ',' ∨ p = .blank := by
  fun_induction joinedPieces ps with
  | case1 => exact .inl h
  | case2 => exact .inl h
  | case3 q r ps ih =>
    rcases List.mem_cons.1 h with rfl | h
    · exact .inl (List.mem_cons_self ..)
    rcases List.mem_cons.1 h with rfl | h
    · exact .inr (.inl rfl)
    rcases List.mem_cons.1 h with rfl | h
    · exact .inr (.inr rfl)
    · exact (ih h).imp_left (List.mem_cons_of_mem q)

theorem isOfType_templatePieces {name : String} (hname : (Piece.word name).isOfType = true)
    {ps : List Piece} (h : ∀ p ∈ ps, p.isOfType = true) :
    ∀ p ∈ templatePieces name ps, p.isOfType = true := by
  have hjoined : ∀ p ∈ joinedPieces ps, p.isOfType = true := by
    intro p hp
    rcases mem_joinedPieces hp with hp | rfl | rfl
    · exact h p hp
    · rfl
    · rfl
  simp only [templatePieces, List.cons_append, List.forall_mem_cons, List.forall_mem_append]
  exact ⟨rfl, rfl, hname, rfl, hjoined, rfl, by simp⟩

theorem isOfType_wirePieces (w : WireType) : ∀ p ∈ w.pieces, p.isOfType = true := by
  cases w with
  | unsupported reason => exact fun p hp => nomatch hp
  | void | cString | string => decide
  | scalar type => cases type <;> decide
  | pointer element => cases element <;> decide
  | vector element =>
    exact isOfType_templatePieces rfl (by simpa using isOfType_cppName element)
  | array element length =>
    exact isOfType_templatePieces rfl (by simpa using ⟨isOfType_cppName element, rfl⟩)
  | tuple fields =>
    refine isOfType_templatePieces rfl ?_
    intro p hp
    obtain ⟨field, -, rfl⟩ := List.mem_map.1 hp
    exact isOfType_cppName field

theorem isOfType_pieces (m : MarkedType) : ∀ p ∈ m.pieces, p.isOfType = true := by
  intro p hp
  rw [MarkedType.pieces, List.append_assoc, List.mem_append, List.mem_append] at hp
  rcases hp with hp | hp | hp
  · split at hp
    · have hconst : ∀ p ∈ [Piece.word "const", .blank], p.isOfType = true := by decide
      exact hconst p hp
    · cases hp
  · exact isOfType_wirePieces m.type p hp
  · split at hp
    · obtain rfl := List.mem_singleton.1 hp
      rfl
    · cases hp

/-- What is part of a type can be written. -/
theorem Piece.isValid_of_isOfType {p : Piece} (h : p.isOfType = true) : p.IsValid := by
  have hwords : ∀ word ∈ typeVocabulary, IsName word := by decide
  have hmarks : ∀ c ∈ typeMarks, c ∈ marks := by decide
  cases p with
  | word text => exact hwords text (by simpa [isOfType, Piece.kind?, TokenKind.isOfType] using h)
  | mark c => exact hmarks c (by simpa [isOfType, Piece.kind?, TokenKind.isOfType] using h)
  | number | scope | blank => trivial

/-! ### Parts that stay apart -/

section

variable {p : Piece}

@[simp]
theorem Piece.joins_blank : p.joins .blank = false := by
  cases p with
  | mark c => simp [Piece.joins]
  | _ => rfl

@[simp]
theorem Piece.blank_joins : Piece.blank.joins p = false := by cases p <;> rfl

theorem Piece.joins_mark {c : Char} (hc : c ≠ ':') : p.joins (.mark c) = false := by
  cases p with
  | mark d =>
    unfold Piece.joins
    split <;> simp_all
  | _ => rfl

theorem Piece.mark_joins {c : Char} (hc : c ≠ ':') : (Piece.mark c).joins p = false := by
  unfold Piece.joins
  split <;> simp_all

end

theorem areApart_joinedPieces (ps : List Piece) : AreApart (joinedPieces ps) := by
  fun_induction joinedPieces ps with
  | case1 => exact .nil
  | case2 p => exact .singleton p
  | case3 p q ps ih =>
    rw [AreApart, List.isChain_cons_cons, List.isChain_cons_cons]
    exact ⟨Piece.joins_mark (by decide), Piece.joins_blank, ih.cons fun _ _ => Piece.blank_joins⟩

theorem areApart_templatePieces (name : String) (ps : List Piece) :
    AreApart (templatePieces name ps) := by
  have hparameters : AreApart (joinedPieces ps ++ [.mark '>']) :=
    (areApart_joinedPieces ps).append (.singleton _) fun p _ q hq => by
      obtain rfl : Piece.mark '>' = q := by simpa using hq
      exact Piece.joins_mark (by decide)
  rw [templatePieces, List.cons_append, List.cons_append, List.cons_append, List.cons_append,
    AreApart, List.isChain_cons_cons, List.isChain_cons_cons, List.isChain_cons_cons]
  exact ⟨rfl, rfl, rfl, hparameters.cons fun _ _ => Piece.mark_joins (by decide)⟩

theorem areApart_wirePieces (w : WireType) : AreApart w.pieces := by
  cases w with
  | array | vector | tuple => exact areApart_templatePieces _ _
  | unsupported => exact .nil
  | scalar type => exact .singleton _
  | void | cString | string => decide
  | pointer element => cases element <;> decide

theorem areApart_pieces (m : MarkedType) : AreApart m.pieces := by
  have hfront :
      AreApart ((if m.isConst then [.word "const", .blank] else []) ++ m.type.pieces) := by
    cases m.isConst with
    | false => exact areApart_wirePieces m.type
    | true =>
      exact .append (by decide) (areApart_wirePieces m.type) fun p hp q _ => by
        obtain rfl : Piece.blank = p := by simpa using hp
        exact Piece.blank_joins
  rw [MarkedType.pieces]
  cases m.byReference with
  | false => rwa [if_neg Bool.false_ne_true, List.append_nil]
  | true =>
    exact hfront.append (.singleton _) fun p _ q hq => by
      obtain rfl : Piece.mark '&' = q := by simpa using hq
      exact Piece.joins_mark (by decide)

/-! ### The text of a type with its marks -/

/-- A type begins with a word. -/
theorem exists_pieceKinds_wirePieces {w : WireType} (h : w.IsSupported) :
    ∃ word kinds, word ∈ typeVocabulary ∧ pieceKinds w.pieces = .word word :: kinds := by
  cases w with
  | unsupported reason => exact absurd h id
  | scalar type => exact ⟨type.cppName, [], by cases type <;> decide, rfl⟩
  | pointer element => exact ⟨element.cppName, _, by cases element <;> decide, rfl⟩
  | void => exact ⟨"void", _, by decide, rfl⟩
  | cString => exact ⟨"const", _, by decide, rfl⟩
  | array | vector | tuple | string => exact ⟨"std", _, by decide, rfl⟩

theorem pieceKinds_append (ps qs : List Piece) :
    pieceKinds (ps ++ qs) = pieceKinds ps ++ pieceKinds qs := List.filterMap_append

theorem getLast?_templatePieces (name : String) (ps : List Piece) :
    (pieceKinds (templatePieces name ps)).getLast? = some (.symbol '>') := by
  rw [templatePieces, pieceKinds_append]
  exact List.getLast?_concat

/-- The last token of a type is a word or a mark, and one for a pointer just if the type is one. -/
theorem getLast?_pieceKinds {w : WireType} (h : w.IsSupported) :
    ∃ kind, (pieceKinds w.pieces).getLast? = some kind ∧ kind ≠ .scope ∧ kind ≠ .symbol '&' ∧
      (kind = .symbol '*' → w = .cString ∨ w.isPointer = true) := by
  cases w with
  | unsupported reason => exact absurd h id
  | scalar type => exact ⟨.word type.cppName, rfl, by simp⟩
  | pointer element => exact ⟨.symbol '*', rfl, by simp [WireType.isPointer]⟩
  | void => exact ⟨.word "void", rfl, by simp⟩
  | cString => exact ⟨.symbol '*', rfl, by simp⟩
  | string => exact ⟨.word "string", rfl, by simp⟩
  | array | vector | tuple => exact ⟨.symbol '>', getLast?_templatePieces _ _, by simp⟩

/-- The tokens of a type with its marks have its canonical text. -/
theorem typeText_pieces {m : MarkedType} (h : m.IsWritable) (line : Nat) :
    typeText (onLine line (pieceKinds m.pieces)) = m.text := by
  obtain ⟨word, kinds, -, hhead⟩ := exists_pieceKinds_wirePieces h.isSupported
  obtain ⟨last, hlast, -, hreference, hpointer⟩ := getLast?_pieceKinds h.isSupported
  have hbare := typeTextAfter_pieces h.isSupported line
  have hafter : typeTextAfter (some (.word "const")) (onLine line (pieceKinds m.type.pieces)) =
      " " ++ m.type.text := by
    rw [← hbare, hhead, onLine, List.map_cons, typeTextAfter, typeTextAfter]
    simp [TokenKind.separatesWord, String.append_assoc]
  have hfront : typeTextAfter none (onLine line (pieceKinds
      ((if m.isConst then [.word "const", .blank] else []) ++ m.type.pieces))) =
      (if m.isConst then "const " else "") ++ m.type.text := by
    cases m.isConst with
    | false => simpa [pieceKinds] using hbare
    | true =>
      have hkinds : onLine line (pieceKinds ([.word "const", .blank] ++ m.type.pieces)) =
        ⟨.word "const", line⟩ :: onLine line (pieceKinds m.type.pieces) := rfl
      rw [if_pos rfl, if_pos rfl, hkinds, typeTextAfter, hafter, ← String.append_assoc]
      rfl
  rw [m.text_eq, MarkedType.pieces, typeText]
  -- a reference mark is set off by a blank unless a star stands in front of it
  cases href : m.byReference with
  | false => simpa [href] using hfront
  | true =>
    obtain ⟨hcString, hpointee⟩ := h.reference href
    have hstar : last ≠ .symbol '*' := by
      intro hlast
      rcases hpointer hlast with hw | hw
      · exact hcString hw
      · rw [hpointee] at hw
        cases hw
    have hmark : typeTextAfter (some last) (onLine line (pieceKinds [.mark '&'])) = " &" := by
      simp [pieceKinds, Piece.kind?, onLine, typeTextAfter, hstar, hreference]
    have hbefore : ((onLine line (pieceKinds ((if m.isConst then [.word "const", .blank] else []) ++
        m.type.pieces))).getLast?.map (·.kind)).or none = some last := by
      rw [pieceKinds_append, onLine, List.getLast?_map, List.getLast?_append, hlast]
      rfl
    rw [if_pos rfl, if_pos rfl, pieceKinds_append, onLine, List.map_append, typeTextAfter_append,
      ← onLine, ← onLine, hbefore, hfront, hmark]

end Header

end Instrument
