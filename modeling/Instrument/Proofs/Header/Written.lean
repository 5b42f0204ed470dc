import Instrument.Proofs.Header.Declarations
import Instrument.Proofs.Header.Lines
import Instrument.Proofs.Header.TypeText

/-!
Methods in headers. A method is written with the type of its result, its name and its parameters.
Main statement: the tokens of a written method are read as this method.
-/

namespace Instrument.Header

/-! ### Methods as they are written -/

/-- Whether a word can name a method or a parameter. -/
structure IsGiven (s : String) : Prop where
  isName : IsName s
  notType : s ∉ typeWords
  notOperator : s ≠ "operator"

instance (s : String) : Decidable (IsGiven s) :=
  decidable_of_iff (IsName s ∧ s ∉ typeWords ∧ s ≠ "operator")
    ⟨fun h => ⟨h.1, h.2.1, h.2.2⟩, fun h => ⟨h.1, h.2, h.3⟩⟩

/-- A parameter as it is written; it need not have a name. -/
structure WrittenParameter where
  type : MarkedType
  name? : Option String
deriving DecidableEq, Repr

/-- A method as it is written. -/
structure WrittenMethod where
  result : MarkedType
  name : String
  parameters : List WrittenParameter
deriving DecidableEq, Repr

namespace WrittenParameter

/-- The parts of a parameter. -/
def pieces (p : WrittenParameter) : List Piece :=
  p.type.pieces ++ p.name?.toList.flatMap fun name => [.blank, .word name]

/-- What the parameter is read as. -/
def parameter (p : WrittenParameter) : Parameter := ⟨p.name?, p.type.text⟩

/-- Whether a parameter can be written. -/
structure IsWritable (p : WrittenParameter) : Prop where
  type : p.type.IsWritable
  notVoid : p.type.type ≠ .void
  name : ∀ name ∈ p.name?, IsGiven name

instance (p : WrittenParameter) : Decidable p.IsWritable :=
  decidable_of_iff (p.type.IsWritable ∧ p.type.type ≠ .void ∧ ∀ name ∈ p.name?, IsGiven name)
    ⟨fun h => ⟨h.1, h.2.1, h.2.2⟩, fun h => ⟨h.type, h.notVoid, h.name⟩⟩

end WrittenParameter

/-- The parts of a list of parameters. -/
def parameterPieces : List WrittenParameter → List Piece
  | [] => []
  | [p] => p.pieces
  | p :: q :: ps => p.pieces ++ .mark ',' :: .blank :: parameterPieces (q :: ps)

namespace WrittenMethod

/-- The parts of a line that declares a method. -/
def pieces (m : WrittenMethod) : List Piece :=
  List.replicate 4 .blank ++ (m.result.pieces ++ .blank :: .word m.name :: .mark '(' ::
    (parameterPieces m.parameters ++ [.mark ')', .mark ';']))

/-- What the method is read as that stands on a line. -/
def method (m : WrittenMethod) (line : Nat) : Method :=
  ⟨m.name, line, m.result.text, m.parameters.map (·.parameter), true⟩

/-- Whether a method can be written. -/
structure IsWritable (m : WrittenMethod) : Prop where
  result : m.result.IsWritable
  name : IsGiven m.name
  parameters : ∀ p ∈ m.parameters, p.IsWritable

instance (m : WrittenMethod) : Decidable m.IsWritable :=
  decidable_of_iff (m.result.IsWritable ∧ IsGiven m.name ∧ ∀ p ∈ m.parameters, p.IsWritable)
    ⟨fun h => ⟨h.1, h.2.1, h.2.2⟩, fun h => ⟨h.result, h.name, h.parameters⟩⟩

end WrittenMethod

/-! ### Plain tokens -/

/-- Whether a token is a word, a number or a mark of types. -/
def Token.isPlain (t : Token) : Bool :=
  match t.kind with
  | .symbol c => typeMarks.contains c
  | .literal => false
  | _ => true

/-- Whether all tokens are words, numbers and marks of types. -/
def ArePlain (ts : List Token) : Prop := ∀ t ∈ ts, t.isPlain = true

section

variable {ts us : List Token}

theorem arePlain_cons_iff {t : Token} : ArePlain (t :: ts) ↔ t.isPlain = true ∧ ArePlain ts :=
  List.forall_mem_cons

theorem arePlain_word (name : String) (line : Nat) : ArePlain [⟨.word name, line⟩] :=
  arePlain_cons_iff.2 ⟨rfl, fun _ ht => nomatch ht⟩

theorem ArePlain.append (hts : ArePlain ts) (hus : ArePlain us) : ArePlain (ts ++ us) := by
  intro t ht
  rcases List.mem_append.1 ht with ht | ht
  · exact hts t ht
  · exact hus t ht

theorem isSymbol_of_isPlain {t : Token} (h : t.isPlain = true) {c : Char} (hc : c ∉ typeMarks) :
    t.isSymbol c = false := by
  obtain ⟨kind, line⟩ := t
  cases kind with
  | symbol d =>
    have hd : d ∈ typeMarks := by simpa [Token.isPlain] using h
    have hne : d ≠ c := by
      rintro rfl
      exact hc hd
    simpa [Token.isSymbol] using hne
  | _ => rfl

theorem isPlain_of_isOfType {kind : TokenKind} (h : kind.isOfType = true) (line : Nat) :
    (⟨kind, line⟩ : Token).isPlain = true := by
  cases kind with
  | symbol c => exact h
  | literal => cases h
  | _ => rfl

/-- Plain tokens end no member and open no parenthesis. -/
theorem isFlat_append_of_plain (h : ArePlain ts) {depth : Nat} :
    IsFlat memberDepth depth (ts ++ us) ↔ IsFlat memberDepth depth us := by
  induction ts with
  | nil => rfl
  | cons t ts ih =>
    rw [arePlain_cons_iff] at h
    have hsymbol {c : Char} (hc : c ∉ typeMarks) := isSymbol_of_isPlain h.1 hc
    have hends : ¬endsMember t := by
      simp [endsMember, hsymbol (c := ';') (by decide), hsymbol (c := '{') (by decide),
        hsymbol (c := '}') (by decide)]
    have hdepth : memberDepth depth t = depth := by
      simp [memberDepth, hsymbol (c := '(') (by decide), hsymbol (c := ')') (by decide),
        hsymbol (c := '[') (by decide), hsymbol (c := ']') (by decide)]
    rw [List.cons_append, IsFlat, hdepth, ih h.2]
    exact and_iff_right fun _ => hends

theorem enclosed?_of_plain (h : ArePlain ts) (line : Nat) :
    enclosed? '(' ')' 0 (ts ++ ⟨.symbol ')', line⟩ :: us) = some (ts, us) := by
  induction ts with
  | nil => rfl
  | cons t ts ih =>
    rw [arePlain_cons_iff] at h
    simp [enclosed?, isSymbol_of_isPlain h.1 (c := '(') (by decide),
      isSymbol_of_isPlain h.1 (c := ')') (by decide), ih h.2]

/-- Plain tokens with others in parentheses after them are told from those. -/
theorem splitSignature?_of_plain (hts : ArePlain ts) (hus : ArePlain us) (line line' : Nat)
    (after : List Token) :
    splitSignature? (ts ++ ⟨.symbol '(', line⟩ :: (us ++ ⟨.symbol ')', line'⟩ :: after)) =
      some (ts, us, after) := by
  have hall : ∀ t ∈ ts, (!t.isSymbol '(') = true := by
    intro t ht
    rw [isSymbol_of_isPlain (hts t ht) (by decide)]
    rfl
  have hopen : (!Token.isSymbol ⟨.symbol '(', line⟩ '(') = false := rfl
  rw [splitSignature?, List.dropWhile_append_of_pos hall, List.takeWhile_append_of_pos hall,
    List.dropWhile_cons_of_neg (by simp [hopen]), List.takeWhile_cons_of_neg (by simp [hopen])]
  simp only [List.append_nil, enclosed?_of_plain hus, Option.map_some]

theorem dropDefault_of_plain (h : ArePlain ts) (depth : Int) : dropDefault depth ts = ts := by
  induction ts generalizing depth with
  | nil => rfl
  | cons t ts ih =>
    rw [arePlain_cons_iff] at h
    have hdefault := isSymbol_of_isPlain h.1 (c := '=') (by decide)
    rw [dropDefault, hdefault, if_neg (by simp), ih h.2]

theorem dropSpecifiers_of_plain (h : ArePlain ts)
    (hword : ∀ t ∈ ts, t.isOneOf specifiers = false) : dropSpecifiers ts = ts := by
  induction ts with
  | nil => rw [dropSpecifiers]
  | cons t ts ih =>
    rw [arePlain_cons_iff] at h
    rw [List.forall_mem_cons] at hword
    have hbracket := isSymbol_of_isPlain h.1 (c := '[') (by decide)
    rw [dropSpecifiers, hbracket, hword.1, if_neg (by simp), if_neg Bool.false_ne_true,
      ih h.2 hword.2]

/-! ### Parameters between commas -/

/-- How a token changes the depth of brackets around a comma. -/
def commaDepth (depth : Int) (t : Token) : Int :=
  depthAfter ['<', '(', '{', '['] ['>', ')', '}', ']'] depth t

/-- Whether no comma stands outside brackets, and the brackets are closed in the end. -/
def IsWhole (depth : Int) : List Token → Prop
  | [] => depth = 0
  | t :: ts => (depth = 0 → t.isSymbol ',' = false) ∧ IsWhole (commaDepth depth t) ts

theorem IsWhole.append {depth : Int} (hts : IsWhole depth ts) (hus : IsWhole 0 us) :
    IsWhole depth (ts ++ us) := by
  induction ts generalizing depth with
  | nil =>
    obtain rfl : depth = 0 := hts
    exact hus
  | cons t ts ih => exact ⟨hts.1, ih hts.2⟩

/-- Tokens between commas are told from what follows the comma. -/
theorem splitAtCommas_append {depth : Int} (h : IsWhole depth ts) {comma : Token}
    (hcomma : comma.isSymbol ',' = true) :
    splitAtCommas depth (ts ++ comma :: us) = ts :: splitAtCommas 0 us := by
  induction ts generalizing depth with
  | nil =>
    obtain rfl : depth = 0 := h
    rw [List.nil_append, splitAtCommas, if_pos ⟨hcomma, rfl⟩]
  | cons t ts ih =>
    have hsplit := ih h.2
    rw [commaDepth] at hsplit
    rw [List.cons_append, splitAtCommas, if_neg, hsplit]
    rintro ⟨ht, hdepth⟩
    rw [h.1 hdepth] at ht
    cases ht

theorem splitAtCommas_of_isWhole {depth : Int} (h : IsWhole depth ts) :
    splitAtCommas depth ts = [ts] := by
  induction ts generalizing depth with
  | nil => rfl
  | cons t ts ih =>
    have hsplit := ih h.2
    rw [commaDepth] at hsplit
    rw [splitAtCommas, if_neg, hsplit]
    rintro ⟨ht, hdepth⟩
    rw [h.1 hdepth] at ht
    cases ht

end

/-- What stands between angle brackets is whole if it has no brackets. -/
theorem isWhole_brackets {line : Nat} {kinds : List TokenKind}
    (h : ∀ kind ∈ kinds, ∀ depth, commaDepth depth ⟨kind, line⟩ = depth) :
    IsWhole 1 (onLine line (kinds ++ [.symbol '>'])) := by
  induction kinds with
  | nil => exact ⟨fun _ => rfl, rfl⟩
  | cons kind kinds ih =>
    rw [List.forall_mem_cons] at h
    refine ⟨fun hdepth => absurd hdepth (by decide), ?_⟩
    rw [h.1]
    exact ih h.2

theorem isWhole_template (line : Nat) (name : String) {ps : List Piece}
    (h : ∀ p ∈ ps, p.isParameter = true) :
    IsWhole 0 (onLine line (pieceKinds (templatePieces name ps))) := by
  have hkinds : pieceKinds (templatePieces name ps) =
      [.word "std", .scope, .word name, .symbol '<'] ++
        (pieceKinds (joinedPieces ps) ++ [.symbol '>']) := by
    simp [templatePieces, pieceKinds, Piece.kind?]
  have hinside : ∀ kind ∈ pieceKinds (joinedPieces ps), ∀ depth,
      commaDepth depth ⟨kind, line⟩ = depth := by
    intro kind hkind depth
    obtain ⟨p, hp, hkind⟩ := List.mem_filterMap.1 hkind
    rcases mem_joinedPieces hp with hp | rfl | rfl
    · have hparameter := h p hp
      cases p with
      | word text | number n => cases hkind; rfl
      | _ => cases hparameter
    · cases hkind
      rfl
    · cases hkind
  rw [hkinds]
  exact ⟨fun _ => rfl, fun _ => rfl, fun _ => rfl, fun _ => rfl, isWhole_brackets hinside⟩

theorem isWhole_wirePieces (line : Nat) (w : WireType) :
    IsWhole 0 (onLine line (pieceKinds w.pieces)) := by
  have hword (text : String) : IsWhole 0 (onLine line [.word text]) := ⟨fun _ => rfl, rfl⟩
  cases w with
  | unsupported reason => rfl
  | void | scalar => exact hword _
  | cString => exact ⟨fun _ => rfl, fun _ => rfl, fun _ => rfl, rfl⟩
  | string => exact ⟨fun _ => rfl, fun _ => rfl, fun _ => rfl, rfl⟩
  | pointer element => exact ⟨fun _ => rfl, fun _ => rfl, rfl⟩
  | array | vector | tuple => exact isWhole_template line _ (by simp [Piece.isParameter])

/-- A type is whole. -/
theorem isWhole_pieces (line : Nat) (m : MarkedType) :
    IsWhole 0 (onLine line (pieceKinds m.pieces)) := by
  rw [MarkedType.pieces, pieceKinds_append, pieceKinds_append, onLine, List.map_append,
    List.map_append]
  refine .append (.append ?_ (isWhole_wirePieces line m.type)) ?_
  · cases m.isConst with
    | false => rfl
    | true => exact ⟨fun _ => rfl, rfl⟩
  · cases m.byReference with
    | false => rfl
    | true => exact ⟨fun _ => rfl, rfl⟩

/-! ### One parameter -/

theorem mem_onLine {line : Nat} {kinds : List TokenKind} {t : Token} (h : t ∈ onLine line kinds) :
    ∃ kind ∈ kinds, t = ⟨kind, line⟩ := by
  obtain ⟨kind, hkind, rfl⟩ := List.mem_map.1 h
  exact ⟨kind, hkind, rfl⟩

theorem arePlain_pieces (line : Nat) (m : MarkedType) :
    ArePlain (onLine line (pieceKinds m.pieces)) := by
  intro t ht
  obtain ⟨kind, hkind, rfl⟩ := mem_onLine ht
  obtain ⟨p, hp, hkind⟩ := List.mem_filterMap.1 hkind
  have htype := isOfType_pieces m p hp
  rw [Piece.isOfType, hkind] at htype
  exact isPlain_of_isOfType htype line

/-- Some token of a type names it. -/
theorem any_namesType {m : MarkedType} (h : m.type.IsSupported) (line : Nat) :
    (onLine line (pieceKinds m.pieces)).any namesType = true := by
  have hwire : (onLine line (pieceKinds m.type.pieces)).any namesType = true := by
    cases hw : m.type with
    | unsupported reason => rw [hw] at h; exact absurd h id
    | scalar type => cases type <;> rfl
    | pointer element => cases element <;> rfl
    | _ => rfl
  rw [MarkedType.pieces, pieceKinds_append, pieceKinds_append, onLine, List.map_append,
    List.map_append, List.any_append, List.any_append, ← onLine, ← onLine, hwire, Bool.or_true,
    Bool.true_or]

/-- The last token of a type with its marks. -/
theorem getLast?_pieceKinds_pieces {m : MarkedType} (h : m.type.IsSupported) :
    (pieceKinds m.pieces).getLast? =
      if m.byReference then some (.symbol '&') else (pieceKinds m.type.pieces).getLast? := by
  obtain ⟨last, hlast, -⟩ := getLast?_pieceKinds h
  rw [MarkedType.pieces, pieceKinds_append, pieceKinds_append]
  cases m.byReference with
  | true => exact List.getLast?_concat
  | false =>
    rw [if_neg Bool.false_ne_true, if_neg Bool.false_ne_true, List.getLast?_append,
      List.getLast?_append, hlast]
    rfl

/-- The last token of a type is not taken for a name. -/
theorem isParameterName_dropLast {m : MarkedType} (h : m.type.IsSupported) (line : Nat)
    {last : TokenKind} (hlast : (pieceKinds m.pieces).getLast? = some last) :
    isParameterName (onLine line (pieceKinds m.pieces).dropLast) ⟨last, line⟩ = false := by
  have hmark (c : Char) : last = .symbol c →
      isParameterName (onLine line (pieceKinds m.pieces).dropLast) ⟨last, line⟩ = false := by
    rintro rfl
    rfl
  have hfound := hlast
  rw [getLast?_pieceKinds_pieces h] at hfound
  obtain ⟨w, isConst, byReference⟩ := m
  cases byReference with
  | true => exact hmark '&' (Option.some.inj hfound).symm
  | false =>
    rw [if_neg Bool.false_ne_true] at hfound
    cases w with
    | unsupported reason => exact absurd h id
    | array | vector | tuple =>
      exact hmark '>' (Option.some.inj (hfound.symm.trans (getLast?_templatePieces _ _)))
    | cString | pointer => exact hmark '*' (Option.some.inj hfound).symm
    | void | string =>
      cases Option.some.inj hfound
      cases isConst <;> rfl
    | scalar type =>
      cases Option.some.inj hfound
      cases isConst <;> cases type <;> rfl

section

variable {m : MarkedType} (h : m.IsWritable) (line : Nat)
include h

theorem exists_getLast?_pieces :
    ∃ last, (onLine line (pieceKinds m.pieces)).getLast? = some ⟨last, line⟩ ∧
      (pieceKinds m.pieces).getLast? = some last ∧ last ≠ .scope := by
  have honLine {last : TokenKind} (hlast : (pieceKinds m.pieces).getLast? = some last) :
      (onLine line (pieceKinds m.pieces)).getLast? = some ⟨last, line⟩ := by
    rw [onLine, List.getLast?_map, hlast]
    rfl
  obtain ⟨last, hlast, hscope, -⟩ := getLast?_pieceKinds h.isSupported
  have hmarked := getLast?_pieceKinds_pieces h.isSupported
  cases hreference : m.byReference with
  | false =>
    rw [hreference, if_neg Bool.false_ne_true, hlast] at hmarked
    exact ⟨last, honLine hmarked, hmarked, hscope⟩
  | true =>
    rw [hreference, if_pos rfl] at hmarked
    exact ⟨.symbol '&', honLine hmarked, hmarked, by simp⟩

theorem parameter_unnamed :
    parameter (onLine line (pieceKinds m.pieces)) = ⟨none, m.text⟩ := by
  obtain ⟨last, hlast, hkind, -⟩ := exists_getLast?_pieces h line
  have hdropLast : (onLine line (pieceKinds m.pieces)).dropLast =
      onLine line (pieceKinds m.pieces).dropLast := List.map_dropLast.symm
  simp only [parameter, dropDefault_of_plain (arePlain_pieces line m), hlast, hdropLast,
    isParameterName_dropLast h.isSupported line hkind, Bool.false_eq_true, if_false,
    typeText_pieces h]

theorem parameter_named {name : String} (hname : IsGiven name) :
    parameter (onLine line (pieceKinds m.pieces) ++ [⟨.word name, line⟩]) =
      ⟨some name, m.text⟩ := by
  have hplain : ArePlain (onLine line (pieceKinds m.pieces) ++ [⟨.word name, line⟩]) :=
    (arePlain_pieces line m).append (arePlain_word name line)
  have hnamed : isParameterName (onLine line (pieceKinds m.pieces)) ⟨.word name, line⟩ = true := by
    obtain ⟨last, hlast, -, hscope⟩ := exists_getLast?_pieces h line
    simp [isParameterName, Token.word?, hname.notType, hlast, hscope,
      any_namesType h.isSupported line]
  simp only [parameter, dropDefault_of_plain hplain, List.getLast?_concat, List.dropLast_concat,
    hnamed, if_true, typeText_pieces h, Token.word?]

end

/-- A parameter is read as it is written. -/
theorem parameter_pieces {p : WrittenParameter} (h : p.IsWritable) (line : Nat) :
    parameter (onLine line (pieceKinds p.pieces)) = p.parameter := by
  rw [WrittenParameter.pieces, pieceKinds_append, onLine_append, WrittenParameter.parameter]
  cases hname : p.name? with
  | none => simpa [pieceKinds, onLine] using parameter_unnamed h.type line
  | some name => exact parameter_named h.type line (h.name name hname)

theorem arePlain_parameter (line : Nat) (p : WrittenParameter) :
    ArePlain (onLine line (pieceKinds p.pieces)) := by
  rw [WrittenParameter.pieces, pieceKinds_append, onLine_append]
  refine (arePlain_pieces line p.type).append ?_
  cases p.name? with
  | none => exact fun t ht => nomatch ht
  | some name => exact arePlain_word name line

theorem isWhole_parameter (line : Nat) (p : WrittenParameter) :
    IsWhole 0 (onLine line (pieceKinds p.pieces)) := by
  rw [WrittenParameter.pieces, pieceKinds_append, onLine_append]
  refine (isWhole_pieces line p.type).append ?_
  cases p.name? with
  | none => rfl
  | some name => exact ⟨fun _ => rfl, rfl⟩

/-! ### A list of parameters -/

theorem pieceKinds_parameterPieces (p q : WrittenParameter) (ps : List WrittenParameter) :
    pieceKinds (parameterPieces (p :: q :: ps)) =
      pieceKinds p.pieces ++ .symbol ',' :: pieceKinds (parameterPieces (q :: ps)) := by
  rw [parameterPieces, pieceKinds_append]
  rfl

theorem arePlain_parameters (line : Nat) (ps : List WrittenParameter) :
    ArePlain (onLine line (pieceKinds (parameterPieces ps))) := by
  fun_induction parameterPieces ps with
  | case1 => exact fun t ht => nomatch ht
  | case2 p => exact arePlain_parameter line p
  | case3 p q ps ih =>
    rw [pieceKinds_append, onLine_append]
    exact (arePlain_parameter line p).append (arePlain_cons_iff.2 ⟨rfl, ih⟩)

/-- The parameters of a method are told from each other. -/
theorem map_parameter_splitAtCommas {ps : List WrittenParameter} (hne : ps ≠ [])
    (h : ∀ p ∈ ps, p.IsWritable) (line : Nat) :
    (splitAtCommas 0 (onLine line (pieceKinds (parameterPieces ps)))).map parameter =
      ps.map (·.parameter) := by
  induction ps with
  | nil => exact absurd rfl hne
  | cons p ps ih =>
    rw [List.forall_mem_cons] at h
    have hfirst := parameter_pieces h.1 line
    have hwhole := isWhole_parameter line p
    cases ps with
    | nil =>
      rw [parameterPieces, splitAtCommas_of_isWhole hwhole, List.map_singleton, hfirst]
      rfl
    | cons q ps =>
      have hrest := ih (List.cons_ne_nil q ps) h.2
      rw [pieceKinds_parameterPieces, onLine_append, onLine, onLine, List.map_cons, ← onLine,
        ← onLine, splitAtCommas_append hwhole rfl, List.map_cons, hfirst, hrest]
      rfl

theorem parameterPieces_cons (p : WrittenParameter) (ps : List WrittenParameter) :
    ∃ rest, parameterPieces (p :: ps) = p.type.pieces ++ rest := by
  cases ps with
  | nil => exact ⟨_, rfl⟩
  | cons q ps => exact ⟨_, List.append_assoc ..⟩

/-- A list of parameters is read as it is written. -/
theorem parameters_pieces {ps : List WrittenParameter} (h : ∀ p ∈ ps, p.IsWritable) (line : Nat) :
    parameters (onLine line (pieceKinds (parameterPieces ps))) = ps.map (·.parameter) := by
  cases ps with
  | nil => rfl
  | cons p ps =>
    have hall := map_parameter_splitAtCommas (List.cons_ne_nil p ps) h line
    rw [List.forall_mem_cons] at h
    have hne : (onLine line (pieceKinds (parameterPieces (p :: ps)))).isEmpty = false := by
      obtain ⟨rest, hrest⟩ := parameterPieces_cons p ps
      obtain ⟨last, hlast, -⟩ := exists_getLast?_pieces h.1.type line
      rw [hrest, pieceKinds_append, onLine_append]
      cases hkinds : onLine line (pieceKinds p.type.pieces) with
      | nil => simp [hkinds] at hlast
      | cons t ts => rfl
    simp only [parameters, hne, Bool.false_eq_true, if_false, hall]
    split
    · next hvoid =>
      rw [List.map_cons, List.cons.injEq] at hvoid
      exact absurd (congrArg Parameter.type hvoid.1) (h.1.type.text_ne_void h.1.notVoid)
    · rfl

/-! ### The method -/

/-- The words of a type are no words of anything else. -/
theorem isOneOf_pieces {words : List String} (hwords : ∀ word ∈ typeVocabulary, word ∉ words)
    (line : Nat) (m : MarkedType) :
    ∀ t ∈ onLine line (pieceKinds m.pieces), t.isOneOf words = false := by
  intro t ht
  obtain ⟨kind, hkind, rfl⟩ := mem_onLine ht
  obtain ⟨p, hp, hkind⟩ := List.mem_filterMap.1 hkind
  have htype := isOfType_pieces m p hp
  rw [Piece.isOfType, hkind] at htype
  cases kind with
  | word text =>
    have htext := hwords text (by simpa [TokenKind.isOfType] using htype)
    simpa [Token.isOneOf, Token.word?] using htext
  | _ => rfl

/-- A type with its marks begins with a word. -/
theorem exists_pieceKinds_cons {m : MarkedType} (h : m.type.IsSupported) :
    ∃ word kinds, word ∈ typeVocabulary ∧ pieceKinds m.pieces = .word word :: kinds := by
  obtain ⟨word, kinds, hword, hkinds⟩ := exists_pieceKinds_wirePieces h
  rw [MarkedType.pieces, pieceKinds_append, pieceKinds_append, hkinds]
  cases m.isConst with
  | false => exact ⟨word, _, hword, rfl⟩
  | true => exact ⟨"const", _, by decide, rfl⟩

/-! ### No operators -/

theorem any_operator_pieces (line : Nat) (m : MarkedType) :
    (onLine line (pieceKinds m.pieces)).any (·.isWord "operator") = false := by
  rw [List.any_eq_false]
  intro t ht hoperator
  obtain ⟨line', rfl⟩ := Token.exists_of_isWord hoperator
  have hfalse : Token.isOneOf ⟨.word "operator", line'⟩ ["operator"] = false :=
    isOneOf_pieces (by decide) line m _ ht
  have htrue : Token.isOneOf ⟨.word "operator", line'⟩ ["operator"] = true := rfl
  rw [hfalse] at htrue
  cases htrue

theorem any_operator_parameter {p : WrittenParameter} (h : p.IsWritable) (line : Nat) :
    (onLine line (pieceKinds p.pieces)).any (·.isWord "operator") = false := by
  rw [WrittenParameter.pieces, pieceKinds_append, onLine_append, List.any_append,
    any_operator_pieces, Bool.false_or]
  cases hname : p.name? with
  | none => rfl
  | some name => simpa [pieceKinds, Piece.kind?, onLine, Token.isWord] using
      (h.name name hname).notOperator

theorem any_operator_parameters {ps : List WrittenParameter} (h : ∀ p ∈ ps, p.IsWritable)
    (line : Nat) :
    (onLine line (pieceKinds (parameterPieces ps))).any (·.isWord "operator") = false := by
  fun_induction parameterPieces ps with
  | case1 => rfl
  | case2 p => exact any_operator_parameter (h p (List.mem_singleton_self p)) line
  | case3 p q ps ih =>
    rw [List.forall_mem_cons] at h
    rw [pieceKinds_append, onLine_append, List.any_append, any_operator_parameter h.1]
    exact ih h.2

section

variable {m : WrittenMethod} (h : m.IsWritable) (className : String) (line : Nat)

/-- The tokens of a method before its semicolon. -/
def WrittenMethod.head (m : WrittenMethod) (line : Nat) : List Token :=
  (onLine line (pieceKinds m.result.pieces) ++ [⟨.word m.name, line⟩]) ++
    ⟨.symbol '(', line⟩ :: (onLine line (pieceKinds (parameterPieces m.parameters)) ++
      [⟨.symbol ')', line⟩])

omit h in
theorem onLine_method :
    onLine line (pieceKinds m.pieces) = m.head line ++ [⟨.symbol ';', line⟩] := by
  have hindent : pieceKinds (List.replicate 4 .blank) = [] := rfl
  have hname (ps : List Piece) : pieceKinds (.blank :: .word m.name :: .mark '(' :: ps) =
    [.word m.name, .symbol '('] ++ pieceKinds ps := rfl
  have hend : pieceKinds [.mark ')', .mark ';'] = [.symbol ')', .symbol ';'] := rfl
  rw [WrittenMethod.pieces, pieceKinds_append, hindent, List.nil_append, pieceKinds_append, hname,
    pieceKinds_append, hend]
  simp [WrittenMethod.head, onLine]

omit h in
/-- What stands before the parentheses of a method. -/
theorem arePlain_front :
    ArePlain (onLine line (pieceKinds m.result.pieces) ++ [⟨.word m.name, line⟩]) :=
  (arePlain_pieces line m.result).append (arePlain_word m.name line)

omit h in
theorem isFlat_head : IsFlat memberDepth 0 (m.head line) := by
  have hclose : IsFlat memberDepth 1 [⟨.symbol ')', line⟩] :=
    ⟨fun hdepth => absurd hdepth (by decide), rfl⟩
  have hparameters := (isFlat_append_of_plain (arePlain_parameters line m.parameters)).2 hclose
  rw [WrittenMethod.head, isFlat_append_of_plain (arePlain_front line)]
  exact ⟨fun _ => by simp [endsMember, Token.isSymbol], hparameters⟩

include h

theorem resultText_pieces :
    resultText (onLine line (pieceKinds m.result.pieces)) [] = m.result.text := by
  have hspecifiers := dropSpecifiers_of_plain (arePlain_pieces line m.result)
    (isOneOf_pieces (by decide) line m.result)
  rw [resultText, hspecifiers, typeText_pieces h.result]
  rfl

theorem exists_head_cons :
    ∃ word ts, word ∈ typeVocabulary ∧ m.head line = ⟨.word word, line⟩ :: ts := by
  obtain ⟨word, kinds, hword, hkinds⟩ := exists_pieceKinds_cons h.result.isSupported
  exact ⟨word, _, hword, by rw [WrittenMethod.head, hkinds]; rfl⟩

/-- The tokens before the semicolon are read as the method. -/
theorem method?_head : method? className true (m.head line) = some (m.method line) := by
  have hoperator : (m.head line).any (·.isWord "operator") = false := by
    have hfront := any_operator_pieces line m.result
    have hparameters := any_operator_parameters h.parameters line
    simp only [WrittenMethod.head, List.any_append, List.any_cons, hfront, hparameters]
    simpa [Token.isWord] using h.name.notOperator
  have hline : ((m.head line).head?.map (·.line)).getD 0 = line := by
    obtain ⟨word, ts, -, hhead⟩ := exists_head_cons h line
    rw [hhead]
    rfl
  have hdestructor : (onLine line (pieceKinds m.result.pieces)).getLast?.any (·.isSymbol '~') =
      false := by
    obtain ⟨last, hlast, -⟩ := exists_getLast?_pieces h.result line
    have hmem := List.mem_of_getLast? hlast
    rw [hlast]
    exact isSymbol_of_isPlain (arePlain_pieces line m.result _ hmem) (by decide)
  have hword : Token.word? ⟨.word m.name, line⟩ = some m.name := rfl
  have hnotType : typeWords.contains m.name = false := by simpa using h.name.notType
  have hresult : m.result.text.isEmpty = false := by
    simpa using h.result.text_ne_empty
  rw [method?_eq, hoperator, if_neg Bool.false_ne_true, hline, WrittenMethod.head,
    splitSignature?_of_plain (arePlain_front line) (arePlain_parameters line m.parameters)]
  simp only [Option.bind_some, methodOf?, List.getLast?_concat, hword, List.dropLast_concat,
    hdestructor, Bool.false_eq_true, if_false, hnotType, resultText_pieces h line, hresult,
    Bool.false_and, parameters_pieces h.parameters line]
  rfl

/-- A method is read as a member. -/
theorem beginsMember_head :
    ∃ t ts, m.head line = t :: ts ∧ ∀ us, BeginsMember t (ts ++ us) := by
  obtain ⟨word, ts, hword, hhead⟩ := exists_head_cons h line
  have hother : ∀ word ∈ typeVocabulary, word ∉ ["public", "private", "protected"] ∧
      word ≠ "template" ∧ word ∉ nestedWords := by decide
  obtain ⟨haccess, htemplate, hnested⟩ := hother word hword
  refine ⟨_, ts, hhead, fun us => ⟨rfl, rfl, ?_, ?_, ?_⟩⟩
  · intro h
    exact haccess (by simpa [Token.isOneOf, Token.word?] using h.1)
  · simpa [Token.isWord] using htemplate
  · simpa [Token.isOneOf, Token.word?] using hnested

/-- A method is found in the body of a class. -/
theorem classBody_method (last start : Nat) (rest : List Token) :
    classBody last start className true (onLine line (pieceKinds m.pieces) ++ rest) =
      (classBody last start className true rest).map fun r => (m.method line :: r.1, r.2) := by
  obtain ⟨t, ts, hhead, hbegins⟩ := beginsMember_head h line
  have hcons : m.head line ++ ⟨.symbol ';', line⟩ :: rest =
      t :: (ts ++ ⟨.symbol ';', line⟩ :: rest) := by
    rw [hhead]
    rfl
  have hbody := classBody_head last start className true (isFlat_head line)
    (t := ⟨.symbol ';', line⟩) (.inl rfl) hcons (hbegins _)
  rw [method?_head h className line] at hbody
  rw [onLine_method, List.append_assoc, List.singleton_append, hbody]
  rfl

end

/-! ### The line of a method -/

/-- Parts stay apart if the first part of the second half is read as one with nothing before it. -/
theorem AreApart.append_cons {ps qs : List Piece} {q : Piece} (hps : AreApart ps)
    (hqs : AreApart (q :: qs)) (hq : ∀ p : Piece, p.joins q = false) : AreApart (ps ++ q :: qs) :=
  List.IsChain.append hps hqs fun p _ q' hq' => by
    obtain rfl : q = q' := by simpa using hq'
    exact hq p

theorem areApart_blank_cons {ps : List Piece} (h : AreApart ps) : AreApart (.blank :: ps) :=
  h.cons fun _ _ => Piece.blank_joins

theorem areApart_mark_cons {c : Char} (hc : c ≠ ':') {ps : List Piece} (h : AreApart ps) :
    AreApart (.mark c :: ps) :=
  h.cons fun _ _ => Piece.mark_joins hc

theorem areApart_parameter (p : WrittenParameter) : AreApart p.pieces := by
  rw [WrittenParameter.pieces]
  cases p.name? with
  | none => exact (areApart_pieces p.type).append .nil (by simp)
  | some name =>
    exact (areApart_pieces p.type).append_cons (areApart_blank_cons (.singleton _))
      fun _ => Piece.joins_blank

theorem areApart_parameters (ps : List WrittenParameter) : AreApart (parameterPieces ps) := by
  fun_induction parameterPieces ps with
  | case1 => exact .nil
  | case2 p => exact areApart_parameter p
  | case3 p q ps ih =>
    exact (areApart_parameter p).append_cons
      (areApart_mark_cons (by decide) (areApart_blank_cons ih))
      fun _ => Piece.joins_mark (by decide)

theorem areApart_method (m : WrittenMethod) : AreApart m.pieces := by
  have hend : AreApart (parameterPieces m.parameters ++ [.mark ')', .mark ';']) :=
    (areApart_parameters m.parameters).append_cons (by decide)
      fun _ => Piece.joins_mark (by decide)
  have hname : AreApart (.blank :: .word m.name :: .mark '(' ::
      (parameterPieces m.parameters ++ [.mark ')', .mark ';'])) := by
    refine areApart_blank_cons ((areApart_mark_cons (by decide) hend).cons ?_)
    intro q hq
    obtain rfl : Piece.mark '(' = q := by simpa using hq
    rfl
  have hresult := (areApart_pieces m.result).append_cons hname fun _ => Piece.joins_blank
  exact areApart_blank_cons
    (areApart_blank_cons (areApart_blank_cons (areApart_blank_cons hresult)))

theorem isValid_parameter {p : WrittenParameter} (h : p.IsWritable) :
    ∀ q ∈ p.pieces, q.IsValid := by
  intro q hq
  rw [WrittenParameter.pieces, List.mem_append] at hq
  rcases hq with hq | hq
  · exact Piece.isValid_of_isOfType (isOfType_pieces p.type q hq)
  cases hname : p.name? with
  | none => simp [hname] at hq
  | some name =>
    obtain rfl | rfl : q = .blank ∨ q = .word name := by simpa [hname] using hq
    · trivial
    · exact (h.name name hname).isName

theorem isValid_parameters {ps : List WrittenParameter} (h : ∀ p ∈ ps, p.IsWritable) :
    ∀ q ∈ parameterPieces ps, q.IsValid := by
  fun_induction parameterPieces ps with
  | case1 => exact fun q hq => nomatch hq
  | case2 p => exact isValid_parameter (h p (List.mem_singleton_self p))
  | case3 p p' ps ih =>
    rw [List.forall_mem_cons] at h
    simp only [List.forall_mem_append, List.forall_mem_cons]
    exact ⟨isValid_parameter h.1, by decide, trivial, ih h.2⟩

/-- The line that declares a method can be written. -/
theorem isValid_method {m : WrittenMethod} (h : m.IsWritable) : (Line.code m.pieces).IsValid := by
  refine ⟨?_, areApart_method m⟩
  have hindent : ∀ q ∈ List.replicate 4 Piece.blank, q.IsValid := by decide
  have hresult : ∀ q ∈ m.result.pieces, q.IsValid := fun q hq =>
    Piece.isValid_of_isOfType (isOfType_pieces m.result q hq)
  have hend : ∀ q ∈ [Piece.mark ')', .mark ';'], q.IsValid := by decide
  simp only [WrittenMethod.pieces, List.forall_mem_append, List.forall_mem_cons]
  exact ⟨hindent, hresult, trivial, h.name.isName, by decide, isValid_parameters h.parameters,
    by decide, by decide, by simp⟩

end Instrument.Header
