import Instrument.Json.Parser
import Instrument.Json.Printer
import Instrument.Proofs.Text.Pieces

/-!
JSON texts that are written and read back. Main statements: a string is read back character by
character, whatever it holds; a natural number is read back from its digits; and a tree whose
strings are text and whose numbers are natural numbers is read back from its text, at any level and
before anything that does not go on with its last number.
-/

namespace Instrument.Json

/-! ### Strings -/

theorem hexUnit?_digitChar :
    ∀ n < 0x20, hexUnit? '0' '0' (Nat.digitChar (n / 16)) (Nat.digitChar (n % 16)) = some n := by
  decide

/-- A number that is no half of a surrogate pair is a character by itself. -/
theorem assemble?_unit {n : Nat} (h : n < 0xd800) (more : List Piece) :
    assemble? (.unit n :: more) = (assemble? more).map (Char.ofNat n :: ·) := by
  have hhigh : isHighSurrogate n = false := by simp [isHighSurrogate]; omega
  have hlow : isLowSurrogate n = false := by simp [isLowSurrogate]; omega
  cases more with
  | nil => simp [assemble?, hhigh, hlow]
  | cons p more => cases p <;> simp [assemble?, hhigh, hlow]

/-- A part of a string stands for a character. -/
structure IsPieceOf (c : Char) (p : Piece) : Prop where
  read : ∀ rest, pieces (escape c ++ rest) = (pieces rest).map fun (more, rest) => (p :: more, rest)
  stands : ∀ more, assemble? (p :: more) = (assemble? more).map (c :: ·)

theorem pieces_escaped {letter c : Char} (hletter : escaped? letter = some c) (rest : List Char)
    (hu : letter ≠ 'u') :
    pieces ('\\' :: letter :: rest) =
      (pieces rest).map fun (more, rest) => (.char c :: more, rest) := by
  rw [pieces, hletter]
  · cases pieces rest <;> rfl
  · rintro _ _ _ _ _ rfl
    exact absurd rfl hu

/-- A character is written after a backslash, by its number, or as itself. -/
theorem escape_cases (c : Char) :
    (∃ letter, escape c = ['\\', letter] ∧ escaped? letter = some c ∧ letter ≠ 'u') ∨
      (c.toNat < 0x20 ∧ escape c =
        ['\\', 'u', '0', '0', Nat.digitChar (c.toNat / 16), Nat.digitChar (c.toNat % 16)]) ∨
      (0x20 ≤ c.toNat ∧ c ≠ '"' ∧ c ≠ '\\' ∧ escape c = [c]) := by
  unfold escape
  split
  · exact .inl ⟨'"', rfl, rfl, by decide⟩
  · exact .inl ⟨'\\', rfl, rfl, by decide⟩
  · exact .inl ⟨'b', rfl, rfl, by decide⟩
  · exact .inl ⟨'f', rfl, rfl, by decide⟩
  · exact .inl ⟨'n', rfl, rfl, by decide⟩
  · exact .inl ⟨'r', rfl, rfl, by decide⟩
  · exact .inl ⟨'t', rfl, rfl, by decide⟩
  next hquote hbackslash _ _ _ _ _ =>
    split
    · next hcontrol => exact .inr (.inl ⟨hcontrol, rfl⟩)
    · next hcontrol => exact .inr (.inr ⟨Nat.not_lt.1 hcontrol, hquote, hbackslash, rfl⟩)

theorem pieces_unit {n : Nat} (h : n < 0x20) (rest : List Char) :
    pieces ('\\' :: 'u' :: '0' :: '0' :: Nat.digitChar (n / 16) :: Nat.digitChar (n % 16) :: rest) =
      (pieces rest).map fun (more, rest) => (.unit n :: more, rest) := by
  rw [pieces, hexUnit?_digitChar n h]
  cases pieces rest <;> rfl

theorem pieces_cons {c : Char} (hcontrol : 0x20 ≤ c.toNat) (hquote : c ≠ '"')
    (hbackslash : c ≠ '\\') (rest : List Char) :
    pieces (c :: rest) = (pieces rest).map fun (more, rest) => (.char c :: more, rest) := by
  rw [pieces]
  · rw [if_neg (Nat.not_lt.2 hcontrol)]
    cases pieces rest <;> rfl
  · exact hquote
  · exact fun _ _ _ _ _ heq => absurd heq hbackslash
  · exact fun _ _ heq => absurd heq hbackslash

/-- Every character is written as a part that stands for it. -/
theorem exists_isPieceOf (c : Char) : ∃ p, IsPieceOf c p := by
  rcases escape_cases c with ⟨letter, hescape, hletter, hu⟩ | ⟨hcontrol, hescape⟩ |
    ⟨hcontrol, hquote, hbackslash, hescape⟩
  · exact ⟨.char c, fun rest => hescape ▸ pieces_escaped hletter rest hu, fun _ => rfl⟩
  · refine ⟨.unit c.toNat, fun rest => hescape ▸ pieces_unit hcontrol rest, fun more => ?_⟩
    rw [assemble?_unit (by omega), Char.ofNat_toNat]
  · exact ⟨.char c, fun rest => hescape ▸ pieces_cons hcontrol hquote hbackslash rest,
      fun _ => rfl⟩

/-- A string is read back whatever follows it. -/
theorem stringBody_append (s : String) (rest : List Char) :
    stringBody (s.toList.flatMap escape ++ '"' :: rest) = some (some s, rest) := by
  have hpieces : ∀ cs : List Char, ∃ parts, pieces (cs.flatMap escape ++ '"' :: rest) =
      some (parts, rest) ∧ assemble? parts = some cs := by
    intro cs
    induction cs with
    | nil => exact ⟨[], rfl, rfl⟩
    | cons c cs ih =>
      obtain ⟨parts, hread, hstands⟩ := ih
      obtain ⟨p, hp⟩ := exists_isPieceOf c
      refine ⟨p :: parts, ?_, ?_⟩
      · rw [List.flatMap_cons, List.append_assoc, hp.read, hread]
        rfl
      · rw [hp.stands, hstands]
        rfl
  obtain ⟨parts, hread, hstands⟩ := hpieces s.toList
  rw [stringBody, hread]
  simp [hstands]

/-! ### Numbers -/

/-- The digits of a number other than zero do not begin with a zero. -/
theorem head?_toDigits {n : Nat} (h : n ≠ 0) : (Nat.toDigits 10 n).head? ≠ some '0' := by
  induction n using Nat.strongRecOn with
  | ind n ih =>
    by_cases hlt : n < 10
    · simpa [Nat.toDigits_of_lt_base hlt, Nat.digitChar_eq_zero] using h
    · have hge : 10 ≤ n := Nat.not_lt.1 hlt
      have hshorter := ih (n / 10) (by omega) (by omega)
      rw [Nat.toDigits_of_base_le (by decide) hge, List.head?_append, ne_eq,
        Option.or_eq_some_iff]
      rintro (hhead | ⟨hnone, -⟩)
      · exact hshorter hhead
      · exact Nat.toDigits_ne_nil (List.head?_eq_none_iff.1 hnone)

theorem exists_digits (n : Nat) : ∃ d ds, Nat.toDigits 10 n = d :: ds :=
  List.exists_cons_of_ne_nil Nat.toDigits_ne_nil

theorem isDigit_of_mem {n : Nat} {c : Char} (h : c ∈ Nat.toDigits 10 n) : c.isDigit = true :=
  Nat.isDigit_of_mem_toDigits (by decide) (by decide) h

/-- Whether a text is one that follows a value: it is empty, or begins with a comma or a line. -/
def Closes (rest : List Char) : Prop := ∀ c ∈ rest.head?, c = ',' ∨ c = '\n'

theorem digits?_append {digits rest : List Char} (hne : digits ≠ [])
    (hdigit : ∀ c ∈ digits, c.isDigit = true) (hrest : Closes rest) :
    digits? (digits ++ rest) = some (digits, rest) := by
  have hend : rest.takeWhile Char.isDigit = [] ∧ rest.dropWhile Char.isDigit = rest := by
    cases rest with
    | nil => exact ⟨rfl, rfl⟩
    | cons c rest => rcases hrest c rfl with rfl | rfl <;> exact ⟨rfl, rfl⟩
  rw [digits?, List.takeWhile_append_of_pos hdigit, List.dropWhile_append_of_pos hdigit, hend.1,
    hend.2, List.append_nil]
  simp [hne]

theorem wholePart?_append {rest : List Char} (hrest : Closes rest) (n : Nat) :
    wholePart? (Nat.toDigits 10 n ++ rest) = some (Nat.toDigits 10 n, rest) := by
  by_cases hzero : n = 0
  · subst hzero
    rfl
  · obtain ⟨d, ds, hdigits⟩ := exists_digits n
    have hd : d ≠ '0' := by
      have hhead := head?_toDigits hzero
      rw [hdigits] at hhead
      exact fun heq => hhead (heq ▸ rfl)
    rw [wholePart?]
    · exact digits?_append Nat.toDigits_ne_nil (fun c => isDigit_of_mem) hrest
    · intro _ heq
      rw [hdigits] at heq
      exact hd (List.cons.inj heq).1

/-- What follows a value does not go on with a number. -/
theorem parts_of_closes {rest : List Char} (h : Closes rest) :
    fractionPart? rest = some ([], rest) ∧ exponentPart? rest = some (none, rest) := by
  cases rest with
  | nil => exact ⟨rfl, rfl⟩
  | cons c rest => rcases h c rfl with rfl | rfl <;> exact ⟨rfl, rfl⟩

theorem text_ofNat (n : Nat) : (Numeral.ofNat n).text = Nat.toDigits 10 n := by
  simp [Numeral.text, Numeral.ofNat]

/-- A natural number is read back from its digits. -/
theorem numeral?_append {rest : List Char} (hrest : Closes rest) (n : Nat) :
    numeral? (Nat.toDigits 10 n ++ rest) = some (.ofNat n, rest) := by
  obtain ⟨hfraction, hexponent⟩ := parts_of_closes hrest
  have hwhole := wholePart?_append hrest n
  obtain ⟨d, ds, hdigits⟩ := exists_digits n
  have hsign : d ≠ '-' := by
    rintro rfl
    exact absurd (isDigit_of_mem (hdigits ▸ List.mem_cons_self ..)) (by decide)
  simp only [numeral?]
  split
  · next heq =>
    rw [hdigits] at heq
    exact absurd (List.cons.inj heq).1 hsign
  · simp [hwhole, hfraction, hexponent, Numeral.ofNat]

theorem atom?_append {rest : List Char} (hrest : Closes rest) (n : Nat) :
    atom? (Nat.toDigits 10 n ++ rest) = some (.nat n, rest) := by
  obtain ⟨d, ds, hdigits⟩ := exists_digits n
  have hdigit : d.isDigit = true := isDigit_of_mem (hdigits ▸ List.mem_cons_self ..)
  have hword : (literals.findSome? fun l =>
      (Text.after? l.1 (Nat.toDigits 10 n ++ rest)).map fun rest => (l.2, rest)) = none := by
    rw [List.findSome?_eq_none_iff, hdigits]
    have hletter {c : Char} (hc : c.isDigit = false) : ¬c = d := by
      rintro rfl
      rw [hc] at hdigit
      cases hdigit
    simp [literals, Text.after?, hletter (c := 'n') rfl, hletter (c := 't') rfl,
      hletter (c := 'f') rfl]
  rw [atom?, hword, numeral?_append hrest]
  rfl

/-! ### Blanks -/

theorem skipSpace_newline_append (level : Nat) (cs : List Char) :
    skipSpace (newline level ++ cs) = skipSpace cs := by
  have hspace : ∀ c ∈ newline level, isSpace c = true := by
    intro c hc
    rcases List.mem_cons.1 hc with rfl | hc
    · rfl
    · rw [List.eq_of_mem_replicate hc]
      rfl
  exact List.dropWhile_append_of_pos hspace

theorem skipSpace_cons {c : Char} (h : isSpace c = false) (cs : List Char) :
    skipSpace (c :: cs) = c :: cs := by
  simp [skipSpace, h]

theorem isSpace_eq_false_of_isDigit {c : Char} (h : c.isDigit = true) : isSpace c = false := by
  have hne {b : Char} (hb : b.isDigit = false) : c ≠ b := by
    rintro rfl
    rw [hb] at h
    cases h
  simp [isSpace, hne (b := ' ') rfl, hne (b := '\n') rfl, hne (b := '\t') rfl,
    hne (b := '\r') rfl]

theorem value?_newline_append (fuel level : Nat) (cs : List Char) :
    value? fuel (newline level ++ cs) = value? fuel cs := by
  cases fuel with
  | zero => simp only [value?]
  | succ fuel => simp only [value?, skipSpace_newline_append]

theorem items?_newline_append (fuel level : Nat) (cs : List Char) :
    items? fuel (newline level ++ cs) = items? fuel cs := by
  cases fuel with
  | zero => simp only [items?]
  | succ fuel => simp only [items?, value?_newline_append]

theorem members?_newline_append (fuel level : Nat) (cs : List Char) :
    members? fuel (newline level ++ cs) = members? fuel cs := by
  cases fuel with
  | zero => simp only [members?]
  | succ fuel => simp only [members?, skipSpace_newline_append]

/-! ### Trees -/

/-- Whether a tree is written with text and natural numbers. -/
inductive Tree.IsPlain : Tree → Prop
  | null : IsPlain .null
  | bool (value : Bool) : IsPlain (.bool value)
  | text (s : String) : IsPlain (.text s)
  | nat (n : Nat) : IsPlain (.nat n)
  | array {items : List Tree} (h : ∀ t ∈ items, IsPlain t) : IsPlain (.array items)
  | record {members : List (String × Tree)} (h : ∀ m ∈ members, IsPlain m.2) :
    IsPlain (.record members)

/-- Whether a tree is read back from its text before anything that follows a value. -/
def Tree.IsRead (t : Tree) : Prop :=
  ∀ (level fuel : Nat) (rest : List Char), 2 * (t.render level).length ≤ fuel → Closes rest →
    Json.value? fuel (t.render level ++ rest) = some (t, rest)

theorem value?_atom {c : Char} (hspace : isSpace c = false)
    (hmark : c ≠ '"' ∧ c ≠ '[' ∧ c ≠ '{') (fuel : Nat) (cs : List Char) :
    value? (fuel + 1) (c :: cs) = atom? (c :: cs) := by
  obtain ⟨hquote, hbracket, hbrace⟩ := hmark
  simp only [value?, skipSpace_cons hspace]
  split
  · next heq => exact absurd (List.cons.inj heq).1 hquote
  · next heq => exact absurd (List.cons.inj heq).1 hbracket
  · next heq => exact absurd (List.cons.inj heq).1 hbrace
  · rfl

theorem quote_append (s : String) (rest : List Char) :
    quote s ++ rest = '"' :: (s.toList.flatMap escape ++ '"' :: rest) := by
  simp [quote]

theorem value?_quote (fuel : Nat) (s : String) (rest : List Char) :
    value? (fuel + 1) (quote s ++ rest) = some (.text s, rest) := by
  rw [quote_append]
  simp only [value?, skipSpace_cons (c := '"') rfl, stringBody_append, Option.map_some]
  rfl

/-- What is written for a tree begins a value. -/
theorem Tree.IsPlain.begins {t : Tree} (h : t.IsPlain) (level : Nat) :
    ∃ c cs, t.render level = c :: cs ∧ isSpace c = false ∧ c ≠ ']' := by
  cases h with
  | null => exact ⟨'n', _, rfl, rfl, by decide⟩
  | bool value =>
    cases value with
    | true => exact ⟨'t', _, rfl, rfl, by decide⟩
    | false => exact ⟨'f', _, rfl, rfl, by decide⟩
  | text s => exact ⟨'"', _, rfl, rfl, by decide⟩
  | nat n =>
    obtain ⟨d, ds, hdigits⟩ := exists_digits n
    have hdigit : d.isDigit = true := isDigit_of_mem (hdigits ▸ List.mem_cons_self ..)
    refine ⟨d, ds, ?_, ?_, ?_⟩
    · rw [Tree.nat, Tree.render, text_ofNat, hdigits]
    · exact isSpace_eq_false_of_isDigit hdigit
    · rintro rfl
      cases hdigit
  | @array items h =>
    cases items with
    | nil => exact ⟨'[', _, rfl, rfl, by decide⟩
    | cons first more => exact ⟨'[', _, rfl, rfl, by decide⟩
  | @record members h =>
    cases members with
    | nil => exact ⟨'{', _, rfl, rfl, by decide⟩
    | cons first more => exact ⟨'{', _, rfl, rfl, by decide⟩

theorem closes_newline_append (level : Nat) (cs : List Char) : Closes (newline level ++ cs) := by
  rintro c ⟨⟩
  exact .inr rfl

theorem closes_renderItems_append (level outer : Nat) (more : List Tree) (cs : List Char) :
    Closes (renderItems level more ++ (newline outer ++ cs)) := by
  cases more with
  | nil => exact closes_newline_append outer cs
  | cons item more =>
    rintro c ⟨⟩
    exact .inl rfl

theorem closes_renderMembers_append (level outer : Nat) (more : List (Option String × Tree))
    (cs : List Char) : Closes (renderMembers level more ++ (newline outer ++ cs)) := by
  cases more with
  | nil => exact closes_newline_append outer cs
  | cons item more =>
    rintro c ⟨⟩
    exact .inl rfl

/-- Items are read back one after the other. -/
theorem items?_append {first : Tree} {more : List Tree} (hfirst : first.IsRead)
    (hmore : ∀ t ∈ more, t.IsRead) (level outer : Nat) {fuel : Nat} (rest : List Char)
    (hfuel : 2 * ((first.render level).length + (renderItems level more).length) < fuel) :
    items? fuel (first.render level ++ (renderItems level more ++ (newline outer ++ ']' :: rest))) =
      some (first :: more, rest) := by
  induction more generalizing first fuel with
  | nil =>
    obtain ⟨k, rfl⟩ := Nat.exists_eq_succ_of_ne_zero (Nat.ne_zero_of_lt hfuel)
    have hread := hfirst level k (newline outer ++ ']' :: rest) (by omega)
      (closes_newline_append outer _)
    simp only [renderItems, List.nil_append, items?, hread, Option.bind_eq_bind, Option.bind_some,
      skipSpace_newline_append, skipSpace_cons (c := ']') rfl]
  | cons t more ih =>
    obtain ⟨k, rfl⟩ := Nat.exists_eq_succ_of_ne_zero (Nat.ne_zero_of_lt hfuel)
    obtain ⟨ht, hmore⟩ := List.forall_mem_cons.1 hmore
    have hread := hfirst level k _ (by omega)
      (closes_renderItems_append level outer (t :: more) (']' :: rest))
    have hlength : (renderItems level (t :: more)).length =
        1 + (newline level).length + (t.render level).length +
          (renderItems level more).length := by
      simp [renderItems]
      omega
    have hshorter : 2 * ((t.render level).length + (renderItems level more).length) < k := by omega
    have hrest := ih ht hmore hshorter
    -- behind a comma the next item begins on a line of its own
    have htext : renderItems level (t :: more) ++ (newline outer ++ ']' :: rest) =
        ',' :: (newline level ++ (t.render level ++ (renderItems level more ++
          (newline outer ++ ']' :: rest)))) := by
      simp [renderItems]
    simp only [items?, hread, Option.bind_eq_bind, Option.bind_some]
    simp only [htext, skipSpace_cons (c := ',') rfl, items?_newline_append, hrest]
    rfl

/-- Members are read back one after the other. -/
theorem members?_append {key : String} {first : Tree} {more : List (Option String × Tree)}
    (hfirst : first.IsRead) (hmore : ∀ m ∈ more, m.1.isSome ∧ m.2.IsRead) (level outer : Nat)
    {fuel : Nat} (rest : List Char)
    (hfuel : 2 * ((first.render level).length + (renderMembers level more).length) < fuel) :
    members? fuel (quote key ++ ':' :: ' ' :: (first.render level ++
        (renderMembers level more ++ (newline outer ++ '}' :: rest)))) =
      some ((some key, first) :: more, rest) := by
  have hspace (k : Nat) (cs : List Char) : value? k (' ' :: cs) = value? k cs := by
    cases k <;> rfl
  induction more generalizing key first fuel with
  | nil =>
    obtain ⟨k, rfl⟩ := Nat.exists_eq_succ_of_ne_zero (Nat.ne_zero_of_lt hfuel)
    have hread := hfirst level k (newline outer ++ '}' :: rest) (by omega)
      (closes_newline_append outer _)
    rw [quote_append]
    simp only [renderMembers, List.nil_append, members?, skipSpace_cons (c := '"') rfl,
      stringBody_append, Option.bind_eq_bind, Option.bind_some, skipSpace_cons (c := ':') rfl,
      hspace, hread, skipSpace_newline_append, skipSpace_cons (c := '}') rfl]
  | cons m more ih =>
    obtain ⟨k, rfl⟩ := Nat.exists_eq_succ_of_ne_zero (Nat.ne_zero_of_lt hfuel)
    obtain ⟨⟨hsome, ht⟩, htail⟩ := List.forall_mem_cons.1 hmore
    obtain ⟨_ | name, t⟩ := m
    · cases hsome
    have hread := hfirst level k _ (by omega)
      (closes_renderMembers_append level outer ((some name, t) :: more) ('}' :: rest))
    have htext (cs : List Char) : renderMembers level ((some name, t) :: more) ++ cs =
        ',' :: (newline level ++ (quote name ++ ':' :: ' ' :: (t.render level ++
          (renderMembers level more ++ cs)))) := by
      simp [renderMembers]
    -- one round for a member and one for its value: the fuel is more than twice what is left
    have hlength := congrArg List.length (htext [])
    simp only [List.append_nil, List.length_cons, List.length_append] at hlength
    have hshorter : 2 * ((t.render level).length + (renderMembers level more).length) < k := by
      omega
    have hrest := @ih name t ht htail k hshorter
    rw [quote_append]
    simp only [members?, skipSpace_cons (c := '"') rfl, stringBody_append, Option.bind_eq_bind,
      Option.bind_some, skipSpace_cons (c := ':') rfl, hspace, hread]
    simp only [htext, skipSpace_cons (c := ',') rfl, members?_newline_append, hrest]
    rfl

/-- A step of fuel is left for what is written for a tree. -/
theorem exists_fuel {fuel : Nat} {cs : List Char} {c : Char} (h : 2 * (c :: cs).length ≤ fuel) :
    ∃ k, fuel = k + 1 := by
  rw [List.length_cons] at h
  exact Nat.exists_eq_succ_of_ne_zero (by omega)

theorem isRead_atom {t : Tree} (hplain : t.IsPlain)
    (hatom : ∀ level rest, Closes rest → atom? (t.render level ++ rest) = some (t, rest))
    (hmark : ∀ level, ∀ c ∈ (t.render level).head?, c ≠ '"' ∧ c ≠ '[' ∧ c ≠ '{') : t.IsRead := by
  intro level fuel rest hfuel hrest
  obtain ⟨c, cs, htext, hspace, -⟩ := hplain.begins level
  have hmark := hmark level c (by rw [htext]; rfl)
  have hatom := hatom level rest hrest
  rw [htext] at hfuel hatom ⊢
  obtain ⟨k, rfl⟩ := exists_fuel hfuel
  rw [List.cons_append, value?_atom hspace hmark]
  exact hatom

/-- An array of trees that are read back is read back. -/
theorem isRead_array {items : List Tree} (hplain : ∀ t ∈ items, t.IsPlain)
    (h : ∀ t ∈ items, t.IsRead) : (Tree.array items).IsRead := by
  intro level fuel rest hfuel hrest
  cases items with
  | nil =>
    obtain ⟨k, rfl⟩ := exists_fuel hfuel
    rfl
  | cons first more =>
    obtain ⟨hfirst, hmore⟩ := List.forall_mem_cons.1 h
    obtain ⟨c, cs, hbegins, hspace, hbracket⟩ :=
      (hplain first (List.mem_cons_self ..)).begins (level + 1)
    have htext (rest : List Char) : (Tree.array (first :: more)).render level ++ rest =
        '[' :: (newline (level + 1) ++ (first.render (level + 1) ++
          (renderItems (level + 1) more ++ (newline level ++ ']' :: rest)))) := by
      simp [Tree.render]
    have hlength := congrArg List.length (htext [])
    simp only [List.append_nil, List.length_cons, List.length_append] at hlength
    obtain ⟨k, rfl⟩ : ∃ k, fuel = k + 1 := Nat.exists_eq_succ_of_ne_zero (by omega)
    have hitems := items?_append hfirst hmore (level + 1) level rest
      (show 2 * ((first.render (level + 1)).length + (renderItems (level + 1) more).length) < k by
        omega)
    rw [htext]
    rw [hbegins] at hitems ⊢
    simp only [value?, skipSpace_cons (c := '[') rfl, skipSpace_newline_append, List.cons_append,
      skipSpace_cons hspace] at hitems ⊢
    split
    · next heq => exact absurd (List.cons.inj heq).1 hbracket
    · rw [hitems]
      rfl

/-- An object with trees that are read back is read back. -/
theorem isRead_object {members : List (Option String × Tree)}
    (h : ∀ m ∈ members, m.1.isSome ∧ m.2.IsRead) : (Tree.object members).IsRead := by
  intro level fuel rest hfuel hrest
  cases members with
  | nil =>
    obtain ⟨k, rfl⟩ := exists_fuel hfuel
    rfl
  | cons m more =>
    obtain ⟨⟨hsome, hfirst⟩, hmore⟩ := List.forall_mem_cons.1 h
    obtain ⟨_ | key, first⟩ := m
    · cases hsome
    have htext (rest : List Char) :
        (Tree.object ((some key, first) :: more)).render level ++ rest =
          '{' :: (newline (level + 1) ++ (quote key ++ ':' :: ' ' :: (first.render (level + 1) ++
            (renderMembers (level + 1) more ++ (newline level ++ '}' :: rest))))) := by
      simp [Tree.render]
    have hlength := congrArg List.length (htext [])
    simp only [List.append_nil, List.length_cons, List.length_append] at hlength
    obtain ⟨k, rfl⟩ : ∃ k, fuel = k + 1 := Nat.exists_eq_succ_of_ne_zero (by omega)
    have hmembers := @members?_append key _ _ hfirst hmore (level + 1) level _ rest
      (show 2 * ((first.render (level + 1)).length + (renderMembers (level + 1) more).length) < k by
        omega)
    rw [htext]
    rw [quote_append] at hmembers ⊢
    simp only [value?, skipSpace_cons (c := '{') rfl, skipSpace_newline_append,
      skipSpace_cons (c := '"') rfl]
    exact congrArg (Option.map fun x => (Tree.object x.1, x.2)) hmembers

/-- A tree of text and natural numbers is read back from its text, at any level and before anything
that does not go on with its last number. -/
theorem Tree.IsPlain.isRead {t : Tree} (h : t.IsPlain) : t.IsRead := by
  induction h with
  | null =>
    refine isRead_atom .null (fun _ _ _ => rfl) ?_
    rintro _ _ ⟨⟩
    decide
  | bool value =>
    cases value with
    | true =>
      refine isRead_atom (.bool _) (fun _ _ _ => rfl) ?_
      rintro _ _ ⟨⟩
      decide
    | false =>
      refine isRead_atom (.bool _) (fun _ _ _ => rfl) ?_
      rintro _ _ ⟨⟩
      decide
  | text s =>
    intro level fuel rest hfuel hrest
    obtain ⟨k, rfl⟩ := exists_fuel hfuel
    exact value?_quote k s rest
  | nat n =>
    refine isRead_atom (.nat n) (fun level rest hrest => ?_) (fun level c hc => ?_)
    · rw [Tree.nat, Tree.render, text_ofNat]
      exact atom?_append hrest n
    · rw [Tree.nat, Tree.render, text_ofNat] at hc
      have hdigit := isDigit_of_mem (List.mem_of_mem_head? hc)
      refine ⟨?_, ?_, ?_⟩ <;> rintro rfl <;> cases hdigit
  | array h ih => exact isRead_array h ih
  | record h ih =>
    refine isRead_object fun m hm => ?_
    obtain ⟨member, hmember, rfl⟩ := List.mem_map.1 hm
    exact ⟨rfl, ih member hmember⟩

/-- A tree of text and natural numbers is read back from its text with a line feed behind it. -/
theorem Tree.IsPlain.ofText?_toText_append {t : Tree} (h : t.IsPlain) :
    Tree.ofText? (t.toText ++ ['\n']) = some t := by
  have hread := h.isRead 0 (2 * (t.toText ++ ['\n']).length + 2) ['\n']
    (by rw [List.length_append, Tree.toText]; omega) (by rintro _ ⟨⟩; exact .inr rfl)
  rw [← Tree.toText] at hread
  rw [Tree.ofText?, hread]
  rfl

end Instrument.Json
