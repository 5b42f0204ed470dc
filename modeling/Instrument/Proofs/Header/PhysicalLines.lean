import Instrument.Proofs.Header.Attributes
import Instrument.Proofs.Header.Lexemes
import Instrument.Proofs.Text.Lines

/-!
The lines of what a header declares. A declaration stands behind a part of the header, where the
first of its tokens begins. Main statements: each class and each method is read from some place of
the header on, after those that are declared before it; and its line is the physical line of the
character at that place.
-/

namespace Instrument.Header

open Text (lineBehind)

/-! ### Places of declarations -/

/-- In a header the token `t` begins behind the text `front`, and the tokens `ts` follow it. -/
def BeginsBehind (source front : List Char) (t : Token) (ts : List Token) : Prop :=
  ∃ before text after, lexemes true source = before ++ .token t.kind text :: after ∧
    before.flatMap Lexeme.text = front ∧
    tokensAmong (lineBehind (front ++ text)) after = .ok ts

/-- In a header the class `c` stands behind the text `front`: reading finds the classes `earlier`
and comes to the token that begins there, and what begins with this token is the class. -/
def ClassStandsBehind (source front : List Char) (earlier : List Class) (c : Class) : Prop :=
  ∃ all t ts after, tokens source = .ok all ∧ BeginsBehind source front t ts ∧
    Reads (lastLine all) all (.outside earlier) (t :: ts) ∧
    topItem (lastLine all) t ts = .ok (some c, after)

/-- In a header the method `m` stands behind the text `front`: reading finds the classes `earlier`
and the methods of `c`, comes to the token that begins there, and what begins with this token is the
method. -/
def MethodStandsBehind (source front : List Char) (earlier : List Class) (c : OpenClass)
    (m : Method) : Prop :=
  ∃ all t ts after, tokens source = .ok all ∧ BeginsBehind source front t ts ∧
    Reads (lastLine all) all (.inside earlier c) (t :: ts) ∧
    bodyItem (lastLine all) c.name c.isPublic t ts = .ok (.method m, after)

/-! ### Tokens and the text in front of them -/

section

variable {source front : List Char} {line : Nat} {before after ls : List Lexeme} {t : Token}
  {pre ts all : List Token}

/-- A line feed is a part of its own kind. -/
theorem blank_newline_not_mem_lexemes (fresh : Bool) (cs : List Char) :
    Lexeme.blank '\n' ∉ lexemes fresh cs := by
  fun_induction lexemes fresh cs with
  | case1 => exact List.not_mem_nil
  | case2 fresh c rest ih =>
    rw [List.mem_cons, not_or]
    refine ⟨fun hnext => ?_, ih⟩
    -- Whether the character is a line feed is asked before whether it is blank.
    rw [nextLexeme] at hnext
    split at hnext
    · cases hnext
    next hc =>
    split at hnext
    · exact hc (Lexeme.blank.inj hnext).symm
    split at hnext
    · cases hnext
    split at hnext
    · cases hnext
    split at hnext
    · split at hnext <;> cases hnext
    split at hnext
    · split at hnext <;> cases hnext
    split at hnext
    · cases hnext
    split at hnext
    · cases hnext
    split at hnext
    · cases hnext
    · cases hnext

/-- A part is a token or none, and what follows it stands as many lines further down as it has line
feeds. -/
theorem tokensAmong_cons_cases {l : Lexeme} (hl : Lexeme.blank '\n' ≠ l)
    (h : tokensAmong line (l :: ls) = .ok ts) :
    (∃ kind text more, l = .token kind text ∧ ts = ⟨kind, line⟩ :: more ∧
      tokensAmong (line + l.text.count '\n') ls = .ok more) ∨
    tokensAmong (line + l.text.count '\n') ls = .ok ts := by
  cases l with
  | token kind text =>
    obtain ⟨more, hmore, rfl⟩ := Success.map_eq_ok_iff.1 h
    exact .inl ⟨kind, text, more, rfl, rfl, hmore⟩
  | unended fault text => cases h
  | newline => exact .inr h
  | blank c =>
    have hc : c ≠ '\n' := fun hc => hl (by rw [hc])
    rw [Lexeme.text, List.count_cons_of_ne hc, List.count_nil, Nat.add_zero]
    exact .inr h
  | directive text | comment text => exact .inr h

/-- The tokens among some parts are those among the first ones, and those among the others, which
begin behind as many line feeds as there are in the first ones. -/
theorem exists_of_tokensAmong_append (hblank : Lexeme.blank '\n' ∉ before)
    (h : tokensAmong line (before ++ after) = .ok ts) :
    ∃ pre post, ts = pre ++ post ∧
      tokensAmong (line + (before.flatMap Lexeme.text).count '\n') after = .ok post := by
  induction before generalizing line ts with
  | nil => exact ⟨[], ts, rfl, h⟩
  | cons l before ih =>
    rw [List.mem_cons, not_or] at hblank
    rw [List.flatMap_cons, List.count_append, ← Nat.add_assoc]
    rcases tokensAmong_cons_cases hblank.1 h with ⟨kind, text, more, -, rfl, hmore⟩ | hmore
    · obtain ⟨pre, post, rfl, hpost⟩ := ih hblank.2 hmore
      exact ⟨_ :: pre, post, rfl, hpost⟩
    · exact ih hblank.2 hmore

/-- Each token is one of the parts, and the tokens after it are those among the parts after it. -/
theorem exists_of_tokensAmong_eq_append (hblank : Lexeme.blank '\n' ∉ ls)
    (h : tokensAmong line ls = .ok (pre ++ t :: ts)) :
    ∃ before text after, ls = before ++ .token t.kind text :: after ∧
      tokensAmong (line + (before.flatMap Lexeme.text ++ text).count '\n') after = .ok ts := by
  induction ls generalizing line pre with
  | nil => cases pre <;> cases h
  | cons l ls ih =>
    rw [List.mem_cons, not_or] at hblank
    -- Where the token is not the first part, the text of that part counts as well.
    have hmore {pre : List Token}
        (h : tokensAmong (line + l.text.count '\n') ls = .ok (pre ++ t :: ts)) :
        ∃ before text after, l :: ls = before ++ .token t.kind text :: after ∧
          tokensAmong (line + (before.flatMap Lexeme.text ++ text).count '\n') after = .ok ts := by
      obtain ⟨before, text, after, rfl, hafter⟩ := ih hblank.2 h
      refine ⟨l :: before, text, after, rfl, ?_⟩
      rw [List.flatMap_cons, List.append_assoc, List.count_append, ← Nat.add_assoc]
      exact hafter
    rcases tokensAmong_cons_cases hblank.1 h with ⟨kind, text, more, rfl, heq, hts⟩ | hts
    · cases pre with
      | nil =>
        obtain ⟨rfl, rfl⟩ := List.cons.inj heq
        exact ⟨[], text, ls, rfl, hts⟩
      | cons u pre =>
        obtain ⟨-, rfl⟩ := List.cons.inj heq
        exact hmore hts
    · exact hmore hts

theorem tokens_eq (source : List Char) : tokens source = tokensAmong 1 (lexemes true source) :=
  scan_eq 1 true source

/-- Each token begins behind some text. -/
theorem exists_beginsBehind (hall : tokens source = .ok (pre ++ t :: ts)) :
    ∃ front, BeginsBehind source front t ts := by
  rw [tokens_eq] at hall
  obtain ⟨before, text, after, hsplit, hafter⟩ :=
    exists_of_tokensAmong_eq_append (blank_newline_not_mem_lexemes true source) hall
  rw [Nat.add_comm] at hafter
  exact ⟨_, before, text, after, hsplit, rfl, hafter⟩

/-- A token has the number of the physical line on which its first character stands. -/
theorem BeginsBehind.line_eq (h : BeginsBehind source front t ts)
    (hall : tokens source = .ok (pre ++ t :: ts)) : t.line = lineBehind front := by
  obtain ⟨before, text, after, hsplit, rfl, hafter⟩ := h
  have hblank : Lexeme.blank '\n' ∉ before := fun hmem =>
    blank_newline_not_mem_lexemes true source (hsplit ▸ List.mem_append_left _ hmem)
  rw [tokens_eq, hsplit] at hall
  obtain ⟨pre', post, heq, hpost⟩ := exists_of_tokensAmong_append hblank hall
  obtain ⟨ts', hts', rfl⟩ := Success.map_eq_ok_iff.1 hpost
  have hline : 1 + (before.flatMap Lexeme.text).count '\n' + text.count '\n' =
      lineBehind (before.flatMap Lexeme.text ++ text) := by
    rw [lineBehind, List.count_append]
    omega
  rw [hline, hafter] at hts'
  obtain rfl := Except.ok.inj hts'
  -- Both splits of the tokens leave the same tokens behind the one in question.
  obtain ⟨-, hcons⟩ := List.append_inj' heq rfl
  rw [(List.cons.inj hcons).1, lineBehind, Nat.add_comm]

/-- A token begins in the text. -/
theorem BeginsBehind.exists_append (h : BeginsBehind source front t ts) :
    ∃ rest, source = front ++ rest := by
  obtain ⟨before, text, after, hsplit, rfl, -⟩ := h
  refine ⟨(Lexeme.token t.kind text :: after).flatMap Lexeme.text, ?_⟩
  rw [← List.flatMap_append, ← hsplit, flatMap_text_lexemes]

end

/-! ### From what is declared to where it is read -/

section

variable {last : Nat} {all ts rest after : List Token} {t : Token} {found earlier : List Class}
  {c : Class} {m : Method}

/-- A method has the line of the first of its tokens. -/
theorem line_eq_of_method? {className : String} {isPublic : Bool}
    (h : method? className isPublic (t :: ts) = some m) : m.line = t.line := by
  rw [method?_eq] at h
  split at h
  · cases h
  obtain ⟨⟨front, inside, behind⟩, -, h⟩ := Option.bind_eq_some_iff.1 h
  obtain ⟨word, -, h⟩ := Option.bind_eq_some_iff.1 h
  simp only [Option.ite_none_left_eq_some, Option.some_inj] at h
  obtain ⟨-, -, rfl⟩ := h
  rfl

/-- What is read as a method has the line of the token that begins it. -/
theorem line_eq_of_bodyItem {className : String} {isPublic : Bool}
    (h : bodyItem last className isPublic t ts = .ok (.method m, after)) : m.line = t.line := by
  have hends := not_endsMember_of_method h
  rw [bodyItem_of_member _ _ _ _ (beginsMember_of_method h)] at h
  obtain ⟨⟨read, rest⟩, hmember, hresult⟩ := Success.map_eq_ok_iff.1 h
  obtain ⟨hread, -⟩ := Prod.mk.inj hresult
  have hhead : (splitMember 0 (t :: ts)).1 = t :: (splitMember (memberDepth 0 t) ts).1 := by
    rw [splitMember, if_neg fun hstop => hends hstop.2]
  simp only [member, hhead] at hmember
  obtain ⟨ending, -, hpair⟩ := Success.map_eq_ok_iff.1 hmember
  obtain ⟨rfl, -⟩ := Prod.mk.inj hpair
  cases hmethod : method? className isPublic (t :: (splitMember (memberDepth 0 t) ts).1) with
  | none =>
    rw [hmethod] at hread
    cases hread
  | some found =>
    rw [hmethod] at hread
    cases hread
    exact line_eq_of_method? hmethod

/-- Reading gets on in a class. -/
theorem Reads.add {c : OpenClass} {item : BodyItem}
    (h : Reads last all (.inside earlier c) (t :: ts))
    (hitem : bodyItem last c.name c.isPublic t ts = .ok (item, rest))
    (hclosed : item ≠ .closed) : Reads last all (.inside earlier (c.add item)) rest :=
  h.step (.member hitem hclosed)

/-- Each class is read at a place outside all classes, after those that are declared before it. The
induction is on the declarations that are read. -/
theorem exists_reads_class {i : Nat} (hreads : Reads last all (.outside earlier) ts)
    (h : topLevel last ts = .ok found) (hc : found[i]? = some c) :
    ∃ t rest after, Reads last all (.outside (earlier ++ found.take i)) (t :: rest) ∧
      topItem last t rest = .ok (some c, after) := by
  fun_induction topLevel last ts generalizing earlier found i with
  | case1 =>
    cases h
    cases hc
  | case2 => cases h
  | case3 t ts first rest hitem ih =>
    obtain ⟨more, hmore, rfl⟩ := Success.map_eq_ok_iff.1 h
    have hnext := hreads.step (.item hitem)
    cases first with
    | none =>
      rw [Option.toList_none, List.append_nil] at hnext
      exact ih hnext hmore hc
    | some d =>
      cases i with
      | zero =>
        cases hc
        exact ⟨t, ts, rest, by simpa using hreads, hitem⟩
      | succ i =>
        obtain ⟨t', rest', after, hreads', hitem'⟩ := ih hnext hmore hc
        refine ⟨t', rest', after, ?_, hitem'⟩
        rwa [List.append_assoc] at hreads'

/-- Each method is read at a place inside its class, after those that are declared before it. The
induction is on the members that are read. -/
theorem exists_reads_method {line j : Nat} {name : String} {isPublic : Bool}
    {before methods : List Method}
    (hreads : Reads last all (.inside earlier ⟨name, line, isPublic, before⟩) ts)
    (h : classBody last line name isPublic ts = .ok (methods, rest)) (hm : methods[j]? = some m) :
    ∃ isPublic t ts after,
      Reads last all (.inside earlier ⟨name, line, isPublic, before ++ methods.take j⟩)
        (t :: ts) ∧
      bodyItem last name isPublic t ts = .ok (.method m, after) := by
  fun_induction classBody last line name isPublic ts generalizing before methods rest j with
  | case1 => cases h
  | case2 => cases h
  | case3 =>
    cases h
    cases hm
  | case4 isPublic t ts isPublic' rest' hitem ih =>
    exact ih (hreads.add hitem (by simp)) h hm
  | case5 isPublic t ts rest' hitem ih =>
    exact ih (hreads.add hitem (by simp)) h hm
  | case6 isPublic t ts first rest' hitem ih =>
    obtain ⟨⟨more, rest''⟩, hmore, hresult⟩ := Success.map_eq_ok_iff.1 h
    cases hresult
    cases j with
    | zero =>
      cases hm
      exact ⟨isPublic, t, ts, rest', by simpa using hreads, hitem⟩
    | succ j =>
      obtain ⟨isPublic', t', ts', after, hreads', hitem'⟩ :=
        ih (hreads.add hitem (by simp)) hmore hm
      refine ⟨isPublic', t', ts', after, ?_, hitem'⟩
      rwa [List.append_assoc] at hreads'

end

/-! ### Declarations and their places -/

section

variable {source front : List Char} {found earlier : List Class} {c : Class} {m : Method}
  {i j : Nat}

/-- What a header of some tokens declares, each class is read at its place. -/
theorem exists_reads_of_classes (h : classes source = .ok found) (hc : found[i]? = some c) :
    ∃ all t ts after, tokens source = .ok all ∧
      Reads (lastLine all) all (.outside (found.take i)) (t :: ts) ∧
      topItem (lastLine all) t ts = .ok (some c, after) := by
  cases hall : tokens source with
  | error e =>
    rw [classes, hall] at h
    cases h
  | ok all =>
    rw [classes_of_tokens hall] at h
    obtain ⟨t, ts, after, hreads, hitem⟩ := exists_reads_class .start h hc
    exact ⟨all, t, ts, after, rfl, hreads, hitem⟩

/-- Each class stands somewhere in the header, after those that are read before it. -/
theorem exists_classStandsBehind (h : classes source = .ok found) (hc : found[i]? = some c) :
    ∃ front, ClassStandsBehind source front (found.take i) c := by
  obtain ⟨all, t, ts, after, hall, hreads, hitem⟩ := exists_reads_of_classes h hc
  obtain ⟨pre, hsplit, -⟩ := exists_of_reads hreads
  obtain ⟨front, hbegins⟩ := exists_beginsBehind (hsplit ▸ hall)
  exact ⟨front, all, t, ts, after, hall, hbegins, hreads, hitem⟩

/-- Each method stands somewhere in its class, after those that are read before it. -/
theorem exists_methodStandsBehind (h : classes source = .ok found) (hc : found[i]? = some c)
    (hm : c.methods[j]? = some m) :
    ∃ front isPublic, MethodStandsBehind source front (found.take i)
      ⟨c.name, c.line, isPublic, c.methods.take j⟩ m := by
  obtain ⟨all, t, ts, behind, hall, hreads, hitem⟩ := exists_reads_of_classes h hc
  obtain ⟨body, rest, hopens, hline, hbody⟩ := exists_opensClass?_of_topItem hitem
  obtain ⟨isPublic, u, us, after, hreads', hitem'⟩ :=
    exists_reads_method (hreads.step (.enter hopens)) hbody hm
  rw [List.nil_append, ← hline] at hreads'
  obtain ⟨pre, hsplit, -⟩ := exists_of_reads hreads'
  obtain ⟨front, hbegins⟩ := exists_beginsBehind (hsplit ▸ hall)
  exact ⟨front, isPublic, all, u, us, after, hall, hbegins, hreads', hitem'⟩

/-- The line of a class is the physical line on which its first character stands. -/
theorem ClassStandsBehind.line_eq (h : ClassStandsBehind source front earlier c) :
    c.line = lineBehind front := by
  obtain ⟨all, t, ts, after, hall, hbegins, hreads, hitem⟩ := h
  obtain ⟨pre, hsplit, -⟩ := exists_of_reads hreads
  obtain ⟨-, -, -, hline, -⟩ := exists_opensClass?_of_topItem hitem
  rw [hline, hbegins.line_eq (hsplit ▸ hall)]

/-- The line of a method is the physical line on which its first character stands. -/
theorem MethodStandsBehind.line_eq {c : OpenClass}
    (h : MethodStandsBehind source front earlier c m) : m.line = lineBehind front := by
  obtain ⟨all, t, ts, after, hall, hbegins, hreads, hitem⟩ := h
  obtain ⟨pre, hsplit, -⟩ := exists_of_reads hreads
  rw [line_eq_of_bodyItem hitem, hbegins.line_eq (hsplit ▸ hall)]

theorem ClassStandsBehind.exists_append (h : ClassStandsBehind source front earlier c) :
    ∃ rest, source = front ++ rest := by
  obtain ⟨all, t, ts, after, -, hbegins, -⟩ := h
  exact hbegins.exists_append

theorem MethodStandsBehind.exists_append {c : OpenClass}
    (h : MethodStandsBehind source front earlier c m) : ∃ rest, source = front ++ rest := by
  obtain ⟨all, t, ts, after, -, hbegins, -⟩ := h
  exact hbegins.exists_append

end

end Instrument.Header
