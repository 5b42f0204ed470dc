import Instrument.Proofs.Interface.CommentedLines
import Instrument.Proofs.Interface.WellFormed

/-!
Headers with comments. Main statement: without its comments a header describes what it did, or is
refused in the same way, if no number sign among its tokens stands first on its line but for
comments, and comments leave alone the line above each method that can be an operation; and if it
describes anything, only then. Both follow from the tokens and the pragmas of a header, each of
which stay as they were under its own condition and under no other.
-/

namespace Instrument.Interface

open Header (NoLeadingSign classes lexemes tokens uncommented)
open Success

/-! ### Directives and what is not blank in them -/

namespace Directive

theorem visible_referenceText (name : String) :
    Text.visible (referenceText name) =
      "arg\x7b".toList ++ (Text.visible name.toList ++ ['}']) := by
  have hstart : Text.visible "arg\x7b".toList = "arg\x7b".toList :=
    Text.visible_of_forall (by decide)
  have hend : Text.visible ['}'] = ['}'] := Text.visible_of_forall (by decide)
  rw [referenceText, Text.visible_append, Text.visible_append, hstart, hend]

theorem visible_text (d : Directive) :
    Text.visible d.text = d.keyword.toList ++ Text.visible d.parameterText := by
  rw [text, Text.visible_append, Text.visible_of_forall (isWord_keyword d).notBlank]
  split
  · next hempty => rw [List.isEmpty_iff.1 hempty]
  · rw [Text.visible_cons_of_isBlank (by decide)]

theorem visible_of_reference {word : List Char} {name : String}
    (h : reference word = .ok name) : Text.visible word = Text.visible (referenceText name) := by
  unfold reference at h
  extract_lets name? at h
  cases hfound : name? with
  | none =>
    rw [hfound] at h
    cases h
  | some found =>
    rw [hfound] at h
    obtain rfl := Except.ok.inj h
    simp only [name?, bind, Option.bind_eq_some_iff] at hfound
    obtain ⟨rest, hstart, inside, hend, hname⟩ := hfound
    split at hname
    · cases hname
    obtain rfl := Option.some.inj hname
    have hword : word = referenceText (String.ofList inside) := by
      rw [referenceText, Text.after?_eq_some_iff.1 hstart, Text.before?_eq_some_iff.1 hend,
        String.toList_ofList (l := inside)]
    rw [hword, visible_referenceText, visible_referenceText, String.toList_ofList (l := inside),
      String.toList_ofList (l := Text.trim inside), Text.visible_trim]

/-- A directive has, blanks aside, no other text than the one in which it is written. -/
theorem visible_of_ofText {cs : List Char} {d : Directive} (h : ofText cs = .ok d) :
    Text.visible cs = Text.visible d.text := by
  unfold ofText at h
  extract_lets text keyword rest at h
  have hcs : Text.visible cs = keyword.toList ++ Text.visible rest := by
    have hkeyword : ∀ c ∈ text.takeWhile fun c => !Text.isBlank c, Text.isBlank c = false := by
      intro c hc
      simpa using List.all_eq_true.1 List.all_takeWhile c hc
    rw [← Text.visible_trim cs, Text.visible_trim (List.dropWhile _ _), String.toList_ofList,
      ← Text.visible_of_forall hkeyword, ← Text.visible_append, List.takeWhile_append_dropWhile]
  -- one case for each keyword; only the transfers keep their parameters
  clear_value keyword rest
  rw [hcs, visible_text]
  split at h
  · split at h
    · next hrest =>
      cases h
      rw [List.isEmpty_iff.1 hrest]
      rfl
    · cases h
  · split at h
    · next hrest =>
      cases h
      rw [List.isEmpty_iff.1 hrest]
      rfl
    · cases h
  · cases h
    split
    · next hrest =>
      rw [List.isEmpty_iff.1 hrest]
      rfl
    · rw [parameterText, String.toList_ofList (l := rest)]
      rfl
  · split at h
    · next pointer length hwords =>
      simp only [bind_eq_ok_iff, pure_eq_ok_iff] at h
      obtain ⟨first, hfirst, second, hsecond, rfl⟩ := h
      have hrest := Text.flatten_words rest
      rw [hwords, List.flatten_cons, List.flatten_cons, List.flatten_nil, List.append_nil] at hrest
      have hvisible : Text.visible (Text.visible rest) = Text.visible rest :=
        Text.visible_of_forall fun c hc => by simpa using (List.mem_filter.1 hc).2
      rw [← hvisible, ← hrest, Text.visible_append, visible_of_reference hfirst,
        visible_of_reference hsecond, parameterText, Text.visible_append,
        Text.visible_cons_of_isBlank (by decide)]
      rfl
    · cases h
  · cases h

/-- Directives that no method under them survives as an operation differ in what is not blank, also
where part of it is gone. -/
theorem eq_of_visible_sublist {d d' : Directive} (h : ¬MakesOperation (some d))
    (h' : ¬MakesOperation (some d')) (hsub : (Text.visible d'.text).Sublist (Text.visible d.text)) :
    d' = d := by
  have hall : ∀ d, ¬MakesOperation (some d) → d = exclude ∨ d = healthCheck := by
    intro d hd
    by_contra hother
    rw [not_or] at hother
    exact hd ⟨fun hsame => hother.1 (Option.some.inj hsame),
      fun hsame => hother.2 (Option.some.inj hsame)⟩
  rcases hall d h with rfl | rfl <;> rcases hall d' h' with rfl | rfl
  · rfl
  · exact absurd hsub (by decide)
  · exact absurd hsub (by decide)
  · rfl

end Directive

/-! ### What a class declares under two lists of pragmas -/

section

variable {all all' : List Pragma} {c : Header.Class} {d : Description}

/-- What is found so far stays, and each method that can be an operation is one, as the directive
above it says. -/
theorem exists_of_foldlM_addMethod {ms : List Header.Method} (hms : ∀ m ∈ ms, m ∈ c.methods)
    {draft draft' : Draft} (h : ms.foldlM (Draft.addMethod all c.name) draft = .ok draft') :
    (∀ op ∈ draft.operations, op ∈ draft'.operations) ∧
      ∀ m ∈ ms, isCandidate c.name m = true → ∃ directive?,
        directiveAbove? all m.line = .ok directive? ∧
          (MakesOperation directive? → ∃ op ∈ draft'.operations, op.line = m.line) := by
  induction ms generalizing draft with
  | nil =>
    cases h
    simp
  | cons m ms ih =>
    rw [List.forall_mem_cons] at hms
    rw [List.foldlM_cons, bind_eq_ok_iff] at h
    obtain ⟨next, hnext, hrest⟩ := h
    obtain ⟨hkept, hlater⟩ := ih hms.2 hrest
    rw [List.forall_mem_cons]
    rcases addMethod_cases hms.1 hnext with ⟨hcandidate, rfl⟩ | ⟨directive?, hsource, hadd⟩
    · exact ⟨hkept, fun hc => absurd hc (Bool.eq_false_iff.1 hcandidate), hlater⟩
    rcases operations_of_add hadd with ⟨hmakes, hsame⟩ | ⟨-, op, hop, -, -, hmore⟩
    · exact ⟨hsame ▸ hkept, fun _ => ⟨directive?, hsource.above, fun hc => absurd hc hmakes⟩,
        hlater⟩
    · rw [hmore, List.forall_mem_append, List.forall_mem_singleton] at hkept
      exact ⟨hkept.1, fun _ => ⟨directive?, hsource.above,
        fun _ => ⟨op, hkept.2, line_of_operation hop⟩⟩, hlater⟩

/-- The directive above a method that is an operation lets it be one. -/
theorem makesOperation_of_mem (h : Description.ofClass all c = .ok d) :
    ∀ op ∈ d.operations, ∃ directive?, directiveAbove? all op.line = .ok directive? ∧
      MakesOperation directive? := by
  simp only [Description.ofClass, bind_eq_ok_iff, pure_eq_ok_iff] at h
  obtain ⟨draft, hdraft, rfl⟩ := h
  refine foldlM_induction (P := fun draft => ∀ op ∈ draft.operations, ∃ directive?,
    directiveAbove? all op.line = .ok directive? ∧ MakesOperation directive?) ?_ (by simp) hdraft
  intro draft method hmethod draft' hoperations hadd
  rcases addMethod_cases hmethod hadd with ⟨-, rfl⟩ | ⟨directive?, hsource, hadd⟩
  · exact hoperations
  rcases operations_of_add hadd with ⟨-, hsame⟩ | ⟨hmakes, op, hop, -, -, hmore⟩
  · rwa [hsame]
  · rw [hmore, List.forall_mem_append, List.forall_mem_singleton, line_of_operation hop]
    exact ⟨hoperations, directive?, hsource.above, hmakes⟩

/-- Each method that can be an operation stands under a directive, or under none, and is one if
that lets it be. -/
theorem exists_directive_of_ofClass (h : Description.ofClass all c = .ok d) {m : Header.Method}
    (hm : m ∈ c.methods) (hcandidate : isCandidate c.name m = true) :
    ∃ directive?, directiveAbove? all m.line = .ok directive? ∧
      (MakesOperation directive? ↔ ∃ op ∈ d.operations, op.line = m.line) := by
  have hmakes := makesOperation_of_mem h
  simp only [Description.ofClass, bind_eq_ok_iff, pure_eq_ok_iff] at h
  obtain ⟨draft, hdraft, rfl⟩ := h
  obtain ⟨directive?, habove, hop⟩ :=
    (exists_of_foldlM_addMethod (fun _ => id) hdraft).2 m hm hcandidate
  refine ⟨directive?, habove, hop, ?_⟩
  rintro ⟨op, hmem, hline⟩
  obtain ⟨other, hother, hmakes⟩ := hmakes op hmem
  rw [hline, habove] at hother
  cases hother
  exact hmakes

/-- The directive above an operation is told from what is described of it. -/
theorem directiveAbove?_of_hasTransfer {op : Operation} {directive : Directive}
    (hresult : op.HasResult all) (hresult' : op.HasResult all') (htransfer : op.HasTransfer all)
    (htransfer' : op.HasTransfer all') (hmakes : MakesOperation (some directive))
    (habove : directiveAbove? all op.line = .ok (some directive)) :
    directiveAbove? all' op.line = .ok (some directive) := by
  cases directive with
  | exclude => exact absurd rfl hmakes.1
  | healthCheck => exact absurd rfl hmakes.2
  | readArray length =>
    obtain ⟨length', habove'⟩ := hresult'.readArray.1 (hresult.readArray.2 ⟨length, habove⟩)
    rw [habove', ← hresult.annotated length habove, hresult'.annotated length' habove']
  | writeArray pointer length =>
    obtain ⟨b, hb⟩ := Option.isSome_iff_exists.1 (htransfer.buffer pointer length habove)
    rw [htransfer'.annotated b hb, ← htransfer.annotated b hb, habove]

/-- Under two lists of pragmas a class is described in the same way only if above each method that
can be an operation stands the same directive, or one that lets it be none in either. -/
theorem directives_of_ofClass (h : Description.ofClass all c = .ok d)
    (h' : Description.ofClass all' c = .ok d) {m : Header.Method} (hm : m ∈ c.methods)
    (hcandidate : isCandidate c.name m = true) :
    ∃ directive? directive?', directiveAbove? all m.line = .ok directive? ∧
      directiveAbove? all' m.line = .ok directive?' ∧
      (directive?' = directive? ∨ ¬MakesOperation directive? ∧ ¬MakesOperation directive?') := by
  obtain ⟨directive?, habove, hmakes⟩ := exists_directive_of_ofClass h hm hcandidate
  obtain ⟨directive?', habove', hmakes'⟩ := exists_directive_of_ofClass h' hm hcandidate
  refine ⟨directive?, directive?', habove, habove', ?_⟩
  -- an operation of the description tells its directive by its result and transfer
  by_cases hop : ∃ op ∈ d.operations, op.line = m.line
  · refine .inl ?_
    obtain ⟨op, hop, hline⟩ := hop
    obtain ⟨method, _, hsource, hdeclared⟩ := exists_isSource h hop
    obtain ⟨method', _, hsource', hdeclared'⟩ := exists_isSource h' hop
    have hresult := hasResult_of_operation hsource hdeclared
    have hresult' := hasResult_of_operation hsource' hdeclared'
    have htransfer := hasTransfer_of_operation hsource ⟨all, c, d, h, hop⟩ hdeclared
    have htransfer' := hasTransfer_of_operation hsource' ⟨all', c, d, h', hop⟩ hdeclared'
    rw [← hline] at habove habove'
    cases directive? with
    | some directive =>
      have hsame := directiveAbove?_of_hasTransfer hresult hresult' htransfer htransfer'
        (hmakes.2 ⟨op, hop, hline⟩) habove
      exact Except.ok.inj (habove'.symm.trans hsame)
    | none =>
      cases directive?' with
      | none => rfl
      | some directive =>
        have hsame := directiveAbove?_of_hasTransfer hresult' hresult htransfer' htransfer
          (hmakes'.2 ⟨op, hop, hline⟩) habove'
        exact Except.ok.inj (hsame.symm.trans habove)
  · exact .inr ⟨mt hmakes.1 hop, mt hmakes'.1 hop⟩

/-- What a class declares depends on nothing but the pragmas above its methods that can be
operations. -/
theorem ofClass_congr (h : ∀ m ∈ c.methods, isCandidate c.name m = true →
      pragmaAbove? all' m.line = pragmaAbove? all m.line) :
    Description.ofClass all' c = Description.ofClass all c := by
  have hadd : c.methods.foldlM (Draft.addMethod all' c.name) ({} : Draft) =
      c.methods.foldlM (Draft.addMethod all c.name) {} := by
    refine foldlM_congr (fun draft m hm => ?_) _
    rw [Draft.addMethod, Draft.addMethod]
    split
    · next hcandidate => rw [directiveAbove?, directiveAbove?, h m hm hcandidate]
    · rfl
  rw [Description.ofClass, Description.ofClass, hadd]

end

/-! ### Headers without their comments -/

/-- Whether comments leave alone the line above each method of some classes that can be an
operation. -/
def KeepsPragmas («namespace» source : List Char) (found : List Header.Class) : Prop :=
  ∀ c ∈ found, ∀ m ∈ c.methods, isCandidate c.name m = true → 2 ≤ m.line →
    IsPlainLine «namespace» source (m.line - 2)

instance («namespace» source : List Char) (found : List Header.Class) :
    Decidable (KeepsPragmas «namespace» source found) :=
  inferInstanceAs (Decidable (∀ c ∈ found, ∀ m ∈ c.methods, _ → _ → _))

section

variable {«namespace» source : List Char}

/-- The directive above a line is read from what the line before it holds. -/
theorem directiveAt?_of_directiveAbove? {n : Nat} {directive? : Option Directive}
    (h : directiveAbove? (pragmas «namespace» source) (n + 2) = .ok directive?) :
    match directive? with
    | none => directiveAt? «namespace» source n = none
    | some d => ∃ text, directiveAt? «namespace» source n = some text ∧
        Directive.ofText text = .ok d := by
  rw [directiveAbove?, pragmaAbove?_pragmas] at h
  cases hat : directiveAt? «namespace» source n with
  | none =>
    rw [hat] at h
    cases h
    rfl
  | some text =>
    simp only [hat, Option.map_some, String.toList_ofList] at h
    split at h
    · next hd =>
      cases h
      exact ⟨text, rfl, hd⟩
    · cases h

/-- Directives that are read with comments and without are on a line that comments leave alone, if
they are the same, or let no method under them be an operation. -/
theorem isPlainLine_of_directives {n : Nat} {directive? directive?' : Option Directive}
    (h : directiveAbove? (pragmas «namespace» source) (n + 2) = .ok directive?)
    (h' : directiveAbove? (pragmas «namespace» (uncommented source)) (n + 2) = .ok directive?')
    (hsame : directive?' = directive? ∨ ¬MakesOperation directive? ∧ ¬MakesOperation directive?') :
    IsPlainLine «namespace» source n := by
  have hnone : MakesOperation none := by constructor <;> intro heq <;> cases heq
  have hat := directiveAt?_of_directiveAbove? h
  have hat' := directiveAt?_of_directiveAbove? h'
  cases directive? with
  | none =>
    rcases hsame with rfl | ⟨hmakes, -⟩
    · exact .inr ⟨hat, hat'⟩
    · exact absurd hnone hmakes
  | some d =>
    cases directive?' with
    | none =>
      rcases hsame with heq | ⟨-, hmakes⟩
      · cases heq
      · exact absurd hnone hmakes
    | some d' =>
      obtain ⟨text, htext, hd⟩ := hat
      obtain ⟨text', htext', hd'⟩ := hat'
      have hvisible := Directive.visible_of_ofText hd
      have hvisible' := Directive.visible_of_ofText hd'
      -- both directives make operations and show the same characters, so they are one
      have hdirective : d' = d := by
        rcases hsame with heq | ⟨hmakes, hmakes'⟩
        · exact Option.some.inj heq
        · refine Directive.eq_of_visible_sublist hmakes hmakes' ?_
          rw [← hvisible, ← hvisible']
          exact visible_sublist_of_directiveAt? htext htext'
      exact isPlainLine_of_visible htext htext' (by rw [hvisible, hvisible', hdirective])

/-- Above a method stands the same pragma without the comments, if they leave alone the line above
it. -/
theorem KeepsPragmas.pragmaAbove? {found : List Header.Class}
    (h : KeepsPragmas «namespace» source found) {c : Header.Class} (hc : c ∈ found)
    {m : Header.Method} (hm : m ∈ c.methods) (hcandidate : isCandidate c.name m = true) :
    Interface.pragmaAbove? (pragmas «namespace» (uncommented source)) m.line =
      Interface.pragmaAbove? (pragmas «namespace» source) m.line := by
  by_cases hline : 2 ≤ m.line
  · have hplain := h c hc m hm hcandidate hline
    rwa [← pragmaAbove?_uncommented_iff, Nat.sub_add_cancel hline] at hplain
  · rw [pragmaAbove?_eq_none (Nat.not_le.1 hline), pragmaAbove?_eq_none (Nat.not_le.1 hline)]

end

section

variable {space origin source : String} {found : List Header.Class}

/-- What a header describes that declares some classes. -/
theorem descriptions_eq_mapM (hclasses : classes source.toList = .ok found) (hne : found ≠ []) :
    descriptions space origin source =
      found.mapM (Description.ofClass (pragmas space.toList source.toList)) := by
  rw [descriptions, hclasses]
  cases found with
  | nil => exact absurd rfl hne
  | cons c found => rfl

theorem classes_uncommented {source : List Char}
    (h : NoLeadingSign true (lexemes true source)) :
    classes (uncommented source) = classes source := by
  rw [classes, Header.tokens_uncommented h, classes]

theorem descriptions_uncommented_eq (hsign : NoLeadingSign true (lexemes true source.toList))
    (hkeeps : ∀ found, classes source.toList = .ok found →
      KeepsPragmas space.toList source.toList found) :
    descriptions space origin (String.ofList (uncommented source.toList)) =
      descriptions space origin source := by
  rw [descriptions, descriptions, String.toList_ofList, classes_uncommented hsign]
  cases hclasses : classes source.toList with
  | error e => rfl
  | ok found =>
    cases found with
    | nil => rfl
    | cons first found =>
      refine mapM_congr fun c hc => ?_
      exact ofClass_congr fun m hm hcandidate =>
        (hkeeps _ hclasses).pragmaAbove? hc hm hcandidate

theorem keepsPragmas_of_descriptions (hsign : NoLeadingSign true (lexemes true source.toList))
    (hclasses : classes source.toList = .ok found) {ds : List Description}
    (h : descriptions space origin source = .ok ds)
    (h' : descriptions space origin (String.ofList (uncommented source.toList)) = .ok ds) :
    KeepsPragmas space.toList source.toList found := by
  intro c hc m hm hcandidate hline
  have hclasses' : classes (String.ofList (uncommented source.toList)).toList = .ok found := by
    rw [String.toList_ofList, classes_uncommented hsign, hclasses]
  rw [descriptions_eq_mapM hclasses (List.ne_nil_of_mem hc)] at h
  rw [descriptions_eq_mapM hclasses' (List.ne_nil_of_mem hc), String.toList_ofList] at h'
  obtain ⟨d, hd, hd'⟩ := exists_of_mapM_eq h h' c hc
  obtain ⟨directive?, directive?', habove, habove', hsame⟩ :=
    directives_of_ofClass hd hd' hm hcandidate
  rw [← Nat.sub_add_cancel hline] at habove habove'
  exact isPlainLine_of_directives habove habove' hsame

end

/-- What comments can change. A header without them has the tokens that it had, or fails in the
same way, if no number sign among the tokens stands first on its line but for comments; and if it
has tokens, only then. Above a line stands the pragma that stood there if and only if comments leave
alone the line of the pragma. So what is described is the same, or refused in the same way, if they
do above each method that can be an operation; and if anything is described, only then. -/
theorem descriptions_uncommented (space origin source : String) :
    (NoLeadingSign true (lexemes true source.toList) →
      tokens (uncommented source.toList) = tokens source.toList) ∧
    (∀ ts, tokens source.toList = .ok ts →
      (tokens (uncommented source.toList) = .ok ts ↔
        NoLeadingSign true (lexemes true source.toList))) ∧
    (∀ n, pragmaAbove? (pragmas space.toList (uncommented source.toList)) (n + 2) =
        pragmaAbove? (pragmas space.toList source.toList) (n + 2) ↔
      IsPlainLine space.toList source.toList n) ∧
    (NoLeadingSign true (lexemes true source.toList) →
      (∀ found, classes source.toList = .ok found →
        KeepsPragmas space.toList source.toList found) →
      descriptions space origin (String.ofList (uncommented source.toList)) =
        descriptions space origin source) ∧
    (NoLeadingSign true (lexemes true source.toList) →
      ∀ found ds, classes source.toList = .ok found → descriptions space origin source = .ok ds →
        (descriptions space origin (String.ofList (uncommented source.toList)) = .ok ds ↔
          KeepsPragmas space.toList source.toList found)) := by
  refine ⟨Header.tokens_uncommented, fun ts => Header.tokens_uncommented_eq_ok_iff,
    fun n => pragmaAbove?_uncommented_iff, descriptions_uncommented_eq, ?_⟩
  intro hsign found ds hclasses hds
  refine ⟨keepsPragmas_of_descriptions hsign hclasses hds, fun hkeeps => ?_⟩
  rw [descriptions_uncommented_eq hsign, hds]
  intro found' hclasses'
  cases hclasses.symm.trans hclasses'
  exact hkeeps

/-- A shutter with comments, one of them behind a declaration and none on the line of the pragma. -/
def shutterSource : String :=
  "class Shutter \x7b\n  public:\n    /* void lock();\n       void unlock(); */\n" ++
    "    #pragma devlink exclude\n    void open(); // at once\n    void close();\n\x7d;\n"

/-- What the header of the shutter declares. -/
def shutterClass : Header.Class :=
  ⟨"Shutter", 1, [⟨"open", 6, "void", [], true⟩, ⟨"close", 7, "void", [], true⟩]⟩

/-- An operation that has neither result nor parameters. -/
def bareOperation (name tag : String) (id : UInt16) (line : Nat) : Operation :=
  ⟨name, tag, id, "void", .void, .write, [], none, none, line⟩

/-- What the header of the shutter describes. -/
def shutter : Description := ⟨"Shutter", "SHUTTER", 0, [bareOperation "close" "CLOSE" 0 7], none⟩

theorem descriptions_uncommented_shutter :
    NoLeadingSign true (lexemes true shutterSource.toList) ∧
      classes shutterSource.toList = .ok [shutterClass] ∧
      KeepsPragmas "devlink".toList shutterSource.toList [shutterClass] ∧
      descriptions "devlink" "shutter.hpp" shutterSource = .ok [shutter] ∧
      descriptions "devlink" "shutter.hpp" (String.ofList (uncommented shutterSource.toList)) =
        .ok [shutter] := by
  have hsign : NoLeadingSign true (lexemes true shutterSource.toList) := by decide +kernel
  have hclasses : classes shutterSource.toList = .ok [shutterClass] := by
    rw [← toOption_eq_some_iff]
    decide +kernel
  have hkeeps : KeepsPragmas "devlink".toList shutterSource.toList [shutterClass] := by
    decide +kernel
  have hshutter : descriptions "devlink" "shutter.hpp" shutterSource = .ok [shutter] := by
    rw [← toOption_eq_some_iff]
    decide +kernel
  obtain ⟨-, -, -, -, hiff⟩ := descriptions_uncommented "devlink" "shutter.hpp" shutterSource
  exact ⟨hsign, hclasses, hkeeps, hshutter, (hiff hsign _ _ hclasses hshutter).2 hkeeps⟩

/-- A pump with a pragma in a comment that ends in front of a method. -/
def pumpCommentedSource : String :=
  "class Pump \x7b\n  public:\n    /*\n    #pragma devlink exclude\n    */ void start();\n" ++
    "    void stop();\n\x7d;\n"

/-- The pragma in the comment counts: the method is no operation, and is one without the
comment. -/
theorem descriptions_pump_commented :
    (descriptions "devlink" "pump.hpp" pumpCommentedSource =
      .ok [⟨"Pump", "PUMP", 0, [bareOperation "stop" "STOP" 0 6], none⟩]) ∧
    (String.ofList (uncommented pumpCommentedSource.toList) =
      "class Pump \x7b\n  public:\n      \n                           \n       void start();\n" ++
        "    void stop();\n\x7d;\n") ∧
    descriptions "devlink" "pump.hpp" (String.ofList (uncommented pumpCommentedSource.toList)) =
      .ok [⟨"Pump", "PUMP", 0,
        [bareOperation "start" "START" 0 5, bareOperation "stop" "STOP" 1 6], none⟩] := by
  rw [← toOption_eq_some_iff, ← toOption_eq_some_iff]
  decide +kernel

end Instrument.Interface
