import Instrument.Proofs.Interface.Annotation
import Instrument.Proofs.Interface.DeviceNames
import Instrument.Proofs.Interface.WrittenOperation

/-!
Descriptions of written headers. Main statement: a header of classes whose methods keep the rules of
the directives above them is described as its parts tell, class by class and operation by operation.
-/

namespace Instrument.Interface

open Header (AnnotatedMethod AnnotatedClass WrittenParameter Line headerLines placed placedClasses
  lineText)

/-! ### Descriptions that classes tell -/

/-- The operations that methods tell with their first lines, numbered in order. -/
def operationsOf (ms : List (AnnotatedMethod Directive × Nat)) : List Operation :=
  (ms.filter fun m => isOperation m.1.above?).zipIdx.map fun m => operationOf m.1.1 m.1.2 m.2

/-- The health check that methods tell. -/
def healthCheckOf (ms : List (AnnotatedMethod Directive × Nat)) : Option String :=
  (ms.find? fun m => m.1.above? == some .healthCheck).map (·.1.method.name)

/-- The description that a class tells which begins on line `start`. -/
def descriptionOf (c : AnnotatedClass Directive) (start : Nat) : Description where
  name := c.name
  tag := deviceTag c.name
  id := 0
  operations := operationsOf (c.placedMethods start)
  healthCheck? := healthCheckOf (c.placedMethods start)

/-- The text of a header. -/
def headerText («namespace» : String) (cs : List (AnnotatedClass Directive)) : String :=
  String.ofList (lineText (headerLines (Directive.pragmaText «namespace».toList) cs))

example : headerText "devlink" [⟨"Pump", [⟨some .exclude, ⟨⟨.void, false, false⟩, "halt", []⟩⟩]⟩] =
    "class Pump \x7b\n  public:\n    #pragma devlink exclude\n    void halt();\n\x7d;\n" := by
  decide +kernel

/-- The descriptions that the classes of a header tell. -/
def descriptionsOf (cs : List (AnnotatedClass Directive)) : List Description :=
  (placedClasses cs).map fun c => descriptionOf c.1 c.2

/-- Whether the methods of a class can be written and keep all rules. -/
structure AreDescribable (className : String) (ms : List (AnnotatedMethod Directive)) : Prop where
  method : ∀ m ∈ ms, m.method.IsWritable
  above : ∀ m ∈ ms, ∀ d ∈ m.above?, d.IsWritable
  allowed : ∀ m ∈ ms, IsAllowed m.above? m.method
  name : ∀ m ∈ ms, m.method.name ≠ className
  distinct : (ms.map (·.method.name)).Nodup
  healthCheck : (ms.filter fun m => m.above? == some .healthCheck).length ≤ 1
  count : (ms.filter fun m => isOperation m.above?).length ≤ UInt16.size

instance (className : String) (ms : List (AnnotatedMethod Directive)) :
    Decidable (AreDescribable className ms) :=
  decidable_of_iff ((∀ m ∈ ms, m.method.IsWritable) ∧ (∀ m ∈ ms, ∀ d ∈ m.above?, d.IsWritable) ∧
      (∀ m ∈ ms, IsAllowed m.above? m.method) ∧ (∀ m ∈ ms, m.method.name ≠ className) ∧
      (ms.map (·.method.name)).Nodup ∧
      (ms.filter fun m => m.above? == some .healthCheck).length ≤ 1 ∧
      (ms.filter fun m => isOperation m.above?).length ≤ UInt16.size)
    ⟨fun ⟨hmethod, habove, hallowed, hname, hdistinct, hhealthCheck, hcount⟩ =>
        ⟨hmethod, habove, hallowed, hname, hdistinct, hhealthCheck, hcount⟩,
      fun h => ⟨h.method, h.above, h.allowed, h.name, h.distinct, h.healthCheck, h.count⟩⟩

/-- Whether a class can be written and keeps all rules. -/
structure IsDescribable (c : AnnotatedClass Directive) : Prop where
  name : Header.IsName c.name
  methods : AreDescribable c.name c.methods

instance (c : AnnotatedClass Directive) : Decidable (IsDescribable c) :=
  decidable_of_iff (Header.IsName c.name ∧ AreDescribable c.name c.methods)
    ⟨fun h => ⟨h.1, h.2⟩, fun h => ⟨h.name, h.methods⟩⟩

/-! ### The directive above a method -/

/-- Whether a line is code. -/
def isCode : Line → Bool
  | .code _ => true
  | .directive _ => false

/-- Where an item stands among the lines of all; what stands before it ends with code. -/
theorem exists_of_mem_placed {β : Type} {height : β → Nat} {lines : β → List Line}
    (hheight : ∀ b, (lines b).length = height b)
    (hcode : ∀ b, (lines b).getLast?.any isCode = true) {start line : Nat} {b : β} {bs : List β}
    (h : (b, line) ∈ placed height start bs) :
    ∃ before after, bs.flatMap lines = before ++ (lines b ++ after) ∧
      line = start + before.length ∧ before.getLast?.all isCode = true := by
  induction bs generalizing start with
  | nil => cases h
  | cons b' bs ih =>
    rcases List.mem_cons.1 h with heq | h
    · cases heq
      exact ⟨[], bs.flatMap lines, by simp, rfl, rfl⟩
    · obtain ⟨before, after, hlines, hline, hlast⟩ := ih h
      refine ⟨lines b' ++ before, after, ?_, ?_, ?_⟩
      · rw [List.flatMap_cons, hlines, List.append_assoc]
      · rw [List.length_append, hheight, hline]
        omega
      · obtain ⟨l, hl, hcode'⟩ := (Option.any_eq_true ..).1 (hcode b')
        cases hbefore : before.getLast? with
        | none => simp [List.getLast?_append, hbefore, hl, hcode']
        | some l' =>
          rw [hbefore] at hlast
          simpa [List.getLast?_append, hbefore] using hlast

section

variable (spell : Directive → List Char)

theorem isCode_lines (m : AnnotatedMethod Directive) :
    (m.lines spell).getLast?.any isCode = true := by
  rw [AnnotatedMethod.lines, List.getLast?_concat]
  rfl

theorem isCode_class (c : AnnotatedClass Directive) :
    (c.lines spell).getLast?.any isCode = true := by
  rw [AnnotatedClass.lines, ← List.cons_append, ← List.cons_append, List.getLast?_concat]
  rfl

/-- Where a method stands in a header; the line before it is code. -/
theorem exists_of_mem_placedMethods {cs : List (AnnotatedClass Directive)}
    {c : AnnotatedClass Directive} {line start : Nat} {m : AnnotatedMethod Directive}
    (hc : (c, line) ∈ placedClasses cs) (hm : (m, start) ∈ c.placedMethods line) :
    ∃ before l after, headerLines spell cs = before ++ l :: (m.lines spell ++ after) ∧
      start = before.length + 2 ∧ isCode l = true := by
  obtain ⟨before, after, hlines, hline, -⟩ :=
    exists_of_mem_placed AnnotatedClass.length_lines (isCode_class spell) hc
  obtain ⟨before', after', hlines', hstart, hlast⟩ :=
    exists_of_mem_placed AnnotatedMethod.length_lines (isCode_lines spell) hm
  have hclass : c.lines spell = c.opening :: AnnotatedClass.access ::
      (before' ++ (m.lines spell ++ (after' ++ [AnnotatedClass.closing]))) := by
    rw [AnnotatedClass.lines, hlines', List.append_assoc, List.append_assoc]
  have hall : headerLines spell cs = before ++ (c.opening :: AnnotatedClass.access ::
      (before' ++ (m.lines spell ++ (after' ++ [AnnotatedClass.closing])))) ++ after := by
    rw [headerLines, hlines, hclass, List.append_assoc]
  rcases List.eq_nil_or_concat before' with rfl | ⟨front, l, rfl⟩
  · refine ⟨before ++ [c.opening], AnnotatedClass.access,
      after' ++ [AnnotatedClass.closing] ++ after, ?_, ?_, rfl⟩
    · simp [hall]
    · simp [hstart, hline]
      omega
  · refine ⟨before ++ c.opening :: AnnotatedClass.access :: front, l,
      after' ++ [AnnotatedClass.closing] ++ after, ?_, ?_, ?_⟩
    · simp [hall]
    · simp [hstart, hline]
      omega
    · simpa using hlast

end

/-- The directive above a method is read as it is written. -/
theorem directiveAbove?_written {«namespace» : List Char} (hnamespace : IsWord «namespace»)
    {cs : List (AnnotatedClass Directive)}
    (hvalid : ∀ l ∈ headerLines (Directive.pragmaText «namespace») cs, l.IsValid)
    {c : AnnotatedClass Directive} {line start : Nat} {m : AnnotatedMethod Directive}
    (hc : (c, line) ∈ placedClasses cs) (hm : (m, start) ∈ c.placedMethods line)
    (habove : ∀ d ∈ m.above?, d.IsWritable) :
    directiveAbove? (pragmas «namespace»
        (lineText (headerLines (Directive.pragmaText «namespace») cs))) (m.declared start).line =
      .ok m.above? := by
  obtain ⟨before, l, after, hlines, hstart, hcode⟩ :=
    exists_of_mem_placedMethods (Directive.pragmaText «namespace») hc hm
  have htexts : pragmas «namespace» (lineText (headerLines (Directive.pragmaText «namespace») cs)) =
      pragmasFrom «namespace» 1 ((before ++ l :: (m.lines (Directive.pragmaText «namespace») ++
        after)).map Line.text) := by
    rw [pragmas, Header.lines_lineText hvalid, hlines]
  have hline : (m.declared start).line = start + m.above?.toList.length := rfl
  rw [hline, hstart, htexts, directiveAbove?]
  cases hdirective : m.above? with
  -- the line above the method is code, which is no pragma
  | none =>
    have hmem : l ∈ headerLines (Directive.pragmaText «namespace») cs := by simp [hlines]
    have hnone : directiveOn? «namespace» l.text = none := by
      cases l with
      | code ps => exact Directive.directiveOn?_code (hvalid _ hmem).1
      | directive body => cases hcode
    have habove := pragmaAbove?_pragmasFrom «namespace» 1 (before.map Line.text)
      l.text ((m.lines (Directive.pragmaText «namespace») ++ after).map Line.text)
    rw [hnone, List.length_map] at habove
    have hnumber : before.length + 2 + (none : Option Directive).toList.length =
        1 + before.length + 1 := by
      rw [Option.toList_none, List.length_nil]
      omega
    rw [List.map_append, List.map_cons, hnumber, habove]
    rfl
  -- the line above it is that of its own pragma
  | some d =>
    have hwritable : d.IsWritable := habove d hdirective
    have habove := pragmaAbove?_pragmasFrom «namespace» 1
      ((before ++ [l]).map Line.text) (Line.directive (d.pragmaText «namespace»)).text
      ((.code m.method.pieces :: after).map Line.text)
    have hrest : before ++ l :: (m.lines (Directive.pragmaText «namespace») ++ after) =
        (before ++ [l]) ++ .directive (d.pragmaText «namespace») :: .code m.method.pieces ::
          after := by
      simp [AnnotatedMethod.lines, hdirective]
    rw [Directive.directiveOn?_pragmaText hnamespace hwritable, List.length_map,
      List.length_append, List.length_singleton] at habove
    have hnumber : before.length + 2 + (some d).toList.length = 1 + (before.length + 1) + 1 := by
      rw [Option.toList_some, List.length_singleton]
      omega
    rw [hrest, List.map_append, List.map_cons, hnumber, habove]
    simp only [Option.map_some, String.toList_ofList, Directive.ofText_text hwritable]

/-! ### The methods of a class -/

theorem operationsOf_concat (ms : List (AnnotatedMethod Directive × Nat))
    (m : AnnotatedMethod Directive × Nat) :
    operationsOf (ms ++ [m]) = operationsOf ms ++
      if isOperation m.1.above? then [operationOf m.1 m.2 (operationsOf ms).length] else [] := by
  rw [operationsOf, operationsOf, List.filter_append, List.zipIdx_append, List.map_append,
    List.length_map, List.length_zipIdx]
  cases hoperation : isOperation m.1.above? <;> simp [hoperation]

theorem healthCheckOf_concat (ms : List (AnnotatedMethod Directive × Nat))
    (m : AnnotatedMethod Directive × Nat) :
    healthCheckOf (ms ++ [m]) = (healthCheckOf ms).or
      (if m.1.above? == some .healthCheck then some m.1.method.name else none) := by
  rw [healthCheckOf, healthCheckOf, List.find?_append, Option.map_or, List.find?_singleton]
  cases m.1.above? == some .healthCheck <;> rfl

/-- The names of the operations that methods tell are names of the methods. -/
theorem exists_of_mem_operationsOf {ms : List (AnnotatedMethod Directive × Nat)} {op : Operation}
    (h : op ∈ operationsOf ms) : ∃ m ∈ ms, op.name = m.1.method.name := by
  obtain ⟨m, hm, rfl⟩ := List.mem_map.1 h
  exact ⟨m.1, (List.mem_filter.1 (List.fst_mem_of_mem_zipIdx hm)).1, rfl⟩

theorem length_operationsOf (ms : List (AnnotatedMethod Directive × Nat)) :
    (operationsOf ms).length = ((ms.map (·.1)).filter fun m => isOperation m.above?).length := by
  rw [operationsOf, List.length_map, List.length_zipIdx, List.filter_map, List.length_map]
  rfl

/-- A method is no constructor and no destructor of a class of another name. -/
theorem isCandidate_written {className : String} {m : AnnotatedMethod Directive}
    (h : m.method.IsWritable) (hname : m.method.name ≠ className) (start : Nat) :
    isCandidate className (m.declared start) = true := by
  have hdestructor : m.method.name ≠ "~" ++ className := by
    intro heq
    obtain ⟨c, cs, hcons, hbegins, -⟩ := h.name.isName.exists_cons
    rw [heq, String.toList_append] at hcons
    obtain rfl : '~' = c := (List.cons.inj hcons).1
    exact absurd hbegins (by decide)
  simp [isCandidate, AnnotatedMethod.declared, Header.WrittenMethod.method, hname, hdestructor]

theorem healthCheckFault?_written {m : AnnotatedMethod Directive}
    (h : IsAllowed (some .healthCheck) m.method) (start : Nat) :
    healthCheckFault? (m.declared start) false = none := by
  obtain ⟨hresult, hparameters⟩ := h
  have htext : (m.declared start).returnType = "bool" := by
    change m.method.result.text = "bool"
    rw [hresult]
    decide
  have hnone : (m.declared start).parameters = [] := by
    change m.method.parameters.map (·.parameter) = []
    rw [hparameters]
    rfl
  rw [healthCheckFault?, htext, hnone]
  rfl

/-- An operation is added as its method tells. -/
theorem add_operation {draft : Draft} {m : AnnotatedMethod Directive} {start : Nat}
    (hwritable : m.method.IsWritable) (hallowed : IsAllowed m.above? m.method)
    (hoperation : isOperation m.above? = true)
    (hfresh : ∀ op ∈ draft.operations, op.name ≠ m.method.name)
    (hcount : draft.operations.length < UInt16.size) :
    draft.add (m.declared start) m.above? =
      .ok { draft with
        operations := draft.operations ++ [operationOf m start draft.operations.length] } := by
  have hany : draft.operations.any (·.name == (m.declared start).name) = false := by
    rw [List.any_eq_false]
    intro op hop
    simpa [AnnotatedMethod.declared, Header.WrittenMethod.method] using hfresh op hop
  have hop := operation_written hwritable hallowed hoperation start draft.operations.length
  have hlimit : ¬UInt16.size ≤ draft.operations.length := by omega
  cases hdirective : m.above? with
  | none =>
    rw [hdirective] at hop
    simp only [Draft.add, hany, Bool.false_eq_true, if_false, hlimit, hop]
    rfl
  | some directive =>
    rw [hdirective] at hop hoperation
    cases directive with
    | exclude | healthCheck => cases hoperation
    | readArray | writeArray =>
      simp only [Draft.add, hany, Bool.false_eq_true, if_false, hlimit, hop]
      rfl

/-- A method is added as it tells. -/
theorem addMethod_written {all : List Pragma} {className : String} (draft : Draft)
    {m : AnnotatedMethod Directive} {start : Nat}
    (hdirective : directiveAbove? all (m.declared start).line = .ok m.above?)
    (hwritable : m.method.IsWritable) (hname : m.method.name ≠ className)
    (hallowed : IsAllowed m.above? m.method)
    (hfresh : ∀ op ∈ draft.operations, op.name ≠ m.method.name)
    (hcount : isOperation m.above? = true → draft.operations.length < UInt16.size)
    (hhealthCheck : m.above? = some .healthCheck → draft.healthCheck? = none) :
    draft.addMethod all className (m.declared start) =
      .ok ⟨draft.operations ++
          (if isOperation m.above? then [operationOf m start draft.operations.length] else []),
        draft.healthCheck?.or
          (if m.above? == some .healthCheck then some m.method.name else none)⟩ := by
  have hadd : (directiveAbove? all (m.declared start).line >>= draft.add (m.declared start)) =
      draft.add (m.declared start) m.above? := by
    rw [hdirective]
    rfl
  rw [Draft.addMethod, if_pos (isCandidate_written hwritable hname start), hadd]
  -- an operation is added with the next number; a health check is only kept
  cases hoperation : isOperation m.above? with
  | true =>
    have hcheck : (m.above? == some .healthCheck) = false := by
      rw [beq_eq_false_iff_ne]
      intro heq
      rw [heq] at hoperation
      cases hoperation
    rw [add_operation hwritable hallowed hoperation hfresh (hcount hoperation)]
    simp only [hcheck, if_true, Bool.false_eq_true, if_false, Option.or_none]
  | false =>
    cases hannotated : m.above? with
    | none =>
      rw [hannotated] at hoperation
      cases hoperation
    | some directive =>
      cases directive with
      | readArray | writeArray =>
        rw [hannotated] at hoperation
        cases hoperation
      | exclude => simp [Draft.add]
      | healthCheck =>
        rw [hannotated] at hallowed
        simp [Draft.add, hhealthCheck hannotated, healthCheckFault?_written hallowed]
        rfl

section

variable {className : String} {ms : List (AnnotatedMethod Directive)}
  {m : AnnotatedMethod Directive} (h : AreDescribable className (ms ++ [m]))
include h

theorem AreDescribable.left : AreDescribable className ms where
  method m' hm' := h.method m' (List.mem_append_left _ hm')
  above m' hm' := h.above m' (List.mem_append_left _ hm')
  allowed m' hm' := h.allowed m' (List.mem_append_left _ hm')
  name m' hm' := h.name m' (List.mem_append_left _ hm')
  distinct := by
    have hdistinct := h.distinct
    rw [List.map_append] at hdistinct
    exact hdistinct.of_append_left
  healthCheck := by
    have hhealthCheck := h.healthCheck
    rw [List.filter_append, List.length_append] at hhealthCheck
    omega
  count := by
    have hcount := h.count
    rw [List.filter_append, List.length_append] at hcount
    omega

/-- The last method has a name of its own. -/
theorem AreDescribable.ne_last : ∀ m' ∈ ms, m'.method.name ≠ m.method.name := by
  intro m' hm'
  have hdistinct := h.distinct
  rw [List.map_append, List.nodup_append] at hdistinct
  exact hdistinct.2.2 _ (List.mem_map_of_mem hm') _ (by simp)

/-- There is a number left for the last method. -/
theorem AreDescribable.count_lt (hoperation : isOperation m.above? = true) :
    (ms.filter fun m => isOperation m.above?).length < UInt16.size := by
  have hcount := h.count
  rw [List.filter_append, List.length_append,
    List.filter_cons_of_pos (by simpa using hoperation), List.length_cons] at hcount
  omega

/-- If the last method is a health check, no other is. -/
theorem AreDescribable.find?_healthCheck (hlast : m.above? = some .healthCheck) :
    ∀ m' ∈ ms, m'.above? ≠ some .healthCheck := by
  have hhealthCheck := h.healthCheck
  rw [List.filter_append, List.length_append, List.filter_cons_of_pos (by simp [hlast]),
    List.length_cons] at hhealthCheck
  intro m' hm' heq
  have hmem : m' ∈ ms.filter fun m => m.above? == some .healthCheck :=
    List.mem_filter.2 ⟨hm', by simp [heq]⟩
  have := List.length_pos_of_mem hmem
  omega

end

/-- The methods of a class are added, one after the other, as they tell. The induction is on the
methods that are added so far. -/
theorem foldlM_written {all : List Pragma} {className : String}
    {ms : List (AnnotatedMethod Directive × Nat)}
    (h : AreDescribable className (ms.map (·.1)))
    (hdirective : ∀ m ∈ ms, directiveAbove? all (m.1.declared m.2).line = .ok m.1.above?) :
    (ms.map fun m => m.1.declared m.2).foldlM (Draft.addMethod all className) {} =
      .ok ⟨operationsOf ms, healthCheckOf ms⟩ := by
  -- from the back, since each method is added to what was made of those before it
  induction ms using List.reverseRecOn with
  | nil => rfl
  | append_singleton ms m ih =>
    rw [List.map_append, List.map_singleton] at h
    rw [List.forall_mem_append] at hdirective
    have hdone := ih h.left hdirective.1
    have hmem : m.1 ∈ ms.map (·.1) ++ [m.1] := by simp
    have hfresh : ∀ op ∈ operationsOf ms, op.name ≠ m.1.method.name := by
      intro op hop
      obtain ⟨m', hm', hname⟩ := exists_of_mem_operationsOf hop
      rw [hname]
      exact h.ne_last m'.1 (List.mem_map_of_mem hm')
    have hcount : isOperation m.1.above? = true → (operationsOf ms).length < UInt16.size := by
      rw [length_operationsOf]
      exact h.count_lt
    have hhealthCheck : m.1.above? = some .healthCheck → healthCheckOf ms = none := by
      intro hlast
      rw [healthCheckOf, Option.map_eq_none_iff, List.find?_eq_none]
      intro m' hm'
      simpa using h.find?_healthCheck hlast m'.1 (List.mem_map_of_mem hm')
    have hadd := addMethod_written ⟨operationsOf ms, healthCheckOf ms⟩
      (hdirective.2 m (List.mem_singleton_self m)) (h.method _ hmem) (h.name _ hmem)
      (h.allowed _ hmem) hfresh hcount hhealthCheck
    rw [List.map_append, List.foldlM_append, hdone, operationsOf_concat, healthCheckOf_concat]
    simp only [List.map_cons, List.map_nil, List.foldlM_cons, List.foldlM_nil, bind, Except.bind,
      hadd]
    rfl

/-! ### The classes of a header -/

theorem map_fst_placed {β : Type} (height : β → Nat) (start : Nat) (bs : List β) :
    (placed height start bs).map (·.1) = bs := by
  induction bs generalizing start with
  | nil => rfl
  | cons b bs ih => rw [placed, List.map_cons, ih]

section

variable {«namespace» : List Char} (hnamespace : IsWord «namespace»)
  {cs : List (AnnotatedClass Directive)} (h : ∀ c ∈ cs, IsDescribable c)
include hnamespace h

theorem isWritable_of_isDescribable :
    ∀ c ∈ cs, c.IsWritable (Directive.pragmaText «namespace») := by
  intro c hc
  refine ⟨(h c hc).name, ?_⟩
  intro m hm
  have hmethods := (h c hc).methods
  exact ⟨fun d hd => Directive.isValid_pragmaText hnamespace (hmethods.above m hm d hd),
    hmethods.method m hm⟩

/-- A class of a header is described as it tells. -/
theorem ofClass_written {c : AnnotatedClass Directive} {start : Nat}
    (hc : (c, start) ∈ placedClasses cs) :
    Description.ofClass (pragmas «namespace»
        (lineText (headerLines (Directive.pragmaText «namespace») cs))) (c.declared start) =
      .ok (descriptionOf c start) := by
  have hvalid := Header.isValid_headerLines (isWritable_of_isDescribable hnamespace h)
  have hmem : c ∈ cs := by
    have hmem := List.mem_map_of_mem (f := (·.1)) hc
    rwa [placedClasses, map_fst_placed] at hmem
  have hmethods : (c.placedMethods start).map (·.1) = c.methods := map_fst_placed _ _ _
  have hdescribable : AreDescribable c.name ((c.placedMethods start).map (·.1)) := by
    rw [hmethods]
    exact (h c hmem).methods
  have hdirective : ∀ m ∈ c.placedMethods start, directiveAbove? (pragmas «namespace»
      (lineText (headerLines (Directive.pragmaText «namespace») cs))) (m.1.declared m.2).line =
        .ok m.1.above? := by
    intro m hm
    have hmem' : m.1 ∈ c.methods := hmethods ▸ List.mem_map_of_mem hm
    exact directiveAbove?_written hnamespace hvalid hc hm ((h c hmem).methods.above m.1 hmem')
  have hfold := foldlM_written hdescribable hdirective
  rw [Description.ofClass, AnnotatedClass.declared]
  simp only [hfold, bind, Except.bind]
  rfl

end

/-- A header of classes that keep all rules is described as the classes tell. -/
theorem descriptions_headerText {«namespace» : String} (hnamespace : IsWord «namespace».toList)
    (origin : String) {cs : List (AnnotatedClass Directive)} (hne : cs ≠ [])
    (h : ∀ c ∈ cs, IsDescribable c) :
    descriptions «namespace» origin (headerText «namespace» cs) = .ok (descriptionsOf cs) := by
  have hclasses := Header.classes_headerLines (isWritable_of_isDescribable hnamespace h)
  rw [descriptions, headerText, String.toList_ofList, hclasses]
  cases cs with
  | nil => exact absurd rfl hne
  | cons c cs =>
    change (((placedClasses (c :: cs)).map fun c => c.1.declared c.2).mapM
      (Description.ofClass (pragmas «namespace».toList _))) = _
    rw [List.mapM_map]
    exact Success.mapM_eq_ok fun c hc => ofClass_written hnamespace h hc

/-- An oscilloscope with methods under all kinds of directives and under none. -/
def scopeClass : AnnotatedClass Directive where
  name := "Scope"
  methods := [
    ⟨some .healthCheck, ⟨⟨.scalar .bool, false, false⟩, "is_failed", []⟩⟩,
    ⟨none, ⟨⟨.tuple [.f32, .bool], false, false⟩, "limits",
      [⟨⟨.array .i16 4, true, true⟩, none⟩, ⟨⟨.vector .f32, false, true⟩, some "taps"⟩]⟩⟩,
    ⟨some (.writeArray "data" "len"), ⟨⟨.void, false, false⟩, "load",
      [⟨⟨.pointer .u8, true, false⟩, some "data"⟩, ⟨⟨.scalar .u32, false, false⟩, some "len"⟩]⟩⟩,
    ⟨some (.readArray (some "2*arg\x7bn\x7d")), ⟨⟨.pointer .u32, true, false⟩, "samples",
      [⟨⟨.scalar .u32, false, false⟩, some "n"⟩]⟩⟩,
    ⟨some .exclude, ⟨⟨.void, false, false⟩, "reset", []⟩⟩,
    ⟨none, ⟨⟨.cString, false, false⟩, "status", []⟩⟩]

/-- The operations of the oscilloscope. -/
def scopeOperations : List Operation := [
  ⟨"limits", "LIMITS", 0, "std::tuple<float, bool>", .tuple [.f32, .bool], .read,
    [⟨"arg0", "std::array<int16_t, 4>", true, true, .array .i16 4⟩,
      ⟨"taps", "std::vector<float>", true, false, .vector .f32⟩], none, none, 5⟩,
  ⟨"load", "LOAD", 1, "void", .void, .write, [⟨"len", "uint32_t", false, false, .scalar .u32⟩],
    some ⟨"data", 0, "len", .u8, true⟩, none, 7⟩,
  ⟨"samples", "SAMPLES", 2, "const uint32_t *", .pointer .u32, .readArray,
    [⟨"n", "uint32_t", false, false, .scalar .u32⟩], none, some "2*arg\x7bn\x7d", 9⟩,
  ⟨"status", "STATUS", 3, "const char *", .cString, .readText, [], none, none, 12⟩]

/-- The oscilloscope and a class without methods are described as they tell. -/
theorem descriptions_headerText_scope :
    descriptions "devlink" "scope.hpp" (headerText "devlink" [scopeClass, ⟨"Idle", []⟩]) =
      .ok [⟨"Scope", "SCOPE", 0, scopeOperations, some "is_failed"⟩,
        ⟨"Idle", "IDLE", 0, [], none⟩] := by
  have htold : descriptionsOf [scopeClass, ⟨"Idle", []⟩] =
      [⟨"Scope", "SCOPE", 0, scopeOperations, some "is_failed"⟩,
        ⟨"Idle", "IDLE", 0, [], none⟩] := by
    decide +kernel
  rw [← htold]
  exact descriptions_headerText (by decide) "scope.hpp" (List.cons_ne_nil _ _) (by decide +kernel)

/-! ### Refused classes -/

/-- A class that is described as it tells has no more operations than there are numbers. -/
theorem count_le_of_descriptions {«namespace» origin source : String}
    {cs : List (AnnotatedClass Directive)}
    (h : descriptions «namespace» origin source = .ok (descriptionsOf cs))
    {c : AnnotatedClass Directive} (hc : c ∈ cs) :
    (c.methods.filter fun m => isOperation m.above?).length ≤ UInt16.size := by
  rw [← map_fst_placed AnnotatedClass.height 1 cs] at hc
  obtain ⟨⟨c, start⟩, hplaced, rfl⟩ := List.mem_map.1 hc
  have hmem : descriptionOf c start ∈ descriptionsOf cs :=
    List.mem_map_of_mem (f := fun c => descriptionOf c.1 c.2) hplaced
  obtain ⟨_, _, _, _, -, -, hof⟩ := areDeclared_of_descriptions h _ hmem
  have hlength := (areListed_of_ofClass hof).length_le
  have hmethods : (c.placedMethods start).map (·.1) = c.methods := map_fst_placed _ _ _
  rwa [descriptionOf, length_operationsOf, hmethods] at hlength

/-- A class with one method that returns nothing. -/
def fillClass (above? : Option Directive) (parameters : List WrittenParameter) :
    AnnotatedClass Directive :=
  ⟨"Pump", [⟨above?, ⟨⟨.void, false, false⟩, "fill", parameters⟩⟩]⟩

/-- A class with methods that do the same under different names. -/
def crowdedClass (count : Nat) : AnnotatedClass Directive :=
  ⟨"Pump", (List.range count).map fun n =>
    ⟨none, ⟨⟨.void, false, false⟩, "step" ++ toString n, []⟩⟩⟩

/-- Refused are an array of no elements, a buffer of truth values, a length with the name that a
parameter before it has for want of one, and more operations than there are numbers. -/
theorem descriptions_headerText_refused :
    (descriptions "devlink" "pump.hpp" (headerText "devlink"
        [fillClass none [⟨⟨.array .u8 0, false, false⟩, some "levels"⟩]])).toOption = none ∧
      (descriptions "devlink" "pump.hpp" (headerText "devlink"
        [fillClass (some (.writeArray "levels" "count"))
          [⟨⟨.pointer .bool, false, false⟩, some "levels"⟩,
            ⟨⟨.scalar .u32, false, false⟩, some "count"⟩]])).toOption = none ∧
      (descriptions "devlink" "pump.hpp" (headerText "devlink"
        [fillClass (some (.writeArray "levels" "arg0"))
          [⟨⟨.scalar .u8, false, false⟩, none⟩, ⟨⟨.pointer .u8, false, false⟩, some "levels"⟩,
            ⟨⟨.scalar .u32, false, false⟩, some "arg0"⟩]])).toOption = none ∧
      descriptions "devlink" "pump.hpp" (headerText "devlink" [crowdedClass 65537]) ≠
        .ok (descriptionsOf [crowdedClass 65537]) := by
  refine ⟨?_, ?_, ?_, ?_⟩
  · rw [descriptions, headerText, String.toList_ofList]
    decide +kernel
  · rw [descriptions, headerText, String.toList_ofList]
    decide +kernel
  · rw [descriptions, headerText, String.toList_ofList]
    decide +kernel
  · intro h
    have hcount := count_le_of_descriptions h (List.mem_singleton_self _)
    have hlength (count : Nat) : ((crowdedClass count).methods.filter fun m =>
        isOperation m.above?).length = count := by
      rw [crowdedClass, List.filter_eq_self.2, List.length_map, List.length_range]
      intro m hm
      obtain ⟨n, -, rfl⟩ := List.mem_map.1 hm
      rfl
    rw [hlength] at hcount
    exact absurd hcount (by decide)

end Instrument.Interface
