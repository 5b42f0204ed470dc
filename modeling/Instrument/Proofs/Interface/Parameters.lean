import Instrument.Proofs.Interface.Described
import Instrument.Proofs.WireType
import Mathlib.Data.List.Nodup

/-!
What the parameters of a method come to: each is an argument, or the buffer of a transfer. Main
statements: the arguments are the parameters that are no pointers; the order of a call is that of
the parameters just if no two of them are buffers; and the names of parameters differ just if the
declared ones do and none of them is the name that a parameter without one is given.
-/

namespace Instrument.Interface

open Success

/-! ### One parameter -/

/-- The name of the parameter at a place, made from the place if none is declared. -/
def effectiveName (index : Nat) (p : Header.Parameter) : String :=
  p.name?.getD ("arg" ++ toString index)

/-- The names of all parameters. -/
def effectiveNames (ps : List Header.Parameter) : List String := ps.mapIdx effectiveName

/-- The names of the parameters that are declared with one. -/
def declaredNames (ps : List Header.Parameter) : List String := ps.filterMap (·.name?)

/-- The type of a parameter, without marks. -/
def parameterType (p : Header.Parameter) : WireType :=
  WireType.classify (Unqualified.of p.type.toList).type

/-- Whether a parameter is an argument of its operation: pointers are none. -/
def isArgument (p : Header.Parameter) : Bool := !(parameterType p).isPointer

/-- What a parameter at a place comes to: an argument, or a buffer if it is the pointer that a
directive names. -/
inductive ComesTo (transfer : Option (String × String)) (index : Nat) (p : Header.Parameter) :
    Argument ⊕ Buffer → Prop
  | argument (a : Argument) (hname : a.name = effectiveName index p)
    (htext : a.type = String.ofList (Unqualified.of p.type.toList).type)
    (htype : parameterType p = a.kind.type) : ComesTo transfer index p (.inl a)
  | buffer (b : Buffer) (hname : b.pointer = effectiveName index p) (hposition : b.position = index)
    (htype : parameterType p = .pointer b.element)
    (htransfer : transfer = some (b.pointer, b.length)) : ComesTo transfer index p (.inr b)

theorem comesTo_of_parameter {transfer : Option (String × String)} {index : Nat}
    {p : Header.Parameter} {slot : Argument ⊕ Buffer} (h : parameter transfer index p = .ok slot) :
    ComesTo transfer index p slot := by
  unfold parameter at h
  extract_lets name bare argument at h
  cases htype : WireType.classify bare.type with
  | scalar | array | vector =>
    rw [htype] at h
    cases h
    exact .argument _ rfl rfl htype
  | pointer element =>
    rw [htype] at h
    simp only at h
    split at h
    · next pointer length hfilter =>
      cases h
      obtain ⟨htransfer, hpointer⟩ := Option.filter_eq_some_iff.1 hfilter
      obtain rfl : pointer = name := by simpa using hpointer
      exact .buffer _ rfl rfl htype htransfer
    · cases h
  | _ =>
    rw [htype] at h
    cases h

/-- The name of an argument or of a buffer. -/
def slotName : Argument ⊕ Buffer → String := Sum.elim (·.name) (·.pointer)

section

variable {transfer : Option (String × String)} {index : Nat} {p : Header.Parameter}

theorem ComesTo.name {slot : Argument ⊕ Buffer} (h : ComesTo transfer index p slot) :
    slotName slot = effectiveName index p := by
  cases h with
  | argument a hname => exact hname
  | buffer b hname => exact hname

theorem ComesTo.supported {slot : Argument ⊕ Buffer} (h : ComesTo transfer index p slot)
    (reason : Unsupported) : parameterType p ≠ .unsupported reason := by
  intro hunsupported
  cases h with
  | argument a _ _ htype =>
    rw [hunsupported] at htype
    cases hkind : a.kind <;> rw [hkind] at htype <;> cases htype
  | buffer b _ _ htype => cases hunsupported.symm.trans htype

theorem ComesTo.isPointer_argument {a : Argument} (h : ComesTo transfer index p (.inl a)) :
    (parameterType p).isPointer = false := by
  cases h with
  | argument _ _ _ htype =>
    rw [htype]
    cases a.kind <;> rfl

theorem ComesTo.isPointer_buffer {b : Buffer} (h : ComesTo transfer index p (.inr b)) :
    (parameterType p).isPointer = true := by
  cases h with
  | buffer _ _ _ htype => rw [htype]; rfl

end

/-! ### All parameters -/

/-- What parameters come to, the first of which has the place `index`. -/
inductive ComeTo (transfer : Option (String × String)) :
    Nat → List Header.Parameter → List (Argument ⊕ Buffer) → Prop
  | nil (index : Nat) : ComeTo transfer index [] []
  | cons {index : Nat} {p : Header.Parameter} {ps : List Header.Parameter}
    {slot : Argument ⊕ Buffer} {slots : List (Argument ⊕ Buffer)}
    (hfirst : ComesTo transfer index p slot) (hrest : ComeTo transfer (index + 1) ps slots) :
    ComeTo transfer index (p :: ps) (slot :: slots)

/-- The arguments among what parameters come to. -/
def argumentsOf (slots : List (Argument ⊕ Buffer)) : List Argument := slots.filterMap Sum.getLeft?

/-- The buffers among what parameters come to. -/
def buffersOf (slots : List (Argument ⊕ Buffer)) : List Buffer := slots.filterMap Sum.getRight?

@[simp] theorem argumentsOf_append (slots slots' : List (Argument ⊕ Buffer)) :
    argumentsOf (slots ++ slots') = argumentsOf slots ++ argumentsOf slots' :=
  List.filterMap_append

@[simp] theorem buffersOf_append (slots slots' : List (Argument ⊕ Buffer)) :
    buffersOf (slots ++ slots') = buffersOf slots ++ buffersOf slots' :=
  List.filterMap_append

@[simp] theorem argumentsOf_inl (a : Argument) (slots : List (Argument ⊕ Buffer)) :
    argumentsOf (.inl a :: slots) = a :: argumentsOf slots := rfl

@[simp] theorem argumentsOf_inr (b : Buffer) (slots : List (Argument ⊕ Buffer)) :
    argumentsOf (.inr b :: slots) = argumentsOf slots := rfl

@[simp] theorem buffersOf_inl (a : Argument) (slots : List (Argument ⊕ Buffer)) :
    buffersOf (.inl a :: slots) = buffersOf slots := rfl

@[simp] theorem buffersOf_inr (b : Buffer) (slots : List (Argument ⊕ Buffer)) :
    buffersOf (.inr b :: slots) = b :: buffersOf slots := rfl

/-- Of several buffers the last one stays. -/
theorem exists_comeTo {transfer : Option (String × String)} {index : Nat}
    {ps : List Header.Parameter} {arguments : List Argument} {buffer? : Option Buffer}
    (h : parametersFrom transfer index ps = .ok (arguments, buffer?)) :
    ∃ slots, ComeTo transfer index ps slots ∧ arguments = argumentsOf slots ∧
      buffer? = (buffersOf slots).getLast? := by
  induction ps generalizing index arguments buffer? with
  | nil =>
    cases h
    exact ⟨[], .nil index, rfl, rfl⟩
  | cons p ps ih =>
    simp only [parametersFrom, bind_eq_ok_iff] at h
    obtain ⟨first, hfirst, ⟨more, more?⟩, hmore, h⟩ := h
    obtain ⟨slots, hslots, rfl, rfl⟩ := ih hmore
    refine ⟨first :: slots, .cons (comesTo_of_parameter hfirst) hslots, ?_⟩
    cases first with
    | inl argument =>
      cases h
      exact ⟨rfl, rfl⟩
    | inr buffer =>
      cases h
      refine ⟨rfl, ?_⟩
      rw [buffersOf_inr, List.getLast?_cons]
      cases (buffersOf slots).getLast? <;> rfl

section

variable {transfer : Option (String × String)} {index : Nat} {ps : List Header.Parameter}
  {slots : List (Argument ⊕ Buffer)}

theorem ComeTo.names (h : ComeTo transfer index ps slots) :
    slots.map slotName = ps.mapIdx fun i p => effectiveName (index + i) p := by
  induction h with
  | nil index => rfl
  | cons hfirst hrest ih =>
    rw [List.map_cons, List.mapIdx_cons, hfirst.name, ih]
    simp only [Nat.add_zero, Nat.add_assoc, Nat.add_comm 1]

theorem ComeTo.map_slotName (h : ComeTo transfer 0 ps slots) :
    slots.map slotName = effectiveNames ps := by
  rw [h.names, effectiveNames]
  simp only [Nat.zero_add]

/-- The arguments are the parameters that are no pointers. -/
theorem ComeTo.arguments (h : ComeTo transfer index ps slots) :
    (argumentsOf slots).map (fun a => (a.name, a.kind.type)) =
      (ps.mapIdx fun i p => (effectiveName (index + i) p, parameterType p)).filter
        fun entry => !entry.2.isPointer := by
  induction h with
  | nil index => rfl
  | @cons index p ps slot slots hfirst hrest ih =>
    have hshift : (fun i q => (effectiveName (index + (i + 1)) q, parameterType q)) =
        fun i q => (effectiveName (index + 1 + i) q, parameterType q) := by
      funext i q
      rw [Nat.add_right_comm, Nat.add_assoc]
    rw [List.mapIdx_cons, hshift]
    cases slot with
    | inl a =>
      have hkept : (!(parameterType p).isPointer) = true := by
        rw [hfirst.isPointer_argument]
        rfl
      cases hfirst with
      | argument _ hname htext htype =>
        rw [argumentsOf_inl, List.map_cons, List.filter_cons, if_pos hkept, ih, hname, htype]
        rfl
    | inr b =>
      have hdropped : ¬(!(parameterType p).isPointer) = true := by
        rw [hfirst.isPointer_buffer]
        decide
      rw [argumentsOf_inr, List.filter_cons, if_neg hdropped, ih]

/-- There are as many arguments as parameters that are no pointers. -/
theorem ComeTo.length_arguments (h : ComeTo transfer index ps slots) :
    (argumentsOf slots).length = ps.countP isArgument := by
  induction h with
  | nil index => rfl
  | @cons index p ps slot slots hfirst hrest ih =>
    cases slot with
    | inl a =>
      have hkept : isArgument p = true := by rw [isArgument, hfirst.isPointer_argument]; rfl
      rw [argumentsOf_inl, List.length_cons, ih, List.countP_cons_of_pos hkept]
    | inr b =>
      have hdropped : ¬isArgument p = true := by rw [isArgument, hfirst.isPointer_buffer]; decide
      rw [argumentsOf_inr, ih, List.countP_cons_of_neg hdropped]

/-- What parameters come to can be cut where the parameters are cut. -/
theorem ComeTo.of_append {before after : List (Argument ⊕ Buffer)}
    (h : ComeTo transfer index ps (before ++ after)) :
    ComeTo transfer index (ps.take before.length) before ∧
      ComeTo transfer (index + before.length) (ps.drop before.length) after := by
  induction before generalizing index ps with
  | nil => exact ⟨.nil index, h⟩
  | cons slot before ih =>
    cases h with
    | cons hfirst hrest =>
      obtain ⟨hbefore, hafter⟩ := ih hrest
      refine ⟨.cons hfirst hbefore, ?_⟩
      rwa [Nat.add_right_comm, Nat.add_assoc] at hafter

theorem ComeTo.exists_slot (h : ComeTo transfer index ps slots) :
    ∀ p ∈ ps, ∃ place slot, slot ∈ slots ∧ ComesTo transfer place p slot := by
  induction h with
  | nil index => simp
  | cons hfirst _ ih =>
    intro p hp
    rcases List.mem_cons.1 hp with rfl | hp
    · exact ⟨_, _, List.mem_cons_self .., hfirst⟩
    · obtain ⟨place, slot, hslot, hcomes⟩ := ih p hp
      exact ⟨place, slot, List.mem_cons_of_mem _ hslot, hcomes⟩

/-- Every buffer is the pointer that the directive names. -/
theorem ComeTo.transfer_of_mem (h : ComeTo transfer index ps slots) {b : Buffer}
    (hb : b ∈ buffersOf slots) : transfer = some (b.pointer, b.length) := by
  induction h with
  | nil index => cases hb
  | @cons index p ps slot slots hfirst hrest ih =>
    cases slot with
    | inl a => exact ih hb
    | inr b' =>
      rcases List.mem_cons.1 hb with rfl | hb
      · cases hfirst with
        | buffer _ _ _ _ htransfer => exact htransfer
      · exact ih hb

end

/-- The slots in front of the buffer of an operation, and those behind it, among which there is no
other. -/
theorem exists_eq_of_buffersOf {slots : List (Argument ⊕ Buffer)} {b : Buffer}
    (h : (buffersOf slots).getLast? = some b) :
    ∃ before after, slots = before ++ .inr b :: after ∧ buffersOf after = [] := by
  induction slots with
  | nil => cases h
  | cons slot slots ih =>
    cases hlast : (buffersOf slots).getLast? with
    | some b' =>
      have hsame : b' = b := by
        cases slot with
        | inl a => exact Option.some.inj (hlast.symm.trans h)
        | inr b'' =>
          rw [buffersOf_inr, List.getLast?_cons, hlast] at h
          exact Option.some.inj h
      obtain ⟨before, after, rfl, hafter⟩ := ih (hlast.trans (congrArg some hsame))
      exact ⟨slot :: before, after, rfl, hafter⟩
    | none =>
      have hnone : buffersOf slots = [] := List.getLast?_eq_none_iff.1 hlast
      cases slot with
      | inl a =>
        rw [buffersOf_inl, hnone] at h
        cases h
      | inr b' =>
        rw [buffersOf_inr, hnone] at h
        cases h
        exact ⟨[], slots, rfl, hnone⟩

theorem length_add_length (slots : List (Argument ⊕ Buffer)) :
    (argumentsOf slots).length + (buffersOf slots).length = slots.length := by
  induction slots with
  | nil => rfl
  | cons slot slots ih =>
    cases slot with
    | inl a => rw [argumentsOf_inl, buffersOf_inl, List.length_cons, List.length_cons, ← ih]; omega
    | inr b => rw [argumentsOf_inr, buffersOf_inr, List.length_cons, List.length_cons, ← ih]; omega

theorem map_slotName_of_buffersOf {slots : List (Argument ⊕ Buffer)} (h : buffersOf slots = []) :
    slots.map slotName = (argumentsOf slots).map (·.name) := by
  induction slots with
  | nil => rfl
  | cons slot slots ih =>
    cases slot with
    | inl a => rw [List.map_cons, argumentsOf_inl, List.map_cons, ih h]; rfl
    | inr b => cases h

/-! ### Names -/

/-- Names differ just if the declared ones do, and none of them is the one that a parameter without
a name is given. -/
theorem nodup_effectiveNames_iff (ps : List Header.Parameter) :
    (effectiveNames ps).Nodup ↔
      (declaredNames ps).Nodup ∧
        ∀ (i : Nat) (p : Header.Parameter), ps[i]? = some p → p.name? = none →
          "arg" ++ toString i ∉ declaredNames ps := by
  -- two generated names differ, so only a declared one can equal a generated one
  have hgenerated {i j : Nat} (h : "arg" ++ toString i = "arg" ++ toString j) : i = j :=
    Text.toString_inj ((String.append_right_inj "arg").1 h)
  rw [List.nodup_iff_pairwise_ne, List.nodup_iff_pairwise_ne, declaredNames,
    List.pairwise_filterMap, List.pairwise_iff_getElem, List.pairwise_iff_getElem]
  simp only [effectiveNames, List.length_mapIdx, List.getElem_mapIdx, List.mem_filterMap]
  constructor
  · intro h
    refine ⟨fun i j hi hj hij name hname name' hname' hsame => ?_, fun i p hp hnone => ?_⟩
    · refine h i j hi hj hij ?_
      rw [effectiveName, effectiveName, hname, hname']
      exact hsame
    · rintro ⟨q, hq, hname⟩
      obtain ⟨j, hj, rfl⟩ := List.getElem_of_mem hq
      obtain ⟨hi, rfl⟩ := List.getElem?_eq_some_iff.1 hp
      have hsame : effectiveName i ps[i] = effectiveName j ps[j] := by
        rw [effectiveName, effectiveName, hnone, hname]
        rfl
      rcases Nat.lt_trichotomy i j with hlt | rfl | hgt
      · exact h i j hi hj hlt hsame
      · rw [hnone] at hname
        cases hname
      · exact h j i hj hi hgt hsame.symm
  · rintro ⟨hdeclared, hfree⟩ i j hi hj hij hsame
    cases hname : ps[i].name? with
    | none =>
      cases hname' : ps[j].name? with
      | none =>
        rw [effectiveName, effectiveName, hname, hname'] at hsame
        exact absurd (hgenerated hsame) (Nat.ne_of_lt hij)
      | some name' =>
        refine hfree i ps[i] (List.getElem?_eq_getElem hi) hname
          ⟨ps[j], List.getElem_mem hj, ?_⟩
        rw [effectiveName, effectiveName, hname, hname'] at hsame
        rw [hname']
        exact congrArg some hsame.symm
    | some name =>
      cases hname' : ps[j].name? with
      | none =>
        refine hfree j ps[j] (List.getElem?_eq_getElem hj) hname'
          ⟨ps[i], List.getElem_mem hi, ?_⟩
        rw [effectiveName, effectiveName, hname, hname'] at hsame
        rw [hname]
        exact congrArg some hsame
      | some name' =>
        rw [effectiveName, effectiveName, hname, hname'] at hsame
        exact hdeclared i j hi hj hij name hname name' hname' hsame

/-! ### The order of a call -/

/-- What the parameters of a method come to in its operation. -/
theorem exists_comeTo_of_operation {method : Header.Method} {id : UInt16}
    {directive? : Option Directive} {op : Operation}
    (h : operation method id directive? = .ok op) :
    ∃ slots, ComeTo (transfer? directive?) 0 method.parameters slots ∧
      op.arguments = argumentsOf slots ∧ op.buffer? = (buffersOf slots).getLast? :=
  exists_comeTo (eq_of_operation h).2.2.1

/-- What stands before the buffer of an operation among what its parameters come to, and what stands
behind it. -/
structure IsAround (before after : List (Argument ⊕ Buffer)) (op : Operation)
    (method : Header.Method) (directive? : Option Directive) (b : Buffer) : Prop where
  comeTo : ComeTo (transfer? directive?) 0 method.parameters (before ++ .inr b :: after)
  last : buffersOf after = []
  arguments : op.arguments = argumentsOf before ++ argumentsOf after
  position : b.position = before.length

/-- The parameter at the place of a buffer is its pointer. -/
theorem IsAround.exists_pointer {before after : List (Argument ⊕ Buffer)} {op : Operation}
    {method : Header.Method} {directive? : Option Directive} {b : Buffer}
    (h : IsAround before after op method directive? b) :
    ∃ p, method.parameters[b.position]? = some p ∧ effectiveName b.position p = b.pointer ∧
      parameterType p = .pointer b.element := by
  have hrest := h.comeTo.of_append.2
  have hget : method.parameters[b.position]? = (method.parameters.drop before.length).head? := by
    rw [List.head?_drop, h.position]
  generalize method.parameters.drop before.length = rest at hrest hget
  cases hrest with
  | @cons _ p _ _ _ hfirst _ =>
    cases hfirst with
    | buffer _ hname hposition htype => exact ⟨p, hget, hposition ▸ hname.symm, htype⟩

theorem exists_isAround {method : Header.Method} {id : UInt16} {directive? : Option Directive}
    {op : Operation} (h : operation method id directive? = .ok op) {b : Buffer}
    (hbuffer : op.buffer? = some b) :
    ∃ before after, IsAround before after op method directive? b := by
  obtain ⟨slots, hslots, harguments, hlast⟩ := exists_comeTo_of_operation h
  obtain ⟨before, after, rfl, hafter⟩ := exists_eq_of_buffersOf (hlast.symm.trans hbuffer)
  refine ⟨before, after, hslots, hafter, by rw [harguments]; simp, ?_⟩
  have hrest := hslots.of_append.2
  generalize method.parameters.drop before.length = rest at hrest
  cases hrest with
  | cons hfirst _ =>
    cases hfirst with
    | buffer _ _ hposition => rw [hposition, Nat.zero_add]

section

variable {before after : List (Argument ⊕ Buffer)} {op : Operation} {method : Header.Method}
  {directive? : Option Directive} {b : Buffer}

/-- The arguments before a buffer are the parameters before its pointer, and those behind it are the
parameters behind it. -/
theorem IsAround.countP_isArgument (h : IsAround before after op method directive? b) :
    (method.parameters.take b.position).countP isArgument = (argumentsOf before).length ∧
      (method.parameters.drop b.position).countP isArgument = (argumentsOf after).length := by
  obtain ⟨hbefore, hafter⟩ := h.comeTo.of_append
  rw [h.position]
  exact ⟨hbefore.length_arguments.symm, hafter.length_arguments.symm⟩

/-- The order of a call is that of the parameters just if there is no other buffer. -/
theorem IsAround.callOrder_eq_iff (h : IsAround before after op method directive? b)
    (hbuffer : op.buffer? = some b) :
    op.callOrder = effectiveNames method.parameters ↔ buffersOf before = [] := by
  have hnames : effectiveNames method.parameters =
      before.map slotName ++ b.pointer :: after.map slotName := by
    rw [← h.comeTo.map_slotName, List.map_append, List.map_cons]
    rfl
  have horder : op.callOrder = (op.arguments.map (·.name)).take before.length ++
      b.pointer :: (op.arguments.map (·.name)).drop before.length := by
    rw [Operation.callOrder, hbuffer]
    simp only [h.position]
  have hcount := length_add_length before
  constructor
  · intro heq
    have hlength : op.arguments.length = before.length + after.length := by
      have := congrArg List.length (horder.symm.trans (heq.trans hnames))
      simp only [List.length_append, List.length_cons, List.length_take, List.length_drop,
        List.length_map] at this
      omega
    have hafter := length_add_length after
    rw [h.arguments, List.length_append] at hlength
    rw [h.last, List.length_nil] at hafter
    exact List.eq_nil_of_length_eq_zero (by omega)
  · intro hnone
    have hlength : ((argumentsOf before).map (·.name)).length = before.length := by
      rw [hnone, List.length_nil] at hcount
      rwa [List.length_map]
    rw [horder, hnames, h.arguments, List.map_append, ← hlength, List.take_left, List.drop_left,
      map_slotName_of_buffersOf hnone, map_slotName_of_buffersOf h.last]

/-- Parameters with different names are at most one buffer. -/
theorem IsAround.buffersOf_of_nodup (h : IsAround before after op method directive? b)
    (hnodup : (effectiveNames method.parameters).Nodup) : buffersOf before = [] := by
  rw [← h.comeTo.map_slotName, List.map_append, List.map_cons] at hnodup
  refine List.eq_nil_iff_forall_not_mem.2 fun b' hb' => ?_
  have htransfer := h.comeTo.transfer_of_mem (b := b') (by simp [hb'])
  have htransfer' := h.comeTo.transfer_of_mem (b := b) (by simp)
  have hpointer : b'.pointer = b.pointer :=
    (Prod.mk.inj (Option.some.inj (htransfer.symm.trans htransfer'))).1
  obtain ⟨slot, hslot, hright⟩ := List.mem_filterMap.1 hb'
  obtain rfl : slot = .inr b' := by
    cases slot with
    | inl a => cases hright
    | inr b'' => exact congrArg Sum.inr (Option.some.inj hright)
  exact (List.nodup_append.1 hnodup).2.2 _ (List.mem_map_of_mem hslot) _ (List.mem_cons_self ..)
    hpointer

end

end Instrument.Interface
