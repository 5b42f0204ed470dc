import Instrument.Proofs.Call.Decoding
import Instrument.Proofs.Call.Outcome
import Instrument.Proofs.Interface.Numbering
import Instrument.Proofs.Interface.Parameters

/-!
Parameters by their names. What is decoded is looked up by name, and the first entry of a name is
the one that is found. Main statement: each parameter of a described operation is found under its
own name, whatever is decoded, and the order of a call is that of the parameters, just if the names
differ; and they differ just if the declared ones do, and none is a name that is given to a
parameter without one.
-/

namespace Instrument

open Dialogue (Answers Channel)
open Exchange (Ends)
open Interface (Argument ArgumentKind ArePassed Buffer Description IsSource Operation
  effectiveNames)
open Network.Client (Part)
open Wire (Elements Scalar ScalarType)

namespace Interface.Operation

/-- Whether names identify the parameters of an operation: the order of a call lists them, and what
is decoded has an entry for each argument and for the buffer, which is found under its name. -/
structure Identifies (op : Operation) (names : List String) : Prop where
  order : op.callOrder = names
  entries : ∀ (device : String) (payload : Bytes) (w : Answers) (c c' : Channel)
    (found : Arguments),
    Ends w (CallSite.decode ⟨device, op⟩ op.layout payload) c (.ok found) c' →
      found.map (·.1) = op.passedNames ∧
        ∀ entry ∈ found, found.find? entry.1 = some entry.2

end Interface.Operation

/-! ### Looking up -/

namespace Arguments

/-- Among different names, each entry is found under its own. -/
theorem find?_of_nodup {found : Arguments} (h : (found.map (·.1)).Nodup)
    {entry : String × ArgumentValue} (hentry : entry ∈ found) :
    found.find? entry.1 = some entry.2 := by
  have hfirst : List.find? (·.1 == entry.1) found = some entry :=
    (Interface.find?_key_iff h).2 ⟨hentry, rfl⟩
  rw [find?, hfirst]
  rfl

/-- An entry hides those of the same name behind it. -/
theorem find?_append_of_mem {front : Arguments} {name : String} (h : name ∈ front.map (·.1))
    (back : Arguments) : find? (front ++ back) name = find? front name := by
  obtain ⟨entry, hentry, rfl⟩ := List.mem_map.1 h
  have hsome : (List.find? (·.1 == entry.1) front).isSome := by
    rw [List.find?_isSome]
    exact ⟨entry, hentry, beq_self_eq_true _⟩
  rw [find?, find?, List.find?_append, Option.or_of_isSome hsome]

end Arguments

/-- An entry that is put in somewhere can as well be put at the end. -/
theorem take_append_cons_drop_perm {α : Type} (l : List α) (i : Nat) (x : α) :
    (l.take i ++ x :: l.drop i).Perm (l ++ [x]) := by
  have hmiddle : (l.take i ++ x :: l.drop i).Perm (x :: (l.take i ++ l.drop i)) :=
    List.perm_middle
  rw [List.take_append_drop] at hmiddle
  exact hmiddle.trans (List.perm_append_singleton x l).symm

/-! ### Names of what is decoded -/

/-- What is decoded has the names of the arguments, and of the buffer after them. -/
theorem CallSite.map_fst_of_ends {site : CallSite} {payload : Bytes} {w : Answers} {c c' : Channel}
    {found : Arguments}
    (hends : Ends w (site.decode site.operation.layout payload) c (.ok found) c') :
    found.map (·.1) = site.operation.passedNames := by
  unfold decode at hends
  by_cases hsize : payload.length ≠ site.operation.layout.payloadSize
  · rw [if_pos hsize] at hends
    cases hends
  rw [if_neg hsize] at hends
  obtain ⟨entries, c₁, hpacks, hbuffer⟩ := Exchange.exists_of_ends_bind hends
  have hentries := map_fst_of_forall₂ (forall₂_isEntryOf_of_ends hpacks)
  unfold Operation.passedNames
  cases hb : site.operation.buffer? with
  | none =>
    rw [hb] at hbuffer
    cases hbuffer
    simpa using hentries
  | some b =>
    rw [hb] at hbuffer
    obtain ⟨values, c₂, -, hlast⟩ := Exchange.exists_of_ends_bind hbuffer
    cases hlast
    rw [List.map_append, hentries]
    rfl

/-! ### Values of every kind -/

/-- Elements each byte of which is the same. -/
def Wire.Elements.uniform (type : ScalarType) (count : Nat) (byte : UInt8) : Elements where
  type := type
  raw := List.replicate (count * type.width) byte
  whole := by rw [List.length_replicate]; exact Nat.mul_mod_left ..

namespace Wire.Elements

theorem size_uniform (type : ScalarType) (count : Nat) (byte : UInt8) :
    (uniform type count byte).size = count := by
  rw [size, uniform, List.length_replicate]
  exact Nat.mul_div_cancel _ type.width_pos

theorem uniform_ne {type : ScalarType} {count : Nat} (h : 0 < count) :
    uniform type count 0 ≠ uniform type count 1 := by
  intro hsame
  have hraw : List.replicate (count * type.width) (0 : UInt8) = List.replicate _ 1 :=
    congrArg raw hsame
  have hpos : 0 < count * type.width := Nat.mul_pos h type.width_pos
  have hmem : (0 : UInt8) ∈ List.replicate (count * type.width) 1 :=
    hraw ▸ List.mem_replicate.2 ⟨Nat.ne_of_gt hpos, rfl⟩
  exact absurd (List.eq_of_mem_replicate hmem) (by decide)

end Wire.Elements

namespace Network.Client.Part

theorem one_le_transferLimit (element : ScalarType) : 1 ≤ transferLimit element := by
  cases element <;> decide

/-- Every kind of arguments has two values that can be told apart. -/
theorem exists_isOf {kind : ArgumentKind} (h : kind.type.IsFilled) :
    ∃ p q : Part, IsOf kind p ∧ IsOf kind q ∧ p.IsTransferable ∧ q.IsTransferable ∧
      p.value ≠ q.value := by
  cases kind with
  | scalar type =>
    refine ⟨.scalar (.ofBits type 0), .scalar (.ofBits type 1), .scalar (.ofBits type 0),
      .scalar (.ofBits type 1), trivial, trivial, ?_⟩
    cases type <;> decide
  | array element length =>
    have hisOf (byte : UInt8) :
        IsOf (.array element length) (.array (Elements.uniform element length byte)) := by
      have harray := IsOf.array (Elements.uniform element length byte)
      rwa [Elements.size_uniform] at harray
    refine ⟨_, _, hisOf 0, hisOf 1, trivial, trivial, fun hsame => ?_⟩
    exact Elements.uniform_ne h (ArgumentValue.array.inj hsame)
  | vector element =>
    have hready (byte : UInt8) :
        (Part.vector (Elements.uniform element 1 byte)).IsTransferable := by
      rw [IsTransferable, Elements.size_uniform]
      exact one_le_transferLimit element
    refine ⟨_, _, .vector (Elements.uniform element 1 0), .vector (Elements.uniform element 1 1),
      hready 0, hready 1, fun hsame => ?_⟩
    exact Elements.uniform_ne Nat.one_pos (ArgumentValue.vector.inj hsame)

end Network.Client.Part

namespace Interface

theorem exists_arePassed {arguments : List Argument}
    (h : ∀ a ∈ arguments, a.kind.type.IsFilled) :
    ∃ parts, ArePassed arguments parts ∧ ∀ p ∈ parts, p.IsTransferable := by
  induction arguments with
  | nil => exact ⟨[], .nil, by simp⟩
  | cons a arguments ih =>
    obtain ⟨hfirst, hrest⟩ := List.forall_mem_cons.1 h
    obtain ⟨p, -, hp, -, hready, -⟩ := Part.exists_isOf hfirst
    obtain ⟨parts, hparts, hall⟩ := ih hrest
    exact ⟨p :: parts, .cons hp hparts, List.forall_mem_cons.2 ⟨hready, hall⟩⟩

/-- Arguments that are all found under their names, whatever their values are, have different names.
Otherwise two calls that differ in the second argument of a name would give the same value for it,
since the first is found in both. -/
theorem nodup_names_of_lookup {arguments : List Argument}
    (hfilled : ∀ a ∈ arguments, a.kind.type.IsFilled)
    (h : ∀ parts, ArePassed arguments parts → (∀ p ∈ parts, p.IsTransferable) →
      ∃ back : Arguments, ∀ entry ∈ CallSite.named arguments parts,
        (CallSite.named arguments parts ++ back).find? entry.1 = some entry.2) :
    (arguments.map (·.name)).Nodup := by
  rw [List.nodup_iff_pairwise_ne, List.pairwise_map, List.pairwise_iff_getElem]
  intro i j hi hj hij hsame
  have hsplit : arguments = arguments.take j ++ arguments[j] :: arguments.drop (j + 1) := by
    rw [List.getElem_cons_drop, List.take_append_drop]
  have hmem : arguments[j].name ∈ (arguments.take j).map (·.name) := by
    refine List.mem_map.2 ⟨arguments[i], ?_, hsame⟩
    exact List.mem_take_iff_getElem.2 ⟨i, by omega, rfl⟩
  generalize arguments[j] = a at hsplit hmem
  generalize arguments.take j = front at hsplit hmem
  generalize arguments.drop (j + 1) = rest at hsplit
  subst hsplit
  simp only [List.forall_mem_append, List.forall_mem_cons] at hfilled
  obtain ⟨hfront, ha, hrest⟩ := hfilled
  obtain ⟨parts, hparts, hready⟩ := exists_arePassed hfront
  obtain ⟨more, hmore, hready'⟩ := exists_arePassed hrest
  have hnames : (CallSite.named front parts).map (·.1) = front.map (·.name) :=
    List.map_fst_zip (by simpa using Nat.le_of_eq hparts.length_eq)
  -- what is found under the name is an entry of the arguments in front
  have hfound {p : Part} (hp : Part.IsOf a.kind p) (htransferable : p.IsTransferable) :
      Arguments.find? (CallSite.named front parts) a.name = some p.value := by
    obtain ⟨back, hback⟩ := h (parts ++ p :: more) (List.rel_append hparts (.cons hp hmore))
      (by simpa [or_imp, forall_and] using ⟨hready, htransferable, hready'⟩)
    rw [CallSite.named_append hparts] at hback
    have hentry := hback (a.name, p.value)
      (List.mem_append_right _ (List.mem_cons_self (l := CallSite.named rest more)))
    rwa [List.append_assoc, Arguments.find?_append_of_mem (hnames ▸ hmem)] at hentry
  obtain ⟨p, q, hp, hq, hready, hready', hne⟩ := Part.exists_isOf ha
  exact hne (Option.some.inj ((hfound hp hready).symm.trans (hfound hq hready')))

/-! ### Operations -/

namespace Operation

variable {op : Operation}

theorem callOrder_perm_passedNames (op : Operation) : op.callOrder.Perm op.passedNames := by
  unfold callOrder passedNames
  cases op.buffer? with
  | none => simp
  | some b =>
    exact take_append_cons_drop_perm ..

theorem IsDescribed.isFilled_kind (h : op.IsDescribed) :
    ∀ a ∈ op.arguments, a.kind.type.IsFilled := fun a ha =>
  h.classify_type a ha ▸ WireType.isFilled_classify a.type.toList

/-- Every entry of what a call passes is found under its name if names identify parameters. -/
theorem Identifies.find?_received {names : List String} (hidentifies : op.Identifies names)
    (h : op.IsDescribed) {parts : List Part} (hcall : op.IsCall parts)
    (htransferable : ∀ p ∈ parts, p.IsTransferable) :
    ∀ entry ∈ op.received parts, (op.received parts).find? entry.1 = some entry.2 := by
  have hdecode : Dialogue.Completes (fun _ n => n)
      ((⟨"", op⟩ : CallSite).decode op.layout (Part.inEnvelope parts)).run
      (Part.afterEnvelope parts) (.ok (op.received parts)) :=
    CallSite.completes_decode h hcall htransferable fun _ _ => rfl
  obtain ⟨asked, hrun⟩ := Dialogue.run_of_completes hdecode []
  rw [Dialogue.run_eq_runWith] at hrun
  exact (hidentifies.entries _ _ _ _ _ _ hrun).2

theorem Identifies.nodup_of_none {names : List String} (hidentifies : op.Identifies names)
    (h : op.IsDescribed) (hfits : op.Fits) (hbuffer : op.buffer? = none) : op.passedNames.Nodup := by
  have hnames : op.passedNames = op.arguments.map (·.name) := by
    rw [passedNames, hbuffer]
    exact List.append_nil _
  rw [hnames]
  refine nodup_names_of_lookup h.isFilled_kind fun parts hparts htransferable => ⟨[], ?_⟩
  have hreceived : op.received parts = CallSite.named op.arguments parts := by
    rw [received, hnames, flatMap_values_of_arePassed hparts]
    rfl
  rw [List.append_nil, ← hreceived]
  exact hidentifies.find?_received h (.plain hbuffer hparts hfits) htransferable

section

variable {b : Buffer} {others : List Argument} {length : Argument} {parts : List Part}

/-- What the receiver gets of a call with a buffer. -/
theorem received_buffered (hbuffer : op.buffer? = some b)
    (harguments : op.arguments = others ++ [length]) (hlength : IsLengthOf length b others)
    (hparts : ArePassed others parts) (values : Elements) :
    op.received (parts ++ [.buffer values]) = CallSite.named others parts ++
      [(b.length, .scalar (.ofBits .u32 values.size)), (b.pointer, .buffer values)] := by
  have hlast : CallSite.named [length] [.scalar (.ofBits .u32 values.size)] =
      [(b.length, .scalar (.ofBits .u32 values.size))] := by
    rw [← hlength.name]
    rfl
  rw [(@CallSite.dropLast_received ⟨"", op⟩ _ _ _ _ values hbuffer harguments hparts).1]
  simp only [harguments, CallSite.counted]
  rw [CallSite.named_append hparts, hlast, List.append_assoc]
  rfl

/-- Every entry of a call with one element is found, whatever the bytes of the element are. -/
theorem Identifies.find?_one {names : List String} (hidentifies : op.Identifies names)
    (h : op.IsDescribed) (hfits : op.Fits) (hbuffer : op.buffer? = some b)
    (harguments : op.arguments = others ++ [length]) (hlength : IsLengthOf length b others)
    (hparts : ArePassed others parts) (htransferable : ∀ p ∈ parts, p.IsTransferable)
    (byte : UInt8) :
    ∀ entry ∈ CallSite.named others parts ++ [(b.length, .scalar (.ofBits .u32 1)),
        (b.pointer, .buffer (.uniform b.element 1 byte))],
      Arguments.find? (CallSite.named others parts ++ [(b.length, .scalar (.ofBits .u32 1)),
        (b.pointer, .buffer (.uniform b.element 1 byte))]) entry.1 = some entry.2 := by
  have hcall : op.IsCall (parts ++ [.buffer (.uniform b.element 1 byte)]) := by
    refine .buffered hbuffer ?_ rfl hfits
    rwa [harguments, List.dropLast_concat]
  have hall : ∀ p ∈ parts ++ [.buffer (.uniform b.element 1 byte)], p.IsTransferable := by
    intro p hp
    rcases List.mem_append.1 hp with hp | hp
    · exact htransferable p hp
    · rw [List.mem_singleton.1 hp, Part.IsTransferable, Elements.size_uniform]
      exact Part.one_le_transferLimit b.element
  have hreceived := received_buffered hbuffer harguments hlength hparts (.uniform b.element 1 byte)
  rw [Elements.size_uniform] at hreceived
  rw [← hreceived]
  exact hidentifies.find?_received h hcall hall

theorem Identifies.nodup_of_some {names : List String} (hidentifies : op.Identifies names)
    (h : op.IsDescribed) (hfits : op.Fits) (hbuffer : op.buffer? = some b) : op.passedNames.Nodup := by
  obtain ⟨others, length, harguments, hlength⟩ := h.exists_isLengthOf hbuffer
  have hfilled : ∀ a ∈ others, a.kind.type.IsFilled := fun a ha =>
    h.isFilled_kind a (harguments ▸ List.mem_append_left _ ha)
  have hfind {parts : List Part} (hparts : ArePassed others parts)
      (htransferable : ∀ p ∈ parts, p.IsTransferable) (byte : UInt8) :=
    hidentifies.find?_one h hfits hbuffer harguments hlength hparts htransferable byte
  have hothers : (others.map (·.name)).Nodup :=
    nodup_names_of_lookup hfilled fun parts hparts htransferable =>
      ⟨_, fun entry hentry => hfind hparts htransferable 0 entry (List.mem_append_left _ hentry)⟩
  have hlast : b.length ∉ others.map (·.name) := by
    intro hmem
    obtain ⟨a, ha, hname⟩ := List.mem_map.1 hmem
    exact hlength.unique a ha hname
  -- two calls that differ in the buffer only
  have hpointer : b.pointer ∉ (others.map (·.name)).concat b.length := by
    obtain ⟨parts, hparts, htransferable⟩ := exists_arePassed hfilled
    let front : Arguments := CallSite.named others parts ++ [(b.length, .scalar (.ofBits .u32 1))]
    have hnames : front.map (·.1) = (others.map (·.name)).concat b.length := by
      rw [List.map_append, CallSite.named,
        List.map_fst_zip (by simpa using Nat.le_of_eq hparts.length_eq), List.concat_eq_append]
      rfl
    intro hmem
    have hfront (byte : UInt8) :
        front.find? b.pointer = some (.buffer (.uniform b.element 1 byte)) := by
      have hentry := hfind hparts htransferable byte
        (b.pointer, .buffer (.uniform b.element 1 byte)) (by simp)
      rwa [List.append_cons, Arguments.find?_append_of_mem (hnames ▸ hmem)] at hentry
    have hsame := Option.some.inj ((hfront 0).symm.trans (hfront 1))
    exact Elements.uniform_ne Nat.one_pos (ArgumentValue.buffer.inj hsame)
  have hnames : op.passedNames = ((others.map (·.name)).concat b.length).concat b.pointer := by
    rw [passedNames, hbuffer, harguments, List.map_append, List.map_singleton, hlength.name,
      List.concat_eq_append, List.concat_eq_append]
    rfl
  rw [hnames]
  exact (hothers.concat hlast).concat hpointer

end

/-- The names of what is passed differ if each is found. -/
theorem Identifies.nodup_passedNames {names : List String} (hidentifies : op.Identifies names)
    (h : op.IsDescribed) (hfits : op.Fits) : op.passedNames.Nodup := by
  cases hbuffer : op.buffer? with
  | none => exact hidentifies.nodup_of_none h hfits hbuffer
  | some b => exact hidentifies.nodup_of_some h hfits hbuffer

end Operation

/-! ### Methods -/

/-- Names that differ identify the parameters of a method in its operation. -/
theorem identifies_of_nodup {op : Operation} {method : Header.Method} {id : UInt16}
    {directive? : Option Directive} (h : operation method id directive? = .ok op)
    (hnodup : (effectiveNames method.parameters).Nodup) :
    op.Identifies (effectiveNames method.parameters) := by
  have horder : op.callOrder = effectiveNames method.parameters := by
    cases hbuffer : op.buffer? with
    | none =>
      obtain ⟨slots, hslots, harguments, hlast⟩ := exists_comeTo_of_operation h
      have hnone : buffersOf slots = [] := by
        rwa [hbuffer, eq_comm, List.getLast?_eq_none_iff] at hlast
      rw [Operation.callOrder, hbuffer, harguments, ← hslots.map_slotName,
        map_slotName_of_buffersOf hnone]
    | some b =>
      obtain ⟨before, after, haround⟩ := exists_isAround h hbuffer
      exact (haround.callOrder_eq_iff hbuffer).2 (haround.buffersOf_of_nodup hnodup)
  have hpassed : op.passedNames.Nodup := by
    rwa [← op.callOrder_perm_passedNames.nodup_iff, horder]
  refine ⟨horder, fun device payload w c c' found hends => ?_⟩
  have hnames := CallSite.map_fst_of_ends hends
  exact ⟨hnames, fun entry hentry => Arguments.find?_of_nodup (hnames ▸ hpassed) hentry⟩

/-- The names of the parameters of a method that identify them in its operation differ. -/
theorem Operation.Identifies.nodup {op : Operation} {names : List String}
    (hidentifies : op.Identifies names) (hop : op.IsDescribed) (hfits : op.Fits) : names.Nodup := by
  rw [← hidentifies.order, op.callOrder_perm_passedNames.nodup_iff]
  exact hidentifies.nodup_passedNames hop hfits

/-- The parameters of every operation of a class are identified by their names if the names differ,
and only then if no size of the operation loses anything. The names differ just if the declared
names do and none of them is the name that a parameter without one is given. -/
theorem identifies_iff {all : List Pragma} {c : Header.Class} {d : Description}
    (h : Description.ofClass all c = .ok d) {op : Operation} (hop : op ∈ d.operations) :
    ∃ method directive?, IsSource all c method directive? ∧
      operation method op.id directive? = .ok op ∧
      ((effectiveNames method.parameters).Nodup →
        op.Identifies (effectiveNames method.parameters)) ∧
      (op.Fits → (op.Identifies (effectiveNames method.parameters) ↔
        (effectiveNames method.parameters).Nodup)) ∧
      ((effectiveNames method.parameters).Nodup ↔
        (declaredNames method.parameters).Nodup ∧
          ∀ (i : Nat) (p : Header.Parameter), method.parameters[i]? = some p → p.name? = none →
            "arg" ++ toString i ∉ declaredNames method.parameters) := by
  obtain ⟨method, directive?, hsource, hdeclared⟩ := exists_isSource h hop
  have hidentifies := identifies_of_nodup hdeclared
  exact ⟨method, directive?, hsource, hdeclared, hidentifies,
    fun hfits => ⟨fun hnames => hnames.nodup ⟨all, c, d, h, hop⟩ hfits, hidentifies⟩,
    nodup_effectiveNames_iff _⟩

/-- A class with a method whose first parameter has no name, and that takes a buffer. -/
def gaugeClass : Header.Class :=
  ⟨"Gauge", 1, [⟨"load", 3, "void", [⟨none, "uint8_t"⟩, ⟨some "marks", "const uint16_t*"⟩,
    ⟨some "count", "uint32_t"⟩], true⟩]⟩

/-- The operation of this method. -/
def gaugeLoad : Operation where
  name := "load"
  tag := "LOAD"
  id := 0
  resultType := "void"
  result := .void
  mode := .write
  arguments := [⟨"arg0", "uint8_t", false, false, .scalar .u8⟩,
    ⟨"count", "uint32_t", false, false, .scalar .u32⟩]
  buffer? := some ⟨"marks", 1, "count", .u16, true⟩
  lengthExpression? := none
  line := 3

theorem ofClass_gaugeClass :
    Description.ofClass [⟨2, "write_array arg\x7bmarks\x7d arg\x7bcount\x7d"⟩] gaugeClass =
      .ok ⟨"Gauge", "GAUGE", 0, [gaugeLoad], none⟩ := by
  rfl

theorem identifies_iff_gaugeLoad : gaugeLoad.Fits ∧
    gaugeLoad.Identifies ["arg0", "marks", "count"] := by
  obtain ⟨method, directive?, hsource, -, -, hidentifies, -⟩ :=
    identifies_iff ofClass_gaugeClass (List.mem_singleton_self gaugeLoad)
  obtain rfl := List.mem_singleton.1 hsource.mem
  have hfits : gaugeLoad.Fits := by decide
  exact ⟨hfits, (hidentifies hfits).2 (by decide)⟩

/-- A class with a method that has a parameter without a name, and one with the name that the first
is given. -/
def valveClass : Header.Class :=
  ⟨"Valve", 1, [⟨"turn", 3, "void", [⟨none, "uint8_t"⟩, ⟨some "arg0", "uint32_t"⟩], true⟩]⟩

/-- The operation of this method. -/
def valveTurn : Operation where
  name := "turn"
  tag := "TURN"
  id := 0
  resultType := "void"
  result := .void
  mode := .write
  arguments := [⟨"arg0", "uint8_t", false, false, .scalar .u8⟩,
    ⟨"arg0", "uint32_t", false, false, .scalar .u32⟩]
  buffer? := none
  lengthExpression? := none
  line := 3

/-- The class is accepted, both values of a call are decoded, and under the name of the second
parameter the value of the first is found. -/
theorem not_identifies_valveTurn :
    Description.ofClass [] valveClass = .ok ⟨"Valve", "VALVE", 0, [valveTurn], none⟩ ∧
      (∀ method ∈ valveClass.methods,
        ¬valveTurn.Identifies (effectiveNames method.parameters) ∧
          ¬(effectiveNames method.parameters).Nodup) ∧
      Ends ⟨fun _ n => n, fun _ _ => .ok ()⟩
        (CallSite.decode ⟨"Valve", valveTurn⟩ valveTurn.layout [7, 0, 0, 0, 9]) { incoming := [] }
        (.ok [("arg0", .scalar (.ofBits .u8 7)), ("arg0", .scalar (.ofBits .u32 9))])
        { incoming := [] } ∧
      Arguments.find? [("arg0", .scalar (.ofBits .u8 7)), ("arg0", .scalar (.ofBits .u32 9))]
        "arg0" = some (.scalar (.ofBits .u8 7)) := by
  have hends : Ends ⟨fun _ n => n, fun _ _ => .ok ()⟩
      (CallSite.decode ⟨"Valve", valveTurn⟩ valveTurn.layout [7, 0, 0, 0, 9]) { incoming := [] }
      (.ok [("arg0", .scalar (.ofBits .u8 7)), ("arg0", .scalar (.ofBits .u32 9))])
      { incoming := [] } := by
    rfl
  have hfirst : Arguments.find? [("arg0", .scalar (.ofBits .u8 7)),
      ("arg0", .scalar (.ofBits .u32 9))] "arg0" = some (.scalar (.ofBits .u8 7)) := by
    decide
  refine ⟨rfl, fun method hmethod => ?_, hends, hfirst⟩
  obtain rfl := List.mem_singleton.1 hmethod
  refine ⟨fun hidentifies => ?_, by decide⟩
  have hsecond := (hidentifies.entries _ _ _ _ _ _ hends).2
    ("arg0", .scalar (.ofBits .u32 9)) (by simp)
  rw [hfirst] at hsecond
  exact absurd hsecond (by decide)

end Interface

end Instrument
