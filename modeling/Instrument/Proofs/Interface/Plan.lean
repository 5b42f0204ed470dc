import Instrument.Interface.Layout

/-!
How the packs of an operation take up its arguments. Main statements: the packs follow one another
without a gap; and a pack of scalars holds neighbours, every other pack one argument of its own
category.
-/

namespace Instrument.Interface

/-- Packs that take up arguments of given categories in their order, the first of which has the
position `index`. -/
inductive IsPlan : Nat → List Category → List Pack → Prop
  | nil (index : Nat) : IsPlan index [] []
  | scalars {index : Nat} {rest : List Category} {packs : List Pack} (n : Nat)
      (h : IsPlan (index + n) rest packs) :
      IsPlan index (List.replicate n .scalar ++ rest)
        (⟨.scalar, List.range' index n⟩ :: packs)
  | single {index : Nat} {category : Category} {rest : List Category} {packs : List Pack}
      (hcategory : category ≠ .scalar) (h : IsPlan (index + 1) rest packs) :
      IsPlan index (category :: rest) (⟨category, [index]⟩ :: packs)

/-- A pack of waiting scalars goes in front of a plan of what follows them. -/
theorem isPlan_scalarPack_append {start n : Nat} {rest : List Category} {packs : List Pack}
    (h : IsPlan (start + n) rest packs) :
    IsPlan start (List.replicate n .scalar ++ rest) (scalarPack (List.range' start n) ++ packs) := by
  cases n with
  | zero => simpa [scalarPack] using h
  | succ n => simpa [scalarPack] using IsPlan.scalars (n + 1) h

theorem isPlan_packsFrom (start n : Nat) (categories : List Category) :
    IsPlan start (List.replicate n .scalar ++ categories)
      (packsFrom (List.range' start n) (start + n) categories) := by
  induction categories generalizing start n with
  | nil =>
    rw [packsFrom, ← List.append_nil (scalarPack _)]
    exact isPlan_scalarPack_append (.nil _)
  | cons category rest ih =>
    cases category with
    | scalar =>
      have hwaiting : List.range' start n ++ [start + n] = List.range' start (n + 1) := by
        rw [List.range'_concat, Nat.one_mul]
      have hcategories : List.replicate n Category.scalar ++ .scalar :: rest =
          List.replicate (n + 1) .scalar ++ rest := by
        rw [List.replicate_succ', List.append_assoc, List.singleton_append]
      rw [packsFrom, hwaiting, hcategories]
      exact ih start (n + 1)
    | array => exact isPlan_scalarPack_append (.single (by decide) (ih (start + n + 1) 0))
    | vector => exact isPlan_scalarPack_append (.single (by decide) (ih (start + n + 1) 0))

/-- The packs of an operation are a plan for its arguments. -/
theorem isPlan_packs (categories : List Category) : IsPlan 0 categories (packs categories) :=
  isPlan_packsFrom 0 0 categories

/-- What stands at neighbouring positions of a list. -/
theorem filterMap_range' {α : Type} (before inside after : List α) :
    (List.range' before.length inside.length).filterMap ((before ++ inside ++ after)[·]?) =
      inside := by
  induction inside generalizing before with
  | nil => rfl
  | cons x inside ih =>
    have hrest := ih (before ++ [x])
    simp only [List.length_append, List.length_singleton, List.append_assoc,
      List.cons_append, List.nil_append] at hrest
    simp only [List.length_cons, List.range'_succ, List.append_assoc, List.cons_append]
    rw [List.filterMap_cons_some (by simp : _ = some x), hrest]

/-- The arguments that a pack takes up: scalars, or one argument of its category. -/
inductive TakesUp (arguments : List Argument) : Pack → List Argument → Prop
  | scalars {members : List Nat} {taken : List Argument}
      (hmembers : members.filterMap (arguments[·]?) = taken)
      (hscalar : ∀ a ∈ taken, a.kind.category = .scalar) :
      TakesUp arguments ⟨.scalar, members⟩ taken
  | single {members : List Nat} {a : Argument} (hmembers : members.filterMap (arguments[·]?) = [a])
      (hne : a.kind.category ≠ .scalar) : TakesUp arguments ⟨a.kind.category, members⟩ [a]

/-- Packs in a row take up arguments in a row. -/
inductive TakeUp (arguments : List Argument) : List Pack → List Argument → Prop
  | nil : TakeUp arguments [] []
  | cons {pack : Pack} {packs : List Pack} {taken rest : List Argument}
      (hfirst : TakesUp arguments pack taken) (hrest : TakeUp arguments packs rest) :
      TakeUp arguments (pack :: packs) (taken ++ rest)

/-- A plan takes up the arguments from its first position on. -/
theorem takeUp_of_isPlan {arguments : List Argument} (before : List Argument) {index : Nat}
    {categories : List Category} {packs : List Pack} (h : IsPlan index categories packs)
    {rest : List Argument} (harguments : arguments = before ++ rest)
    (hindex : before.length = index) (hcategories : rest.map (·.kind.category) = categories) :
    TakeUp arguments packs rest := by
  induction h generalizing before rest with
  | nil index =>
    obtain rfl := List.map_eq_nil_iff.1 hcategories
    exact .nil
  | scalars n _ ih =>
    obtain ⟨inside, after, rfl, hinside, hafter⟩ := List.map_eq_append_iff.1 hcategories
    obtain rfl : inside.length = n := by simpa using congrArg List.length hinside
    subst hindex
    have hmembers : (List.range' before.length inside.length).filterMap (arguments[·]?) =
        inside := by
      rw [harguments, ← List.append_assoc]
      exact filterMap_range' before inside after
    have hscalar : ∀ a ∈ inside, a.kind.category = .scalar := by
      intro a ha
      exact List.eq_of_mem_replicate (hinside ▸ List.mem_map_of_mem ha)
    refine .cons (.scalars hmembers hscalar) (ih (before ++ inside) ?_ ?_ hafter)
    · rw [harguments, List.append_assoc]
    · rw [List.length_append]
  | single hcategory _ ih =>
    obtain ⟨a, after, rfl, rfl, hafter⟩ := List.map_eq_cons_iff.1 hcategories
    subst hindex
    have hmembers : [before.length].filterMap (arguments[·]?) = [a] := by
      rw [harguments, List.append_cons]
      exact filterMap_range' before [a] after
    refine .cons (.single hmembers hcategory) (ih (before ++ [a]) ?_ ?_ hafter)
    · rw [harguments, List.append_assoc, List.singleton_append]
    · rw [List.length_append, List.length_singleton]

/-- The packs of some arguments take up all of them. -/
theorem takeUp_packs (arguments : List Argument) :
    TakeUp arguments (packs ((arguments.map (·.kind)).map ArgumentKind.category)) arguments := by
  refine takeUp_of_isPlan [] (isPlan_packs _) rfl rfl ?_
  rw [List.map_map]
  rfl

theorem TakesUp.members_eq {arguments taken : List Argument} {pack : Pack}
    (h : TakesUp arguments pack taken) : pack.members.filterMap (arguments[·]?) = taken := by
  cases h <;> assumption

theorem TakesUp.kinds_eq {arguments taken : List Argument} {pack : Pack}
    (h : TakesUp arguments pack taken) :
    pack.members.filterMap ((arguments.map (·.kind))[·]?) = taken.map (·.kind) := by
  rw [← h.members_eq, List.map_filterMap]
  simp only [List.getElem?_map]

theorem TakeUp.exists_takesUp {arguments rest : List Argument} {packs : List Pack}
    (h : TakeUp arguments packs rest) {pack : Pack} (hpack : pack ∈ packs) :
    ∃ taken, TakesUp arguments pack taken := by
  induction h with
  | nil => cases hpack
  | cons hfirst _ ih =>
    rcases List.mem_cons.1 hpack with rfl | hpack
    · exact ⟨_, hfirst⟩
    · exact ih hpack

/-- Packs in a row hold all arguments that they take up, each once. -/
theorem TakeUp.flatMap_members {arguments rest : List Argument} {packs : List Pack}
    (h : TakeUp arguments packs rest) :
    packs.flatMap (fun p => p.members.filterMap (arguments[·]?)) = rest := by
  induction h with
  | nil => rfl
  | cons hfirst _ ih => rw [List.flatMap_cons, hfirst.members_eq, ih]

end Instrument.Interface
