import Instrument.Text.Blank

/-!
Length expressions tell how many elements a pointer result has. They are source text in which
`arg{name}` stands for an argument and `this{member}` for a member of the device.
-/

namespace Instrument.Interface

/-- The two kinds of references, and what each becomes in the generated source. -/
def referenceForms : List (List Char × List Char) :=
  [("arg\x7b".toList, "args.".toList), ("this\x7b".toList, "THIS->".toList)]

/-- What a reference that begins a text becomes, and the text from its body on. -/
def openReference? (cs : List Char) : Option (List Char × List Char) :=
  referenceForms.findSome? fun (opening, replacement) =>
    (Text.after? opening cs).map fun rest => (replacement, rest)

theorem length_lt_of_openReference? {cs replacement inside : List Char}
    (h : openReference? cs = some (replacement, inside)) : inside.length < cs.length := by
  obtain ⟨form, hform, heq⟩ := List.exists_of_findSome?_eq_some h
  obtain ⟨rest, hrest, hpair⟩ := Option.map_eq_some_iff.1 heq
  cases hpair
  have happ := congrArg List.length (Text.after?_eq_some_iff.1 hrest)
  have hopening : 0 < form.1.length := by
    simp only [referenceForms, List.mem_cons, List.not_mem_nil, or_false] at hform
    rcases hform with rfl | rfl <;> decide
  simp only [List.length_append] at happ
  omega

/-- The source text of a length expression. From a reference that is not closed on, the text is
taken as it stands. -/
def lengthSource (cs : List Char) : List Char :=
  match cs with
  | [] => []
  | c :: rest =>
    match _h : openReference? (c :: rest) with
    | none => c :: lengthSource rest
    | some (replacement, inside) =>
      match _h' : inside.dropWhile (· != '}') with
      | [] => c :: rest
      | _ :: after => replacement ++ inside.takeWhile (· != '}') ++ lengthSource after
termination_by cs.length
decreasing_by
  · simp
  · have hlt := length_lt_of_openReference? _h
    have hdrop := (List.dropWhile_suffix (· != '}') (l := inside)).length_le
    rw [_h'] at hdrop
    simp only [List.length_cons] at hlt hdrop ⊢
    omega

end Instrument.Interface
