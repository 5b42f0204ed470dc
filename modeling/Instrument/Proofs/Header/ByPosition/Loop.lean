import Instrument.Header.Token

/-!
Reading by position. Such a reading does not take characters or tokens off a list but keeps the
list and counts how far it has come, and so it can do what one of lists cannot: ask for something
where there is nothing, count below zero, or go round without getting on. Each of these ends it.
Main statement of the lemmas: loops by position go through a list as recursions on what is left of
it do.
-/

namespace Instrument.Header.ByPosition

/-- How a reading by position ends without a result. -/
inductive Halt where
  /-- Something is asked for at a position where there is nothing. -/
  | outOfRange
  /-- A count that is zero is counted down. -/
  | belowZero
  /-- A loop goes round again without getting on. -/
  | stuck
  /-- The header is refused. -/
  | refused (e : ParseError)
deriving DecidableEq, Repr

/-- What a reading by position comes to. -/
abbrev Reading (α : Type) := Except Halt α

variable {α β γ δ σ : Type}

/-- What stands at a position. -/
def entry (l : List α) (pos : Nat) : Reading α :=
  match l[pos]? with
  | some a => .ok a
  | none => .error .outOfRange

/-- What stands from a position on, up to another one. -/
def slice (l : List α) (first last : Nat) : Reading (List α) :=
  if first ≤ last ∧ last ≤ l.length then .ok ((l.drop first).take (last - first))
  else .error .outOfRange

/-- Counts down. -/
def decrement : Nat → Reading Nat
  | 0 => .error .belowZero
  | n + 1 => .ok n

/-- Refuses the header. -/
def refuse (line : Nat) (fault : ParseFault) : Reading α := .error (.refused ⟨line, fault⟩)

/-- Whether there is something in front of a position, and it is as asked for. -/
def follows (p : α → Bool) (l : List α) (pos : Nat) : Reading Bool :=
  if 0 < pos then do
    let before ← decrement pos
    return p (← entry l before)
  else return false

/-! ### Loops -/

/-- How a round of a loop ends. -/
inductive Round (σ α : Type) where
  /-- Another round follows, from a position and with what is known there. -/
  | again (pos : Nat) (state : σ)
  | done (result : α)

/-- Goes round from a position. A round that another one follows has to begin in front of the end
and to end further on. -/
def loop (length : Nat) (round : Nat → σ → Reading (Round σ α)) (pos : Nat) (state : σ) :
    Reading α :=
  match round pos state with
  | .error halt => .error halt
  | .ok (.done result) => .ok result
  | .ok (.again pos' state') =>
    if pos < length ∧ pos < pos' then loop length round pos' state' else .error .stuck
termination_by length - pos
decreasing_by omega

section

variable {length pos pos' : Nat} {round : Nat → σ → Reading (Round σ α)} {state state' : σ}

theorem loop_of_again (h : round pos state = .ok (.again pos' state')) (hpos : pos < length)
    (hlt : pos < pos') : loop length round pos state = loop length round pos' state' := by
  rw [loop, h]
  exact if_pos ⟨hpos, hlt⟩

theorem loop_of_done {result : α} (h : round pos state = .ok (.done result)) :
    loop length round pos state = .ok result := by
  rw [loop, h]

theorem loop_of_error {halt : Halt} (h : round pos state = .error halt) :
    loop length round pos state = .error halt := by
  rw [loop, h]

end

/-! ### Positions and what is left -/

section

variable {l rest front : List α} {a : α} {pos : Nat}

theorem getElem?_of_drop (h : l.drop pos = a :: rest) : l[pos]? = some a := by
  rw [← Nat.add_zero pos, ← List.getElem?_drop, h, List.getElem?_cons_zero]

theorem getElem?_succ_of_drop (h : l.drop pos = a :: rest) : l[pos + 1]? = rest.head? := by
  rw [← List.getElem?_drop, h, List.getElem?_cons_succ, List.head?_eq_getElem?]

theorem getElem?_of_drop_nil (h : l.drop pos = []) : l[pos]? = none :=
  List.getElem?_eq_none (List.drop_eq_nil_iff.1 h)

theorem getElem?_eq_head? (h : l.drop pos = rest) : l[pos]? = rest.head? := by
  cases rest with
  | nil => exact getElem?_of_drop_nil h
  | cons a rest => exact getElem?_of_drop h

theorem drop_succ_of_drop (h : l.drop pos = a :: rest) : l.drop (pos + 1) = rest := by
  rw [← List.drop_drop, h, List.drop_one, List.tail_cons]

theorem drop_of_drop_cons (h : l.drop pos = a :: rest) (n : Nat) :
    l.drop (pos + (n + 1)) = rest.drop n := by
  rw [← List.drop_drop, h, List.drop_succ_cons]

theorem lt_length_of_drop (h : l.drop pos = a :: rest) : pos < l.length :=
  (List.getElem?_eq_some_iff.1 (getElem?_of_drop h)).1

/-- A round that goes on with the next position does get on. -/
theorem loop_of_succ {round : Nat → σ → Reading (Round σ β)} {state state' : σ}
    (h : l.drop pos = a :: rest) (hround : round pos state = .ok (.again (pos + 1) state')) :
    loop l.length round pos state = loop l.length round (pos + 1) state' :=
  loop_of_again hround (lt_length_of_drop h) (Nat.lt_succ_self pos)

theorem entry_of_drop (h : l.drop pos = a :: rest) : entry l pos = .ok a := by
  rw [entry, getElem?_of_drop h]

theorem drop_of_drop_append (h : l.drop pos = front ++ rest) :
    l.drop (pos + front.length) = rest := by
  rw [← List.drop_drop, h, List.drop_left]

theorem slice_of_drop (h : l.drop pos = front ++ rest) (hpos : pos ≤ l.length) :
    slice l pos (pos + front.length) = .ok front := by
  have hlength := congrArg List.length h
  rw [List.length_drop, List.length_append] at hlength
  rw [slice, if_pos (by omega), h, Nat.add_sub_cancel_left, List.take_left]

theorem slice_to_end (h : l.drop pos = rest) (hpos : pos ≤ l.length) :
    slice l pos l.length = .ok rest := by
  have hlength := congrArg List.length h
  rw [List.length_drop] at hlength
  have hend : l.length = pos + rest.length := by omega
  rw [hend, slice_of_drop (h.trans (List.append_nil rest).symm) hpos]

theorem slice_zero (h : pos ≤ l.length) : slice l 0 pos = .ok (l.take pos) := by
  rw [slice, if_pos ⟨Nat.zero_le pos, h⟩, List.drop_zero, Nat.sub_zero]

theorem follows_eq_ok (p : α → Bool) (h : pos ≤ l.length) :
    follows p l pos = .ok ((l.take pos).getLast?.any p) := by
  cases pos with
  | zero => rfl
  | succ pos =>
    rw [follows, if_pos (Nat.succ_pos pos), List.take_add_one, List.getElem?_eq_getElem h]
    have hentry : entry l pos = .ok l[pos] := by rw [entry, List.getElem?_eq_getElem h]
    change (entry l pos >>= fun a => pure (p a)) = _
    rw [hentry, Option.toList_some, List.getLast?_concat]
    rfl

/-- Where less is left, the position is further on. -/
theorem lt_of_drop {pos' : Nat} {rest' : List α} (h : l.drop pos = rest)
    (h' : l.drop pos' = rest') (hlt : rest'.length < rest.length) : pos < pos' := by
  rw [← h, ← h', List.length_drop, List.length_drop] at hlt
  omega

end

/-! ### Going on for as long as something holds -/

/-- A round of `skipWhile`. -/
def whileRound (p : α → Bool) (l : List α) (pos : Nat) (_ : Unit) : Reading (Round Unit Nat) :=
  if pos < l.length then do
    let a ← entry l pos
    return if p a then .again (pos + 1) () else .done pos
  else return .done pos

/-- The first position, from a given one on, at which something does not hold. -/
def skipWhile (p : α → Bool) (l : List α) (pos : Nat) : Reading Nat :=
  loop l.length (whileRound p l) pos ()

theorem skipWhile_eq (p : α → Bool) (l : List α) (pos : Nat) :
    skipWhile p l pos = .ok (pos + ((l.drop pos).takeWhile p).length) := by
  generalize hrest : l.drop pos = rest
  induction rest generalizing pos with
  | nil => exact loop_of_done (if_neg (Nat.not_lt.2 (List.drop_eq_nil_iff.1 hrest)))
  | cons a rest ih =>
    have hlt := lt_length_of_drop hrest
    have hround : whileRound p l pos () =
        .ok (if p a then .again (pos + 1) () else .done pos) := by
      rw [whileRound, if_pos hlt, entry_of_drop hrest]
      rfl
    cases hp : p a with
    | false =>
      rw [List.takeWhile_cons_of_neg (by simp [hp])]
      exact loop_of_done (by rw [hround, hp]; rfl)
    | true =>
      rw [List.takeWhile_cons_of_pos hp, List.length_cons, ← Nat.add_assoc, Nat.add_right_comm,
        ← ih (pos + 1) (drop_succ_of_drop hrest)]
      exact loop_of_succ hrest (by rw [hround, hp]; rfl)

theorem exists_skipWhile (p : α → Bool) {l rest : List α} {pos : Nat} (h : l.drop pos = rest) :
    ∃ next, skipWhile p l pos = .ok next ∧ l.drop next = rest.dropWhile p := by
  refine ⟨_, skipWhile_eq p l pos, drop_of_drop_append ?_⟩
  rw [h, List.takeWhile_append_dropWhile]

/-- Where it holds at the beginning, what it holds of can be cut out. -/
theorem slice_skipWhile {p : α → Bool} {l rest : List α} {a : α} {pos : Nat}
    (h : l.drop pos = a :: rest) (hp : p a = true) :
    ∃ last, skipWhile p l pos = .ok last ∧ slice l pos last = .ok (a :: rest.takeWhile p) ∧
      l.drop last = rest.dropWhile p ∧ pos < last := by
  have htake : (l.drop pos).takeWhile p = a :: rest.takeWhile p := by
    rw [h, List.takeWhile_cons_of_pos hp]
  have hsplit : l.drop pos = (a :: rest.takeWhile p) ++ rest.dropWhile p := by
    rw [h, List.cons_append, List.takeWhile_append_dropWhile]
  refine ⟨pos + (a :: rest.takeWhile p).length, ?_, ?_, drop_of_drop_append hsplit, ?_⟩
  · rw [skipWhile_eq, htake]
  · exact slice_of_drop hsplit (Nat.le_of_lt (lt_length_of_drop h))
  · exact Nat.lt_add_of_pos_right (Nat.succ_pos _)

/-! ### Agreement -/

/-- A reading by position agrees with another one if both refuse the header for the same fault, or
what they come to is related. -/
inductive Agrees (R : α → β → Prop) : Reading α → Except ParseError β → Prop where
  | ok {a : α} {b : β} (h : R a b) : Agrees R (.ok a) (.ok b)
  | refused (e : ParseError) : Agrees R (.error (.refused e)) (.error e)

namespace Agrees

variable {R : α → β → Prop} {S : γ → δ → Prop} {x : Reading α} {y : Except ParseError β}

theorem bind {f : α → Reading γ} {g : β → Except ParseError δ} (h : Agrees R x y)
    (hnext : ∀ a b, R a b → Agrees S (f a) (g b)) : Agrees S (x >>= f) (y >>= g) := by
  cases h with
  | ok h => exact hnext _ _ h
  | refused e => exact .refused e

theorem map {f : α → γ} {g : β → δ} (h : Agrees R x y)
    (hnext : ∀ a b, R a b → S (f a) (g b)) : Agrees S (x.map f) (y.map g) := by
  cases h with
  | ok h => exact .ok (hnext _ _ h)
  | refused e => exact .refused e

theorem map_right {S : α → δ → Prop} {g : β → δ} (h : Agrees R x y)
    (hnext : ∀ a b, R a b → S a (g b)) : Agrees S x (y.map g) := by
  cases h with
  | ok h => exact .ok (hnext _ _ h)
  | refused e => exact .refused e

theorem bind_map {f : α → Reading γ} {g : β → δ} (h : Agrees R x y)
    (hnext : ∀ a b, R a b → ∃ c, f a = .ok c ∧ S c (g b)) : Agrees S (x >>= f) (y.map g) := by
  cases h with
  | ok h =>
    obtain ⟨c, hc, hrelated⟩ := hnext _ _ h
    change Agrees S (f _) _
    rw [hc]
    exact .ok hrelated
  | refused e => exact .refused e

theorem mono {R' : α → β → Prop} (h : Agrees R x y) (hsub : ∀ a b, R a b → R' a b) :
    Agrees R' x y := by
  cases h with
  | ok h => exact .ok (hsub _ _ h)
  | refused e => exact .refused e

theorem exists_eq_ok {b : β} (h : Agrees R x (.ok b)) : ∃ a, x = .ok a ∧ R a b := by
  cases h with
  | ok h => exact ⟨_, rfl, h⟩

theorem eq_refused {e : ParseError} (h : Agrees R x (.error e)) : x = .error (.refused e) := by
  cases h
  rfl

/-- Readings that agree on what they come to differ in nothing but how they refuse. -/
theorem eq_mapError {x : Reading β} (h : Agrees Eq x y) : x = y.mapError .refused := by
  cases h with
  | ok h => exact congrArg Except.ok h
  | refused e => rfl

end Agrees

end Instrument.Header.ByPosition
