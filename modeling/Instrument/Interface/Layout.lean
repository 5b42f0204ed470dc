import Instrument.Interface.Operation

/-!
Where the arguments of a call travel. Neighbouring scalars share a pack; every array and every
vector has a pack of its own. Packs up to the first vector lie in the envelope, one after the
other; each later pack is loaded from the stream when its turn comes. Sizes and offsets are numbers
of 64 bits, and what does not fit is lost.
-/

namespace Instrument.Interface

/-- Arguments that are read together, by their positions. -/
structure Pack where
  category : Category
  members : List Nat
deriving DecidableEq, Repr

/-- The pack of the scalars that wait for one. -/
def scalarPack (waiting : List Nat) : List Pack :=
  if waiting.isEmpty then [] else [⟨.scalar, waiting⟩]

/-- The packs of the arguments from position `index` on, after scalars that wait for a pack. -/
def packsFrom (waiting : List Nat) (index : Nat) : List Category → List Pack
  | [] => scalarPack waiting
  | .scalar :: rest => packsFrom (waiting ++ [index]) (index + 1) rest
  | category :: rest =>
    scalarPack waiting ++ ⟨category, [index]⟩ :: packsFrom [] (index + 1) rest

/-- The packs of arguments of given categories. -/
def packs (categories : List Category) : List Pack := packsFrom [] 0 categories

/-- Where a pack travels. -/
inductive Region where
  | envelope (offset : Nat)
  | reload
deriving DecidableEq, Repr

/-- A pack with its place and its size; of a vector only the count is in the pack. -/
structure PlacedPack where
  category : Category
  members : List Nat
  region : Region
  size : Nat
deriving DecidableEq, Repr

/-- Where all arguments of an operation travel. -/
structure Layout where
  packs : List PlacedPack
  hasVector : Bool
  /-- The size of the part in the envelope. -/
  payloadSize : Nat
deriving DecidableEq, Repr

/-- The size of the count before the elements of a vector. -/
def vectorCountSize : Nat := 8

/-- A number as a size keeps it. -/
def wrap (n : Nat) : Nat := n % UInt64.size

/-- The size of an argument in its pack. -/
def ArgumentKind.size : ArgumentKind → Nat
  | scalar type => type.width
  | array element length => wrap (element.width * length)
  | vector _ => vectorCountSize

/-- The size of a pack. -/
def packSize (kinds : List ArgumentKind) (members : List Nat) : Nat :=
  members.foldr (fun i n => wrap ((kinds[i]?.map ArgumentKind.size).getD 0 + n)) 0

/-- Places packs in the envelope from `offset` on until the first vector is placed. -/
def placeInEnvelope (kinds : List ArgumentKind) (offset : Nat) : List Pack → List PlacedPack × Nat
  | [] => ([], offset)
  | p :: ps =>
    let size := packSize kinds p.members
    let placed : PlacedPack := ⟨p.category, p.members, .envelope offset, size⟩
    if p.category = .vector then
      (placed :: ps.map fun p => ⟨p.category, p.members, .reload, packSize kinds p.members⟩,
        wrap (offset + size))
    else
      let (rest, total) := placeInEnvelope kinds (wrap (offset + size)) ps
      (placed :: rest, total)

/-- The layout of arguments of given kinds. -/
def layout (kinds : List ArgumentKind) : Layout :=
  let (placed, total) := placeInEnvelope kinds 0 (packs (kinds.map ArgumentKind.category))
  ⟨placed, kinds.any (·.category == .vector), total⟩

/-- The layout of the arguments of an operation. -/
def Operation.layout (op : Operation) : Layout := Interface.layout (op.arguments.map (·.kind))

end Instrument.Interface
