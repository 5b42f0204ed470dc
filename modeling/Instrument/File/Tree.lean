import Instrument.File.Path
import Instrument.SystemError
import Instrument.Text.Utf8
import Instrument.Wire.Bytes

/-!
Files and directories as a program that runs in one directory sees them. Around that directory
there is nothing but the directories above it. Main statement: what is put at a location leaves
every other location as it was.
-/

namespace Instrument

/-- Where a location is counted from. -/
inductive Anchor where
  | root
  /-- The directory this many levels above the one in which the program runs. -/
  | above (levels : Nat)
deriving DecidableEq, Repr

/-- A place for a file or a directory. -/
structure Location where
  anchor : Anchor
  /-- The names on the way from the anchor, the last first. -/
  names : List String
deriving DecidableEq, Repr

namespace Location

/-- The directory in which the program runs. -/
def here : Location := ⟨.above 0, []⟩

/-- The directory around a location; the root is its own. -/
def parent : Location → Location
  | ⟨anchor, _ :: names⟩ => ⟨anchor, names⟩
  | ⟨.root, []⟩ => ⟨.root, []⟩
  | ⟨.above levels, []⟩ => ⟨.above (levels + 1), []⟩

/-- A location in a directory. -/
def child (l : Location) (name : String) : Location := ⟨l.anchor, name :: l.names⟩

/-- The path to a location. -/
def path (l : Location) : String :=
  let names := "/".intercalate l.names.reverse
  match l.anchor with
  | .root => "/" ++ names
  | .above levels => String.join (List.replicate levels "../") ++ names

/-- Whether a location is in the directory in which the program runs, or below it. -/
def isBelow (l : Location) : Bool := l.anchor == .above 0

end Location

/-- What is at a location. -/
inductive FileNode where
  | file (bytes : Bytes)
  | directory
deriving DecidableEq, Repr

/-- All files and directories but the anchors, which are always there. -/
structure FileTree where
  entries : List (Location × FileNode) := []
deriving DecidableEq, Repr

namespace FileTree

/-- The longest name in bytes. -/
def maxName : Nat := 255

/-- The longest path in bytes. -/
def maxPath : Nat := 4095

/-- What is at a location, if there is anything. -/
def node? (t : FileTree) (l : Location) : Option FileNode :=
  if l.names.isEmpty then some .directory else t.entries.lookup l

/-- The tree with something else at a location. -/
def put (t : FileTree) (l : Location) (node : FileNode) : FileTree :=
  ⟨t.entries.filter (·.1 ≠ l) ++ [(l, node)]⟩

/-- The location of a name in a directory. -/
def enter (t : FileTree) (l : Location) (name : List Char) : Except SystemError Location :=
  match t.node? l with
  | none => .error .notFound
  | some (.file _) => .error .notADirectory
  | some .directory =>
    if Path.isVoid name then .ok l
    else if name == ['.', '.'] then .ok l.parent
    else if maxName < (Text.utf8 (String.ofList name)).length then .error .nameTooLong
    else .ok (l.child (String.ofList name))

/-- The location that a path leads to; there may be nothing. -/
def locate (t : FileTree) (path : List Char) : Except SystemError Location :=
  if path.contains '\x00' then .error .nulInPath
  else if path.isEmpty then .error .notFound
  else if maxPath < (Text.utf8 (String.ofList path)).length then .error .nameTooLong
  else
    let start : Location := if Path.isAbsolute path then ⟨.root, []⟩ else .here
    (Path.pieces path).foldlM t.enter start

/-- The bytes of a file. -/
def read (t : FileTree) (path : List Char) : Except SystemError Bytes := do
  match t.node? (← t.locate path) with
  | some (.file bytes) => return bytes
  | some .directory => throw .isADirectory
  | none => throw .notFound

/-- The text in a file. -/
def readText (t : FileTree) (path : List Char) : Except SystemError String := do
  match Text.ofUtf8? (← t.read path) with
  | some text => return text
  | none => throw .notText

/-- Whether a path leads to a directory. -/
def isDirectory (t : FileTree) (path : List Char) : Bool :=
  match t.locate path with
  | .ok l => t.node? l == some .directory
  | .error _ => false

/-- The tree with a new directory. -/
def makeDirectory (t : FileTree) (path : List Char) : Except SystemError FileTree := do
  let path := if path.all (· == '/') then path else Text.dropEndWhile (· == '/') path
  let l ← t.locate path
  let name := (Path.pieces path).getLastD []
  if Path.isVoid name || name == ['.', '.'] || (t.node? l).isSome then throw .alreadyExists
  return t.put l .directory

/-- The tree with the first of some paths as a directory; a path comes before those of the
directories around it. What was made before a refusal stays. -/
def makeFirst (t : FileTree) : List (List Char) → Option SystemError × FileTree
  | [] => (some .notFound, t)
  | path :: around =>
    let give (t : FileTree) (e : SystemError) : Option SystemError × FileTree :=
      if t.isDirectory path then (none, t) else (some e, t)
    if path.isEmpty then (none, t)
    else
      match t.makeDirectory path with
      | .ok t => (none, t)
      | .error .notFound =>
        match t.makeFirst around with
        | (some e, t) => (some e, t)
        | (none, t) =>
          match t.makeDirectory path with
          | .ok t => (none, t)
          | .error e => give t e
      | .error e => give t e

/-- The tree with a directory and all directories around it. -/
def makeDirectories (t : FileTree) (path : List Char) : Option SystemError × FileTree :=
  t.makeFirst (Path.ancestors path.length path)

/-- The tree with a file that holds some bytes. -/
def write (t : FileTree) (path : List Char) (bytes : Bytes) : Except SystemError FileTree := do
  let stripped := Text.dropEndWhile (· == '/') path
  let l ← t.locate (if stripped.isEmpty then path else stripped)
  if path.getLast? == some '/' then throw .isADirectory
  match t.node? l with
  | some .directory => throw .isADirectory
  | some (.file _) | none => return t.put l (.file bytes)

/-- The tree with a file at a path, and directories on the way. -/
def addFile (t : FileTree) (path : String) (bytes : Bytes) : FileTree :=
  let path := path.toList
  let t := (t.makeDirectories ((Path.parent? path).getD [])).2
  match t.write path bytes with
  | .ok t => t
  | .error _ => t

/-- All files below the directory in which the program runs, by their paths. -/
def files (t : FileTree) : List (String × Bytes) :=
  t.entries.filterMap fun
    | (l, .file bytes) => if l.isBelow then some (l.path, bytes) else none
    | (_, .directory) => none

/-- What is in one tree and not, or not as it is, in another. -/
def changes (before after : FileTree) : List (Location × FileNode) :=
  after.entries.filter fun (l, node) => before.node? l ≠ some node

theorem lookup_append_of_ne {l l' : Location} (h : l' ≠ l) (node : FileNode)
    (entries : List (Location × FileNode)) :
    (entries.filter (·.1 ≠ l) ++ [(l, node)]).lookup l' = entries.lookup l' := by
  induction entries with
  | nil => simp [List.lookup_cons, beq_false_of_ne h]
  | cons e rest ih =>
    obtain ⟨k, v⟩ := e
    by_cases hk : k = l
    · subst hk
      simp only [ne_eq, not_true_eq_false, decide_false, Bool.false_eq_true, not_false_eq_true,
        List.filter_cons_of_neg, ih, List.lookup_cons]
      rw [beq_false_of_ne h]
    · have : ((k, v) :: rest).filter (·.1 ≠ l) = (k, v) :: rest.filter (·.1 ≠ l) := by
        simp [hk]
      rw [this, List.cons_append, List.lookup_cons, List.lookup_cons, ih]

theorem node?_put_of_ne {t : FileTree} {l l' : Location} {node : FileNode} (h : l' ≠ l) :
    (t.put l node).node? l' = t.node? l' := by
  simp only [node?, put, lookup_append_of_ne h]

end FileTree

end Instrument
