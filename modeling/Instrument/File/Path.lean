import Instrument.Text.Blank

/-!
Paths as text: names with slashes between them. An empty name and a dot stand for nothing, but for
a dot that is the first name. A path from the root is not changed by joining it to another, nor is
any path by joining it to the empty one.
-/

namespace Instrument.Path

/-- Whether a path is counted from the root. -/
def isAbsolute (path : List Char) : Bool := path.head? == some '/'

/-- A path counted from a directory. -/
def join (directory path : List Char) : List Char :=
  if isAbsolute path || directory.isEmpty then path
  else if directory.getLast? == some '/' then directory ++ path
  else directory ++ '/' :: path

/-- The names in a path, the empty ones too. -/
def pieces (path : List Char) : List (List Char) := Text.pieces (· == '/') path

/-- Whether a name inside a path stands for nothing. -/
def isVoid (name : List Char) : Bool := name.isEmpty || name == ['.']

/-- How many characters stand before the names that may stand for nothing: the slash of the root,
or a dot that is the first name. -/
def anchorLength (path : List Char) : Nat :=
  if isAbsolute path || path == ['.'] || path.take 2 == ['.', '/'] then 1 else 0

/-- The names after the anchor without those at the end that stand for nothing, the last first. -/
def namesBackwards (path : List Char) : List (List Char) :=
  (pieces (path.drop (anchorLength path))).reverse.dropWhile isVoid

/-- The path without its last name. -/
def parent? (path : List Char) : Option (List Char) :=
  match namesBackwards path with
  | _ :: before =>
    some (path.take (anchorLength path) ++
      ['/'].intercalate (before.dropWhile isVoid).reverse)
  | [] => if path.head? == some '.' then some [] else none

/-- The last name of a path, or the path if it has no name. -/
def lastName (path : List Char) : List Char :=
  match namesBackwards path with
  | name :: _ => if name == ['.', '.'] then path else name
  | [] => path

/-- A path and the paths that are left as its last names are taken off, at most `steps` of them. -/
def ancestors : Nat → List Char → List (List Char)
  | 0, path => [path]
  | steps + 1, path =>
    path :: (match parent? path with
      | some before => ancestors steps before
      | none => [])

theorem join_nil (path : List Char) : join [] path = path := by
  simp [join]

end Instrument.Path
