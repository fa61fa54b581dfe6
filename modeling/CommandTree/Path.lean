import CommandTree.Text.Split
/-!
Paths of files.

A path is a sequence of names, from the working folder or from the root of all files. Names are separated by
slashes; empty names and single points do not count, but two points, which lead one level up, do.

* `Path.ofText` reads a path, `Path.text` writes it;
* `Path.child` and `Path.parent` lead one level down and up;
* `Path.hasNull` tells the paths that no file can have.
-/

namespace CommandTree

open Text

/-- A path. -/
structure Path where
  -- the slashes that it begins with: none for a path from the working folder
  root : List Char
  names : List String
  deriving DecidableEq, Repr

namespace Path

/-- The name that leads one level up. -/
def parentName : String := ".."

/-- The names between the slashes of a text. -/
def components (s : String) : List String := (splitAt '/' s.toList).map .ofList

/-- Whether a name counts in a path. -/
def counts (name : String) : Bool := name ≠ "" && name ≠ "."

/-- The slashes that a text begins with, as they count: two are kept, but more of them count as one. -/
def rootOf (cs : List Char) : List Char :=
  match cs.takeWhile (· = '/') with
  | [] => []
  | ['/', '/'] => ['/', '/']
  | _ => ['/']

/-- The path that a text stands for. -/
def ofText (s : String) : Path := ⟨rootOf s.toList, (components s).filter counts⟩

/-- A path as text. -/
def text (p : Path) : String :=
  if p.root.isEmpty && p.names.isEmpty then "."
  else String.ofList p.root ++ "/".intercalate p.names

/-- The path of an entry of a directory. -/
def child (p : Path) (name : String) : Path := { p with names := p.names ++ [name] }

/-- The path one level up: two points more where nothing can be left out, and nothing above the root. -/
def parent (p : Path) : Path :=
  match p.names.getLast? with
  | some name => if name = parentName then p.child parentName else { p with names := p.names.dropLast }
  | none => if p.root.isEmpty then p.child parentName else p

/-- Whether a path leads above the working folder, or to the root, by two points alone. -/
def isAbove (p : Path) : Bool := p.names.all (· = parentName)

/-- Whether a path leads to something in the working folder. -/
def isInside (p : Path) : Bool := p.root.isEmpty && p.names.head? ≠ some parentName

/-- Whether a path leads to another one when some names are added. -/
def isAncestor (p q : Path) : Bool := p.root == q.root && p.names.isPrefixOf q.names

/-- Whether the character with code point zero occurs in a path, which ends all names of files. -/
def hasNull (p : Path) : Bool := p.names.any fun name => name.toList.contains '\x00'

end Path

end CommandTree
