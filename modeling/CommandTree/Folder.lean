import CommandTree.Cause
import CommandTree.Path
/-!
Files that are held in memory.

A folder knows some files and some directories by their paths from the working folder. A directory is also what
stands on the way to one of these, what lies above the working folder, and the root. Names and paths must not be too
long, which is noticed on the way, and no path holds the character with code point zero.

* `Folder.place?` follows a path name by name, as far as the names exist;
* `Folder.read` is the content of a file, `Folder.write` gives a file a content.
-/

namespace CommandTree

/-- What a file holds. -/
inductive FileContent where
  | bytes (bs : List UInt8)
  -- nothing that can be read: the device reports an error
  | broken
  deriving DecidableEq, Repr

/-- Files and directories. -/
structure Folder where
  files : List (Path × FileContent)
  directories : List Path

/-- Where a path leads. -/
inductive Place where
  | directory (path : Path)
  | file (path : Path) (content : FileContent)

namespace Folder

/-- The greatest length of a name, in bytes. -/
def nameLimit : Nat := 255

/-- The greatest length of a path, in bytes. -/
def pathLimit : Nat := 4095

/-- A folder without files. -/
def empty : Folder := ⟨[], []⟩

/-! ### Looking up -/

/-- Whether a path leads to a directory. -/
def hasDirectory (f : Folder) (p : Path) : Bool :=
  p.isAbove || f.directories.any p.isAncestor || f.files.any fun (q, _) => p.isAncestor q && p ≠ q

/-- Where the path `whole` leads with its next name, from a place on its way. -/
def step (f : Folder) (whole : Path) (place : Place) (name : String) : Except IoError Place :=
  match place with
  | .file .. => .error (.notDirectory whole.text)
  | .directory p =>
    if name = Path.parentName then .ok (.directory p.parent)
    else if nameLimit < name.utf8ByteSize then .error (.nameTooLong whole.text)
    else
      let q := p.child name
      match f.files.lookup q with
      | some content => .ok (.file q content)
      | none => if f.hasDirectory q then .ok (.directory q) else .error (.notFound whole.text)

/-- Where a path leads. -/
def place? (f : Folder) (p : Path) : Except IoError Place :=
  if p.hasNull then .error .nullInPath
  else if pathLimit < p.text.utf8ByteSize then .error (.nameTooLong p.text)
  else p.names.foldlM (f.step p) (.directory { p with names := [] })

/-- Whether a path leads to a file. -/
def hasFile (f : Folder) (p : Path) : Bool :=
  match f.place? p with
  | .ok (.file ..) => true
  | _ => false

/-! ### Contents -/

/-- The bytes of a file. -/
def read (f : Folder) (p : Path) : Except IoError (List UInt8) :=
  match f.place? p with
  | .error e => .error e
  | .ok (.directory _) => .error (.isDirectory p.text)
  | .ok (.file _ .broken) => .error .inputOutput
  | .ok (.file _ (.bytes bs)) => .ok bs

/-- A folder in which a file has the given content. -/
def put (f : Folder) (p : Path) (bs : List UInt8) : Folder :=
  { f with files := (p, .bytes bs) :: f.files.filter fun (q, _) => q ≠ p }

/-- Gives a file a content; the file need not exist, but its directory must. -/
def write (f : Folder) (p : Path) (bs : List UInt8) : Except IoError Folder :=
  match f.place? p with
  | .ok (.directory _) => .error (.isDirectory p.text)
  | .ok (.file q _) => .ok (f.put q bs)
  | .error (.notFound path) =>
    match p.names.getLast?, f.place? { p with names := p.names.dropLast } with
    | some name, .ok (.directory q) => .ok (f.put (q.child name) bs)
    | _, _ => .error (.notFound path)
  | .error e => .error e

/-- The files inside a folder that were not there before, with their bytes. -/
def added (f old : Folder) : List (Path × List UInt8) :=
  f.files.filterMap fun
    | (p, .bytes bs) => if p.isInside && (old.files.lookup p).isNone then some (p, bs) else none
    | (_, .broken) => none

end Folder

end CommandTree
