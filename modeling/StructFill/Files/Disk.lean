import StructFill.Path
import StructFill.Files.Tree

/-! # File operations

  A disk is a file tree seen from a working directory. The operations below
  take paths as they are written: a relative path starts at the working
  directory, and a slash at the end of a path asks for a directory.

  **Failing half-way.** Making a directory may mean to make others before it.
  When one of them cannot be made, those before it stay: an attempt tells what
  it leaves behind, whether it fails or not.
-/

namespace StructFill.Files

/-- A file tree and the directory in which relative paths start. -/
structure Disk where
  tree : Tree
  cwd : Key

/-- What an operation leaves behind that may fail half-way. -/
structure Attempt (ε : Type) where
  /-- The disk as it is left, also by a failure. -/
  disk : Disk
  failure : Option ε

namespace Attempt

variable {ε δ : Type}

/-- The disk, unless the operation failed. -/
def result (a : Attempt ε) : Except ε Disk :=
  match a.failure with
  | none => .ok a.disk
  | some e => .error e

def mapFailure (f : ε → δ) (a : Attempt ε) : Attempt δ := ⟨a.disk, a.failure.map f⟩

/-- Goes on with the disk, unless the operation failed. -/
def andThen (a : Attempt ε) (next : Disk → Attempt ε) : Attempt ε :=
  match a.failure with
  | none => next a.disk
  | some _ => a

end Attempt

namespace Disk

/-- An operation that changes nothing when it fails. -/
def attempt {ε : Type} (d : Disk) : Except ε Disk → Attempt ε
  | .ok d' => ⟨d', none⟩
  | .error e => ⟨d, some e⟩

/-! ## Looking -/

/-- The working directory as a path. -/
def workingDirectory (d : Disk) : Path := ⟨"/" ++ String.intercalate "/" d.cwd⟩

/-- The pieces of a path that are followed: a slash at the end counts as a dot. -/
def pathSteps (p : Path) : List (List Char) :=
  let cs := p.text.toList
  let pieces := (Text.splitOn Path.isSlash cs).filter (· != [])
  if cs.getLast? = some '/' then pieces ++ [['.']] else pieces

/-- The key that a path leads to, and the entry there, if any. -/
def locate (d : Disk) (p : Path) : Except Failure (Key × Option Entry) :=
  if p.text = "" then .error .notFound
  else d.tree.follow (if p.isAbsolute then [] else d.cwd) (pathSteps p)

/-- The entry that a path leads to. -/
def get (d : Disk) (p : Path) : Except Failure Entry :=
  match d.locate p with
  | .ok (_, some e) => .ok e
  | .ok (_, none) => .error .notFound
  | .error e => .error e

/-- Whether a path leads to a directory. -/
def isDirectory (d : Disk) (p : Path) : Bool :=
  match d.get p with
  | .ok .directory => true
  | _ => false

/-- The text of a file. -/
def readText (d : Disk) (p : Path) : Except Failure String :=
  match d.get p with
  | .ok (.file (.text s) _) => .ok s
  | .ok .directory => .error .isDirectory
  | .ok _ => .error .notText
  | .error e => .error e

/-- The entries of the directory that a path leads to, in the order of their names. A file
has none. -/
def list (d : Disk) (p : Path) : Except Failure (List (String × Entry)) :=
  match d.locate p with
  | .ok (k, some .directory) => .ok (d.tree.children k)
  | .ok (_, some _) => .ok []
  | .ok (_, none) => .error .notFound
  | .error e => .error e

/-! ## Changing -/

/-- The disk with an entry under a key, whose directory has to be there. -/
def put (d : Disk) (k : Key) (e : Entry) : Except Failure Disk :=
  match d.tree.find? k.dropLast with
  | some .directory => .ok { d with tree := d.tree.insert k e }
  | some _ => .error .notDirectory
  | none => .error .notFound

/-- Makes one directory. -/
def makeDirectory (d : Disk) (p : Path) : Except Failure Disk :=
  match d.locate p with
  | .ok (_, some _) => .error .exists
  | .ok (k, none) => d.put k .directory
  | .error e => .error e

/-- Makes a directory that may be there already. -/
def ensureDirectory (d : Disk) (p : Path) : Except Failure Disk :=
  match d.makeDirectory p with
  | .ok d' => .ok d'
  | .error e => if d.isDirectory p then .ok d else .error e

/-- Makes a directory and at most `n` missing ones above it. -/
def makeDirectoriesWithin : Nat → Disk → Path → Attempt Failure
  | 0, d, p => d.attempt (d.ensureDirectory p)
  | n + 1, d, p =>
    if p.text = "" then ⟨d, none⟩
    else
      match d.makeDirectory p, p.parent? with
      | .error .notFound, some q =>
        (makeDirectoriesWithin n d q).andThen fun d' => d'.attempt (d'.ensureDirectory p)
      | _, _ => d.attempt (d.ensureDirectory p)

/-- Makes a directory and the missing ones above it. -/
def makeDirectories (d : Disk) (p : Path) : Attempt Failure :=
  makeDirectoriesWithin (p.components.length + 1) d p

/-- Writes a text to a file, which is made when its directory is there. A path that asks for
a directory is no place for a file, whatever it leads to. -/
def writeText (d : Disk) (p : Path) (s : String) : Except Failure Disk :=
  match d.locate p.withoutEndSlashes with
  | .error e => .error e
  | .ok (k, entry) =>
    if p.withoutEndSlashes ≠ p then .error .isDirectory
    else
      match entry with
      | some .directory => .error .isDirectory
      | some (.file _ executable) => d.put k (.file (.text s) executable)
      | some (.tool _) => d.put k (.file (.text s) true)
      | none => d.put k (.file (.text s) false)

end Disk
end StructFill.Files
