import StructFill.Bytes
import StructFill.Files.Failure

/-! # The file tree

  **Keys.** An entry is found under its key, the names on the way from the
  root. The root is always a directory.

  **Following steps.** Each step of a path needs the place reached so far to be
  a directory. The place that is reached in the end need not exist.

  **Changing the tree.** The entry lemmas say what is found under each key
  after an entry has been put under some key.
-/

namespace StructFill.Files

/-- The names on the way from the root to an entry. -/
abbrev Key := List String

/-- What a file holds: a text, or bytes that are none. -/
inductive Content where
  | text (s : String)
  | binary (bytes : List UInt8)
deriving DecidableEq

/-- What a file with these bytes holds. -/
def Content.ofBytes (bs : List UInt8) : Content :=
  match Bytes.decode bs with
  | .ok s => .text s
  | .error _ => .binary bs

/-- What stands under a key. -/
inductive Entry where
  | directory
  /-- A file, and whether it may be run. -/
  | file (content : Content) (executable : Bool)
  /-- A tool of the surrounding system, known by its name. -/
  | tool (name : String)
deriving DecidableEq

def Entry.isDirectory : Entry → Bool
  | .directory => true
  | _ => false

/-- All entries by their keys. -/
structure Tree where
  entries : List (Key × Entry)

namespace Tree

/-- The tree with nothing but the root. -/
def empty : Tree := ⟨[]⟩

/-- The entry under a key. -/
def find? (t : Tree) : Key → Option Entry
  | [] => some .directory
  | k => t.entries.lookup k

/-- Puts an entry under a key. -/
def insert (t : Tree) (k : Key) (e : Entry) : Tree := ⟨(k, e) :: t.entries⟩

@[simp] theorem find?_nil (t : Tree) : t.find? [] = some .directory := rfl

@[simp] theorem find?_insert_self (t : Tree) {k : Key} (e : Entry) (h : k ≠ []) :
    (t.insert k e).find? k = some e := by
  cases k with
  | nil => exact absurd rfl h
  | cons a as => simp [find?, insert]

theorem find?_insert_of_ne (t : Tree) {k k' : Key} (e : Entry) (h : k' ≠ k) :
    (t.insert k e).find? k' = t.find? k' := by
  cases k' with
  | nil => rfl
  | cons a as =>
    have : ((a :: as) == k) = false := by simpa using h
    simp [find?, insert, List.lookup_cons, this]

/-- Removes a key and all keys below it. -/
def remove (t : Tree) (k : Key) : Tree :=
  ⟨t.entries.filter fun (k', _) => !k.isPrefixOf k'⟩

/-- Follows the steps from a place that need not exist. -/
def follow (t : Tree) (place : Key) : List (List Char) → Except Failure (Key × Option Entry)
  | [] => .ok (place, t.find? place)
  | step :: rest =>
    match t.find? place with
    | none => .error .notFound
    | some .directory =>
      if step = ['.'] then t.follow place rest
      else if step = ['.', '.'] then t.follow place.dropLast rest
      else t.follow (place ++ [String.ofList step]) rest
    | some _ => .error .notDirectory

/-- The name of an entry directly below a key. -/
def childName? (k k' : Key) : Option String :=
  match k.isPrefixOf? k' with
  | some [name] => some name
  | _ => none

/-- The entries of a directory in the order of their names. -/
def children (t : Tree) (k : Key) : List (String × Entry) :=
  let names := (t.entries.filterMap fun (k', _) => childName? k k').eraseDups
  (names.mergeSort fun a b => decide (a ≤ b)).filterMap fun n =>
    (t.find? (k ++ [n])).map (n, ·)

/-- Puts an entry at the end of `rest` below `place`, with the directories on the way. -/
def plantBelow (t : Tree) (place : Key) : Key → Entry → Tree
  | [], _ => t
  | [name], e => t.insert (place ++ [name]) e
  | name :: rest, e =>
    let k := place ++ [name]
    let t' := if t.find? k = some .directory then t else t.insert k .directory
    t'.plantBelow k rest e

/-- Puts an entry under a key together with the directories above it. -/
def plant (t : Tree) (k : Key) (e : Entry) : Tree := t.plantBelow [] k e

/-- The files below a key, by the keys below it, without repetition and in key order. -/
def filesBelow (t : Tree) (k : Key) : List (Key × Content) :=
  let keys := (t.entries.filterMap fun (k', _) => k.isPrefixOf? k').eraseDups
  keys.filterMap fun sub =>
    match t.find? (k ++ sub) with
    | some (.file c _) => some (sub, c)
    | _ => none

/-- The files below a key that another tree does not hold in the same way. -/
def changedFiles (t : Tree) (k : Key) (before : Tree) : List (Key × Content) :=
  (t.filesBelow k).filter fun (sub, c) =>
    match before.find? (k ++ sub) with
    | some (.file c' _) => c' ≠ c
    | _ => true

end Tree
end StructFill.Files
