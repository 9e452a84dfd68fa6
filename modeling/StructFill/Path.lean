import StructFill.Text

/-! # File paths

  A path is kept as it was written. Its **components** are what lies between
  the slashes, where empty pieces count for nothing and neither does a dot,
  except a dot that begins a relative path. Every component comes with the
  text that ends with it, so that the parent of a path is again written the
  way the path was.
-/

namespace StructFill

/-- A path as written. -/
structure Path where
  text : String
deriving DecidableEq, Inhabited

/-- One step of a path. -/
inductive Component where
  /-- The root directory, at the front of an absolute path. -/
  | root
  /-- The dot at the front of a relative path. -/
  | here
  /-- The step to the parent directory. -/
  | up
  /-- The step to a named entry. -/
  | entry (name : String)
deriving DecidableEq

namespace Path

def isSlash (c : Char) : Bool := c == '/'

/-- A path that starts at the root. -/
def isAbsolute (p : Path) : Bool := p.text.toList.head? == some '/'

/-- The pieces between slashes, each with the text that ends with it. -/
def piecesAfter (before : List Char) : List (List Char) → List (List Char × List Char)
  | [] => []
  | p :: rest => (p, before ++ p) :: piecesAfter (before ++ p ++ ['/']) rest

/-- The component that a piece stands for, other than a leading dot. -/
def pieceComponent? (piece : List Char) : Option Component :=
  if piece = [] ∨ piece = ['.'] then none
  else if piece = ['.', '.'] then some .up
  else some (.entry (String.ofList piece))

/-- The components, each with the text that ends with it. -/
def steps (p : Path) : List (Component × List Char) :=
  let pieces := piecesAfter [] (Text.splitOn isSlash p.text.toList)
  let front :=
    if p.isAbsolute then [(Component.root, ['/'])]
    else match pieces with
      | (['.'], _) :: _ => [(Component.here, ['.'])]
      | _ => []
  front ++ pieces.filterMap fun (piece, upTo) => (pieceComponent? piece).map (·, upTo)

def components (p : Path) : List Component := p.steps.map (·.1)

/-- Two ways to write the same steps. -/
def same (p q : Path) : Bool := p.components == q.components

/-- The path without its last component; neither the root nor the empty path has one. -/
def parent? (p : Path) : Option Path :=
  match p.steps.reverse with
  | [] => none
  | (.root, _) :: _ => none
  | _ :: [] => some ⟨""⟩
  | _ :: (_, upTo) :: _ => some ⟨String.ofList upTo⟩

/-- The last component, if it is a named entry. -/
def fileName? (p : Path) : Option String :=
  match p.components.getLast? with
  | some (.entry name) => some name
  | _ => none

/-- The name cut at its last dot; a dot at the front does not count. -/
def cutName (name : String) : String × Option String :=
  match Text.cutLast? ['.'] name.toList with
  | some (c :: cs, after) => (String.ofList (c :: cs), some (String.ofList after))
  | _ => (name, none)

/-- The file name without what follows its last dot. -/
def stem? (p : Path) : Option String := p.fileName?.map fun n => (cutName n).1

/-- What follows the last dot of the file name. -/
def extension? (p : Path) : Option String := p.fileName?.bind fun n => (cutName n).2

/-- `q` seen from `p`: an absolute `q` stands for itself. -/
def join (p q : Path) : Path :=
  if q.isAbsolute then q
  else if p.text = "" ∨ p.text.toList.getLast? = some '/' then ⟨p.text ++ q.text⟩
  else ⟨p.text ++ "/" ++ q.text⟩

def joinName (p : Path) (name : String) : Path := p.join ⟨name⟩

/-- The path without slashes behind its last piece; the root keeps its slash. -/
def withoutEndSlashes (p : Path) : Path :=
  match p.text.toList.reverse.dropWhile isSlash with
  | [] => p
  | cs => ⟨String.ofList cs.reverse⟩

/-- Drops the last component where there is one to drop. -/
def pop (p : Path) : Path := p.parent?.getD p

/-- The same steps without dots and without steps to a parent. Nothing lies above the root. -/
def clean (p : Path) : Path :=
  p.components.foldl
    (fun acc c =>
      match c with
      | .root => ⟨"/"⟩
      | .here => acc
      | .up => acc.pop
      | .entry name => acc.joinName name)
    ⟨""⟩

/-- `p` and the directories above it, at most `n` of them. -/
def ancestors (p : Path) : Nat → List Path
  | 0 => []
  | n + 1 =>
    p :: match p.parent? with
      | none => []
      | some q => q.ancestors n

theorem length_ancestors_le (p : Path) (n : Nat) : (p.ancestors n).length ≤ n := by
  induction n generalizing p with
  | zero => simp [ancestors]
  | succ n ih =>
    rw [ancestors]
    cases p.parent? with
    | none => simp
    | some q => simpa using ih q

/-- The path without quotes at either end. -/
def unquoted (p : Path) : Path := ⟨String.ofList (Text.trim (· == '"') p.text.toList)⟩

example : (Path.mk "/a/../b").parent? = some ⟨"/a/.."⟩ := by decide
example : (Path.mk "/a/./b").parent? = some ⟨"/a"⟩ := by decide
example : (Path.mk "./a").parent? = some ⟨"."⟩ := by decide
example : (Path.mk "/x/.go").extension? = none := by decide

end Path
end StructFill
