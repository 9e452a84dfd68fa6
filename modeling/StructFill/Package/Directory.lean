import StructFill.Error
import StructFill.Files.Disk
import StructFill.Package
import StructFill.Source.Constraint
import StructFill.Source.Fault
import StructFill.Source.Grammar

/-! # The package of a directory

  The sources of a directory are its regular files whose names end in `.go`
  but not in `_test.go`, in the order of their names. Files that keep
  themselves out are passed over.

  **The name.** When the files disagree on the name of the package, the name
  that most files share wins; of several such names, the one whose first file
  comes first. Files of other packages do not count.
-/

namespace StructFill.Package

open Source (FileDecls)
open Files (Disk)

/-- A path that names a source file. -/
def isSourceFile (p : Path) : Bool :=
  match p.fileName? with
  | none => false
  | some n =>
    ".go".toList.isSuffixOf n.toList && !"_test.go".toList.isSuffixOf n.toList

/-- Whether a file of the given name is a source file. -/
def isSourceEntry : String × Files.Entry → Bool
  | (name, .file ..) => isSourceFile ⟨name⟩
  | _ => false

/-- The source files of a directory. -/
def sourceFiles (d : Disk) (dir : Path) : Except Error (List Path) :=
  match d.list dir with
  | .ok entries => .ok ((entries.filter isSourceEntry).map fun (n, _) => dir.joinName n)
  | .error e =>
    .error (.io dir ("IO error for operation on " ++ dir.text ++ ": " ++ e.message))

variable [Source.Recovery]

/-- The declarations of a source text. -/
def parseSource (path : Path) (source : String) : Except Error FileDecls :=
  match Source.Grammar.declarations? source with
  | none => .error ((Source.Recovery.firstFault source).error path)
  | some decls =>
    if decls.package = "" then .error (.unparsable path "missing package clause") else .ok decls

/-- The declarations of one file; `none` for a file that keeps itself out. -/
def readFile (d : Disk) (path : Path) : Except Error (Option FileDecls) :=
  match d.readText path with
  | .error e => .error (.io path e.message)
  | .ok source =>
    if Source.isIgnored source then .ok none else (parseSource path source).map some

/-- The files that do not keep themselves out, with their declarations. -/
def readFiles (d : Disk) : List Path → Except Error (List (Path × FileDecls))
  | [] => .ok []
  | path :: rest => do
    let decls ← readFile d path
    let others ← readFiles d rest
    match decls with
    | some decls => .ok ((path, decls) :: others)
    | none => .ok others

/-- The counters after one more vote: a name that has none yet gets one at the end. -/
def castVote (name : String) : List (String × Nat) → List (String × Nat)
  | [] => [(name, 1)]
  | (other, votes) :: rest =>
    if other = name then (other, votes + 1) :: rest else (other, votes) :: castVote name rest

/-- The counters after all votes, in the order in which the names were first voted for. -/
def tally (names : List String) : List (String × Nat) :=
  names.foldl (fun counters name => castVote name counters) []

/-- The counter with the most votes; of several, the last. -/
def lastLargest? : List (String × Nat) → Option (String × Nat)
  | [] => none
  | first :: rest =>
    some (rest.foldl (fun best next => if next.2 < best.2 then best else next) first)

/-- The name that most entries of a list have. The counters are gone through from the end, so
that of several such names the first one wins. -/
def majority? (names : List String) : Option String :=
  (lastLargest? (tally names).reverse).map (·.1)

/-- The package of a directory, opened under an import path. -/
def ofDirectory (d : Disk) (dir : Path) (importPath : String) : Except Error Package :=
  if !d.isDirectory dir then .error (.unparsable dir "not a directory")
  else do
    let paths ← sourceFiles d dir
    let files ← readFiles d paths
    match majority? (files.map (·.2.package)) with
    | none => .error (.unparsable dir "no Go source files")
    | some name =>
      .ok (ofFiles name importPath dir (files.filter fun f => f.2.package == name))

end StructFill.Package
