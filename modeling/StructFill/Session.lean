import StructFill.Module.Info
import StructFill.Package.Directory

/-! # Sessions

  **Surroundings.** What a run can ask for: the disk, the source of module
  metadata, and the installation of the standard packages. The parser that reads
  the sources comes with them.

  **Memory.** A session remembers every answer that it was given: module
  records, directories of import paths, opened packages, and packages that
  could not be read. It also keeps account of the questions it asked, so that
  statements about what was asked can be made.

  **Runs.** A run may change the memory and may fail. What was remembered
  before a failure stays.
-/

namespace StructFill

/-- The source of module metadata. -/
structure Provider where
  /-- The record of a module path; the empty path asks for the main module. `none` is an
  answer: the path is no module. -/
  query : String → Except Error (Option Module.Info)
  /-- The installation of the standard packages. -/
  goroot : Option Path

/-- What a run can ask for. -/
structure Surroundings where
  disk : Files.Disk
  provider : Provider
  /-- The installation that is used without asking the provider. -/
  goroot : Option Path
  /-- How the parser goes on behind an error in a source. -/
  [recovery : Source.Recovery]

/-- The package of a directory, opened under an import path. -/
def Surroundings.read (w : Surroundings) (dir : Path) (importPath : String) :
    Except Error Package :=
  @Package.ofDirectory w.recovery w.disk dir importPath

/-- What has been answered so far. -/
structure Session where
  /-- Module paths with their records, negative answers included. -/
  modules : List (String × Option Module.Info) := []
  /-- Import paths with their directories. -/
  dirs : List (String × Option Path) := []
  /-- The directories of the standard packages by their first element, once listed. -/
  standard : Option (List (String × Path)) := none
  /-- The packages that were opened, by the path under which they were. -/
  packages : List (String × Package) := []
  /-- The errors of packages that could not be read. -/
  failures : List (String × Error) := []
  /-- How many directories were read as packages. -/
  parsed : Nat := 0
  /-- The module paths for which the provider was asked, latest first. -/
  asked : List String := []
  /-- How often the provider was asked for the installation. -/
  gorootCalls : Nat := 0

namespace Session

/-- The session that knows nothing. -/
def fresh : Session := {}

/-- A computation that may fail and that changes the session either way. -/
abbrev Run (α : Type) := ExceptT Error (StateM Session) α

/-- The result of a run and the session after it. -/
def Run.from {α : Type} (r : Run α) (s : Session) : Except Error α × Session := (r.run).run s

/-- The outcome of a run as a value; failures become part of it. -/
def Run.outcome {α : Type} (r : Run α) : Run (Except Error α) :=
  ExceptT.mk (do pure (.ok (← r.run)))

/-! ## Changes to the memory -/

def noteModule (s : Session) (path : String) (m : Option Module.Info) : Session :=
  { s with modules := (path, m) :: s.modules }

def noteAsked (s : Session) (path : String) : Session := { s with asked := path :: s.asked }

def noteDir (s : Session) (path : String) (dir : Option Path) : Session :=
  { s with dirs := (path, dir) :: s.dirs }

def noteStandard (s : Session) (roots : List (String × Path)) : Session :=
  { s with standard := some roots }

def noteGorootCall (s : Session) : Session := { s with gorootCalls := s.gorootCalls + 1 }

def noteParsed (s : Session) : Session := { s with parsed := s.parsed + 1 }

def notePackage (s : Session) (path : String) (p : Package) : Session :=
  { s with packages := (path, p) :: s.packages }

def noteFailure (s : Session) (path : String) (e : Error) : Session :=
  { s with failures := (path, e) :: s.failures }

end Session
end StructFill
