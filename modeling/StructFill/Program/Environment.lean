import StructFill.Files.Disk
import StructFill.Program.Outcome
import StructFill.Text

/-! # Finding programs

  A name with a slash is a path. Any other name is looked for in the
  directories of the search path, in order. Only files that may be run are
  found.
-/

namespace StructFill.Program

/-- What programs see of the system. -/
structure Environment where
  disk : Files.Disk
  /-- The variables of the environment. -/
  settings : List (String × String)

namespace Environment

/-- Whether a path leads to a file that may be run. -/
def isProgram (e : Environment) (p : Path) : Bool :=
  match e.disk.get p with
  | .ok (.file _ executable) => executable
  | .ok (.tool _) => true
  | _ => false

/-- The directories of the search path. -/
def searchPath (e : Environment) : List Path :=
  match e.settings.lookup "PATH" with
  | some s => (Text.splitOn (· == ':') s.toList).map fun cs => ⟨String.ofList cs⟩
  | none => []

/-- The program that a name stands for. -/
def find? (e : Environment) (name : String) : Option Path :=
  if name = "" then none
  else
    let places : List Path :=
      if name.toList.contains '/' then [e.disk.workingDirectory.joinName name]
      else e.searchPath.map (·.joinName name)
    places.find? e.isProgram

end Environment
end StructFill.Program
