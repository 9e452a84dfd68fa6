import StructFill.Config.Settings
import StructFill.Error
import StructFill.Files.Disk

/-! # Finding the configuration

  A file that is named has to be there and has to be right. Otherwise the
  directory of the input and those above it are searched, a limited number of
  them: the first file that can be read and is right counts, and without one
  the defaults do.
-/

namespace StructFill.Config

/-- The configuration in a file that was asked for. -/
def ofFile (d : Files.Disk) (p : Path) : Except Error Config :=
  match d.readText p with
  | .error e => .error (.io p e.message)
  | .ok text =>
    match Settings.parse text with
    | .ok c => .ok c
    | .error problem => .error (.configuration (p.text ++ ": " ++ problem.message))

/-- The configuration in a file, if it is there and right. -/
def ofFile? (d : Files.Disk) (p : Path) : Option Config := (ofFile d p).toOption

/-- How many directories are searched. -/
def searchLimit : Nat := 10

/-- The files in which a configuration is looked for, the nearest first. -/
def candidates (start : Path) : List Path :=
  (start.ancestors searchLimit).map (·.joinName fileName)

/-- The configuration that holds for a directory. -/
def discover (d : Files.Disk) (start : Path) : Config :=
  ((candidates start).findSome? (ofFile? d)).getD {}

end StructFill.Config
