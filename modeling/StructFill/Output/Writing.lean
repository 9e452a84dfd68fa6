import StructFill.Error
import StructFill.Files.Disk

/-! # Writing the output

  The directory of the output is made when it is missing, together with those
  above it. They are left behind when the output cannot be written after all.
-/

namespace StructFill.Output

open Files (Attempt Disk)

/-- Makes the directory of a file. -/
def prepare (d : Disk) (p : Path) : Attempt Error :=
  match p.parent?.filter (·.text != "") with
  | none => ⟨d, none⟩
  | some dir => (d.makeDirectories dir).mapFailure fun e => .io dir e.message

/-- Writes a text to a file. -/
def save (d : Disk) (p : Path) (text : String) : Attempt Error :=
  (prepare d p).andThen fun d' =>
    d'.attempt ((d'.writeText p text).mapError fun e => .io p e.message)

/-- The disk on which a text was written to a file. -/
def write (d : Disk) (p : Path) (text : String) : Except Error Disk := (save d p text).result

end StructFill.Output
