import StructFill.Program.Shell

/-! # Hosts

  A run finds its programs in the environment, and starts them as the system
  does. Unless other programs are given, they are those of the shell.
-/

namespace StructFill.Program

/-- The system on which a run takes place. -/
structure Host where
  disk : Files.Disk
  /-- The variables of the environment. -/
  settings : List (String × String)
  /-- What programs do that are started. -/
  [starter : Starter]

namespace Host

/-- What programs see of the system. -/
def environment (h : Host) : Environment := ⟨h.disk, h.settings⟩

/-- The program that a name stands for. -/
def find? (h : Host) (name : String) : Option Path := h.environment.find? name

/-- Starts the program at a path in a directory. -/
def start (h : Host) (program : Path) (arguments : List String) (directory : Path)
    (input : List UInt8) : Except String Started :=
  h.starter.start h.environment program arguments directory input

end Host
end StructFill.Program
