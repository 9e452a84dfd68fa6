import StructFill.Program.Environment

/-! # Starting programs

  What a program does when it is started is up to the system. Here it is a
  parameter: the programs of a run may print what they like, refuse their
  input, fail to start or never come to an end that is known.

  **The tree.** A program that was started gives back bytes and a status, but
  no tree: the programs that a run starts do not write to it.
-/

namespace StructFill.Program

/-- What is known of a program that was started and given an input. -/
structure Started where
  /-- Why the input could not be written to its end, where it could not. -/
  unwritten : Option String
  /-- What the program leaves behind, or why it could not be waited for. -/
  ending : Except String Outcome

/-- The programs of a system. -/
class Starter where
  /-- Starts the program at a path with arguments, in a directory and on an input, or says why it
  cannot be started. -/
  start (e : Environment) (program : Path) (arguments : List String) (directory : Path)
    (input : List UInt8) : Except String Started

end StructFill.Program
