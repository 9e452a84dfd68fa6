import StructFill.Error

/-! # Faults in source texts

  A text that breaks the grammar is reported with its first fault. Where that
  is found, and whether something is only missing there, depends on how the
  parser goes on behind an error, and the grammar does not settle it. The
  recovery of the parser is a parameter here; it has no say in which texts are
  accepted.
-/

namespace StructFill.Source

/-- What is wrong with a text first. -/
structure Fault where
  /-- The line and the column of the fault, if they are told. -/
  place : Option (Nat × Nat)
  /-- What is missing there, if it is that. -/
  missing : Option String

namespace Fault

/-- The wording of a fault. -/
def reason (f : Fault) : String :=
  match f.missing with
  | some kind => "missing " ++ kind
  | none => "syntax error"

/-- The error of a file with the fault. -/
def error (f : Fault) (path : Path) : Error :=
  .parse path (f.place.map (·.1)) (f.place.map (·.2)) f.reason

end Fault

/-- How the parser goes on behind an error. -/
class Recovery where
  /-- The first fault of a text that breaks the grammar. -/
  firstFault : String → Fault

/-- Unless something else is given, faults have no places. -/
instance : Recovery := ⟨fun _ => ⟨none, none⟩⟩

end StructFill.Source
