import StructFill.Bytes

/-! # Outcomes of programs

  A program reads bytes, writes bytes to two channels, and ends with a status,
  where zero means success.
-/

namespace StructFill.Program

/-- What a program leaves behind. -/
structure Outcome where
  output : List UInt8 := []
  errors : List UInt8 := []
  status : Nat := 0
deriving DecidableEq

namespace Outcome

def isSuccess (o : Outcome) : Bool := o.status == 0

/-- Both outcomes one after the other; the later status counts. -/
def andThen (o o' : Outcome) : Outcome :=
  ⟨o.output ++ o'.output, o.errors ++ o'.errors, o'.status⟩

@[simp] theorem output_andThen (o o' : Outcome) :
    (o.andThen o').output = o.output ++ o'.output := rfl

@[simp] theorem status_andThen (o o' : Outcome) : (o.andThen o').status = o'.status := rfl

/-- Nothing but a complaint. -/
def complaint (text : String) (status : Nat) : Outcome :=
  { errors := Bytes.ofText (text ++ "\n"), status := status }

end Outcome
end StructFill.Program
