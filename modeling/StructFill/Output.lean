import StructFill.Naming
import StructFill.Path

/-! # The place of the output

  A requested path that ends in `.go` is the output itself. Any other request
  names a directory; without a request it is the directory of the input. In
  it the output is named after the input, in snake case.
-/

namespace StructFill.Output

/-- A path to a source file. -/
def isSourcePath (p : Path) : Bool := p.extension? == some "go"

/-- Where the generated file goes. -/
def place (input : Path) (requested : Option Path) (nameEnd : String) : Path :=
  let directory : Path :=
    match requested with
    | some p => p
    | none => (input.parent?).getD ⟨""⟩
  let named := directory.joinName (Naming.snakeCase (input.stem?.getD "") ++ nameEnd ++ ".go")
  match requested with
  | some p => if isSourcePath p then p else named
  | none => named

end StructFill.Output
