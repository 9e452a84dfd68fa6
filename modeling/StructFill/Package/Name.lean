import StructFill.Text

/-! # Package names of import paths

  Without an alias an import is bound to the name that its path suggests: the
  last element of the path, where an element for a major version at the end
  (`v2`) is passed over, and a version behind a dot (`yaml.v3`) is cut off.
-/

namespace StructFill.Package

/-- An element such as `v2`. -/
def isMajorVersion : List Char → Bool
  | 'v' :: ds => Text.isNumeral ds
  | _ => false

/-- The element of the path that the name is taken from. -/
def nameElement (path : List Char) : List Char :=
  let elements := (Text.splitOn (· == '/') path).filter (· != [])
  match elements.reverse with
  | [] => path
  | [e] => e
  | e :: e' :: _ => if isMajorVersion e then e' else e

/-- Cuts off a version behind a dot. -/
def withoutVersion (element : List Char) : List Char :=
  match Text.cutLast? ['.', 'v'] element with
  | some (base, version) => if base ≠ [] ∧ Text.isNumeral version then base else element
  | none => element

/-- The name that an import path suggests. -/
def defaultName (path : String) : String :=
  String.ofList (withoutVersion (nameElement path.toList))

example : defaultName "gopkg.in/yaml.v3" = "yaml" := by decide
example : defaultName "github.com/acme/shop/v2" = "shop" := by decide

end StructFill.Package
