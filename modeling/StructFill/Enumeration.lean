import StructFill.Descriptor
import StructFill.Session.Opening

/-! # Enumerations

  A named type over a primitive can be made from a converted primitive by a
  cast. Whether a described type is one is read off its declaration; the
  declaration is followed for one step only.
-/

namespace StructFill

open Source (TypeExpr TypeBody)
open Session (Run)

/-- What the declaration of a type turns out to be. -/
inductive Enumeration where
  /-- A named type over a primitive, declared in `owner`. -/
  | found (owner : Package) (primitive : String)
  /-- The package of the declaration cannot be opened. -/
  | unavailable (reason : String)
  /-- The package has no such declaration. -/
  | undeclared
  /-- A type over something that is neither a primitive nor a named type. -/
  | other (underlying : String)
  /-- A type over a named type. -/
  | chained (underlying : String)

namespace Enumeration

/-- What a declared type is, in the package `owner`. -/
def ofBody (owner : Package) : TypeBody → Enumeration
  | .struct _ => .other "struct"
  | .named (.name n) =>
    if Source.isPrimitive n then .found owner n
    else if (TypeExpr.name n).isOpenInterface then .other n
    else .chained n
  | .named (.qualified q n) => .chained (TypeExpr.qualified q n).text
  | .named t => .other t.text

/-- What the declaration of a name in a package is. -/
def ofName (owner : Package) (name : String) : Enumeration :=
  match owner.findType? name with
  | none => .undeclared
  | some d => ofBody owner d.body

/-- The package that declares a described type, as seen from `p`. -/
def owner (w : Surroundings) (d : Descriptor) (p : Package) : Run (Option Package) :=
  match d.home with
  | .builtin => pure none
  | .local _ => pure (some p)
  | .imported q => Session.openImport w p q

/-- What a described type is, as seen from `p`. Fatal errors end the run; a package that
cannot be read is unavailable. -/
def resolve (w : Surroundings) (d : Descriptor) (p : Package) : Run Enumeration := do
  match ← (owner w d p).outcome with
  | .ok (some owner) => pure (ofName owner d.name)
  | .ok none =>
    pure (.unavailable ("package " ++ d.home.name?.getD "<builtin>" ++ " is not imported"))
  | .error e => if e.isFatal then throw e else pure (.unavailable e.message)

end Enumeration
end StructFill
