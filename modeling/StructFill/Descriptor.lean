import StructFill.Source.TypeExpr

/-! # Descriptors of types

  A descriptor says of a type reference what kind of type it names and in
  which package to look for its declaration. It depends on the text of the
  reference and on the name of the package it stands in, on nothing else. One
  pointer is looked through.
-/

namespace StructFill

open Source (TypeExpr)

/-- The kinds of types. -/
inductive TypeKind where
  /-- A primitive type. -/
  | base
  /-- A pointer to a shape that has no name. -/
  | pointer
  /-- A named type that is not primitive. -/
  | struct
  | interface
  /-- A shape for which there is nothing to look up. -/
  | unknown
deriving DecidableEq

/-- The name of a kind in reports. -/
def TypeKind.label : TypeKind → String
  | .base => "Base"
  | .pointer => "Pointer"
  | .struct => "Struct"
  | .interface => "Interface"
  | .unknown => "Unknown"

/-- Where a type is declared. -/
inductive Home where
  /-- Predeclared, in no package. -/
  | builtin
  /-- In the package that the reference stands in, by its name. -/
  | local (name : String)
  /-- In the package imported under a local name. -/
  | imported (name : String)
deriving DecidableEq

def Home.name? : Home → Option String
  | .builtin => none
  | .local n => some n
  | .imported n => some n

structure Descriptor where
  kind : TypeKind
  home : Home
  name : String
deriving DecidableEq

namespace Descriptor

/-- The descriptor in reports. -/
def text (d : Descriptor) : String :=
  match d.home.name? with
  | some package => d.kind.label ++ "(" ++ package ++ "." ++ d.name ++ ")"
  | none => d.kind.label ++ "(" ++ d.name ++ ")"

def isBase (d : Descriptor) : Bool := d.kind = .base

/-- The descriptor of a name in the package `package`. -/
def ofName (package name : String) : Descriptor :=
  if Source.isPrimitive name then ⟨.base, .builtin, name⟩
  else if name = "any" then ⟨.interface, .builtin, name⟩
  else ⟨.struct, .local package, name⟩

/-- The descriptor of a type referred to in the package `package`. -/
def ofType (package : String) : TypeExpr → Descriptor
  | .name n => ofName package n
  | .qualified q n => ⟨.struct, .imported q, n⟩
  | .pointer (.name n) => ofName package n
  | .pointer (.qualified q n) => ⟨.struct, .imported q, n⟩
  | .pointer inner => ⟨.pointer, .builtin, (TypeExpr.pointer inner).text⟩
  | .interface empty => ⟨.interface, .builtin, (TypeExpr.interface empty).text⟩
  | .map key value => ⟨.unknown, .builtin, (TypeExpr.map key value).text⟩
  | .other text => ⟨.unknown, .builtin, text⟩

end Descriptor
end StructFill
