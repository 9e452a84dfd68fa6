import StructFill.Package.Name
import StructFill.Path
import StructFill.Source.Declaration
import StructFill.Table

/-! # Packages

  A package is the union of the declarations of its files. It is built once
  and does not change.

  **Imports.** Every import binds the name that its path suggests, and its
  alias too when it has a usable one; a later import takes a name over.
  **Qualifiers.** The qualifier of an import path is the name under which it
  was first imported in a usable way. **Types.** Of several declarations of
  one type name the first one counts; an index tells where it stands.
-/

namespace StructFill

open Source (FileDecls Import TypeDecl FuncDecl)

/-- All declarations of one directory. -/
structure Package where
  /-- The declared name. -/
  name : String
  /-- The import path, or the directory, under which the package was opened. -/
  importPath : String
  dir : Path
  files : List Path
  /-- Local names with the import paths they stand for. -/
  imports : Table String
  /-- Import paths with the names that the source uses for them. -/
  qualifiers : Table String
  types : List TypeDecl
  /-- The names of the types with their places in the list. -/
  typeIndex : Table Nat
  functions : List FuncDecl
deriving DecidableEq

namespace Package

/-- The package without files. -/
def bare (name importPath : String) (dir : Path) : Package :=
  ⟨name, importPath, dir, [], [], [], [], [], []⟩

/-- Takes in one import. -/
def addImport (p : Package) (i : Import) : Package :=
  let suggested := defaultName i.path
  let imports := p.imports.set suggested i.path
  match i.localName with
  | none => { p with imports, qualifiers := p.qualifiers.add i.path suggested }
  | some a =>
    if a = "_" ∨ a = "." then { p with imports }
    else
      { p with
        imports := Table.set a i.path imports
        qualifiers := p.qualifiers.add i.path a }

/-- Takes in one type, unless its name is declared. -/
def addType (p : Package) (d : TypeDecl) : Package :=
  if (p.typeIndex.get? d.name).isSome then p
  else
    { p with
      types := p.types ++ [d]
      typeIndex := Table.set d.name p.types.length p.typeIndex }

/-- Takes in one file. -/
def addFile (p : Package) (file : Path × FileDecls) : Package :=
  let p := { p with files := p.files ++ [file.1] }
  let p := file.2.imports.foldl addImport p
  let p := file.2.types.foldl addType p
  { p with functions := p.functions ++ file.2.functions }

/-- The package of a list of files that share its name. -/
def ofFiles (name importPath : String) (dir : Path) (files : List (Path × FileDecls)) : Package :=
  files.foldl addFile (bare name importPath dir)

/-- The import path that a local name stands for. -/
def importPathOf? (p : Package) (localName : String) : Option String := p.imports.get? localName

/-- The name that the source uses for an import path. -/
def qualifierFor? (p : Package) (path : String) : Option String := p.qualifiers.get? path

/-- The import paths that names stand for, in order, each once. -/
def importPaths (p : Package) : List String := sortedDistinct (p.imports.map (·.2))

/-- The declaration of a type, at its place in the list. -/
def findType? (p : Package) (name : String) : Option TypeDecl :=
  (p.typeIndex.get? name).bind fun i => p.types[i]?

/-- The declaration of a type that is a struct. -/
def findStruct? (p : Package) (name : String) : Option TypeDecl :=
  (p.findType? name).filter fun d => d.fields?.isSome

end Package
end StructFill
