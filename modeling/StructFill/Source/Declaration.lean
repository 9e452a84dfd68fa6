import StructFill.Source.Tag
import StructFill.Source.TypeExpr

/-! # Declarations

  What is kept of a source file: its package name, imports, type declarations
  and the signatures of its top-level functions, each in source order.
-/

namespace StructFill.Source

/-- One field of a struct. A group of names with one type gives one field for each. -/
structure Field where
  name : String
  type : TypeExpr
  tag : Tag
  /-- The field has no name of its own; `name` is that of its type. -/
  embedded : Bool
deriving DecidableEq, Inhabited

/-- What a type declaration declares its name to be. -/
inductive TypeBody where
  | struct (fields : List Field)
  /-- A type that is referred to. -/
  | named (type : TypeExpr)
deriving DecidableEq, Inhabited

structure TypeDecl where
  name : String
  body : TypeBody
  /-- Declared with an equals sign. -/
  isAlias : Bool
deriving DecidableEq, Inhabited

/-- The fields of a struct declaration. -/
def TypeDecl.fields? (d : TypeDecl) : Option (List Field) :=
  match d.body with
  | .struct fields => some fields
  | .named _ => none

/-- A parameter or a result. -/
structure Param where
  name : Option String
  type : TypeExpr
deriving DecidableEq, Inhabited

structure FuncDecl where
  name : String
  params : List Param
  results : List Param
deriving DecidableEq, Inhabited

structure Import where
  path : String
  /-- The local name, when one is written; a dot and an underscore count as names. -/
  localName : Option String
deriving DecidableEq, Inhabited

/-- The declarations of one file. -/
structure FileDecls where
  package : String
  imports : List Import
  types : List TypeDecl
  functions : List FuncDecl
deriving DecidableEq, Inhabited

/-- One item at the top level of a file. -/
inductive Item where
  | package (name : String)
  | imports (specs : List Import)
  | types (decls : List TypeDecl)
  | function (decl : FuncDecl)
  /-- Syntax of which nothing is kept. -/
  | skipped
deriving DecidableEq, Inhabited

namespace FileDecls

def empty : FileDecls := ⟨"", [], [], []⟩

/-- Adds an item. Of several package names the last one stays. -/
def add (d : FileDecls) : Item → FileDecls
  | .package name => { d with package := name }
  | .imports specs => { d with imports := d.imports ++ specs }
  | .types decls => { d with types := d.types ++ decls }
  | .function decl => { d with functions := d.functions ++ [decl] }
  | .skipped => d

/-- The declarations of a list of items. -/
def ofItems (items : List Item) : FileDecls := items.foldl add empty

end FileDecls
end StructFill.Source
