import StructFill.Proofs.Package.Bindings

/-! # The tables of a package

  The declarations of all files go into six tables, each with a rule of its own
  for what is declared twice.

  **Types** are kept in a list and in an index from names to places in it. The
  first declaration of a name is taken into both, and no later one into either,
  so that an index never leads past the list or to another name.

  **Imports.** A name stands for the import that is listed under it last, while
  a path is called by the first usable name that is given to it. **Functions**
  are all kept, those of one name as well.
-/

namespace StructFill

open Source (Import FileDecls TypeDecl FuncDecl)

namespace Package

/-! ## Names of import paths -/

theorem callings_eq (i : Import) : i.callings = (i.boundName?.map (i.path, ·)).toList := by
  unfold Import.callings Import.boundName?
  cases i.localName with
  | none => rfl
  | some a =>
    dsimp only
    split <;> rfl

/-- Of the names that imports give to a path, the first one that is usable is its name. -/
theorem lookup_flatMap_callings (is : List Import) (path : String) :
    (is.flatMap Import.callings).lookup path
      = (is.filter (·.path == path)).findSome? Import.boundName? := by
  induction is with
  | nil => rfl
  | cons i is ih =>
    rw [List.flatMap_cons, List.lookup_append, ih, callings_eq]
    by_cases hpath : i.path = path
    · rw [List.filter_cons_of_pos (by simpa using hpath), List.findSome?_cons]
      cases i.boundName? <;> simp [hpath]
    · have hother : (path == i.path) = false := by simpa using Ne.symm hpath
      rw [List.filter_cons_of_neg (by simpa using hpath)]
      cases i.boundName? <;> simp [List.lookup_cons, hother]

/-! ## Coherence -/

/-- All type declarations of a list of files, in the order of the files. -/
def typesOf (files : List (Path × FileDecls)) : List TypeDecl := files.flatMap (·.2.types)

/-- The tables of a package agree with each other and with the files of which it consists. -/
structure Coherent (files : List (Path × FileDecls)) (p : Package) : Prop where
  /-- The list has the names that are declared, in the order in which they first are. -/
  names : p.types.map (·.name) = ((typesOf files).map (·.name)).eraseDups
  distinct : (p.types.map (·.name)).Nodup
  keys : p.typeIndex.Ordered
  /-- The index has the names of the list and no others, each with the place where it stands. -/
  index : ∀ n i, p.typeIndex.get? n = some i ↔ ∃ h : i < p.types.length, p.types[i].name = n
  /-- What is found is at the place that the index has, and it is the first declaration. -/
  type : ∀ n, p.findType? n = (typesOf files).find? (·.name == n)
  /-- A struct is found if the first declaration is one, whatever later ones are. -/
  struct : ∀ n d, p.findStruct? n = some d
    ↔ (typesOf files).find? (·.name == n) = some d ∧ ∃ fields, d.body = .struct fields
  functions : p.functions = files.flatMap (·.2.functions)
  imports : ∀ n, p.importPathOf? n = ((importsOf files).filter (·.listed n)).getLast?.map (·.path)
  qualifiers : ∀ path, p.qualifierFor? path
    = ((importsOf files).filter (·.path == path)).findSome? Import.boundName?
  importPaths : p.importPaths.Pairwise (· < ·)
    ∧ ∀ path, path ∈ p.importPaths ↔ ∃ n, p.importPathOf? n = some path

theorem fields?_isSome_iff (d : TypeDecl) :
    d.fields?.isSome = true ↔ ∃ fields, d.body = .struct fields := by
  unfold TypeDecl.fields?
  cases d.body <;> simp

variable {name importPath : String} {dir : Path} (files : List (Path × FileDecls))

theorem types_ofFiles :
    (ofFiles name importPath dir files).types = (typesOf files).foldl declare [] := by
  rw [ofFiles_eq, typesOf]

theorem typeIndex_ofFiles : (ofFiles name importPath dir files).typeIndex
    = indexOf (ofFiles name importPath dir files).types := by
  rw [ofFiles_eq]

/-- **Coherence.** The tables of a package that is put together from files agree, whatever the files
declare and how often. -/
theorem coherent_ofFiles (name importPath : String) (dir : Path)
    (files : List (Path × FileDecls)) : Coherent files (ofFiles name importPath dir files) := by
  have hdistinct : ((ofFiles name importPath dir files).types.map (·.name)).Nodup := by
    rw [types_ofFiles]
    exact nodup_map_name_foldl_declare (by simp)
  -- Each table is a fold of its own over the declarations of all files, by `ofFiles_eq`.
  constructor
  case names =>
    rw [types_ofFiles, map_name_foldl_declare]
    simp
  case distinct => exact hdistinct
  case keys =>
    have hbare : Table.Ordered ([] : Table Nat) := List.Pairwise.nil
    rw [typeIndex_ofFiles]
    exact hbare.foldl_set _
  case index =>
    intro n i
    rw [typeIndex_ofFiles]
    exact get?_indexOf_eq_some_iff hdistinct
  case type => exact findType?_ofFiles files
  case struct =>
    intro n d
    rw [findStruct?, findType?_ofFiles, Option.filter_eq_some_iff, fields?_isSome_iff, typesOf]
  case functions => exact functions_ofFiles files
  case imports =>
    intro n
    rw [importPathOf?_ofFiles, lookup_flatMap_bindings]
  case qualifiers =>
    intro path
    rw [qualifierFor?_ofFiles, lookup_flatMap_callings]
  case importPaths =>
    exact ⟨pairwise_sortedDistinct _, fun path => mem_importPaths_ofFiles files⟩

/-- A later file does not make a struct of a type that an earlier one names. -/
example : (ofFiles "m" "m" ⟨"/m"⟩
    [(⟨"/m/a.go"⟩, ⟨"m", [], [⟨"Book", .named (.name "int"), false⟩], []⟩),
      (⟨"/m/b.go"⟩, ⟨"m", [], [⟨"Book", .struct [], false⟩], []⟩)]).findStruct? "Book" = none := rfl

end Package
end StructFill
