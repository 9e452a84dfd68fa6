import StructFill.Proofs.Package.Rereading
import StructFill.Session.Opening

/-! # What a local name stands for

  An import binds one name: the one that is written, or else the one that its
  path suggests. Next to it the import table has the name that the path
  suggests for every import, also for one that has another name or binds none.

  So the name of one import may be the suggestion of another. The table has
  each name once, and the import that comes last has it. An import keeps its
  name as long as no later one is of a path that suggests the name.
-/

namespace StructFill

open Files (Disk)
open Source (Import FileDecls)

/-! ## Names of imports -/

/-- The name that an import binds. Neither an underscore nor a dot binds one. -/
def Source.Import.boundName? (i : Import) : Option String :=
  match i.localName with
  | none => some (Package.defaultName i.path)
  | some a => if a = "_" ∨ a = "." then none else some a

/-- The import table has an import under the name that it binds and under the name that its path
suggests. -/
def Source.Import.listed (n : String) (i : Import) : Bool :=
  i.boundName? == some n || Package.defaultName i.path == n

namespace Package

/-! ## The import table -/

/-- The path that one import gives to a name. -/
theorem lookup_bindings (i : Import) (n : String) :
    i.bindings.reverse.lookup n = if i.listed n then some i.path else none := by
  have hpath : ∀ path, i.bindings.reverse.lookup n = some path → path = i.path := by
    intro path h
    exact Import.path_of_mem_bindings (b := (n, path)) (List.mem_reverse.1 (Table.mem_of_lookup h))
  have hsome : (i.bindings.reverse.lookup n).isSome = i.listed n := by
    rw [Bool.eq_iff_iff, List.lookup_isSome_iff]
    unfold Import.listed Import.boundName? Import.bindings
    cases i.localName with
    | none => simp [@eq_comm _ n]
    | some a =>
      dsimp only
      split <;> simp [@eq_comm _ n, or_comm]
  cases hlookup : i.bindings.reverse.lookup n with
  | none =>
    rw [hlookup] at hsome
    simp [← hsome]
  | some path =>
    rw [hlookup] at hsome
    simp [← hsome, hpath path hlookup]

/-- Of the imports that are listed under a name, the last one has it. -/
theorem lookup_flatMap_bindings (is : List Import) (n : String) :
    (is.flatMap Import.bindings).reverse.lookup n
      = (is.filter (·.listed n)).getLast?.map (·.path) := by
  induction is with
  | nil => rfl
  | cons i is ih =>
    rw [List.flatMap_cons, List.reverse_append, List.lookup_append, ih, lookup_bindings,
      List.filter_cons]
    split
    next => cases hrest : (is.filter (·.listed n)).getLast? <;> simp [hrest, List.getLast?_cons]
    next => simp

/-! ## One file -/

/-- A package of one file consists of the declarations of that file. -/
theorem eq_ofFiles_of_ofDirectory [Source.Recovery] {d : Disk} {dir file : Path}
    {importPath : String} {p : Package}
    (h : ofDirectory d dir importPath = .ok p) (hfile : p.files = [file]) :
    ∃ decls, readFile d file = .ok (some decls)
      ∧ p = ofFiles decls.package importPath dir [(file, decls)] := by
  obtain ⟨entries, hlist⟩ : ∃ entries, d.list dir = .ok entries := by
    cases hlist : d.list dir with
    | ok entries => exact ⟨entries, rfl⟩
    | error e =>
      simp only [ofDirectory, sourceFiles, hlist, bind, Except.bind] at h
      split at h <;> cases h
  obtain ⟨files, hfiles, -, hp⟩ := ofDirectory_eq_ok hlist h
  generalize p.name = name at hp
  subst hp
  -- The files of the package are those of its name.
  rw [files_ofFiles] at hfile
  obtain ⟨⟨file', decls⟩, hone, rfl⟩ := List.map_eq_singleton_iff.1 hfile
  have hmem : (file', decls) ∈ files.filter (·.2.package == name) := by simp [hone]
  obtain ⟨hfound, hname⟩ := List.mem_filter.1 hmem
  obtain rfl : decls.package = name := by simpa using hname
  exact ⟨decls, readFile_of_mem_readFiles hfiles hfound, by rw [hone]⟩

/-- An import has the name that it binds, unless the path of a later one suggests it: then the last
of these has it. -/
theorem importPathOf?_boundName {name importPath n : String} {dir file : Path} {decls : FileDecls}
    {before after : List Import} {i : Import}
    (hdistinct : (decls.imports.filterMap Import.boundName?).Nodup)
    (himports : decls.imports = before ++ i :: after) (hn : i.boundName? = some n) :
    (ofFiles name importPath dir [(file, decls)]).importPathOf? n
      = some ((after.filter (defaultName ·.path == n)).getLast?.getD i).path := by
  have hlisted : i.listed n = true := by simp [Import.listed, hn]
  -- No later import binds the name, so that only its suggestion can be listed.
  have hafter : after.filter (·.listed n) = after.filter (defaultName ·.path == n) := by
    refine List.filter_congr fun j hj => ?_
    have hother : j.boundName? ≠ some n := by
      rw [himports, List.filterMap_append, List.filterMap_cons, hn] at hdistinct
      have hnot := (List.nodup_cons.1 (List.nodup_append.1 hdistinct).2.1).1
      exact fun hj' => hnot (List.mem_filterMap.2 ⟨j, hj, hj'⟩)
    simp [Import.listed, hother]
  have himport : importsOf [(file, decls)] = before ++ i :: after := by
    simp [importsOf, himports]
  rw [importPathOf?_ofFiles, himport, lookup_flatMap_bindings, List.filter_append,
    List.filter_cons_of_pos hlisted, hafter]
  simp [List.getLast?_append, List.getLast?_cons]

/-- **Names that are bound.** Let the imports of a package of one file bind different names. The
name that one of them binds leads to its path, and what is opened for the name is the package of
the path, if and only if the last of the later imports whose paths suggest the name, if there are
any, is of the same path. Otherwise the name leads to the path of that one. -/
theorem openImport_boundName [Source.Recovery] {d : Disk} {dir file : Path} {importPath : String}
    {p : Package} (hp : ofDirectory d dir importPath = .ok p) (hfile : p.files = [file]) :
    ∃ decls, readFile d file = .ok (some decls)
      ∧ ((decls.imports.filterMap Import.boundName?).Nodup → ∀ before i after n,
        decls.imports = before ++ i :: after → i.boundName? = some n →
          ∃ path, p.importPathOf? n = some path
            ∧ (∀ w, Session.openImport w p n = Session.openPath w path)
            ∧ path = ((after.filter (defaultName ·.path == n)).getLast?.getD i).path
            ∧ (path = i.path ↔ ∀ j, (after.filter (defaultName ·.path == n)).getLast? = some j →
              j.path = i.path)) := by
  obtain ⟨decls, hread, rfl⟩ := eq_ofFiles_of_ofDirectory hp hfile
  refine ⟨decls, hread, fun hdistinct before i after n himports hn => ?_⟩
  have hpath := @importPathOf?_boundName decls.package importPath n dir file decls before after i
    hdistinct himports hn
  refine ⟨_, hpath, fun w => by simp only [Session.openImport, hpath], rfl, ?_⟩
  cases (after.filter (defaultName ·.path == n)).getLast? <;> simp

end Package

/-! ## A suggestion that takes a name away -/

namespace Sample

def suggestedText : String :=
  "package gen\nimport (\n\tmodel \"m/x\"\n\tv2 \"m/model\"\n)\n"

/-- The name of the first import is what the path of the second one suggests. -/
def suggestedDecls : FileDecls :=
  ⟨"gen", [⟨"m/x", some "model"⟩, ⟨"m/model", some "v2"⟩], [], []⟩

def suggestedDisk : Disk :=
  ⟨Files.Tree.empty.plant ["m", "gen", "gen.go"] (.file (.text suggestedText) false), []⟩

def suggestedGen : Package :=
  Package.ofFiles "gen" "/m/gen" ⟨"/m/gen"⟩ [(⟨"/m/gen/gen.go"⟩, suggestedDecls)]

set_option maxRecDepth 10000 in
theorem declares_suggested : Package.Declares suggestedText "gen" suggestedDecls := by
  have hchars : suggestedText.toList = suggestedText.toList := rfl
  conv_rhs at hchars => rw [suggestedText, String.toList_ofList]
  exact .of_toList hchars (by decide) (by decide) rfl

theorem ofDirectory_suggested :
    Package.ofDirectory suggestedDisk ⟨"/m/gen"⟩ "/m/gen" = .ok suggestedGen := by
  have hsources : Package.sourceFiles suggestedDisk ⟨"/m/gen"⟩ = .ok [⟨"/m/gen/gen.go"⟩] := by
    decide +kernel
  exact Package.ofDirectory_of_file rfl hsources rfl declares_suggested (by decide)

end Sample

namespace Package

open Sample (suggestedDisk suggestedGen suggestedDecls)

/-- The name `v2` is suggested by no path, and leads where it is bound. -/
theorem openImport_boundName_last :
    ofDirectory suggestedDisk ⟨"/m/gen"⟩ "/m/gen" = .ok suggestedGen
      ∧ suggestedGen.files = [⟨"/m/gen/gen.go"⟩]
      ∧ (suggestedDecls.imports.filterMap Import.boundName?) = ["model", "v2"]
      ∧ suggestedGen.importPathOf? "v2" = some "m/model"
      ∧ ∀ w, Session.openImport w suggestedGen "v2" = Session.openPath w "m/model" := by
  have hread : readFile suggestedDisk ⟨"/m/gen/gen.go"⟩ = .ok (some suggestedDecls) :=
    Sample.declares_suggested.readFile (by decide) rfl
  obtain ⟨decls, hdecls, hnames⟩ := openImport_boundName Sample.ofDirectory_suggested rfl
  obtain rfl : suggestedDecls = decls := Option.some.inj (Except.ok.inj (hread.symm.trans hdecls))
  obtain ⟨path, hpath, hopen, rfl, -⟩ :=
    hnames (by decide) [⟨"m/x", some "model"⟩] ⟨"m/model", some "v2"⟩ [] "v2" rfl rfl
  exact ⟨Sample.ofDirectory_suggested, rfl, rfl, hpath, hopen⟩

/-- The name `model` is bound to `m/x`, and by no other import, but leads to `m/model`. -/
theorem boundName_taken :
    ofDirectory suggestedDisk ⟨"/m/gen"⟩ "/m/gen" = .ok suggestedGen
      ∧ suggestedGen.files = [⟨"/m/gen/gen.go"⟩]
      ∧ readFile suggestedDisk ⟨"/m/gen/gen.go"⟩ = .ok (some suggestedDecls)
      ∧ (suggestedDecls.imports.filterMap Import.boundName?).Nodup
      ∧ ⟨"m/x", some "model"⟩ ∈ suggestedDecls.imports
      ∧ Import.boundName? ⟨"m/x", some "model"⟩ = some "model"
      ∧ suggestedGen.importPathOf? "model" = some "m/model"
      ∧ (∀ w, Session.openImport w suggestedGen "model" = Session.openPath w "m/model") :=
  ⟨Sample.ofDirectory_suggested, rfl, Sample.declares_suggested.readFile (by decide) rfl,
    by decide, by decide, rfl, rfl, fun _ => rfl⟩

end Package
end StructFill
