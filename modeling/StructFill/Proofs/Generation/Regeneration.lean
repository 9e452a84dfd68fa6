import StructFill.Output
import StructFill.Proofs.Generation.Agreement
import StructFill.Proofs.Session.NewFile

/-! # A file among the sources

  The generated file lies where the sources lie, so the next run reads it with
  them. It must not say anything to that run that the sources do not say.

  **Harmless files.** What a file could change is which functions are
  conversion functions, which packages the names in the sources lead to, and
  how these packages are called. A file that does none of this is harmless. It
  may be read or not, and it may be rewritten: the result of a run stays the
  same, down to its text.
-/

namespace StructFill

open Files (Disk Key)
open StructFill.Path (Plain)
open Session (Run LeadsTo Suits)
open Source (FileDecls FuncDecl)

namespace Generation

variable {w : Surroundings} {c : Config} {p : Package} {told : Told} {k : Key} {n text : String}
  {d' : Disk} {decls : FileDecls}

/-- In the directory `k`, which is that of the package `p`, the declarations of one more file make
no difference to the functions of the package. -/
structure Harmless (w : Surroundings) (c : Config) (p : Package) (told : Told) (k : Key)
    (decls : FileDecls) : Prop where
  types : decls.types = []
  /-- None of the functions is a conversion function. -/
  functions : ∀ f ∈ decls.functions, c.functionStart.toList.isPrefixOf f.name.toList = false
  /-- No import binds a name that stands for another path. -/
  names : ∀ b ∈ decls.bindings, ∀ path, p.importPathOf? b.1 = some path → b.2 = path
  /-- An import that can be taken for a name that no import binds leads where the name leads. -/
  unbound : ∀ df ∈ told, ∀ q, LooksFor w .fresh p df.1 q → p.importPathOf? q = none →
    ∀ i ∈ decls.imports, q ∈ i.bindings.map Prod.fst ∨ Suits w .fresh q i.path →
      (Session.openPath w i.path).answer .fresh = (Session.openImport w p q).answer .fresh
  /-- The package of a cast is called as it was before. -/
  callings : ∀ o, Casts w .fresh p told o → ∀ a, decls.callings.lookup o.importPath = some a →
    a = (p.qualifierFor? o.importPath).getD o.name
  /-- Nobody who is asked imports the package itself. -/
  elsewhere : ∀ o, o = p ∨ p.Imports w .fresh o →
    ∀ path ∈ o.imports.map Prod.snd, ¬ LeadsTo w path k
  acyclic : ∀ i ∈ decls.imports, ¬ LeadsTo w i.path k

/-! ## The package of the input -/

/-- An absolute directory stands for itself. -/
theorem resolve_directory {dir : Path} (habsolute : dir.isAbsolute = true) :
    dir.text ≠ "" ∧ (Session.resolve w dir.text).answer .fresh = .ok (some dir.clean) := by
  have hpseudo : dir.text ≠ Session.pseudoPackage := by
    intro hpseudo
    simp [Path.isAbsolute, hpseudo, Session.pseudoPackage] at habsolute
  refine ⟨fun hblank => by simp [Path.isAbsolute, hblank] at habsolute, ?_⟩
  rw [Session.answer_resolve, Session.resolveAfresh, if_neg hpseudo, if_pos habsolute]
  rfl

/-- The input is opened by reading its directory. -/
theorem openFile_fresh_iff {input : Path} :
    (Session.openFile w input).answer .fresh = .ok p ↔
      ∃ dir, input.parent?.filter (·.isAbsolute) = some dir
        ∧ w.read dir.clean dir.text = .ok p := by
  unfold Session.openFile
  cases hdir : input.parent?.filter (·.isAbsolute) with
  | none => simp
  | some dir =>
    obtain ⟨hblank, hresolve⟩ := resolve_directory (w := w) (Option.filter_eq_some_iff.1 hdir).2
    have hopen : (Session.openPath w dir.text).answer .fresh
        = (w.read dir.clean dir.text).map some := by
      rw [Session.openPath_fresh hblank, hresolve]
      rfl
    simp only [Option.some.injEq, exists_eq_left', Run.answer_bind, hopen]
    cases w.read dir.clean dir.text with
    | error e => simp [Except.map, Except.bind]
    | ok p' => simp [Except.map, Except.bind]

/-! ## One more file -/

section

variable {name importPath : String} {dir : Path} {before after : List (Path × FileDecls)}
  {file : Path × FileDecls}

/-- The paths of the imports lead elsewhere with the file, too. -/
theorem Harmless.elsewhere_insert
    (h : Harmless w c (Package.ofFiles name importPath dir (before ++ after)) told k file.2) :
    ∀ path ∈ (Package.ofFiles name importPath dir (before ++ file :: after)).imports.map Prod.snd,
      ¬ LeadsTo w path k := by
  intro path hpath
  obtain ⟨⟨q, path⟩, hmem, rfl⟩ := List.mem_map.1 hpath
  have hbound := (Package.mem_imports_ofFiles _).1 hmem
  cases hq : (Package.ofFiles name importPath dir (before ++ after)).importPathOf? q with
  | some path' =>
    -- The name has kept its path.
    have hkept := Package.importPathOf?_insert_of_some
      (fun path'' (hb : (q, path'') ∈ file.2.bindings) => h.names _ hb path' hq) hq
    obtain rfl := Option.some.inj (hkept.symm.trans hbound)
    exact h.elsewhere _ (.inl rfl) path'
      (List.mem_map.2 ⟨_, (Package.mem_imports_ofFiles _).2 hq, rfl⟩)
  | none =>
    obtain ⟨i, hi, hb⟩ := List.mem_flatMap.1 (Package.mem_bindings_of_insert hq hbound)
    have hpath := Source.Import.path_of_mem_bindings hb
    dsimp only at hpath ⊢
    rw [hpath]
    exact h.acyclic i hi

/-- With a harmless file the package has the same conversion functions. -/
theorem Harmless.candidates_insert
    (h : Harmless w c (Package.ofFiles name importPath dir (before ++ after)) told k file.2) :
    Signature.candidates (Package.ofFiles name importPath dir (before ++ file :: after))
        c.functionStart
      = Signature.candidates (Package.ofFiles name importPath dir (before ++ after))
        c.functionStart := by
  have hnone : file.2.functions.filter
      (fun f => c.functionStart.toList.isPrefixOf f.name.toList) = [] := by
    rw [List.filter_eq_nil_iff]
    intro f hf
    simp [h.functions f hf]
  simp [Signature.candidates, Package.functions_ofFiles, hnone]

/-- With a harmless file the package is to its functions what it was without. -/
theorem Harmless.agrees
    (h : Harmless w c (Package.ofFiles name importPath dir (before ++ after)) told k file.2)
    (hfile : w.disk.NewFile k n text d') (ht : w.disk.tree.Proper) :
    Agrees w .fresh (Package.ofFiles name importPath dir (before ++ after)) (w.on d') .fresh
      (Package.ofFiles name importPath dir (before ++ file :: after)) c told where
  name := by rw [Package.name_ofFiles, Package.name_ofFiles]
  dir := by rw [Package.dir_ofFiles, Package.dir_ofFiles]
  types := Package.findType?_insert h.types
  names := by
    intro df hdf q hq
    have hopen := Session.openImport_newFile hfile ht (fun _ => h.elsewhere_insert) q
    rw [hopen]
    exact Session.openImport_insert h.names (h.unbound df hdf q hq)
  imported := fun _ _ o q ho _ =>
    Session.openImport_newFile hfile ht (fun _ => h.elsewhere o (.inr ho)) q
  callings := fun o ho => Package.getD_qualifierFor?_insert o.name (h.callings o ho)

end

/-! ## Another directory -/

/-- A file that is not read with the package makes no difference either. -/
theorem agrees_self (hfile : w.disk.NewFile k n text d') (ht : w.disk.tree.Proper)
    (helsewhere : Package.isSourceFile ⟨n⟩ = true → ∀ o, o = p ∨ p.Imports w .fresh o →
      ∀ path ∈ o.imports.map Prod.snd, ¬ LeadsTo w path k) :
    Agrees w .fresh p (w.on d') .fresh p c told where
  name := rfl
  dir := rfl
  types := fun _ => rfl
  names := fun _ _ q _ =>
    Session.openImport_newFile hfile ht (fun hsource => helsewhere hsource p (.inl rfl)) q
  imported := fun _ _ o q ho _ =>
    Session.openImport_newFile hfile ht (fun hsource => helsewhere hsource o (.inr ho)) q
  callings := fun _ _ => rfl

/-! ## Runs -/

/-- The text is harmless as a file of the package: it is not read, or it declares what is
harmless. -/
def HarmlessText (w : Surroundings) (c : Config) (p : Package) (told : Told) (k : Key) (n : String)
    (text : String) : Prop :=
  Package.isSourceFile ⟨n⟩ = true →
    ∃ decls, Package.Declares text p.name decls ∧ Harmless w c p told k decls

/-- With a harmless file a run gives what it gives without. -/
theorem generate_newFile {input : Path} (hfile : w.disk.NewFile k n text d')
    (ht : w.disk.tree.Proper) (hn : Plain n)
    (hp : (Session.openFile w input).answer .fresh = .ok p)
    (hdecls : told.map Prod.fst = Signature.candidates p c.functionStart)
    (hmeets : AllMeet w c p .fresh told) (hharmless : HarmlessText w c p told k n text) :
    (generate (w.on d') c input).answer .fresh = .ok (result c p told) := by
  obtain ⟨dir, hdir, hread⟩ := openFile_fresh_iff.1 hp
  -- The text matters only if the file becomes a source of the package that is generated for.
  -- Elsewhere it is a source of no package that is opened, which is part of being harmless.
  by_cases hbeside : Package.isSourceFile ⟨n⟩ = true
      ∧ w.disk.locate dir.clean = .ok (k, some .directory)
  · obtain ⟨hsource, hlocate⟩ := hbeside
    obtain ⟨decls, htext, hharmless⟩ := hharmless hsource
    let := w.recovery
    obtain ⟨before, after, hpackage, hread'⟩ :=
      Package.ofDirectory_newFile hfile ht hn hsource hlocate hread htext
    generalize p.name = name at hpackage hread'
    subst hpackage
    exact (hharmless.agrees hfile ht).generate_eq (openFile_fresh_iff.2 ⟨dir, hdir, hread'⟩)
      (hdecls.trans hharmless.candidates_insert.symm) hmeets
  · have hread' : (w.on d').read dir.clean dir.text = .ok p := by
      rw [Surroundings.read_elsewhere hfile ht fun hsource hlocate => hbeside ⟨hsource, hlocate⟩,
        hread]
    refine (agrees_self hfile ht fun hsource => ?_).generate_eq
      (openFile_fresh_iff.2 ⟨dir, hdir, hread'⟩) hdecls hmeets
    obtain ⟨decls, -, hharmless⟩ := hharmless hsource
    exact hharmless.elsewhere

end Generation

/-! ## A module with an enumeration -/

namespace Sample

/-- The module `m` with the given sources. -/
def moduleOf (files : List (Key × List String)) : Surroundings where
  disk := ⟨files.foldl (fun t f => t.plant f.1 (.file (.text (Emission.unlines f.2)) false)) .empty,
    []⟩
  provider := ⟨fun path => .ok (if path = "" then
    some { Module.Info.blank with path := "m", dir := some ⟨"/m"⟩ } else none), none⟩
  goroot := none

def kindSourceLines : List String :=
  ["package gen", "type Kind int", "type Book struct \x7b Kind Kind `json:\"kind\"` \x7d",
    "func MapToBook(m map[string]any) *Book \x7b return nil \x7d"]

def kindModule : Surroundings := moduleOf [(["m", "gen", "gen.go"], kindSourceLines)]

def mapToKind : FuncDecl :=
  ⟨"MapToBook", [⟨some "m", .map (.name "string") (.name "any")⟩], [⟨none, .pointer (.name "Book")⟩]⟩

/-- The sources of the package, as they are read. -/
def kindSource : Path × FileDecls :=
  (⟨"/m/gen/gen.go"⟩, ⟨"gen", [],
    [⟨"Kind", .named (.name "int"), false⟩, ⟨"Book", .struct modelFields, false⟩], [mapToKind]⟩)

def kindGen : Package := Package.ofFiles "gen" "/m/gen" ⟨"/m/gen"⟩ [kindSource]

def kindBuckets : Buckets :=
  ⟨[], [⟨"Kind", "kind", "Kind", ⟨.struct, .local "gen", "Kind"⟩, false, false,
    .enumeration "Kind" "cast.ToInt" none⟩], [], [], []⟩

def kindFate : Generation.Fate :=
  .written ⟨"string", "any", true⟩ ⟨none, "Book", true⟩ ⟨kindGen, "Book", modelFields⟩ kindBuckets

/-- The file that is generated. -/
def kindFile : Generated := Generation.result {} kindGen [(mapToKind, kindFate)]

set_option maxRecDepth 10000 in
theorem openFile_kind :
    (Session.openFile kindModule ⟨"/m/gen/gen.go"⟩).answer .fresh = .ok kindGen := by
  have hdecls : Package.Declares (Emission.unlines kindSourceLines) "gen" kindSource.2 := by
    have hchars := Emission.toList_unlines kindSourceLines
    rw [kindSourceLines] at hchars ⊢
    simp only [List.flatMap_cons, List.flatMap_nil] at hchars
    repeat rw [String.toList_ofList] at hchars
    exact .of_toList hchars (by decide) (by decide) rfl
  have hread : kindModule.disk.readText ⟨"/m/gen/gen.go"⟩
      = .ok (Emission.unlines kindSourceLines) := rfl
  have hsources : Package.sourceFiles kindModule.disk ⟨"/m/gen"⟩ = .ok [⟨"/m/gen/gen.go"⟩] := by
    decide +kernel
  exact Generation.openFile_fresh_iff.2
    ⟨⟨"/m/gen"⟩, rfl, Package.ofDirectory_of_file rfl hsources hread hdecls (by decide)⟩

theorem meets_kind : Generation.AllMeet kindModule {} kindGen .fresh [(mapToKind, kindFate)] := by
  intro df hdf
  obtain rfl := List.mem_singleton.1 hdf
  exact .written rfl rfl (by decide)

theorem generate_kind :
    (Generation.generate kindModule {} ⟨"/m/gen/gen.go"⟩).answer .fresh = .ok kindFile :=
  Generation.generate_of_meets openFile_kind rfl meets_kind

end Sample

end StructFill
