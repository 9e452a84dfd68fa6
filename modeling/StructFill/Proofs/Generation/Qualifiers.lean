import StructFill.Proofs.Emission.Imports
import StructFill.Proofs.Emission.Soundness
import StructFill.Proofs.Generation.Accounting
import StructFill.Proofs.Package.Tables
import StructFill.Proofs.Session.Memoization

/-! # What qualifiers denote

  A generated function names its struct and the types of its casts with the
  qualifier of a package. The header has to bind the qualifier to that package.

  Three sources give a qualifier: the result type, as it is written; the name
  under which the package of the function imports the package of the type; and
  the declared name of that package. The header writes it down for the import,
  unless the path suggests it. Then the compiler takes the declared name in its
  place, and that need not be the same.
-/

namespace StructFill

open Source (IsIdentifier)
open Session (Run Consistent Transparent)

variable {w : Surroundings} {s : Session}

/-! ## Imported packages -/

/-- One of the imports of the package `p` leads to the package `o`. -/
def Package.Imports (w : Surroundings) (s : Session) (p o : Package) : Prop :=
  ∃ path ∈ p.imports.map Prod.snd, (Session.openPath w path).answer s = .ok (some o)

namespace Session

/-- What is found by its declared name is one of the packages that were tried. -/
theorem mem_of_probe {name : String} {paths : List String} {o : Package}
    (h : (probe w name paths).answer s = .ok (some o)) :
    ∃ path ∈ paths, (openPath w path).answer s = .ok (some o) := by
  induction paths with
  | nil => cases h
  | cons path rest ih =>
    have hlater : (probe w name rest).answer s = .ok (some o) →
        ∃ path' ∈ path :: rest, (openPath w path').answer s = .ok (some o) := by
      intro h
      obtain ⟨path', hmem, hopen⟩ := ih h
      exact ⟨path', List.mem_cons_of_mem _ hmem, hopen⟩
    rw [answer_probe_cons] at h
    split at h
    · exact hlater h
    split at h
    next o' hopen =>
      split at h
      · obtain rfl : o' = o := by simpa using h
        exact ⟨path, List.mem_cons_self, hopen⟩
      · exact hlater h
    next => exact hlater h

/-- A local name leads to packages that are imported. -/
theorem imports_of_openImport {p o : Package} {name : String}
    (h : (openImport w p name).answer s = .ok (some o)) : p.Imports w s o := by
  unfold openImport at h
  cases hpath : p.importPathOf? name with
  | none =>
    rw [hpath] at h
    obtain ⟨path, hmem, hopen⟩ := mem_of_probe h
    exact ⟨path, mem_sortedDistinct.1 hmem, hopen⟩
  | some path =>
    rw [hpath] at h
    exact ⟨path, List.mem_map.2 ⟨_, Table.mem_of_lookup hpath, rfl⟩, h⟩

end Session

/-! ## Casts -/

namespace Classification

variable {style : Naming.Style} {struct : OutputStruct} {map : MapParam} {p : Package}

/-- A field with a cast has a type that was looked up, and the cast is spelled for the package in
which it was found. -/
theorem cast_of_classify {b : Buckets} {e : FilledField}
    (h : (classify w style struct map p).answer s = .ok b) (he : e ∈ b.enumerations) :
    ∃ o base, (Enumeration.owner w e.descriptor struct.owner).answer s = .ok (some o)
      ∧ e.strategy = .enumeration (castName e.descriptor.name o p).1
        (Naming.conversion style.conversionStart base) (castName e.descriptor.name o p).2 := by
  obtain ⟨placed, -, hjudged, hpartition⟩ := classify_partition h
  obtain ⟨fv, hplaced, hslot, hdescribes⟩ := hpartition.describes_of_mem (k := .enumeration) he
  have hassigned : e.strategy.slot ≠ .unsupported := by
    rw [hdescribes.verdict] at hslot
    simp [Option.some.inj hslot]
  rcases fieldVerdict_cases (hjudged fv hplaced) with ⟨-, hv⟩ | ⟨-, n, -, -, hv⟩ | ⟨-, -, hread⟩
  · simp [hslot] at hv
  · -- No primitive is cast.
    have hkeep := hv.symm.trans hdescribes.verdict
    rcases Typing.primitive_eq_keep hkeep hassigned with ⟨-, hs⟩ | ⟨-, hs⟩ | ⟨-, hs, -⟩ <;>
      simp [hdescribes.verdict, Verdict.slot?, hs, Strategy.slot] at hslot
  · obtain ⟨o, base, -, howner, -, -, hs⟩ := Typing.cast_of_readOff hdescribes hassigned hread
    exact ⟨o, base, howner, hs⟩

end Classification

/-! ## The names of the sources -/

/-- The sources around the package `p` are valid as far as their names go: qualifiers, names of
imports and names of packages are identifiers, and no package imports itself. -/
structure ValidNames (w : Surroundings) (s : Session) (p : Package) : Prop where
  results : ∀ d ∈ p.functions, ∀ r ∈ d.results, ∀ q n, r.type.pointee = .qualified q n →
    IsIdentifier q
  /-- Where an import has a name, it is an identifier. -/
  aliases : ∀ path q, p.qualifierFor? path = some q →
    q = Package.defaultName path ∨ IsIdentifier q
  others : ∀ o, p.Imports w s o → o.dir.same p.dir = false
  direct : ∀ o, p.Imports w s o → IsIdentifier o.name
  indirect : ∀ o o', p.Imports w s o → o.Imports w s o' → IsIdentifier o'.name

/-! ## Binding -/

/-- By the rules of the language, the line binds the name `q` to the package `o`: it writes the
name, or else the package declares it. -/
def Binds (w : Surroundings) (s : Session) (line q : String) (o : Package) : Prop :=
  ∃ name? path, Emission.importOf? line = some (name?, path)
    ∧ (Session.openPath w path).answer s = .ok (some o) ∧ name?.getD o.name = q

/-- The lines bind the name `q`, which is an identifier, to the package `o`. -/
def Bound (w : Surroundings) (s : Session) (lines : List String) (q : String) (o : Package) :
    Prop :=
  IsIdentifier q ∧ ∃ line ∈ lines, Binds w s line q o

/-- An import binds its name exactly if the name is written, or is the declared one. -/
theorem bound_iff {is : List PackageImport} {i : PackageImport} {o : Package}
    (hs : Consistent s) (hi : i ∈ is)
    (ho : (Session.openPath w i.path).answer s = .ok (some o)) (hname : IsIdentifier o.name)
    (hq : i.name = Package.defaultName i.path ∨ IsIdentifier i.name) :
    Bound w s (Emission.importLines is) i.name o ↔
      (Package.defaultName o.importPath = i.name → o.name = i.name) := by
  have hpath := Session.importPath_of_answer hs ho
  constructor
  · rintro ⟨-, line, hline, name?, path, hread, hopen, hbound⟩ hsuggested
    obtain ⟨j, -, rfl, rfl⟩ := Emission.exists_of_importOf? hline hread
    have hpath' := Session.importPath_of_answer hs hopen
    -- A name that the path suggests is written by no import of the path.
    unfold Emission.writtenName? at hbound
    split at hbound
    · exact hbound
    next hne =>
      exfalso
      apply hne
      rw [← hpath', hsuggested]
      exact hbound.symm
  · intro hdeclared
    rw [hpath] at hdeclared
    have hidentifier : IsIdentifier i.name := by
      rcases hq with hq | hq
      · rwa [← hdeclared hq.symm]
      · exact hq
    obtain ⟨line, hline, hread⟩ := Emission.exists_importOf? hi hidentifier
    refine ⟨hidentifier, line, hline, _, _, hread, ho, ?_⟩
    unfold Emission.writtenName?
    split
    next h => exact hdeclared h
    next => rfl

/-! ## Types in generated functions -/

/-- In a file of the package `p` with the given lines of imports, the text is the name `n` of a
type of the package `o`, behind a qualifier or without one. -/
structure Spelled (w : Surroundings) (s : Session) (p : Package) (lines : List String)
    (text : String) (qualifier? : Option String) (n : String) (o : Package) : Prop where
  text : text = match qualifier? with
    | some q => q ++ "." ++ n
    | none => n
  /-- Without a qualifier it is a type of the same directory. -/
  own : qualifier? = none → o.dir.same p.dir = true
  /-- The qualifier is bound, unless the path of the package suggests it in vain. -/
  bound : ∀ q, qualifier? = some q →
    (Bound w s lines q o ↔ (Package.defaultName o.importPath = q → o.name = q))

namespace Generation

variable {c : Config} {p : Package} {struct : OutputStruct} {output : Output} {map : MapParam}
  {b : Buckets}

theorem same_self (dir : Path) : dir.same dir = true := by simp [Path.same]

/-- The output of a function is the type that one of its results is, or points to. -/
theorem pointee_of_outputOf {function : String} {t : Source.TypeExpr}
    (h : Signature.outputOf function t = .ok output) :
    t.pointee = match output.package with
      | some q => .qualified q output.typeName
      | none => .name output.typeName := by
  unfold Signature.outputOf at h
  split at h
  next n hn =>
    obtain rfl := Except.ok.inj h
    exact hn
  next q n hn =>
    obtain rfl := Except.ok.inj h
    exact hn
  next => cases h

theorem output_of_shape {d : Source.FuncDecl} (h : Signature.shape d = .ok (map, output)) :
    ∃ r ∈ d.results, Signature.outputOf d.name r.type = .ok output := by
  unfold Signature.shape at h
  split at h
  next first params result results hparams hresults =>
    split at h
    · cases h
    next param _ =>
      cases hmap : Signature.mapParam d.name param.type with
      | error e =>
        rw [hmap] at h
        cases h
      | ok map' =>
        cases houtput : Signature.outputOf d.name result.type with
        | error e =>
          rw [hmap, houtput] at h
          cases h
        | ok output' =>
          rw [hmap, houtput] at h
          obtain ⟨-, rfl⟩ := Prod.mk.inj (Except.ok.inj h)
          exact ⟨result, by simp [hresults], houtput⟩
  next => cases h

/-- The struct is looked up in the package itself, or in one that the qualifier leads to. -/
theorem owner_of_locate {function : String}
    (h : (Signature.locate w p function output).answer s = .ok struct) :
    match output.package with
    | some q => (Session.openImport w p q).answer s = .ok (some struct.owner)
    | none => struct.owner = p := by
  obtain ⟨owner, howner, h⟩ := Run.answer_bind_eq_ok.1 h
  obtain rfl : struct.owner = owner := by
    cases hstruct : owner.findStruct? output.typeName with
    | none =>
      rw [hstruct] at h
      cases h
    | some d =>
      rw [hstruct] at h
      obtain rfl := Except.ok.inj h
      rfl
  -- The struct belongs to the package that was searched, so what is left is where that comes from.
  unfold Signature.outputOwner at howner
  cases hpackage : output.package with
  | none =>
    rw [hpackage] at howner
    exact (Except.ok.inj howner).symm
  | some q =>
    rw [hpackage] at howner
    obtain ⟨o, hopen, howner⟩ := Run.answer_bind_eq_ok.1 howner
    cases o with
    | none => cases howner
    | some o =>
      obtain rfl := Except.ok.inj howner
      exact hopen

/-- The package that a described type is found in is the one that the description stands in, or
one that this imports. -/
theorem owner_cases {d : Descriptor} {unit o : Package}
    (h : (Enumeration.owner w d unit).answer s = .ok (some o)) :
    o = unit ∨ unit.Imports w s o := by
  unfold Enumeration.owner at h
  split at h
  next => cases h
  next => exact .inl (Option.some.inj (Except.ok.inj h)).symm
  next => exact .inr (Session.imports_of_openImport h)

/-- The package of the struct is the one of the function, or one that this imports. -/
theorem struct_owner_cases {function : String}
    (h : (Signature.locate w p function output).answer s = .ok struct) :
    struct.owner = p ∨ p.Imports w s struct.owner := by
  have howner := owner_of_locate h
  cases hpackage : output.package with
  | none =>
    rw [hpackage] at howner
    exact .inl howner
  | some q =>
    rw [hpackage] at howner
    exact .inr (Session.imports_of_openImport howner)

theorem opened_of_imports {o : Package} (hs : Consistent s) (h : p.Imports w s o) :
    (Session.openPath w o.importPath).answer s = .ok (some o) := by
  obtain ⟨path, -, hopen⟩ := h
  rwa [Session.importPath_of_answer hs hopen]

/-- The output type is spelled with the qualifier of its result. -/
theorem spelled_output {is : List PackageImport} {d : Source.FuncDecl} (hs : Consistent s)
    (hvalid : ValidNames w s p) (hd : d ∈ p.functions)
    (hshape : Signature.shape d = .ok (map, output))
    (hlocate : (Signature.locate w p d.name output).answer s = .ok struct)
    (his : ∀ i ∈ outputImports p output struct, i ∈ is) :
    Spelled w s p (Emission.importLines is) output.qualifiedName output.package output.typeName
      struct.owner := by
  have howner := owner_of_locate hlocate
  obtain ⟨r, hr, houtput⟩ := output_of_shape hshape
  have hpointee := pointee_of_outputOf houtput
  cases hpackage : output.package with
  | none =>
    rw [hpackage] at howner
    refine ⟨by simp [Output.qualifiedName, hpackage], fun _ => ?_, by simp⟩
    rw [howner]
    exact same_self p.dir
  | some q =>
    rw [hpackage] at howner hpointee
    have himports := Session.imports_of_openImport howner
    refine ⟨by simp [Output.qualifiedName, hpackage], by simp, ?_⟩
    rintro q' ⟨⟩
    have hi : ⟨struct.owner.importPath, q⟩ ∈ is := by
      apply his
      simp [outputImports, hpackage, hvalid.others _ himports]
    exact bound_iff hs hi (opened_of_imports hs himports) (hvalid.direct _ himports)
      (.inr (hvalid.results d hd r hr q output.typeName hpointee))

/-- A cast is spelled as the package of the function names the package of its type. -/
theorem spelled_cast {is : List PackageImport} {o : Package} {n : String} (hs : Consistent s)
    (hvalid : ValidNames w s p) (ho : o = p ∨ p.Imports w s o ∨ ∃ o', p.Imports w s o' ∧
      o'.Imports w s o)
    (his : ∀ i, (Classification.castName n o p).2 = some i → i ∈ is) :
    Spelled w s p (Emission.importLines is) (Classification.castName n o p).1
      ((Classification.castName n o p).2.map (·.name)) n o := by
  by_cases hsame : o.dir.same p.dir = true
  · have hcast : Classification.castName n o p = (n, none) := by
      simp [Classification.castName, hsame]
    rw [hcast]
    exact ⟨rfl, fun _ => hsame, by simp⟩
  · -- Another directory has another package, which was opened as one that is imported.
    have himported : IsIdentifier o.name
        ∧ (Session.openPath w o.importPath).answer s = .ok (some o) := by
      rcases ho with rfl | himports | ⟨o', himports, himports'⟩
      · exact absurd (same_self _) hsame
      · exact ⟨hvalid.direct o himports, opened_of_imports hs himports⟩
      · exact ⟨hvalid.indirect o' o himports himports', opened_of_imports hs himports'⟩
    obtain ⟨hname, hopen⟩ := himported
    generalize hq : (p.qualifierFor? o.importPath).getD o.name = q
    have hcast : Classification.castName n o p = (q ++ "." ++ n, some ⟨o.importPath, q⟩) := by
      simp [Classification.castName, hsame, hq]
    have hidentifier : q = Package.defaultName o.importPath ∨ IsIdentifier q := by
      cases hqualifier : p.qualifierFor? o.importPath with
      | none =>
        rw [hqualifier] at hq
        exact .inr (hq ▸ hname)
      | some q' =>
        rw [hqualifier] at hq
        exact hq ▸ hvalid.aliases _ _ hqualifier
    have hi : ⟨o.importPath, q⟩ ∈ is := his _ (by rw [hcast])
    rw [hcast]
    refine ⟨rfl, by simp, ?_⟩
    rintro q' ⟨⟩
    exact bound_iff hs hi hopen hname hidentifier

/-- The imports of a file with these functions. -/
def fileImports (c : Config) (p : Package) (told : Told) : List PackageImport :=
  PackageImport.ordered ((told.filterMap fun df => df.2.piece? c p df.1.name).flatMap (·.imports))

/-- The imports of a file are those of its functions: the helpers, the package of the output, and
the packages of the casts. -/
theorem mem_fileImports_iff {told : Told} {i : PackageImport} :
    i ∈ fileImports c p told ↔
      ∃ d map output struct b, (d, .written map output struct b) ∈ told
        ∧ (b.usesConversion = true ∧ i = conversionImport c ∨ i ∈ outputImports p output struct
          ∨ i ∈ b.castImports) := by
  rw [fileImports, PackageImport.mem_ordered, List.mem_flatMap]
  constructor
  · rintro ⟨piece, hpiece, hi⟩
    obtain ⟨⟨d, fate⟩, hd, hpiece⟩ := List.mem_filterMap.1 hpiece
    cases fate with
    | skipped reason => cases hpiece
    | missing e =>
      obtain rfl := Option.some.inj hpiece
      cases hi
    | written map output struct b =>
      obtain rfl := Option.some.inj hpiece
      refine ⟨d, map, output, struct, b, hd, ?_⟩
      simp only [functionImports, List.mem_append, or_assoc] at hi
      refine hi.imp_left fun hi => ?_
      split at hi
      next huses => exact ⟨huses, List.mem_singleton.1 hi⟩
      next => cases hi
  · rintro ⟨d, map, output, struct, b, hd, hi⟩
    refine ⟨_, List.mem_filterMap.2 ⟨_, hd, rfl⟩, ?_⟩
    simp only [functionImports, List.mem_append, or_assoc]
    refine hi.imp_left ?_
    rintro ⟨huses, rfl⟩
    simp [huses]

/-- The text of a file is its header, and then its functions. -/
theorem text_assemble (skipped : List Error) (told : Told) :
    (assemble p.name skipped (told.filterMap fun df => df.2.piece? c p df.1.name)).text
      = Emission.header p.name (fileImports c p told)
        ++ String.join ((written c told).map Prod.snd) := by
  simp only [assemble, filterMap_piece_function]
  rfl

/-- What a function imports for its types is imported by the file. -/
theorem mem_fileImports {told : Told} {d : Source.FuncDecl}
    (h : (d, .written map output struct b) ∈ told) {i : PackageImport}
    (hi : i ∈ outputImports p output struct ∨ i ∈ b.castImports) :
    i ∈ fileImports c p told :=
  mem_fileImports_iff.2 ⟨d, map, output, struct, b, h, .inr hi⟩

/-- The types that a function names are spelled for the file with these functions. -/
structure Qualified (w : Surroundings) (s : Session) (c : Config) (p : Package) (told : Told)
    (output : Output) (struct : OutputStruct) (b : Buckets) : Prop where
  output : Spelled w s p (Emission.importLines (fileImports c p told)) output.qualifiedName
    output.package output.typeName struct.owner
  /-- Each cast is spelled for the package that the look-up of the type has found. -/
  casts : ∀ e ∈ b.enumerations, ∃ cast conversion i o,
    e.strategy = .enumeration cast conversion i
      ∧ (Enumeration.owner w e.descriptor struct.owner).answer s = .ok (some o)
      ∧ Spelled w s p (Emission.importLines (fileImports c p told)) cast (i.map (·.name))
        e.descriptor.name o

theorem qualified_of_meets {told : Told} {d : Source.FuncDecl} (hs : Consistent s)
    (hvalid : ValidNames w s p) (hd : (d, .written map output struct b) ∈ told)
    (hfunction : d ∈ p.functions) (hmeets : Meets w c p s d (.written map output struct b)) :
    Qualified w s c p told output struct b := by
  cases hmeets with
  | written hshape hlocate hclassify =>
    refine ⟨spelled_output hs hvalid hfunction hshape hlocate fun i hi =>
      mem_fileImports hd (.inl hi), fun e he => ?_⟩
    obtain ⟨o, base, howner, hstrategy⟩ := Classification.cast_of_classify hclassify he
    refine ⟨_, _, _, o, hstrategy, howner, spelled_cast hs hvalid ?_ fun i hi => ?_⟩
    · -- The type was found from the struct, and the struct from the function.
      rcases struct_owner_cases hlocate with hstruct | hstruct
      · rw [hstruct] at howner
        exact (owner_cases howner).imp_right .inl
      · rcases owner_cases howner with rfl | himports
        · exact .inr (.inl hstruct)
        · exact .inr (.inr ⟨_, hstruct, himports⟩)
    · refine mem_fileImports hd (.inr ?_)
      rw [Buckets.castImports, PackageImport.mem_ordered, List.mem_filterMap]
      exact ⟨e, he, by rw [hstrategy]; exact hi⟩

/-- **What qualifiers denote.** In a file that is generated in whatever session, the header binds
the qualifier of an output type or of a cast to the package in which the type was found, exactly
if that package has the name that its path suggests, or the qualifier is another name. -/
theorem generate_binds_qualifiers (earlier : Session.History) {input : Path} {g : Generated}
    (hvalid : ∀ p, (Session.openFile w input).answer (Session.afterAll earlier .fresh) = .ok p →
      ValidNames w (Session.afterAll earlier .fresh) p)
    (h : (generate w c input).answer (Session.afterAll earlier .fresh) = .ok g) :
    ∃ p told, (Session.openFile w input).answer (Session.afterAll earlier .fresh) = .ok p
      ∧ told.map Prod.fst = Signature.candidates p c.functionStart
      ∧ AllMeet w c p (Session.afterAll earlier .fresh) told
      ∧ g.text = Emission.header p.name (fileImports c p told)
        ++ String.join ((written c told).map Prod.snd)
      ∧ ∀ d map output struct b, (d, .written map output struct b) ∈ told →
        Qualified w (Session.afterAll earlier .fresh) c p told output struct b := by
  have hs := Session.consistent_afterAll earlier
  generalize Session.afterAll earlier .fresh = s at hvalid h hs ⊢
  obtain ⟨p, skipped, told, hp, hdecls, hmeets, -, rfl⟩ := told_of_generate h
  refine ⟨p, told, hp, hdecls, hmeets, text_assemble skipped told, ?_⟩
  intro d map output struct b hd
  have hcandidate : d ∈ Signature.candidates p c.functionStart := by
    rw [← hdecls]
    exact List.mem_map.2 ⟨_, hd, rfl⟩
  exact qualified_of_meets hs (hvalid p hp) hd (List.mem_filter.1 hcandidate).1 (hmeets _ hd)

end Generation

/-! ## A package that is not named as its path suggests -/

namespace Sample

open Session (History afterAll)

/-- A module of two packages. -/
def moduleSurroundings : Surroundings where
  disk := ⟨(Files.Tree.empty.plant ["m", "gen", "a.go"] (.file (.text (Emission.unlines
      ["package gen", "import \"m/go-models\"",
       "func MapToBook(m map[string]any) *models.Book \x7b return nil \x7d"])) false)).plant
    ["m", "go-models", "a.go"] (.file (.text (Emission.unlines
      ["package models", "type Kind int",
       "type Book struct \x7b Kind Kind `json:\"kind\"` \x7d"])) false), []⟩
  provider := ⟨fun path => .ok (if path = "" then
    some { Module.Info.blank with path := "m", dir := some ⟨"/m"⟩ } else none), none⟩
  goroot := none

def mapToBook : Source.FuncDecl :=
  ⟨"MapToBook", [⟨some "m", .map (.name "string") (.name "any")⟩],
    [⟨none, .pointer (.qualified "models" "Book")⟩]⟩

def gen : Package :=
  { Package.bare "gen" "/m/gen" ⟨"/m/gen"⟩ with
    files := [⟨"/m/gen/a.go"⟩]
    imports := [("go-models", "m/go-models")]
    qualifiers := [("m/go-models", "go-models")]
    functions := [mapToBook] }

def modelFields : List Source.Field := [⟨"Kind", .name "Kind", ⟨[("json", "kind")]⟩, false⟩]

def models : Package :=
  { Package.bare "models" "m/go-models" ⟨"/m/go-models"⟩ with
    files := [⟨"/m/go-models/a.go"⟩]
    types := [⟨"Kind", .named (.name "int"), false⟩, ⟨"Book", .struct modelFields, false⟩]
    typeIndex := [("Book", 1), ("Kind", 0)] }

def kindField : FilledField :=
  ⟨"Kind", "kind", "Kind", ⟨.struct, .local "models", "Kind"⟩, false, false,
    .enumeration "go-models.Kind" "cast.ToInt" (some ⟨"m/go-models", "go-models"⟩)⟩

/-- The fate of the function. -/
def bookFate : Generation.Fate :=
  .written ⟨"string", "any", true⟩ ⟨some "models", "Book", true⟩ ⟨models, "Book", modelFields⟩
    ⟨[], [kindField], [], [], []⟩

/-- Both packages are opened. -/
def moduleHistory : History :=
  [(moduleSurroundings, .package "/m/gen"), (moduleSurroundings, .package "m/go-models")]

theorem packages_moduleHistory :
    (afterAll moduleHistory .fresh).packages = [("m/go-models", models), ("/m/gen", gen)] := by
  decide +kernel

section

variable {s : Session} (hs : s.packages = [("m/go-models", models), ("/m/gen", gen)])

include hs

theorem openFile_gen :
    (Session.openFile moduleSurroundings ⟨"/m/gen/a.go"⟩).answer s = .ok gen := by
  cases s
  subst hs
  rfl

theorem openPath_models :
    (Session.openPath moduleSurroundings "m/go-models").answer s = .ok (some models) := by
  cases s
  subst hs
  rfl

/-- The file has the text of the one function behind the header for its imports. -/
theorem generate_gen :
    ∃ g, (Generation.generate moduleSurroundings {} ⟨"/m/gen/a.go"⟩).answer s = .ok g
      ∧ g.text = Emission.header "gen" (Generation.fileImports {} gen [(mapToBook, bookFate)])
        ++ String.join ((Generation.written {} [(mapToBook, bookFate)]).map Prod.snd) := by
  cases s
  subst hs
  exact ⟨_, rfl, rfl⟩

theorem meets_bookFate :
    Generation.Meets moduleSurroundings {} gen s mapToBook bookFate := by
  cases s
  subst hs
  exact .written rfl rfl rfl

theorem imports_gen {o : Package} (h : gen.Imports moduleSurroundings s o) : o = models := by
  obtain ⟨path, hpath, hopen⟩ := h
  obtain rfl : path = "m/go-models" := by simpa [gen] using hpath
  rw [openPath_models hs] at hopen
  exact (Option.some.inj (Except.ok.inj hopen)).symm

theorem validNames_gen : ValidNames moduleSurroundings s gen where
  results := by
    intro d hd r hr q n hqualified
    obtain rfl : d = mapToBook := by simpa [gen] using hd
    obtain rfl : r = ⟨none, .pointer (.qualified "models" "Book")⟩ := by
      simpa [mapToBook] using hr
    obtain ⟨rfl, -⟩ := Source.TypeExpr.qualified.inj hqualified
    decide
  aliases := by
    intro path q hq
    left
    obtain ⟨rfl, rfl⟩ : path = "m/go-models" ∧ q = "go-models" := by
      simpa [gen] using Table.mem_of_lookup hq
    decide
  others := by
    intro o ho
    rw [imports_gen hs ho]
    decide
  direct := by
    intro o ho
    rw [imports_gen hs ho]
    decide
  indirect := by
    rintro o o' ho ⟨path, hpath, -⟩
    rw [imports_gen hs ho] at hpath
    cases hpath

end

end Sample

namespace Generation

open Sample (moduleSurroundings moduleHistory)

theorem generate_binds_qualifiers_book :
    ∃ g told, (generate moduleSurroundings {} ⟨"/m/gen/a.go"⟩).answer
        (Session.afterAll moduleHistory .fresh) = .ok g
      ∧ told.map Prod.fst = [Sample.mapToBook]
      ∧ AllMeet moduleSurroundings {} Sample.gen (Session.afterAll moduleHistory .fresh) told
      ∧ g.text = Emission.header "gen" (fileImports {} Sample.gen told)
        ++ String.join ((written {} told).map Prod.snd)
      ∧ ∀ d map output struct b, (d, .written map output struct b) ∈ told →
        Qualified moduleSurroundings (Session.afterAll moduleHistory .fresh) {} Sample.gen told
          output struct b := by
  have hpackages := Sample.packages_moduleHistory
  obtain ⟨g, hg, -⟩ := Sample.generate_gen hpackages
  have hvalid : ∀ p, (Session.openFile moduleSurroundings ⟨"/m/gen/a.go"⟩).answer
      (Session.afterAll moduleHistory .fresh) = .ok p →
      ValidNames moduleSurroundings (Session.afterAll moduleHistory .fresh) p := by
    intro p hp
    rw [Sample.openFile_gen hpackages] at hp
    obtain rfl := Except.ok.inj hp
    exact Sample.validNames_gen hpackages
  obtain ⟨p, told, hp, hdecls, hmeets, htext, hqualified⟩ :=
    generate_binds_qualifiers moduleHistory hvalid hg
  rw [Sample.openFile_gen hpackages] at hp
  obtain rfl := Except.ok.inj hp
  exact ⟨g, told, hg, hdecls, hmeets, htext, hqualified⟩

/-- The path suggests `go-models` for a package that is called `models`, and no import of the
package has another name. The cast takes the suggestion for its qualifier, which is no identifier,
and which no line of the header binds to the package. -/
theorem not_bound_go_models :
    (Session.openFile moduleSurroundings ⟨"/m/gen/a.go"⟩).answer
        (Session.afterAll moduleHistory .fresh) = .ok Sample.gen
      ∧ ValidNames moduleSurroundings (Session.afterAll moduleHistory .fresh) Sample.gen
      ∧ (∃ g, (generate moduleSurroundings {} ⟨"/m/gen/a.go"⟩).answer
          (Session.afterAll moduleHistory .fresh) = .ok g
        ∧ g.text = Emission.header "gen"
            (fileImports {} Sample.gen [(Sample.mapToBook, Sample.bookFate)])
          ++ String.join ((written {} [(Sample.mapToBook, Sample.bookFate)]).map Prod.snd))
      ∧ Signature.candidates Sample.gen "MapTo" = [Sample.mapToBook]
      ∧ Meets moduleSurroundings {} Sample.gen (Session.afterAll moduleHistory .fresh)
        Sample.mapToBook Sample.bookFate
      ∧ Emission.importLines (fileImports {} Sample.gen [(Sample.mapToBook, Sample.bookFate)])
        = ["", "import (", "\t\"github.com/spf13/cast\"", "\t\"m/go-models\"",
          "\tmodels \"m/go-models\"", ")"]
      ∧ Sample.kindField.strategy = .enumeration "go-models.Kind" "cast.ToInt"
        (some ⟨"m/go-models", "go-models"⟩)
      ∧ ¬ IsIdentifier "go-models"
      ∧ ∀ line ∈ Emission.importLines
          (fileImports {} Sample.gen [(Sample.mapToBook, Sample.bookFate)]),
        ¬ Binds moduleSurroundings (Session.afterAll moduleHistory .fresh) line "go-models"
          Sample.models := by
  have hpackages := Sample.packages_moduleHistory
  refine ⟨Sample.openFile_gen hpackages, Sample.validNames_gen hpackages,
    Sample.generate_gen hpackages, by decide, Sample.meets_bookFate hpackages,
    by decide, rfl, by decide, ?_⟩
  rintro line hline ⟨name?, path, hread, -, hbound⟩
  -- The header has two names for packages, and neither is the qualifier.
  have himports : (Emission.importLines
      (fileImports {} Sample.gen [(Sample.mapToBook, Sample.bookFate)])).filterMap
        Emission.importOf?
      = [(none, "github.com/spf13/cast"), (none, "m/go-models"),
        (some "models", "m/go-models")] := by
    decide
  have hmem := List.mem_filterMap.2 ⟨line, hline, hread⟩
  rw [himports] at hmem
  simp only [List.mem_cons, Prod.mk.injEq, List.not_mem_nil, or_false] at hmem
  obtain ⟨rfl, -⟩ | ⟨rfl, -⟩ | ⟨rfl, -⟩ := hmem <;> exact absurd hbound (by decide)

end Generation
end StructFill
