import StructFill.Proofs.Generation.Regeneration

/-! # Functions are generated independently

  All functions of a package share one session, one list of imports and one
  report, and packages are opened in the order in which functions happen to
  need them. None of this shows in the result: it is the merge of the results
  that each function would have alone.

  **Alone.** A function is alone in a package that is the same except for its
  functions, and has no other conversion function. A run for such a package may
  take place in the same session, or anywhere else where the imports lead to
  the same packages.
-/

namespace StructFill

open Session (Run)
open Source (FileDecls FuncDecl)

variable {w w' : Surroundings} {s s' : Session} {c : Config} {p p' : Package}

/-! ## The order of imports -/

namespace PackageImport

/-- The path comes first, and then the name. -/
def Before (a b : PackageImport) : Prop := a.path < b.path ∨ a.path = b.path ∧ a.name < b.name

variable {a b e : PackageImport} {is : List PackageImport}

theorem Before.trans (h : a.Before b) (h' : b.Before e) : a.Before e := by
  rcases h with h | ⟨hpath, h⟩ <;> rcases h' with h' | ⟨hpath', h'⟩
  · exact .inl (String.lt_trans h h')
  · exact .inl (hpath' ▸ h)
  · exact .inl (hpath ▸ h')
  · exact .inr ⟨hpath.trans hpath', String.lt_trans h h'⟩

theorem before_of_le (h : a.le b = true) (hne : a ≠ b) : a.Before b := by
  unfold le at h
  split at h
  next hpath =>
    refine .inr ⟨hpath, Std.lt_of_le_of_ne (of_decide_eq_true h) fun hname => hne ?_⟩
    rw [PackageImport.mk.injEq]
    exact ⟨hpath, hname⟩
  next => exact .inl (of_decide_eq_true h)

theorem before_of_not_le (h : ¬ a.le b = true) : b.Before a := by
  unfold le at h
  split at h
  next hpath => exact .inr ⟨hpath.symm, String.not_le.1 (by simpa using h)⟩
  next hpath =>
    refine .inl (Std.lt_of_le_of_ne (String.not_lt.1 (by simpa using h)) ?_)
    exact fun heq => hpath heq.symm

theorem pairwise_insert (a : PackageImport) (h : is.Pairwise Before) :
    (insert a is).Pairwise Before := by
  induction is with
  | nil => exact List.pairwise_singleton _ _
  | cons b rest ih =>
    obtain ⟨hfirst, hrest⟩ := List.pairwise_cons.1 h
    rw [insert]
    -- The import is there already, belongs in front, or is inserted further on.
    split
    · exact h
    next hne =>
      split
      next hle =>
        have hbefore := before_of_le hle hne
        refine List.pairwise_cons.2 ⟨?_, h⟩
        intro i hi
        rcases List.mem_cons.1 hi with rfl | hi
        · exact hbefore
        · exact hbefore.trans (hfirst i hi)
      next hle =>
        refine List.pairwise_cons.2 ⟨?_, ih hrest⟩
        intro i hi
        rcases mem_insert.1 hi with rfl | hi
        · exact before_of_not_le hle
        · exact hfirst i hi

/-- The imports of a list stand in order, and each of them once. -/
theorem pairwise_ordered (is : List PackageImport) : (ordered is).Pairwise Before := by
  induction is with
  | nil => exact .nil
  | cons a rest ih => exact pairwise_insert a ih

end PackageImport

/-! ## What is merged -/

/-- The functions that were passed over. -/
def Report.passedOver (r : Report) : List Diagnostic :=
  r.diagnostics.filter fun x => x.kind = .unsupportedSignature

/-- All other diagnostics. -/
def Report.others (r : Report) : List Diagnostic :=
  r.diagnostics.filter fun x => x.kind ≠ .unsupportedSignature

namespace Generation

variable {told : Told} {d : FuncDecl} {fate : Fate}

/-- The imports and the functions of a generated file. -/
structure Contents where
  imports : List PackageImport
  plans : List Emission.Plan

/-- The result is a file of the package with these contents. -/
structure Contents.Of (f : Contents) (package : String) (g : Generated) : Prop where
  name : g.package = package
  text : g.text
    = Emission.header package f.imports ++ String.join (f.plans.map Emission.function)
  generated : g.report.generated = f.plans.map (·.name)
  /-- The imports stand in order, and each of them once. -/
  ordered : f.imports.Pairwise PackageImport.Before

/-- A result is put together from others. -/
structure Merges (package : String) (g : Generated) (gs : List Generated) : Prop where
  /-- The functions follow one another, and what one of them imports is imported. -/
  contents : ∃ (f : Contents) (fs : List Contents), f.Of package g
    ∧ List.Forall₂ (fun f' g' => f'.Of package g') fs gs
    ∧ f.plans = fs.flatMap (·.plans) ∧ ∀ i, i ∈ f.imports ↔ ∃ f' ∈ fs, i ∈ f'.imports
  generated : g.report.generated = gs.flatMap (·.report.generated)
  /-- What was passed over is reported before all else. -/
  diagnostics : g.report.diagnostics
    = gs.flatMap (·.report.passedOver) ++ gs.flatMap (·.report.others)

/-! ## The contents of a result -/

/-- The function that is written. -/
def Fate.plan? (c : Config) (name : String) : Fate → Option Emission.Plan
  | .written map output _ b =>
    some ⟨c.generatedStart ++ name, c.paramName, map.typeText, output.qualifiedName, b⟩
  | _ => none

theorem Fate.function?_eq (c : Config) (name : String) (fate : Fate) :
    fate.function? c name
      = (fate.plan? c name).map fun plan => (plan.name, Emission.function plan) := by
  cases fate <;> rfl

/-- What a file has that is made of these fates. -/
def contents (c : Config) (p : Package) (told : Told) : Contents :=
  ⟨fileImports c p told, told.filterMap fun df => df.2.plan? c df.1.name⟩

theorem written_eq_map_plans (c : Config) (p : Package) (told : Told) :
    written c told
      = (contents c p told).plans.map fun plan => (plan.name, Emission.function plan) := by
  simp only [written, contents, List.map_filterMap, Fate.function?_eq]

theorem diagnostics_result (c : Config) (p : Package) (told : Told) :
    (result c p told).report.diagnostics = told.flatMap (fun df => df.2.early df.1.name)
      ++ told.flatMap (fun df => df.2.late df.1.name) := by
  simp only [result, assemble, flatMap_piece_diagnostics, List.filterMap_nil, List.nil_append]

theorem contents_of_result (c : Config) (p : Package) (told : Told) :
    (contents c p told).Of p.name (result c p told) where
  name := rfl
  text := by
    simp only [result, assemble, filterMap_piece_function, written_eq_map_plans c p, List.map_map]
    rfl
  generated := by
    simp only [result, assemble, filterMap_piece_function, written_eq_map_plans c p, List.map_map]
    rfl
  ordered := PackageImport.pairwise_ordered _

/-- Only functions that were passed over are reported early. -/
theorem kind_early {x : Diagnostic} {name : String} (hx : x ∈ fate.early name) :
    x.kind = .unsupportedSignature := by
  cases fate with
  | skipped reason =>
    obtain rfl := List.mem_singleton.1 hx
    rfl
  | missing _ | written _ _ _ _ => cases hx

theorem kind_late {x : Diagnostic} {name : String} (hx : x ∈ fate.late name) :
    x.kind ≠ .unsupportedSignature := by
  cases fate with
  | skipped _ => cases hx
  | missing e =>
    obtain rfl := List.mem_singleton.1 hx
    cases e.isParse <;> simp
  | written map output struct b =>
    -- What is reported of a field has a field, and what is passed over has none.
    obtain ⟨htells, hfield⟩ := tells_fieldDiagnostics hx
    exact fun hkind => hfield (htells.field.2 (.inl hkind))

/-- The two parts of the report of one function. -/
theorem report_single (c : Config) (p : Package) (df : FuncDecl × Fate) :
    (result c p [df]).report.passedOver = df.2.early df.1.name
      ∧ (result c p [df]).report.others = df.2.late df.1.name := by
  have hearly : ∀ x ∈ df.2.early df.1.name, x.kind = .unsupportedSignature := fun x => kind_early
  have hlate : ∀ x ∈ df.2.late df.1.name, x.kind ≠ .unsupportedSignature := fun x => kind_late
  simp only [Report.passedOver, Report.others, diagnostics_result, List.flatMap_singleton,
    List.filter_append]
  constructor
  · rw [List.filter_eq_self.2 (by simpa using hearly), List.filter_eq_nil_iff.2 (by simpa using hlate),
      List.append_nil]
  · rw [List.filter_eq_nil_iff.2 (by simpa using hearly), List.filter_eq_self.2 (by simpa using hlate),
      List.nil_append]

theorem mem_fileImports_iff_single {i : PackageImport} :
    i ∈ fileImports c p told ↔ ∃ df ∈ told, i ∈ fileImports c p [df] := by
  simp only [fileImports, PackageImport.mem_ordered, List.mem_flatMap, List.mem_filterMap,
    List.mem_singleton]
  constructor
  · rintro ⟨piece, ⟨df, hdf, hpiece⟩, hi⟩
    exact ⟨df, hdf, piece, ⟨df, rfl, hpiece⟩, hi⟩
  · rintro ⟨df, hdf, piece, ⟨_, rfl, hpiece⟩, hi⟩
    exact ⟨piece, ⟨_, hdf, hpiece⟩, hi⟩

/-- The result for several functions is the merge of the results for each of them. -/
theorem merges_result (c : Config) (p : Package) (told : Told) :
    Merges p.name (result c p told) (told.map fun df => result c p [df]) where
  contents := by
    refine ⟨contents c p told, told.map fun df => contents c p [df], contents_of_result c p told,
      ?_, ?_, ?_⟩
    · rw [List.forall₂_map_left_iff, List.forall₂_map_right_iff, List.forall₂_same]
      exact fun df _ => contents_of_result c p [df]
    · rw [List.flatMap_map, contents, List.filterMap_eq_flatMap_toList]
      refine List.flatMap_congr fun df _ => ?_
      cases hplan : df.2.plan? c df.1.name <;> simp [contents, hplan]
    · intro i
      simp only [contents, List.mem_map, exists_exists_and_eq_and]
      exact mem_fileImports_iff_single
  generated := by
    have hgenerated : ∀ told : Told,
        (result c p told).report.generated = (written c told).map Prod.fst := by
      intro told
      simp only [result, assemble, filterMap_piece_function]
    simp only [hgenerated, List.flatMap_map, written, List.filterMap_eq_flatMap_toList,
      List.map_flatMap, List.flatMap_singleton]
  diagnostics := by
    simp only [List.flatMap_map, report_single]
    exact diagnostics_result c p told

/-! ## Functions alone -/

/-- The package `p'` is `p`, except that `d` is its only conversion function. -/
structure Alone (start : String) (p : Package) (d : FuncDecl) (p' : Package) : Prop where
  same : p' = { p with functions := p'.functions }
  only : Signature.candidates p' start = [d]

/-- The imports of the package `p`, and those of the packages that it imports, lead to the same
packages. -/
def SameImports (w : Surroundings) (s : Session) (p : Package) (w' : Surroundings) (s' : Session) :
    Prop :=
  ∀ o, o = p ∨ p.Imports w s o → ∀ q,
    (Session.openImport w' o q).answer s' = (Session.openImport w o q).answer s

/-- A run for the package `p'` gives `g`, in the session `s` and wherever else the input is that
package and the imports of `p` lead to the same packages. -/
structure Gives (w : Surroundings) (s : Session) (c : Config) (p p' : Package) (g : Generated) :
    Prop where
  here : (ofPackage w c p').answer s = .ok g
  elsewhere : ∀ w' s' input, SameImports w s p w' s' →
    (Session.openFile w' input).answer s' = .ok p' → (generate w' c input).answer s' = .ok g

/-- To a function that is alone in it, the package is what it was. -/
theorem Alone.agrees {start : String} (h : Alone start p d p') (himports : SameImports w s p w' s') :
    Agrees w s p w' s' p' c told := by
  obtain ⟨hsame, -⟩ := h
  generalize p'.functions = functions at hsame
  subst hsame
  exact {
    name := rfl
    dir := rfl
    types := fun _ => rfl
    names := fun _ _ q _ => himports p (.inl rfl) q
    imported := fun _ _ o q ho _ => himports o (.inr ho) q
    callings := fun _ _ => rfl }

/-- A function that is alone meets its fate. -/
theorem Alone.gives (h : Alone c.functionStart p d p') (hmeets : Meets w c p s d fate) :
    Gives w s c p p' (result c p [(d, fate)]) := by
  have hmeets' : AllMeet w c p s [(d, fate)] := by
    intro df hdf
    obtain rfl := List.mem_singleton.1 hdf
    exact hmeets
  have hdecls : [(d, fate)].map Prod.fst = Signature.candidates p' c.functionStart := h.only.symm
  refine ⟨?_, ?_⟩
  · have hagrees : Agrees w s p w s p' c [(d, fate)] := h.agrees fun _ _ _ => rfl
    exact hagrees.ofPackage_eq hdecls hmeets'
  · intro w' s' input himports hp'
    have hagrees : Agrees w s p w' s' p' c [(d, fate)] := h.agrees himports
    exact hagrees.generate_eq hp' hdecls hmeets'

/-- **Functions are generated independently.** A run that succeeds, in whatever session, has the
merge of the results of runs in each of which one of the functions is alone. -/
theorem generate_merges {input : Path} {g : Generated}
    (h : (generate w c input).answer s = .ok g) :
    ∃ p, (Session.openFile w input).answer s = .ok p
      ∧ ∀ singles, List.Forall₂ (Alone c.functionStart p)
          (Signature.candidates p c.functionStart) singles →
        ∃ gs, List.Forall₂ (Gives w s c p) singles gs ∧ Merges p.name g gs := by
  obtain ⟨p, -, told, hp, hdecls, hmeets, -, -⟩ := told_of_generate h
  obtain rfl := Except.ok.inj (h.symm.trans (generate_of_meets hp hdecls hmeets))
  refine ⟨p, hp, fun singles hsingles => ⟨told.map fun df => result c p [df], ?_,
    merges_result c p told⟩⟩
  -- By induction on the functions: each of the runs is one for the fate of its function.
  rw [← hdecls] at hsingles
  clear hdecls hp h
  induction told generalizing singles with
  | nil =>
    cases hsingles
    exact .nil
  | cons df rest ih =>
    obtain ⟨p', singles', halone, hrest, rfl⟩ := List.forall₂_cons_left_iff.1 hsingles
    exact .cons (halone.gives (hmeets df List.mem_cons_self))
      (ih (fun df hdf => hmeets df (List.mem_cons_of_mem _ hdf)) singles' hrest)

end Generation

namespace Sample

/-! ### Two packages of one name -/

def aliasSourceLines : List String :=
  ["package gen", "import (", "\tv1 \"m/v1/model\"", "\t\"m/model\"", ")",
    "func MapToBook(m map[string]any) *model.Book \x7b return nil \x7d",
    "func MapToV1(m map[string]any) *v1.Book \x7b return nil \x7d"]

def modelLines : List String := ["package model", "type Book struct\x7b\x7d"]

/-- One of two packages is imported by the name that its path suggests. The path of the other one
suggests the same name, and that package is imported by another one. -/
def aliasModule : Surroundings := moduleOf
  [(["m", "gen", "gen.go"], aliasSourceLines), (["m", "model", "a.go"], modelLines),
   (["m", "v1", "model", "a.go"], modelLines)]

def mapToModel : FuncDecl :=
  ⟨"MapToBook", [⟨some "m", .map (.name "string") (.name "any")⟩],
    [⟨none, .pointer (.qualified "model" "Book")⟩]⟩

def mapToV1 : FuncDecl :=
  ⟨"MapToV1", [⟨some "m", .map (.name "string") (.name "any")⟩],
    [⟨none, .pointer (.qualified "v1" "Book")⟩]⟩

/-- The sources of the package, as they are read. -/
def aliasSource : Path × FileDecls :=
  (⟨"/m/gen/gen.go"⟩,
    ⟨"gen", [⟨"m/v1/model", some "v1"⟩, ⟨"m/model", none⟩], [], [mapToModel, mapToV1]⟩)

def aliasGen : Package := Package.ofFiles "gen" "/m/gen" ⟨"/m/gen"⟩ [aliasSource]

/-- The declarations of both packages. -/
def modelDecls : FileDecls := ⟨"model", [], [⟨"Book", .struct [], false⟩], []⟩

def aliasModel : Package :=
  Package.ofFiles "model" "m/model" ⟨"/m/model"⟩ [(⟨"/m/model/a.go"⟩, modelDecls)]

def aliasV1 : Package :=
  Package.ofFiles "model" "m/v1/model" ⟨"/m/v1/model"⟩ [(⟨"/m/v1/model/a.go"⟩, modelDecls)]

/-- A struct without fields from the package `owner` is filled. -/
def emptyFate (qualifier : String) (owner : Package) : Generation.Fate :=
  .written ⟨"string", "any", true⟩ ⟨some qualifier, "Book", true⟩ ⟨owner, "Book", []⟩
    ⟨[], [], [], [], []⟩

/-- The file that is generated. -/
def aliasFile : Generated := Generation.result {} aliasGen
  [(mapToModel, emptyFate "model" aliasModel), (mapToV1, emptyFate "v1" aliasV1)]

set_option maxRecDepth 10000 in
theorem declares_aliasSource :
    Package.Declares (Emission.unlines aliasSourceLines) "gen" aliasSource.2 := by
  have hchars := Emission.toList_unlines aliasSourceLines
  simp only [aliasSourceLines, List.flatMap_cons, List.flatMap_nil] at hchars
  repeat rw [String.toList_ofList] at hchars
  exact .of_toList hchars (by decide) (by decide) rfl

theorem declares_model : Package.Declares (Emission.unlines modelLines) "model" modelDecls := by
  have hchars := Emission.toList_unlines modelLines
  simp only [modelLines, List.flatMap_cons, List.flatMap_nil] at hchars
  repeat rw [String.toList_ofList] at hchars
  exact .of_toList hchars (by decide) (by decide) rfl

theorem sources_alias :
    Package.sourceFiles aliasModule.disk ⟨"/m/gen"⟩ = .ok [⟨"/m/gen/gen.go"⟩]
      ∧ Package.sourceFiles aliasModule.disk ⟨"/m/model"⟩ = .ok [⟨"/m/model/a.go"⟩]
      ∧ Package.sourceFiles aliasModule.disk ⟨"/m/v1/model"⟩ = .ok [⟨"/m/v1/model/a.go"⟩] := by
  decide +kernel

theorem openFile_alias :
    (Session.openFile aliasModule ⟨"/m/gen/gen.go"⟩).answer .fresh = .ok aliasGen :=
  Generation.openFile_fresh_iff.2 ⟨⟨"/m/gen"⟩, rfl,
    Package.ofDirectory_of_file rfl sources_alias.1 rfl declares_aliasSource (by decide)⟩

theorem openPath_model :
    (Session.openPath aliasModule "m/model").answer .fresh = .ok (some aliasModel) :=
  Session.openPath_of_read (by decide)
    (Package.ofDirectory_of_file rfl sources_alias.2.1 rfl declares_model (by decide)) rfl

theorem openPath_v1 :
    (Session.openPath aliasModule "m/v1/model").answer .fresh = .ok (some aliasV1) :=
  Session.openPath_of_read (by decide)
    (Package.ofDirectory_of_file rfl sources_alias.2.2 rfl declares_model (by decide)) rfl

theorem meets_alias : Generation.AllMeet aliasModule {} aliasGen .fresh
    [(mapToModel, emptyFate "model" aliasModel), (mapToV1, emptyFate "v1" aliasV1)] := by
  have hmodel : (Signature.locate aliasModule aliasGen "MapToBook" ⟨some "model", "Book", true⟩).answer
      .fresh = .ok ⟨aliasModel, "Book", []⟩ := by
    have himport : aliasGen.importPathOf? "model" = some "m/model" := rfl
    simp only [Signature.locate, Signature.outputOwner, Session.openImport, himport,
      Run.answer_bind, openPath_model, Except.bind]
    rfl
  have hv1 : (Signature.locate aliasModule aliasGen "MapToV1" ⟨some "v1", "Book", true⟩).answer
      .fresh = .ok ⟨aliasV1, "Book", []⟩ := by
    have himport : aliasGen.importPathOf? "v1" = some "m/v1/model" := rfl
    simp only [Signature.locate, Signature.outputOwner, Session.openImport, himport,
      Run.answer_bind, openPath_v1, Except.bind]
    rfl
  intro df hdf
  rcases List.mem_cons.1 hdf with rfl | hdf
  · exact .written rfl hmodel rfl
  · obtain rfl := List.mem_singleton.1 hdf
    exact .written rfl hv1 rfl

theorem generate_alias :
    (Generation.generate aliasModule {} ⟨"/m/gen/gen.go"⟩).answer .fresh = .ok aliasFile :=
  Generation.generate_of_meets openFile_alias rfl meets_alias

end Sample

namespace Generation

theorem generate_merges_alias :
    (generate Sample.aliasModule {} ⟨"/m/gen/gen.go"⟩).answer .fresh = .ok Sample.aliasFile
      ∧ ∃ gs, List.Forall₂ (Gives Sample.aliasModule .fresh {} Sample.aliasGen)
          [{ Sample.aliasGen with functions := [Sample.mapToModel] },
            { Sample.aliasGen with functions := [Sample.mapToV1] }] gs
        ∧ Merges "gen" Sample.aliasFile gs := by
  obtain ⟨p, hp, hmerges⟩ := generate_merges Sample.generate_alias
  obtain rfl := Except.ok.inj (Sample.openFile_alias.symm.trans hp)
  have hcandidates : Signature.candidates Sample.aliasGen ({} : Config).functionStart
      = [Sample.mapToModel, Sample.mapToV1] :=
    rfl
  refine ⟨Sample.generate_alias, hmerges _ ?_⟩
  rw [hcandidates]
  exact .cons ⟨rfl, rfl⟩ (.cons ⟨rfl, rfl⟩ .nil)

end Generation
end StructFill
