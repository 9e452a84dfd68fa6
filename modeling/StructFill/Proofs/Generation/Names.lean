import StructFill.Proofs.Generation.Qualifiers
import StructFill.Proofs.Package.Tables

/-! # Names in the header

  The imports of a file are put together function by function and field by
  field, and each of them brings a name along that was chosen without regard to
  the others. The file is one scope, so that a name for two packages is an
  error in it.

  Output types never get into each other's way, since a name leads to one
  package. All other pairs of imports can: there are three ways, and `Clash`
  lists them.
-/

namespace StructFill

open Source (IsIdentifier)
open Session (Run Consistent Genuine)

variable {w : Surroundings} {s : Session}

namespace Emission

/-! ## Lines -/

/-- A line of the header gives the local name `q` to an import path: it writes the name, or leaves
it to the path to suggest it. -/
def Names (line q path : String) : Prop :=
  ∃ name?, importOf? line = some (name?, path) ∧ name?.getD (Package.defaultName path) = q

/-- Two lines of the header give one local name to different import paths. -/
def Ambiguous (lines : List String) (q : String) : Prop :=
  ∃ l₁ ∈ lines, ∃ l₂ ∈ lines, ∃ path₁ path₂, Names l₁ q path₁ ∧ Names l₂ q path₂ ∧ path₁ ≠ path₂

/-- The lines of a header give the names of its imports. -/
theorem names_iff {is : List PackageImport} {q path : String} (hq : IsIdentifier q) :
    (∃ line ∈ importLines is, Names line q path) ↔ ∃ i ∈ is, i.name = q ∧ i.path = path := by
  constructor
  · rintro ⟨line, hline, name?, hread, hname⟩
    obtain ⟨i, hi, rfl, rfl⟩ := exists_of_importOf? hline hread
    exact ⟨i, hi, (getD_writtenName? i).symm.trans hname, rfl⟩
  · rintro ⟨i, hi, rfl, rfl⟩
    obtain ⟨line, hline, hread⟩ := exists_importOf? hi hq
    exact ⟨line, hline, _, hread, getD_writtenName? i⟩

/-- A header is ambiguous where two of its imports have one name. -/
theorem ambiguous_iff {is : List PackageImport} {q : String} (hq : IsIdentifier q) :
    Ambiguous (importLines is) q ↔
      ∃ i ∈ is, ∃ j ∈ is, i.name = q ∧ j.name = q ∧ i.path ≠ j.path := by
  constructor
  · rintro ⟨l₁, hl₁, l₂, hl₂, path₁, path₂, hnames₁, hnames₂, hne⟩
    obtain ⟨i, hi, hiq, rfl⟩ := (names_iff hq).1 ⟨l₁, hl₁, hnames₁⟩
    obtain ⟨j, hj, hjq, rfl⟩ := (names_iff hq).1 ⟨l₂, hl₂, hnames₂⟩
    exact ⟨i, hi, j, hj, hiq, hjq, hne⟩
  · rintro ⟨i, hi, j, hj, hiq, hjq, hne⟩
    obtain ⟨l₁, hl₁, hnames₁⟩ := (names_iff hq).2 ⟨i, hi, hiq, rfl⟩
    obtain ⟨l₂, hl₂, hnames₂⟩ := (names_iff hq).2 ⟨j, hj, hjq, rfl⟩
    exact ⟨l₁, hl₁, l₂, hl₂, _, _, hnames₁, hnames₂, hne⟩

end Emission

namespace Generation

variable {c : Config} {p : Package} {told : Told} {i j : PackageImport}

/-! ## What packages are imported for -/

/-- A function of the file casts to a type of the package `o`, which has another directory. -/
inductive Casts (w : Surroundings) (s : Session) (p : Package) (told : Told) (o : Package) : Prop
    where
  | field {d map output struct b e} (hd : (d, .written map output struct b) ∈ told)
    (he : e ∈ b.enumerations)
    (howner : (Enumeration.owner w e.descriptor struct.owner).answer s = .ok (some o))
    (hother : o.dir.same p.dir = false)

/-- An import of a file, by what it is there for. -/
inductive Use (w : Surroundings) (s : Session) (c : Config) (p : Package) (told : Told) :
    PackageImport → Prop where
  /-- The helpers that convert values. -/
  | helper : Use w s c p told (conversionImport c)
  /-- An output type, under the qualifier of the result. -/
  | output {o q} (hopen : (Session.openImport w p q).answer s = .ok (some o)) :
    Use w s c p told ⟨o.importPath, q⟩
  /-- The type of a cast, under the name that the sources have for its package, if any. -/
  | cast {o} (hcasts : Casts w s p told o) :
    Use w s c p told ⟨o.importPath, (p.qualifierFor? o.importPath).getD o.name⟩

theorem castName_eq_some {n : String} {o : Package}
    (h : (Classification.castName n o p).2 = some i) :
    o.dir.same p.dir = false ∧ i = ⟨o.importPath, (p.qualifierFor? o.importPath).getD o.name⟩ := by
  unfold Classification.castName at h
  split at h
  · cases h
  next hother => exact ⟨by simpa using hother, (Option.some.inj h).symm⟩

/-- The cast imports of a function are those of the packages of its casts. -/
theorem casts_of_mem_castImports {d : Source.FuncDecl} {map : MapParam} {output : Output}
    {struct : OutputStruct} {b : Buckets} (hd : (d, .written map output struct b) ∈ told)
    (hmeets : Meets w c p s d (.written map output struct b)) (hi : i ∈ b.castImports) :
    ∃ o, Casts w s p told o
      ∧ i = ⟨o.importPath, (p.qualifierFor? o.importPath).getD o.name⟩ := by
  rw [Buckets.castImports, PackageImport.mem_ordered] at hi
  obtain ⟨e, he, himport⟩ := List.mem_filterMap.1 hi
  cases hmeets with
  | written hshape hlocate hclassify =>
    obtain ⟨o, base, howner, hstrategy⟩ := Classification.cast_of_classify hclassify he
    rw [hstrategy] at himport
    obtain ⟨hother, rfl⟩ := castName_eq_some himport
    exact ⟨o, .field hd he howner hother, rfl⟩

/-- Each import of a file has a use. -/
theorem use_of_mem_fileImports (hmeets : AllMeet w c p s told) (hi : i ∈ fileImports c p told) :
    Use w s c p told i := by
  obtain ⟨d, map, output, struct, b, hd, hi⟩ := mem_fileImports_iff.1 hi
  have hfate := hmeets _ hd
  rcases hi with ⟨-, rfl⟩ | hi | hi
  · exact .helper
  · cases hfate with
    | written hshape hlocate hclassify =>
      have howner := owner_of_locate hlocate
      unfold outputImports at hi
      cases hpackage : output.package with
      | none =>
        rw [hpackage] at hi
        cases hi
      | some q =>
        rw [hpackage] at hi howner
        dsimp only at hi
        -- Nothing is imported for an output of the directory of the package itself.
        split at hi
        · cases hi
        · obtain rfl := List.mem_singleton.1 hi
          exact .output howner
  · obtain ⟨o, hcasts, rfl⟩ := casts_of_mem_castImports hd hfate hi
    exact .cast hcasts

/-- A package with casts is imported. -/
theorem mem_fileImports_of_casts {o : Package} (hmeets : AllMeet w c p s told)
    (h : Casts w s p told o) :
    ⟨o.importPath, (p.qualifierFor? o.importPath).getD o.name⟩ ∈ fileImports c p told := by
  cases h with
  | field hd he howner hother =>
    have hfate := hmeets _ hd
    cases hfate with
    | written hshape hlocate hclassify =>
      obtain ⟨o', base, howner', hstrategy⟩ := Classification.cast_of_classify hclassify he
      obtain rfl := Option.some.inj (Except.ok.inj (howner.symm.trans howner'))
      refine mem_fileImports hd (.inr ?_)
      rw [Buckets.castImports, PackageImport.mem_ordered, List.mem_filterMap]
      refine ⟨_, he, ?_⟩
      rw [hstrategy]
      simp [Classification.castName, hother]

/-! ## One name for two packages -/

/-- The ways in which a file has the name `q` for two packages. -/
inductive Clash (w : Surroundings) (s : Session) (c : Config) (p : Package) (told : Told)
    (q : String) : Prop where
  /-- The package of the conversion helpers has the name of another one. -/
  | helper {i : PackageImport} (hhelper : conversionImport c ∈ fileImports c p told)
    (hi : i ∈ fileImports c p told) (hpath : i.path ≠ (conversionImport c).path)
    (hown : (conversionImport c).name = q) (hname : i.name = q) : Clash w s c p told q
  /-- The sources themselves have the name for two packages. -/
  | shared {i j : PackageImport} (hi : i ∈ fileImports c p told) (hj : j ∈ fileImports c p told)
    (hpath : i.path ≠ j.path) (hiq : i.name = q) (hjq : j.name = q)
    (hcalled : p.qualifierFor? i.path = some q)
    (hbound : p.qualifierFor? j.path = some q ∨ p.importPathOf? q = some j.path) :
    Clash w s c p told q
  /-- A package that the sources do not import is named for a cast as it names itself, and that is
  the name of another import. -/
  | stranger {o : Package} {i : PackageImport} (hcasts : Casts w s p told o)
    (hnone : p.qualifierFor? o.importPath = none) (hi : i ∈ fileImports c p told)
    (hpath : i.path ≠ o.importPath) (hdeclared : o.name = q) (hname : i.name = q) :
    Clash w s c p told q

/-- A name that is bound leads to the package of its path. -/
theorem importPathOf?_of_openImport {q : String} {o : Package} (hs : Consistent s)
    (hbound : (p.importPathOf? q).isSome)
    (hopen : (Session.openImport w p q).answer s = .ok (some o)) :
    p.importPathOf? q = some o.importPath := by
  obtain ⟨path, hpath⟩ := Option.isSome_iff_exists.1 hbound
  rw [Session.openImport, hpath] at hopen
  rw [hpath, Session.importPath_of_answer hs hopen]

section

variable (hs : Consistent s) (hmeets : AllMeet w c p s told)
  (hkeyed : ∀ path q, p.qualifierFor? path = some q → (p.importPathOf? q).isSome)
include hs hmeets hkeyed

/-- A cast that has the name of another import clashes with it. -/
theorem clash_of_cast {o : Package} {q : String} (hcasts : Casts w s p told o)
    (hname : (p.qualifierFor? o.importPath).getD o.name = q) (hj : j ∈ fileImports c p told)
    (hjq : j.name = q) (hpath : o.importPath ≠ j.path) : Clash w s c p told q := by
  have hi := mem_fileImports_of_casts hmeets hcasts
  rw [hname] at hi
  cases hqualifier : p.qualifierFor? o.importPath with
  | none =>
    rw [hqualifier] at hname
    exact .stranger hcasts hqualifier hj hpath.symm hname hjq
  | some q' =>
    rw [hqualifier] at hname
    obtain rfl : q' = q := hname
    -- The sources call the package of the cast so. What they call the other one depends on what
    -- it is there for.
    cases use_of_mem_fileImports hmeets hj with
    | helper => exact .helper hj hi hpath hjq rfl
    | output hopen =>
      obtain rfl : _ = q' := hjq
      have hbound := importPathOf?_of_openImport hs (hkeyed _ _ hqualifier) hopen
      exact .shared hi hj hpath rfl rfl hqualifier (.inr hbound)
    | @cast o' hcasts' =>
      cases hqualifier' : p.qualifierFor? o'.importPath with
      | none =>
        have hdeclared : o'.name = q' := by simpa [hqualifier'] using hjq
        exact .stranger hcasts' hqualifier' hi hpath hdeclared rfl
      | some q'' =>
        obtain rfl : q'' = q' := by simpa [hqualifier'] using hjq
        exact .shared hi hj hpath rfl hjq hqualifier (.inl hqualifier')

/-- Two imports with one name clash. -/
theorem clash_of_names {q : String} (hi : i ∈ fileImports c p told) (hj : j ∈ fileImports c p told)
    (hiq : i.name = q) (hjq : j.name = q) (hpath : i.path ≠ j.path) : Clash w s c p told q := by
  cases use_of_mem_fileImports hmeets hi with
  | helper => exact .helper hi hj hpath.symm hiq hjq
  | cast hcasts => exact clash_of_cast hs hmeets hkeyed hcasts hiq hj hjq hpath
  | @output o q hopen =>
    obtain rfl : q = _ := hiq
    cases use_of_mem_fileImports hmeets hj with
    | helper => exact .helper hj hi hpath hjq rfl
    | cast hcasts => exact clash_of_cast hs hmeets hkeyed hcasts hjq hi rfl hpath.symm
    | @output o' q' hopen' =>
      -- One name leads to one package.
      obtain rfl : q' = q := hjq
      obtain rfl := Option.some.inj (Except.ok.inj (hopen.symm.trans hopen'))
      exact absurd rfl hpath

/-- The header of a file is ambiguous exactly in the three ways of `Clash`. -/
theorem ambiguous_iff_clash {q : String} (hq : IsIdentifier q) :
    Emission.Ambiguous (Emission.importLines (fileImports c p told)) q ↔ Clash w s c p told q := by
  rw [Emission.ambiguous_iff hq]
  constructor
  · rintro ⟨i, hi, j, hj, hiq, hjq, hpath⟩
    exact clash_of_names hs hmeets hkeyed hi hj hiq hjq hpath
  · intro hclash
    cases hclash with
    | helper hhelper hi hpath hown hname => exact ⟨_, hi, _, hhelper, hname, hown, hpath⟩
    | shared hi hj hpath hiq hjq _ _ => exact ⟨_, hi, _, hj, hiq, hjq, hpath⟩
    | @stranger o i hcasts hnone hi hpath hdeclared hname =>
      have hcast := mem_fileImports_of_casts hmeets hcasts
      rw [hnone, Option.getD_none, hdeclared] at hcast
      exact ⟨_, hi, _, hcast, hname, rfl, hpath⟩

end

theorem openPath_of_openFile {input : Path} (h : (Session.openFile w input).answer s = .ok p) :
    ∃ path, (Session.openPath w path).answer s = .ok (some p) := by
  unfold Session.openFile at h
  split at h
  · cases h
  next dir _ =>
    obtain ⟨p?, hopen, h⟩ := Run.answer_bind_eq_ok.1 h
    cases p? with
    | none => cases h
    | some p' =>
      obtain rfl := Except.ok.inj h
      exact ⟨_, hopen⟩

/-- **Names in the header.** In a file that is generated in whatever session, no identifier stands
for two import paths, unless the conversion helpers have the name of another package, the sources
have one name for two packages, or a cast needs a package that they do not import and that has the
name of another one. -/
theorem generate_names (earlier : Session.History) {input : Path} {g : Generated}
    (h : (generate w c input).answer (Session.afterAll earlier .fresh) = .ok g) :
    ∃ p told, (Session.openFile w input).answer (Session.afterAll earlier .fresh) = .ok p
      ∧ told.map Prod.fst = Signature.candidates p c.functionStart
      ∧ AllMeet w c p (Session.afterAll earlier .fresh) told
      ∧ g.text = Emission.header p.name (fileImports c p told)
        ++ String.join ((written c told).map Prod.snd)
      ∧ ∀ q, IsIdentifier q → (Emission.Ambiguous (Emission.importLines (fileImports c p told)) q
        ↔ Clash w (Session.afterAll earlier .fresh) c p told q) := by
  have hs := Session.consistent_afterAll earlier
  have hgenuine := Session.genuine_afterAll earlier
  generalize Session.afterAll earlier .fresh = s at h hs hgenuine ⊢
  obtain ⟨p, skipped, told, hp, hdecls, hmeets, -, rfl⟩ := told_of_generate h
  refine ⟨p, told, hp, hdecls, hmeets, text_assemble skipped told, ?_⟩
  intro q hq
  obtain ⟨path, hopen⟩ := openPath_of_openFile hp
  obtain ⟨v, dir, hread⟩ := Session.exists_read_of_answer hgenuine hopen
  let := v.recovery
  exact ambiguous_iff_clash hs hmeets (fun path q => Package.importPathOf?_isSome hread) hq

end Generation

/-! ## Two packages that declare one name -/

namespace Sample

/-- A package whose output type has a field of a type from another package of its own name. -/
def namesakeSurroundings : Surroundings where
  disk := ⟨((Files.Tree.empty.plant ["m", "gen", "a.go"] (.file (.text (Emission.unlines
      ["package gen", "import \"m/model\"",
       "func MapToBook(m map[string]any) *model.Book \x7b return nil \x7d"])) false)).plant
    ["m", "model", "a.go"] (.file (.text (Emission.unlines
      ["package model", "import v1 \"m/v1/model\"",
       "type Book struct \x7b Kind v1.Kind `json:\"kind\"` \x7d"])) false)).plant
    ["m", "v1", "model", "a.go"] (.file (.text (Emission.unlines
      ["package model", "type Kind int"])) false), []⟩
  provider := ⟨fun path => .ok (if path = "" then
    some { Module.Info.blank with path := "m", dir := some ⟨"/m"⟩ } else none), none⟩
  goroot := none

/-- The imports of the file that is generated. -/
def namesakeImports : List PackageImport :=
  [⟨"github.com/spf13/cast", "cast"⟩, ⟨"m/model", "model"⟩, ⟨"m/v1/model", "model"⟩]

def namesakeField : FilledField :=
  ⟨"Kind", "kind", "v1.Kind", ⟨.struct, .imported "v1", "Kind"⟩, false, false,
    .enumeration "model.Kind" "cast.ToInt" (some ⟨"m/v1/model", "model"⟩)⟩

def namesakeFile : Generated where
  package := "gen"
  text := Emission.header "gen" namesakeImports
    ++ Emission.function ⟨"genMapToBook", "src", "map[string]any", "model.Book",
      ⟨[], [namesakeField], [], [], []⟩⟩
  report := ⟨["genMapToBook"], []⟩

theorem generate_namesakes :
    (Generation.generate namesakeSurroundings {} ⟨"/m/gen/a.go"⟩).answer
      (Session.afterAll [] .fresh) = .ok namesakeFile := by
  decide +kernel

end Sample

namespace Generation

open Sample (namesakeSurroundings)

/-- Which of the two packages `model` stands for cannot be said, and this is a clash. -/
theorem generate_names_model :
    ∃ p told, (generate namesakeSurroundings {} ⟨"/m/gen/a.go"⟩).answer
        (Session.afterAll [] .fresh) = .ok Sample.namesakeFile
      ∧ AllMeet namesakeSurroundings {} p (Session.afterAll [] .fresh) told
      ∧ (Emission.Ambiguous (Emission.importLines (fileImports {} p told)) "model"
        ↔ Clash namesakeSurroundings (Session.afterAll [] .fresh) {} p told "model") := by
  obtain ⟨p, told, -, -, hmeets, -, hiff⟩ := generate_names [] Sample.generate_namesakes
  exact ⟨p, told, Sample.generate_namesakes, hmeets, hiff "model" (by decide)⟩

/-- The package of the output and that of a cast declare one name, under which both are imported. -/
theorem ambiguous_model :
    ({} : Config).Valid
      ∧ (generate namesakeSurroundings {} ⟨"/m/gen/a.go"⟩).answer (Session.afterAll [] .fresh)
        = .ok Sample.namesakeFile
      ∧ (∃ functions, Sample.namesakeFile.text
        = Emission.header "gen" Sample.namesakeImports ++ functions)
      ∧ Emission.Ambiguous (Emission.importLines Sample.namesakeImports) "model" := by
  refine ⟨Config.valid_default, Sample.generate_namesakes, ⟨_, rfl⟩, ?_⟩
  rw [Emission.ambiguous_iff (by decide)]
  exact ⟨⟨"m/model", "model"⟩, by decide, ⟨"m/v1/model", "model"⟩, by decide, rfl, rfl, by decide⟩

end Generation
end StructFill
