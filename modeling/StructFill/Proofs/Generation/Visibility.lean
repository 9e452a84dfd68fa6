import StructFill.Proofs.Generation.Names
import StructFill.Proofs.Generation.Regeneration
import StructFill.Unicode.Case

/-! # What the generated code may name

  From outside its package a name can be used if it is exported, that is, if it
  begins with a capital. And a field that is called by an underscore cannot be
  named at all.

  Generation does not look at any of this. Whether a field is filled depends on
  its type, and whether it is cast, on the declaration of its type. So the
  assigned names are those of the fields with such types, whatever the names
  are, and the generated code keeps to the names that it may use as far as the
  declarations do.
-/

namespace StructFill

open Source (Field)
open Session (Run)

/-! ## Exported names -/

namespace Unicode

/-- Bounds of the capitals without a small form: letters in the shapes of symbols. -/
def symbolCapitalBounds : Bounds :=
  [978, 981, 8450, 8451, 8455, 8456, 8459, 8462, 8464, 8467, 8469, 8470, 8473, 8478, 8484, 8485,
   8488, 8489, 8492, 8494, 8496, 8498, 8499, 8500, 8510, 8512, 8517, 8518, 119808, 119834, 119860,
   119886, 119912, 119938, 119964, 119965, 119966, 119968, 119970, 119971, 119973, 119975, 119977,
   119981, 119982, 119990, 120016, 120042, 120068, 120070, 120071, 120075, 120077, 120085, 120086,
   120093, 120120, 120122, 120123, 120127, 120128, 120133, 120134, 120135, 120138, 120145, 120172,
   120198, 120224, 120250, 120276, 120302, 120328, 120354, 120380, 120406, 120432, 120458, 120488,
   120513, 120546, 120571, 120604, 120629, 120662, 120687, 120720, 120745, 120778, 120779]

/-- The general category *upper-case letter*: a letter that has a small form and is its own capital
form, or one of those without a small form. -/
def isCapital (c : Char) : Bool :=
  isLetter c && (lower c != [c] && upper c == [c] || symbolCapitalBounds.contains c.toNat)

end Unicode

namespace Source

/-- A name that can be used from outside its package. -/
def IsExported (name : String) : Prop := name.toList.head?.any Unicode.isCapital = true

instance (name : String) : Decidable (IsExported name) := inferInstanceAs (Decidable (_ = true))

end Source

/-! ## Structs of other packages -/

/-- A struct is found in the package that the qualifier of the output leads to. -/
theorem Signature.locate_of_openImport {w : Surroundings} {s : Session} {p o : Package}
    {function q n : String} {isPointer : Bool} {d : Source.TypeDecl}
    (hopen : (Session.openImport w p q).answer s = .ok (some o))
    (hstruct : o.findStruct? n = some d) :
    (locate w p function ⟨some q, n, isPointer⟩).answer s
      = .ok ⟨o, d.name, d.fields?.getD []⟩ := by
  have howner : (outputOwner w p function ⟨some q, n, isPointer⟩).answer s = .ok o :=
    Run.answer_bind_eq_ok.2 ⟨some o, hopen, rfl⟩
  refine Run.answer_bind_eq_ok.2 ⟨o, howner, ?_⟩
  rw [hstruct]
  rfl

/-! ## Assigned fields -/

namespace Classification

open Enumeration (DeclaresEnumeration)

variable {w : Surroundings} {style : Naming.Style} {struct : OutputStruct} {map : MapParam}
  {p : Package} {s : Session} {b : Buckets}

/-- A type refers to one declaration at most. -/
theorem Refers.unique {unit o o' : Package} {t : Source.TypeExpr} {n n' : String}
    (h : Refers w s unit t o n) (h' : Refers w s unit t o' n') : o' = o ∧ n' = n := by
  cases h with
  | name _ _ =>
    cases h' with
    | name _ _ => exact ⟨rfl, rfl⟩
  | qualified hopen =>
    cases h' with
    | qualified hopen' =>
      exact ⟨Option.some.inj (Except.ok.inj (hopen'.symm.trans hopen)), rfl⟩

/-- Each assigned field stands for a field of the struct that is filled. -/
theorem field_of_assigned (h : (classify w style struct map p).answer s = .ok b)
    {e : FilledField} (he : e ∈ b.assigned) :
    ∃ f v, f ∈ struct.fields ∧ Fills w s struct.owner map f
      ∧ (fieldVerdict w style struct map p f).answer s = .ok v
      ∧ Describes style struct.owner (f, v) e := by
  obtain ⟨placed, hfields, hjudged, hpartition⟩ := classify_partition h
  obtain ⟨k, hk, he⟩ := Buckets.mem_assigned_iff.1 he
  obtain ⟨⟨f, v⟩, hplaced, hslot, hdescribes⟩ := hpartition.describes_of_mem he
  have hverdict := hjudged _ hplaced
  refine ⟨f, v, ?_, ?_, hverdict, hdescribes⟩
  · rw [← hfields]
    exact List.mem_map.2 ⟨_, hplaced, rfl⟩
  · exact (slot?_of_fieldVerdict hverdict).1.1 ⟨k, hslot, hk⟩

/-- Each field of the struct that is filled has an assigned field that stands for it. -/
theorem assigned_of_field (h : (classify w style struct map p).answer s = .ok b) {f : Field}
    (hf : f ∈ struct.fields) (hfills : Fills w s struct.owner map f) :
    ∃ e v, e ∈ b.assigned ∧ (fieldVerdict w style struct map p f).answer s = .ok v
      ∧ Describes style struct.owner (f, v) e := by
  obtain ⟨placed, hfields, hjudged, hpartition⟩ := classify_partition h
  rw [← hfields] at hf
  obtain ⟨⟨f, v⟩, hplaced, rfl⟩ := List.mem_map.1 hf
  have hverdict := hjudged _ hplaced
  obtain ⟨k, hslot, hk⟩ := (slot?_of_fieldVerdict hverdict).1.2 hfills
  obtain ⟨e, he, hdescribes⟩ := hpartition.exists_describes hplaced hslot
  exact ⟨e, v, Buckets.mem_assigned_iff.2 ⟨k, hk, he⟩, hverdict, hdescribes⟩

/-- The assigned names are those of the fields that are filled. -/
theorem exists_assigned_iff (h : (classify w style struct map p).answer s = .ok b) (n : String) :
    (∃ e ∈ b.assigned, e.name = n)
      ↔ ∃ f ∈ struct.fields, f.name = n ∧ Fills w s struct.owner map f := by
  constructor
  · intro ⟨e, he, hname⟩
    obtain ⟨f, v, hf, hfills, -, hdescribes⟩ := field_of_assigned h he
    exact ⟨f, hf, hdescribes.name.symm.trans hname, hfills⟩
  · intro ⟨f, hf, hname, hfills⟩
    obtain ⟨e, v, he, -, hdescribes⟩ := assigned_of_field h hf hfills
    exact ⟨e, he, hdescribes.name.trans hname⟩

/-! ## Casts to types of other packages -/

/-- A field is cast to the type `n` of another package: the cast has the name of an import in
front. -/
def CastsAbroad (b : Buckets) (n : String) : Prop :=
  ∃ e ∈ b.enumerations, ∃ conversion i,
    e.strategy = .enumeration (i.name ++ "." ++ n) conversion (some i)

/-- A field has the type `n` of a package with another directory than `p`, and the type is declared
over a primitive. -/
def ImportsType (w : Surroundings) (s : Session) (struct : OutputStruct) (p : Package)
    (n : String) : Prop :=
  ∃ f ∈ struct.fields, f.embedded = false ∧ ∃ o, Refers w s struct.owner f.type.pointee o n
    ∧ DeclaresEnumeration o n ∧ o.dir.same p.dir = false

/-- What stands for a field of a declared type is cast, as the declaration is spelled for the
package of the function. -/
theorem strategy_of_describes {f : Field} {v : Verdict} {e : FilledField} {o : Package}
    {n : String} (hverdict : (fieldVerdict w style struct map p f).answer s = .ok v)
    (hdescribes : Describes style struct.owner (f, v) e) (hassigned : e.strategy.slot ≠ .unsupported)
    (hrefers : Refers w s struct.owner f.type.pointee o n) :
    ∃ conversion,
      e.strategy = .enumeration (castName n o p).1 conversion (castName n o p).2 := by
  have hslot : v.slot? = some e.strategy.slot := by
    rw [show v = .keep e.strategy from hdescribes.verdict]
    rfl
  rcases fieldVerdict_cases hverdict with ⟨-, hv⟩ | ⟨-, m, ht, hprimitive, -⟩ | ⟨-, -, hread⟩
  · exact absurd (Option.some.inj (hslot.symm.trans hv)) hassigned
  · -- A primitive refers to no declaration.
    rw [ht] at hrefers
    cases hrefers with
    | name hnot _ => exact absurd hprimitive (by simp [hnot])
  · obtain ⟨o', base, hrefers', -, -, -, hstrategy⟩ :=
      Typing.cast_of_readOff hdescribes hassigned hread
    obtain ⟨rfl, hn⟩ := hrefers.unique hrefers'
    rw [hn] at hstrategy
    exact ⟨_, hstrategy⟩

/-- The types of other packages that fields are cast to are those that fields have. -/
theorem castsAbroad_iff (h : (classify w style struct map p).answer s = .ok b) (n : String) :
    CastsAbroad b n ↔ ImportsType w s struct p n := by
  constructor
  · rintro ⟨e, he, conversion, i, hstrategy⟩
    have hmem : e ∈ b.assigned := Buckets.mem_assigned_iff.2 ⟨.enumeration, by decide, he⟩
    obtain ⟨f, v, hf, ⟨hembedded, hfills⟩, hverdict, hdescribes⟩ := field_of_assigned h hmem
    have hassigned : e.strategy.slot ≠ .unsupported := by simp [hstrategy, Strategy.slot]
    rcases hfills with ⟨m, ht, hprimitive, -⟩ | ⟨o, m, hrefers, hdeclares⟩
    · -- No primitive is cast.
      have hkeep : v = .keep e.strategy := hdescribes.verdict
      rw [fieldVerdict_of_primitive hembedded ht hprimitive hverdict] at hkeep
      rcases Typing.primitive_eq_keep hkeep hassigned with ⟨-, hs⟩ | ⟨-, hs⟩ | ⟨-, hs, -⟩ <;>
        simp [hstrategy] at hs
    · obtain ⟨conversion', hs⟩ := strategy_of_describes hverdict hdescribes hassigned hrefers
      obtain ⟨hcast, -, himport⟩ := Strategy.enumeration.inj (hstrategy.symm.trans hs)
      obtain ⟨hother, rfl⟩ := Generation.castName_eq_some himport.symm
      -- The qualifier is that of the import, so that what is behind it is the name.
      have hname : m = n := by
        simp only [castName, hother, Bool.false_eq_true, if_false] at hcast
        exact ((String.append_right_inj _).1 hcast).symm
      subst hname
      exact ⟨f, hf, hembedded, o, hrefers, hdeclares, hother⟩
  · rintro ⟨f, hf, hembedded, o, hrefers, hdeclares, hother⟩
    obtain ⟨e, v, he, hverdict, hdescribes⟩ :=
      assigned_of_field h hf ⟨hembedded, .inr ⟨o, n, hrefers, hdeclares⟩⟩
    obtain ⟨k, hk, hentry⟩ := Buckets.mem_assigned_iff.1 he
    have hslot : e.strategy.slot = k := by
      obtain ⟨placed, -, -, hpartition⟩ := classify_partition h
      obtain ⟨fv, -, hslot, hdescribes'⟩ := hpartition.describes_of_mem hentry
      rw [hdescribes'.verdict] at hslot
      exact Option.some.inj hslot
    obtain ⟨conversion, hs⟩ :=
      strategy_of_describes hverdict hdescribes (by rwa [hslot]) hrefers
    obtain rfl : k = .enumeration := by rw [← hslot, hs]; rfl
    refine ⟨e, hentry, conversion, ⟨o.importPath, (p.qualifierFor? o.importPath).getD o.name⟩, ?_⟩
    rw [hs]
    simp [castName, hother]

/-! ## Functions -/

/-- A function of the package `p` names only what it can: a struct of another package has its
exported fields assigned at most, types of other packages are exported, and no field is called by
an underscore. -/
structure Reaches (p : Package) (struct : OutputStruct) (b : Buckets) : Prop where
  fields : struct.owner.dir.same p.dir = false → ∀ e ∈ b.assigned, Source.IsExported e.name
  casts : ∀ n, CastsAbroad b n → Source.IsExported n
  named : ∀ e ∈ b.assigned, e.name ≠ "_"

/-- The declarations have names that a function of the package `p` can use, as far as it comes to
them. -/
structure Reachable (w : Surroundings) (s : Session) (p : Package) (struct : OutputStruct)
    (map : MapParam) : Prop where
  fields : struct.owner.dir.same p.dir = false → ∀ f ∈ struct.fields,
    Fills w s struct.owner map f → Source.IsExported f.name
  types : ∀ n, ImportsType w s struct p n → Source.IsExported n
  named : ∀ f ∈ struct.fields, Fills w s struct.owner map f → f.name ≠ "_"

/-- What holds of all assigned names is what holds of the names of all fields that are filled. -/
theorem forall_assigned_iff (h : (classify w style struct map p).answer s = .ok b)
    (q : String → Prop) :
    (∀ e ∈ b.assigned, q e.name)
      ↔ ∀ f ∈ struct.fields, Fills w s struct.owner map f → q f.name := by
  constructor
  · intro hall f hf hfills
    obtain ⟨e, he, hname⟩ := (exists_assigned_iff h f.name).2 ⟨f, hf, rfl, hfills⟩
    exact hname ▸ hall e he
  · intro hall e he
    obtain ⟨f, hf, hname, hfills⟩ := (exists_assigned_iff h e.name).1 ⟨e, he, rfl⟩
    exact hname ▸ hall f hf hfills

theorem reaches_iff (h : (classify w style struct map p).answer s = .ok b) :
    Reaches p struct b ↔ Reachable w s p struct map := by
  have hexported := forall_assigned_iff h Source.IsExported
  have hnamed := forall_assigned_iff h (· ≠ "_")
  constructor
  · intro ⟨hfields, hcasts, hall⟩
    refine ⟨fun hother => hexported.1 (hfields hother), ?_, hnamed.1 hall⟩
    intro n hn
    exact hcasts n ((castsAbroad_iff h n).2 hn)
  · intro ⟨hfields, htypes, hall⟩
    refine ⟨fun hother => hexported.2 (hfields hother), ?_, hnamed.2 hall⟩
    intro n hn
    exact htypes n ((castsAbroad_iff h n).1 hn)

end Classification

namespace Generation

open Classification (Fills CastsAbroad ImportsType Reaches Reachable)

variable {w : Surroundings} {c : Config} {s : Session}

/-- **Visibility.** In a run that succeeds, the fields that a function assigns are those whose types
are filled, and the types of other packages that it casts to are those that its fields have, whatever
their names are. So a function names only what its package can name if and only if the declarations
that it comes to have such names. -/
theorem generate_visibility {input : Path} {g : Generated}
    (h : (generate w c input).answer s = .ok g) :
    ∃ p told, (Session.openFile w input).answer s = .ok p
      ∧ told.map Prod.fst = Signature.candidates p c.functionStart
      ∧ AllMeet w c p s told ∧ Ledger c told g
      ∧ ∀ d map output struct b, (d, .written map output struct b) ∈ told →
        (∀ n, (∃ e ∈ b.assigned, e.name = n)
          ↔ ∃ f ∈ struct.fields, f.name = n ∧ Fills w s struct.owner map f)
        ∧ (∀ n, CastsAbroad b n ↔ ImportsType w s struct p n)
        ∧ (Reaches p struct b ↔ Reachable w s p struct map) := by
  obtain ⟨p, told, hp, hdecls, hmeets, hledger⟩ := ledger_of_generate h
  refine ⟨p, told, hp, hdecls, hmeets, hledger, ?_⟩
  intro d map output struct b hd
  have hfate := hmeets _ hd
  cases hfate with
  | written hshape hlocate hclassify =>
    exact ⟨Classification.exists_assigned_iff hclassify, Classification.castsAbroad_iff hclassify,
      Classification.reaches_iff hclassify⟩

end Generation

/-! ## A struct that hides its fields -/

namespace Sample

/-- The struct of another package has a field that is not exported, one without a name, and one whose
type is not exported. -/
def hiddenSurroundings : Surroundings :=
  moduleOf [(["m", "gen", "a.go"], ["package gen", "import \"m/model\"",
      "func MapToBook(m map[string]any) *model.Book \x7b return nil \x7d"]),
    (["m", "model", "a.go"], ["package model", "type kind int",
      "type Book struct \x7b title string; _ int; Kind kind \x7d"])]

def mapToHidden : Source.FuncDecl :=
  ⟨"MapToBook", [⟨some "m", .map (.name "string") (.name "any")⟩],
    [⟨none, .pointer (.qualified "model" "Book")⟩]⟩

def hiddenGen : Package :=
  { Package.bare "gen" "/m/gen" ⟨"/m/gen"⟩ with
    files := [⟨"/m/gen/a.go"⟩]
    imports := [("model", "m/model")]
    qualifiers := [("m/model", "model")]
    functions := [mapToHidden] }

def hiddenFields : List Field :=
  [⟨"title", .name "string", .empty, false⟩, ⟨"_", .name "int", .empty, false⟩,
    ⟨"Kind", .name "kind", .empty, false⟩]

def hiddenModel : Package :=
  { Package.bare "model" "m/model" ⟨"/m/model"⟩ with
    files := [⟨"/m/model/a.go"⟩]
    types := [⟨"kind", .named (.name "int"), false⟩, ⟨"Book", .struct hiddenFields, false⟩]
    typeIndex := [("Book", 1), ("kind", 0)] }

def hiddenBuckets : Buckets :=
  ⟨[⟨"title", "", "string", ⟨.base, .builtin, "string"⟩, false, false,
      .direct (some "cast.ToString")⟩,
    ⟨"_", "", "int", ⟨.base, .builtin, "int"⟩, false, false, .direct (some "cast.ToInt")⟩],
   [⟨"Kind", "", "kind", ⟨.struct, .local "model", "kind"⟩, false, false,
      .enumeration "model.kind" "cast.ToInt" (some ⟨"m/model", "model"⟩)⟩], [], [], []⟩

/-- The fate of the function. -/
def hiddenFate : Generation.Fate :=
  .written ⟨"string", "any", true⟩ ⟨some "model", "Book", true⟩
    ⟨hiddenModel, "Book", hiddenFields⟩ hiddenBuckets

/-- The file that is generated. -/
def hiddenFile : Generated := Generation.result {} hiddenGen [(mapToHidden, hiddenFate)]

theorem openFile_hidden :
    (Session.openFile hiddenSurroundings ⟨"/m/gen/a.go"⟩).answer .fresh = .ok hiddenGen := by
  decide +kernel

theorem openImport_hidden :
    (Session.openImport hiddenSurroundings hiddenGen "model").answer .fresh
      = .ok (some hiddenModel) := by
  decide +kernel

theorem meets_hidden :
    Generation.AllMeet hiddenSurroundings {} hiddenGen .fresh [(mapToHidden, hiddenFate)] := by
  intro df hdf
  obtain rfl := List.mem_singleton.1 hdf
  have hstruct : hiddenModel.findStruct? "Book" = some ⟨"Book", .struct hiddenFields, false⟩ := by
    decide
  exact .written rfl (Signature.locate_of_openImport openImport_hidden hstruct) (by decide)

theorem generate_hidden :
    (Generation.generate hiddenSurroundings {} ⟨"/m/gen/a.go"⟩).answer .fresh = .ok hiddenFile :=
  Generation.generate_of_meets openFile_hidden rfl meets_hidden

end Sample

namespace Generation

open Classification (CastsAbroad Reaches Reachable)
open Source (IsExported)

/-- The fields are filled all the same, so that the function does not keep to what it can name. -/
theorem generate_visibility_hidden :
    (generate Sample.hiddenSurroundings {} ⟨"/m/gen/a.go"⟩).answer .fresh = .ok Sample.hiddenFile
      ∧ (Reaches Sample.hiddenGen ⟨Sample.hiddenModel, "Book", Sample.hiddenFields⟩
          Sample.hiddenBuckets
        ↔ Reachable Sample.hiddenSurroundings .fresh Sample.hiddenGen
          ⟨Sample.hiddenModel, "Book", Sample.hiddenFields⟩ ⟨"string", "any", true⟩) := by
  obtain ⟨p, told, hp, hdecls, hmeets, -, hall⟩ := generate_visibility Sample.generate_hidden
  obtain rfl : Sample.hiddenGen = p := Except.ok.inj (Sample.openFile_hidden.symm.trans hp)
  obtain rfl : told = [(Sample.mapToHidden, Sample.hiddenFate)] :=
    hmeets.unique Sample.meets_hidden hdecls
  exact ⟨Sample.generate_hidden, (hall _ _ _ _ _ (List.mem_singleton.2 rfl)).2.2⟩

/-- The struct is that of another package. The function assigns a field of it that is not exported
and one without a name, and casts to a type that is not exported. -/
theorem not_reaches_hidden :
    (generate Sample.hiddenSurroundings {} ⟨"/m/gen/a.go"⟩).answer .fresh = .ok Sample.hiddenFile
      ∧ Sample.hiddenFile.text
        = Emission.header "gen" [⟨"github.com/spf13/cast", "cast"⟩, ⟨"m/model", "model"⟩]
          ++ ("" ++ Emission.function
            ⟨"genMapToBook", "src", "map[string]any", "model.Book", Sample.hiddenBuckets⟩)
      ∧ AllMeet Sample.hiddenSurroundings {} Sample.hiddenGen .fresh
        [(Sample.mapToHidden, Sample.hiddenFate)]
      ∧ Sample.hiddenModel.dir.same Sample.hiddenGen.dir = false
      ∧ Sample.hiddenBuckets.assigned.map (·.name) = ["title", "_", "Kind"]
      ∧ ¬ IsExported "title"
      ∧ CastsAbroad Sample.hiddenBuckets "kind" ∧ ¬ IsExported "kind"
      ∧ ¬ Reaches Sample.hiddenGen ⟨Sample.hiddenModel, "Book", Sample.hiddenFields⟩
        Sample.hiddenBuckets := by
  have hcast : CastsAbroad Sample.hiddenBuckets "kind" :=
    ⟨_, List.mem_singleton.2 rfl, "cast.ToInt", ⟨"m/model", "model"⟩, rfl⟩
  have htype : ¬ IsExported "kind" := by decide
  refine ⟨Sample.generate_hidden, by decide +kernel, Sample.meets_hidden, by decide +kernel, rfl,
    by decide, hcast, htype, ?_⟩
  intro hreaches
  exact htype (hreaches.casts "kind" hcast)

end Generation
end StructFill
