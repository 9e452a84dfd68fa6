import StructFill.Proofs.Generation.Regeneration

/-! # Imports and their use

  A file has to use each package that it imports, and to import each package
  whose name it uses. The imports of a function are not read off its text. They
  are computed beside it, from the output, the casts, and the configured
  beginning of the calls.

  **Two gaps.** The computation and the text part in two places. A call may
  begin with something else than the name of a package, and the helpers are
  imported all the same. And a package that imports itself writes a qualifier
  for its own struct, for which nothing is imported. Everywhere else no import
  is idle, and no qualifier is left without one.
-/

namespace StructFill

open Session (Run)
open Source (FuncDecl)

variable {w : Surroundings} {s : Session}

namespace Text

/-- A character that does not occur behind a cut lies before it. -/
theorem exists_of_append_eq {as bs cs ds : List Char} {x : Char} (hx : x ∉ bs)
    (h : as ++ bs = cs ++ x :: ds) : ∃ es, as = cs ++ x :: es := by
  rcases List.append_eq_append_iff.1 h with ⟨between, -, rfl⟩ | ⟨between, rfl, hrest⟩
  · exact absurd (List.mem_append_right _ List.mem_cons_self) hx
  · cases between with
    | nil =>
      obtain rfl : x :: ds = bs := hrest
      exact absurd List.mem_cons_self hx
    | cons y ys =>
      obtain ⟨rfl, -⟩ := List.cons.inj hrest
      exact ⟨ys, rfl⟩

end Text

/-! ## Calls -/

namespace Naming

/-- No name of a helper brings a dot along. -/
theorem dot_not_mem_capitalize {n : String} (hn : Source.isPrimitive n = true) :
    '.' ∉ (capitalize n).toList := by
  have hall : ∀ n ∈ Source.primitives, '.' ∉ (capitalize n).toList := by decide
  exact hall n (by simpa [Source.isPrimitive] using hn)

/-- What is in front of a dot in a call of a helper is in front of it in the configured beginning,
too. -/
theorem conversion_eq_iff {start n q : String} (hn : Source.isPrimitive n = true) :
    (∃ rest, conversion start n = q ++ "." ++ rest) ↔ ∃ rest, start = q ++ "." ++ rest := by
  constructor
  · rintro ⟨rest, h⟩
    have hchars : start.toList ++ (capitalize n).toList = q.toList ++ '.' :: rest.toList := by
      simpa [conversion] using congrArg String.toList h
    obtain ⟨es, hstart⟩ := Text.exists_of_append_eq (dot_not_mem_capitalize hn) hchars
    refine ⟨String.ofList es, String.toList_inj.1 ?_⟩
    simpa using hstart
  · rintro ⟨rest, rfl⟩
    exact ⟨rest ++ capitalize n, by simp [conversion, String.append_assoc]⟩

end Naming

/-- The package of the helpers stands in front of the last dot. -/
theorem Config.start_of_conversionPackage? {c : Config} {q : String}
    (h : c.conversionPackage? = some q) : ∃ rest, c.conversionStart = q ++ "." ++ rest := by
  unfold conversionPackage? at h
  split at h
  next a as rest hcut =>
    obtain rfl := Option.some.inj h
    refine ⟨String.ofList rest, String.toList_inj.1 ?_⟩
    rw [Text.eq_of_cutLast? hcut]
    simp
  next => cases h

namespace Classification

/-- The helper that a field calls is named after a primitive. -/
theorem conversion_of_classify {style : Naming.Style} {struct : OutputStruct} {map : MapParam}
    {p : Package} {b : Buckets} {e : FilledField} {conversion : String}
    (h : (classify w style struct map p).answer s = .ok b) (he : e ∈ b.assigned)
    (hcalls : e.strategy.conversion? = some conversion) :
    ∃ n, Source.isPrimitive n = true
      ∧ conversion = Naming.conversion style.conversionStart n := by
  obtain ⟨placed, -, hjudged, hpartition⟩ := classify_partition h
  obtain ⟨k, hassigned, hentry⟩ := Buckets.mem_assigned_iff.1 he
  obtain ⟨fv, hplaced, hslot, hdescribes⟩ := hpartition.describes_of_mem hentry
  have hfilled : e.strategy.slot ≠ .unsupported := by
    rw [hdescribes.verdict] at hslot
    exact Option.some.inj hslot ▸ hassigned
  rcases fieldVerdict_cases (hjudged fv hplaced) with
    ⟨-, hv⟩ | ⟨-, n, -, hprimitive, hv⟩ | ⟨-, -, hread⟩
  · exact absurd (Option.some.inj (hslot.symm.trans hv)) hassigned
  · have hkeep := hv.symm.trans hdescribes.verdict
    rcases Typing.primitive_eq_keep hkeep hfilled with ⟨-, hs⟩ | ⟨-, hs⟩ | ⟨-, hs, -⟩
    · exact ⟨n, hprimitive, by simpa [hs, Strategy.conversion?] using hcalls.symm⟩
    · exact ⟨n, hprimitive, by simpa [hs, Strategy.conversion?] using hcalls.symm⟩
    · simp [hs, Strategy.conversion?] at hcalls
  · obtain ⟨o, base, -, -, hprimitive, -, hs⟩ := Typing.cast_of_readOff hdescribes hfilled hread
    exact ⟨base, hprimitive, by simpa [hs, Strategy.conversion?] using hcalls.symm⟩

end Classification

namespace Generation

variable {c : Config} {p : Package} {told : Told} {i : PackageImport} {q : String}

/-! ## Use -/

/-- A function of the file has the name `q` and a dot in front of its output type, of the type of
a cast, or of a helper that it calls. -/
inductive Mentions (told : Told) (q : String) : Prop where
  | output {d map output struct b} (hd : (d, .written map output struct b) ∈ told)
    (htext : output.qualifiedName = q ++ "." ++ output.typeName)
  | cast {d map output struct b e cast conversion i} (hd : (d, .written map output struct b) ∈ told)
    (he : e ∈ b.enumerations) (hstrategy : e.strategy = .enumeration cast conversion i)
    (htext : cast = q ++ "." ++ e.descriptor.name)
  | call {d map output struct b e conversion rest} (hd : (d, .written map output struct b) ∈ told)
    (he : e ∈ b.assigned) (hcalls : e.strategy.conversion? = some conversion)
    (htext : conversion = q ++ "." ++ rest)

/-- The header of the file imports a package under the name `q`. -/
def Imported (c : Config) (p : Package) (told : Told) (q : String) : Prop :=
  ∃ i ∈ fileImports c p told, i.name = q

/-- A function of the file calls a helper. -/
def Converts (told : Told) : Prop :=
  ∃ d map output struct b, (d, .written map output struct b) ∈ told ∧ b.usesConversion = true

/-- The import of helpers whose calls do not name their package. -/
structure Idle (c : Config) (told : Told) (i : PackageImport) : Prop where
  helpers : i = conversionImport c
  converts : Converts told
  unqualified : c.conversionPackage? = none

/-- The ways in which a name is mentioned for which nothing is imported. -/
inductive Stray (c : Config) (p : Package) (told : Told) (q : String) : Prop where
  /-- The package imports itself, and names its own struct by the import. -/
  | own {d map output struct b} (hd : (d, .written map output struct b) ∈ told)
    (hpackage : output.package = some q) (hsame : struct.owner.dir.same p.dir = true)
  /-- The calls have the name in front, but not as that of their package. -/
  | helper {rest} (hconverts : Converts told) (hstart : c.conversionStart = q ++ "." ++ rest)
    (hother : c.conversionPackage? ≠ some q)

/-- No text is itself with a qualifier in front. -/
theorem ne_qualified (q n : String) : n ≠ q ++ "." ++ n := by
  intro h
  have hlength := congrArg String.length h
  simp only [String.length_append] at hlength
  have hdot : ".".length = 1 := rfl
  omega

theorem qualifiedName_eq_iff {output : Output} :
    output.qualifiedName = q ++ "." ++ output.typeName ↔ output.package = some q := by
  unfold Output.qualifiedName
  cases output.package with
  | none => simp [ne_qualified]
  | some q' =>
    simp only [Option.some.injEq]
    constructor
    · intro h
      exact (String.append_left_inj _).1 ((String.append_left_inj _).1 h)
    · rintro rfl
      rfl

theorem mem_fileImports_of_idle (h : Idle c told i) : i ∈ fileImports c p told := by
  obtain ⟨rfl, ⟨d, map, output, struct, b, hd, huses⟩, -⟩ := h
  exact mem_fileImports_iff.2 ⟨d, map, output, struct, b, hd, .inl ⟨huses, rfl⟩⟩

section

variable (hmeets : AllMeet w c p s told)
include hmeets

/-- If a helper is called at all, the calls have in front what is configured. -/
theorem mentions_of_start {rest : String} (hconverts : Converts told)
    (hstart : c.conversionStart = q ++ "." ++ rest) : Mentions told q := by
  obtain ⟨d, map, output, struct, b, hd, huses⟩ := hconverts
  obtain ⟨e, he, hcalls⟩ := List.any_eq_true.1 huses
  obtain ⟨conversion, hconversion⟩ := Option.isSome_iff_exists.1 hcalls
  have hfate := hmeets _ hd
  cases hfate with
  | written hshape hlocate hclassify =>
    obtain ⟨n, hprimitive, rfl⟩ :=
      Classification.conversion_of_classify hclassify he hconversion
    obtain ⟨rest', htext⟩ := (Naming.conversion_eq_iff hprimitive).2 ⟨rest, hstart⟩
    exact .call hd he hconversion htext

/-- Each import is mentioned, unless it is that of helpers whose calls do not name it. -/
theorem mentions_or_idle (hi : i ∈ fileImports c p told) :
    Mentions told i.name ∨ Idle c told i := by
  obtain ⟨d, map, output, struct, b, hd, hi⟩ := mem_fileImports_iff.1 hi
  rcases hi with ⟨huses, rfl⟩ | hi | hi
  · have hconverts : Converts told := ⟨d, map, output, struct, b, hd, huses⟩
    cases hpackage : c.conversionPackage? with
    | none => exact .inr ⟨rfl, hconverts, hpackage⟩
    | some q =>
      obtain ⟨rest, hstart⟩ := Config.start_of_conversionPackage? hpackage
      have hname : (conversionImport c).name = q := by simp [conversionImport, hpackage]
      rw [hname]
      exact .inl (mentions_of_start hmeets hconverts hstart)
  · -- The import of an output has the qualifier of the output.
    unfold outputImports at hi
    cases hpackage : output.package with
    | none =>
      rw [hpackage] at hi
      cases hi
    | some q =>
      rw [hpackage] at hi
      dsimp only at hi
      split at hi
      · cases hi
      · obtain rfl := List.mem_singleton.1 hi
        exact .inl (.output hd (qualifiedName_eq_iff.2 hpackage))
  · rw [Buckets.castImports, PackageImport.mem_ordered] at hi
    obtain ⟨e, he, himport⟩ := List.mem_filterMap.1 hi
    have hfate := hmeets _ hd
    cases hfate with
    | written hshape hlocate hclassify =>
      obtain ⟨o, base, -, hstrategy⟩ := Classification.cast_of_classify hclassify he
      rw [hstrategy] at himport
      obtain ⟨hother, rfl⟩ := castName_eq_some himport
      exact .inl (.cast hd he hstrategy (by simp [Classification.castName, hother]))

/-- Each name that is mentioned is imported, with two exceptions. -/
theorem imported_or_stray (hq : Mentions told q) : Imported c p told q ∨ Stray c p told q := by
  cases hq with
  | @output d map output struct b hd htext =>
    have hpackage := qualifiedName_eq_iff.1 htext
    by_cases hsame : struct.owner.dir.same p.dir = true
    · exact .inr (.own hd hpackage hsame)
    · refine .inl ⟨⟨struct.owner.importPath, q⟩, mem_fileImports hd (.inl ?_), rfl⟩
      simp [outputImports, hpackage, hsame]
  | @cast d map output struct b e cast conversion i hd he hstrategy htext =>
    have hfate := hmeets _ hd
    cases hfate with
    | written hshape hlocate hclassify =>
      obtain ⟨o, base, howner, hspelled⟩ := Classification.cast_of_classify hclassify he
      obtain ⟨rfl, -, -⟩ := Strategy.enumeration.inj (hstrategy.symm.trans hspelled)
      by_cases hsame : o.dir.same p.dir = true
      -- A cast to a type of the package itself has no qualifier, so nothing is mentioned.
      · exact absurd htext (by simp [Classification.castName, hsame, ne_qualified])
      · have hother : o.dir.same p.dir = false := by simpa using hsame
        refine .inl ⟨_, mem_fileImports_of_casts hmeets (.field hd he howner hother), ?_⟩
        simp only [Classification.castName, hother, Bool.false_eq_true, if_false] at htext
        exact (String.append_left_inj _).1 ((String.append_left_inj _).1 htext)
  | @call d map output struct b e conversion rest hd he hcalls htext =>
    have hconverts : Converts told :=
      ⟨d, map, output, struct, b, hd, List.any_eq_true.2 ⟨e, he, by simp [hcalls]⟩⟩
    have hfate := hmeets _ hd
    cases hfate with
    | written hshape hlocate hclassify =>
      obtain ⟨n, hprimitive, rfl⟩ := Classification.conversion_of_classify hclassify he hcalls
      obtain ⟨start, hstart⟩ := (Naming.conversion_eq_iff hprimitive).1 ⟨rest, htext⟩
      by_cases hpackage : c.conversionPackage? = some q
      · obtain ⟨d', map', output', struct', b', hd', huses⟩ := hconverts
        refine .inl ⟨conversionImport c, ?_, by simp [conversionImport, hpackage]⟩
        exact mem_fileImports_iff.2 ⟨d', map', output', struct', b', hd', .inl ⟨huses, rfl⟩⟩
      · exact .inr (.helper hconverts hstart hpackage)

theorem mentions_of_stray (h : Stray c p told q) : Mentions told q := by
  cases h with
  | own hd hpackage hsame => exact .output hd (qualifiedName_eq_iff.2 hpackage)
  | helper hconverts hstart hother => exact mentions_of_start hmeets hconverts hstart

end

/-- **Imports and their use.** In a file that is generated in whatever session, an import is not
used exactly if it is that of the helpers, their calls do not name a package, and nothing else has
the name. A name in front of a type or a call is not imported exactly if the package imports
itself or the calls have more in front than a package, and nothing else is imported by the name.
The lines of the header give their names, as far as these are identifiers. -/
theorem generate_uses_imports {input : Path} {g : Generated}
    (h : (generate w c input).answer s = .ok g) :
    ∃ p told, (Session.openFile w input).answer s = .ok p
      ∧ told.map Prod.fst = Signature.candidates p c.functionStart
      ∧ AllMeet w c p s told
      ∧ g.text = Emission.header p.name (fileImports c p told)
        ++ String.join ((written c told).map Prod.snd)
      ∧ (∀ i, i ∈ fileImports c p told ∧ ¬ Mentions told i.name
        ↔ Idle c told i ∧ ¬ Mentions told i.name)
      ∧ (∀ q, Mentions told q ∧ ¬ Imported c p told q
        ↔ Stray c p told q ∧ ¬ Imported c p told q)
      ∧ ∀ q, Source.IsIdentifier q → (Imported c p told q
        ↔ ∃ line ∈ Emission.importLines (fileImports c p told), ∃ path,
          Emission.Names line q path) := by
  obtain ⟨p, skipped, told, hp, hdecls, hmeets, -, rfl⟩ := told_of_generate h
  refine ⟨p, told, hp, hdecls, hmeets, text_assemble skipped told, ?_, ?_, ?_⟩
  · intro i
    constructor
    · rintro ⟨hi, hnot⟩
      exact ⟨(mentions_or_idle hmeets hi).resolve_left hnot, hnot⟩
    · rintro ⟨hidle, hnot⟩
      exact ⟨mem_fileImports_of_idle hidle, hnot⟩
  · intro q
    constructor
    · rintro ⟨hq, hnot⟩
      exact ⟨(imported_or_stray hmeets hq).resolve_left hnot, hnot⟩
    · rintro ⟨hstray, hnot⟩
      exact ⟨mentions_of_stray hmeets hstray, hnot⟩
  · intro q hq
    constructor
    · rintro ⟨i, hi, hname⟩
      obtain ⟨line, hline, hnames⟩ := (Emission.names_iff hq).2 ⟨i, hi, hname, rfl⟩
      exact ⟨line, hline, _, hnames⟩
    · rintro ⟨line, hline, path, hnames⟩
      obtain ⟨i, hi, hname, -⟩ := (Emission.names_iff hq).1 ⟨line, hline, hnames⟩
      exact ⟨i, hi, hname⟩

theorem generate_uses_imports_kind :
    ∃ p told, (generate Sample.kindModule {} ⟨"/m/gen/gen.go"⟩).answer .fresh = .ok Sample.kindFile
      ∧ AllMeet Sample.kindModule {} p .fresh told
      ∧ ∀ i, i ∈ fileImports {} p told ∧ ¬ Mentions told i.name
        ↔ Idle {} told i ∧ ¬ Mentions told i.name := by
  obtain ⟨p, told, -, -, hmeets, -, hidle, -⟩ := generate_uses_imports Sample.generate_kind
  exact ⟨p, told, Sample.generate_kind, hmeets, hidle⟩

end Generation

/-! ## Helpers without a package -/

namespace Sample

/-- The helpers are called by their names alone. -/
def bareConfig : Config := { conversionStart := "To" }

def bareBuckets : Buckets :=
  ⟨[], [⟨"Kind", "kind", "Kind", ⟨.struct, .local "gen", "Kind"⟩, false, false,
    .enumeration "Kind" "ToInt" none⟩], [], [], []⟩

def bareFate : Generation.Fate :=
  .written ⟨"string", "any", true⟩ ⟨none, "Book", true⟩ ⟨kindGen, "Book", modelFields⟩ bareBuckets

/-- The file that is generated. -/
def bareFile : Generated := Generation.result bareConfig kindGen [(mapToKind, bareFate)]

theorem meets_bare :
    Generation.AllMeet kindModule bareConfig kindGen .fresh [(mapToKind, bareFate)] := by
  intro df hdf
  obtain rfl := List.mem_singleton.1 hdf
  exact .written rfl rfl (by decide)

end Sample

namespace Generation

/-- The header imports the helpers as `cast`, but no function has `cast` in front of anything. -/
theorem not_mentions_cast :
    Sample.bareConfig.Valid
      ∧ (generate Sample.kindModule Sample.bareConfig ⟨"/m/gen/gen.go"⟩).answer .fresh
        = .ok Sample.bareFile
      ∧ Sample.bareFile.text = Emission.header "gen" [⟨"github.com/spf13/cast", "cast"⟩]
        ++ ("" ++ Emission.function
          ⟨"genMapToBook", "src", "map[string]any", "Book", Sample.bareBuckets⟩)
      ∧ AllMeet Sample.kindModule Sample.bareConfig Sample.kindGen .fresh
        [(Sample.mapToKind, Sample.bareFate)]
      ∧ Imported Sample.bareConfig Sample.kindGen [(Sample.mapToKind, Sample.bareFate)] "cast"
      ∧ ¬ Mentions [(Sample.mapToKind, Sample.bareFate)] "cast" := by
  refine ⟨by decide, generate_of_meets Sample.openFile_kind rfl Sample.meets_bare, rfl,
    Sample.meets_bare, ⟨⟨"github.com/spf13/cast", "cast"⟩, by decide, rfl⟩, ?_⟩
  intro hmentions
  cases hmentions with
  | output hd htext =>
    obtain ⟨-, hfate⟩ := Prod.mk.inj (List.mem_singleton.1 hd)
    obtain ⟨-, rfl, -, -⟩ := Fate.written.inj hfate
    cases qualifiedName_eq_iff.1 htext
  | cast hd he hstrategy htext =>
    obtain ⟨-, hfate⟩ := Prod.mk.inj (List.mem_singleton.1 hd)
    obtain ⟨-, -, -, rfl⟩ := Fate.written.inj hfate
    obtain rfl := List.mem_singleton.1 he
    obtain ⟨rfl, -, -⟩ := Strategy.enumeration.inj hstrategy
    exact ne_qualified _ _ htext
  | @call _ _ _ _ _ _ _ rest hd he hcalls htext =>
    obtain ⟨-, hfate⟩ := Prod.mk.inj (List.mem_singleton.1 hd)
    obtain ⟨-, -, -, rfl⟩ := Fate.written.inj hfate
    obtain rfl := List.mem_singleton.1 he
    obtain rfl := Option.some.inj hcalls
    -- The call begins with another letter.
    have hchars := congrArg String.toList htext
    simp at hchars

end Generation
end StructFill
