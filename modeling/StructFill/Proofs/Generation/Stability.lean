import StructFill.Proofs.Emission.Reading
import StructFill.Proofs.Generation.Independence
import StructFill.Proofs.Package.Constraints

/-! # Generating again

  The next run reads what the run before has written. Its result is the same if
  the file is harmless.

  **Apart.** Whether a generated file is harmless is a question about its text.
  Where the names in it can be read, the text declares nothing but what was
  written: the imports of the file and its functions. So it is enough to look at
  names, which come from the sources and the settings. A file is apart from its
  sources if no generated function is named like a conversion function, and if
  the sources use the names that the file imports, or that its paths suggest, for
  the same packages.

  **Conversion functions.** A generated file need not be harmless. Its functions
  belong to the package like all others, so they are conversion functions if their
  names begin like the names of these, and the next run generates functions for
  them.
-/

namespace StructFill

open Files (Disk Key)
open StructFill.Path (Plain)
open Session (LeadsTo Suits)
open Source (FileDecls FuncDecl)
open Emission (Readable declared)

/-! ## Reading the text again -/

namespace Source

/-- A blank starts no name. -/
theorem not_blank_of_isNameStart {x : Char} (hx : Token.isNameStart x = true) :
    Unicode.isBlank x = false := by
  have hall : ∀ n ∈ blankPoints, Token.isNameStart (Char.ofNat n) = false := by decide +kernel
  cases hblank : Unicode.isBlank x with
  | false => rfl
  | true =>
    have hpoint := hall x.toNat (toNat_mem_blankPoints hblank)
    rw [Char.ofNat_toNat, hx] at hpoint
    cases hpoint

/-- There is no line break in a name. -/
theorem ne_break_of_mem {n : String} (h : IsName n) {c : Char} (hc : c ∈ n.toList) : c ≠ '\n' := by
  rintro rfl
  obtain ⟨d, ds, hlist, hstart, hparts⟩ := h.1
  rw [hlist] at hc
  rcases List.mem_cons.1 hc with rfl | hc
  · exact absurd hstart (by decide)
  · exact absurd (List.all_eq_true.1 hparts _ hc) (by decide)

/-- The package clause ends the search for a constraint. -/
theorem opensPackage_clause {package : String} (h : IsName package) :
    OpensPackage ("package ".toList ++ package.toList) := by
  obtain ⟨c, cs, hlist, hstart, -⟩ := h.1
  have hline : "package ".toList ++ package.toList = 'p' :: ("ackage ".toList ++ c :: cs) := by
    rw [hlist]
    rfl
  have htrimmed : Text.trimBlanks ('p' :: ("ackage ".toList ++ c :: cs))
      = "package ".toList ++ c :: cs.rdropWhile Unicode.isBlank := by
    rw [Text.trimBlanks, Text.trim_cons (by decide)]
    exact Text.rdropWhile_append (not_blank_of_isNameStart hstart) "package ".toList cs
  rw [hline, OpensPackage, htrimmed]
  exact List.isPrefixOf_iff_prefix.2 (List.prefix_append _ _)

/-- A file with a header does not keep itself out: there is only a comment above the clause. -/
theorem isIgnored_header {package : String} (h : IsName package) (is : List PackageImport)
    (rest : String) : isIgnored (Emission.header package is ++ rest) = false := by
  have hmarker : Passed Emission.marker.toList := ⟨by decide, by decide⟩
  have hbreak : ∀ c ∈ "package ".toList ++ package.toList, (c == '\n') = false := by
    intro c hc
    rcases List.mem_append.1 hc with hc | hc
    · have hnone : '\n' ∉ "package ".toList := by decide
      simpa using ne_of_mem_of_not_mem hc hnone
    · simpa using ne_break_of_mem h hc
  have hbreak' : ∀ c ∈ Emission.marker.toList, (c == '\n') = false := by
    intro c hc
    have hnone : '\n' ∉ Emission.marker.toList := by decide
    simpa using ne_of_mem_of_not_mem hc hnone
  have htext : (Emission.header package is ++ rest).toList
      = Emission.marker.toList ++ '\n' :: ([] ++ '\n' :: (("package ".toList ++ package.toList)
        ++ '\n' :: ((Emission.unlines (Emission.importLines is)).toList ++ rest.toList))) := by
    simp [Emission.header, Emission.toList_unlines]
  -- The lines above the clause are passed, and the clause ends the search. What the text says below
  -- it does not matter.
  have habove : ∀ line ∈ [Emission.marker.toList, []], Passed line := by
    intro line hline
    rcases List.mem_cons.1 hline with rfl | hline
    · exact hmarker
    · obtain rfl := List.mem_singleton.1 hline
      exact ⟨by decide, by decide⟩
  rw [isIgnored, htext, Text.splitOn_append (by decide), Text.splitOn_append (by decide),
    Text.splitOn_append (by decide), Text.splitOn_of_forall hbreak', Text.splitOn_of_forall hbreak,
    ← List.append_assoc]
  refine (ignoredLines_append habove _).trans (ignoredLines_of_opens ?_)
  rintro line ⟨⟩
  exact opensPackage_clause h

end Source

/-! ## What an import says to the next run -/

namespace Emission

variable {i : PackageImport}

/-- An import binds the name that its path suggests, and its own. -/
theorem mem_bindings_declared {b : String × String} (h : b ∈ (declared i).bindings) :
    (b.1 = Package.defaultName i.path ∨ b.1 = i.name) ∧ b.2 = i.path := by
  unfold declared Source.Import.bindings at h
  rcases List.mem_cons.1 h with rfl | h
  · exact ⟨.inl rfl, rfl⟩
  · dsimp only at h
    split at h
    · cases h
    next a ha =>
      split at h
      · cases h
      · obtain rfl := List.mem_singleton.1 h
        split at ha
        · cases ha
        · exact ⟨.inr (Option.some.inj ha).symm, rfl⟩

/-- It calls its path by its name. -/
theorem mem_callings_declared {b : String × String} (h : b ∈ (declared i).callings) :
    b.1 = i.path ∧ b.2 = i.name := by
  unfold declared Source.Import.callings at h
  dsimp only at h
  split at h
  next hnone =>
    obtain rfl := List.mem_singleton.1 h
    split at hnone
    next hname => exact ⟨rfl, hname⟩
    next => cases hnone
  next a ha =>
    split at h
    · cases h
    · obtain rfl := List.mem_singleton.1 h
      split at ha
      · cases ha
      · exact ⟨rfl, (Option.some.inj ha).symm⟩

end Emission

/-! ## Files that are apart from their sources -/

namespace Generation

variable {w : Surroundings} {c : Config} {p : Package} {told : Told} {k : Key} {n : String}
  {d' : Disk}

/-- The names of a file can be read, and there is a signature for each of its functions. -/
structure Legible (c : Config) (p : Package) (told : Told) (prototypes : List Emission.Prototype) :
    Prop where
  package : Source.IsName p.name
  imports : ∀ i ∈ fileImports c p told, Readable i
  functions : List.Forall₂ Emission.Plan.Parses (contents c p told).plans prototypes

/-- What the next run reads of a file. -/
def reread (c : Config) (p : Package) (told : Told) (prototypes : List Emission.Prototype) :
    FileDecls :=
  ⟨p.name, (fileImports c p told).map declared, [], prototypes.map Emission.Prototype.decl⟩

/-- **A result is read back.** Where its names can be read, the text of a result declares what was
written. -/
theorem Legible.declares {prototypes : List Emission.Prototype} (h : Legible c p told prototypes) :
    Package.Declares (result c p told).text p.name (reread c p told prototypes) where
  kept := by
    rw [(contents_of_result c p told).text]
    exact Source.isIgnored_header h.package _ _
  parsed := by
    rw [(contents_of_result c p told).text]
    exact Emission.declarations?_file h.package h.imports h.functions
  package := rfl

/-- The functions that are declared have the names of those that were written. -/
theorem Legible.exists_told {prototypes : List Emission.Prototype} (h : Legible c p told prototypes)
    {f : FuncDecl} (hf : f ∈ (reread c p told prototypes).functions) :
    ∃ df ∈ told, f.name = c.generatedStart ++ df.1.name := by
  obtain ⟨s, hs, rfl⟩ := List.mem_map.1 hf
  have hnames : (contents c p told).plans.map (·.name) = prototypes.map (·.name) := by
    rw [← List.forall₂_eq_eq_eq, List.forall₂_map_left_iff, List.forall₂_map_right_iff]
    exact h.functions.imp fun _ _ hdeclares => hdeclares.name
  have hname : s.name ∈ (contents c p told).plans.map (·.name) := by
    rw [hnames]
    exact List.mem_map.2 ⟨s, hs, rfl⟩
  obtain ⟨plan, hplan, hsame⟩ := List.mem_map.1 hname
  obtain ⟨df, hdf, hplan⟩ := List.mem_filterMap.1 hplan
  refine ⟨df, hdf, hsame.symm.trans ?_⟩
  cases hfate : df.2 with
  | skipped _ | missing _ =>
    rw [hfate] at hplan
    cases hplan
  | written map output struct b =>
    rw [hfate] at hplan
    obtain rfl := Option.some.inj hplan
    rfl

/-- The names of a file clash with nothing in the sources. The file lies in the directory `k`, which
is that of the package `p`. -/
structure Apart (w : Surroundings) (c : Config) (p : Package) (told : Told) (k : Key) : Prop where
  /-- No generated function is named like a conversion function. -/
  functions : ∀ df ∈ told,
    c.functionStart.toList.isPrefixOf (c.generatedStart ++ df.1.name).toList = false
  /-- The sources have the names that are imported, or that the paths suggest, for nothing else. -/
  names : ∀ i ∈ fileImports c p told, ∀ q, q = Package.defaultName i.path ∨ q = i.name →
    ∀ path, p.importPathOf? q = some path → i.path = path
  /-- An import that can be taken for a name that the sources leave unbound leads where the name
  leads. -/
  unbound : ∀ df ∈ told, ∀ q, LooksFor w .fresh p df.1 q → p.importPathOf? q = none →
    ∀ i ∈ fileImports c p told,
      (q = Package.defaultName i.path ∨ q = i.name) ∨ Suits w .fresh q i.path →
        (Session.openPath w i.path).answer .fresh = (Session.openImport w p q).answer .fresh
  /-- The package of a cast has one name in the file. -/
  callings : ∀ o, Casts w .fresh p told o → ∀ i ∈ fileImports c p told, i.path = o.importPath →
    i.name = (p.qualifierFor? o.importPath).getD o.name
  /-- Nobody who is asked imports the package itself, and the file does not either. -/
  elsewhere : ∀ o, o = p ∨ p.Imports w .fresh o →
    ∀ path ∈ o.imports.map Prod.snd, ¬ LeadsTo w path k
  acyclic : ∀ i ∈ fileImports c p told, ¬ LeadsTo w i.path k

/-- A file with legible names that is apart from its sources is harmless. -/
theorem Apart.harmless {prototypes : List Emission.Prototype} (h : Apart w c p told k)
    (hlegible : Legible c p told prototypes) :
    Harmless w c p told k (reread c p told prototypes) where
  types := rfl
  functions f hf := by
    obtain ⟨df, hdf, hname⟩ := hlegible.exists_told hf
    rw [hname]
    exact h.functions df hdf
  -- What the file binds goes back to an import, and `Apart` speaks of those.
  names b hb path hpath := by
    obtain ⟨j, hj, hb⟩ := List.mem_flatMap.1 hb
    obtain ⟨i, hi, rfl⟩ := List.mem_map.1 hj
    obtain ⟨hq, hsame⟩ := Emission.mem_bindings_declared hb
    rw [hsame]
    exact h.names i hi b.1 hq path hpath
  unbound df hdf q hlooks hnone j hj hq := by
    obtain ⟨i, hi, rfl⟩ := List.mem_map.1 hj
    refine h.unbound df hdf q hlooks hnone i hi (hq.imp_left fun hbound => ?_)
    obtain ⟨b, hb, rfl⟩ := List.mem_map.1 hbound
    exact (Emission.mem_bindings_declared hb).1
  callings o ho a ha := by
    obtain ⟨j, hj, hcalling⟩ := List.mem_flatMap.1 (Table.mem_of_lookup ha)
    obtain ⟨i, hi, rfl⟩ := List.mem_map.1 hj
    obtain ⟨hpath, hname⟩ := Emission.mem_callings_declared hcalling
    rw [show a = i.name from hname]
    exact h.callings o ho i hi hpath.symm
  elsewhere := h.elsewhere
  acyclic j hj := by
    obtain ⟨i, hi, rfl⟩ := List.mem_map.1 hj
    exact h.acyclic i hi

/-- **Generating again.** A run that succeeds has the same result when its text has been written to
the place of the output, if the text is harmless there, or if its names are legible and apart from
the sources. The same holds if the place had a harmless file before, such as the one of an earlier
run. -/
theorem generate_again {input : Path} {g : Generated} {d : Disk} (ht : w.disk.tree.Proper)
    (hn : Plain n)
    (hplace : w.disk.locate (Output.place input none c.outputEnd) = .ok (k ++ [n], none))
    (hp : (Session.openFile w input).answer .fresh = .ok p)
    (hdecls : told.map Prod.fst = Signature.candidates p c.functionStart)
    (hmeets : AllMeet w c p .fresh told)
    (hg : (generate w c input).answer .fresh = .ok g)
    (hbefore : d = w.disk ∨ ∃ earlier, HarmlessText w c p told k n earlier
      ∧ w.disk.writeText (Output.place input none c.outputEnd) earlier = .ok d)
    (hwrite : d.writeText (Output.place input none c.outputEnd) g.text = .ok d')
    (hwritten : HarmlessText w c p told k n g.text
      ∨ ∃ prototypes, Legible c p told prototypes ∧ Apart w c p told k) :
    (generate (w.on d) c input).answer .fresh = .ok g
      ∧ (generate (w.on d') c input).answer .fresh = .ok g := by
  obtain rfl := Except.ok.inj (hg.symm.trans (generate_of_meets hp hdecls hmeets))
  have hharmless : HarmlessText w c p told k n (result c p told).text := by
    rcases hwritten with hharmless | ⟨prototypes, hlegible, hapart⟩
    · exact hharmless
    · exact fun _ => ⟨_, hlegible.declares, hapart.harmless hlegible⟩
  rcases hbefore with rfl | ⟨earlier, hearlier, hold⟩
  · have hfile := Disk.newFile_of_writeText hplace hwrite
    exact ⟨hg, generate_newFile hfile ht hn hp hdecls hmeets hharmless⟩
  · have hfile := Disk.newFile_of_writeText hplace hold
    have hnew := hfile.overwrite hplace hwrite
    exact ⟨generate_newFile hfile ht hn hp hdecls hmeets hearlier,
      generate_newFile hnew ht hn hp hdecls hmeets hharmless⟩

end Generation

/-! ### A file that is apart -/

namespace Sample

/-- A disk with one more file, for which there is a directory. -/
def withFile (d : Disk) (k : Key) (text : String) : Disk :=
  { d with tree := d.tree.insert k (.file (.text text) false) }

set_option maxRecDepth 10000 in
/-- The name of the output is a name. -/
theorem plain_output : Plain "gen_gen.go" := by decide

/-- The disk after the first run. -/
def kindDisk : Disk := withFile kindModule.disk ["m", "gen", "gen_gen.go"] kindFile.text

set_option maxRecDepth 10000 in
theorem proper_kind : kindModule.disk.tree.Proper := by decide

/-- Neither the output nor the field has a qualifier. -/
theorem not_looksFor_kind {q : String} :
    ¬ Generation.LooksFor kindModule .fresh kindGen mapToKind q := by
  intro hq
  cases hq with
  | output hshape hqualifier =>
    obtain ⟨-, rfl⟩ := Prod.mk.inj (Except.ok.inj hshape)
    cases hqualifier
  | field hshape _ hlocate hfield _ htype =>
    obtain ⟨-, rfl⟩ := Prod.mk.inj (Except.ok.inj hshape)
    obtain rfl := Except.ok.inj hlocate
    obtain rfl := List.mem_singleton.1 hfield
    cases htype

/-- The cast is one to a type of the package itself. -/
theorem not_casts_kind {o : Package} :
    ¬ Generation.Casts kindModule .fresh kindGen [(mapToKind, kindFate)] o := by
  intro ho
  cases ho with
  | field hd he howner hother =>
    obtain ⟨-, hfate⟩ := Prod.mk.inj (List.mem_singleton.1 hd)
    obtain ⟨-, -, rfl, rfl⟩ := Generation.Fate.written.inj hfate
    obtain rfl := List.mem_singleton.1 he
    obtain rfl := Option.some.inj (Except.ok.inj howner)
    cases hother

/-- No module has the helpers. -/
theorem not_leadsTo_kind (k : Key) : ¬ LeadsTo kindModule "github.com/spf13/cast" k := by
  rintro ⟨dir, hresolve, -⟩
  have hnone : (Session.resolve kindModule "github.com/spf13/cast").answer .fresh
      = .error (.unresolved "github.com/spf13/cast"
        "no module provides this package (forgot to go get?)") :=
    rfl
  cases hnone.symm.trans hresolve

/-- Nothing is imported. -/
theorem imports_kind {o : Package} (ho : o = kindGen ∨ kindGen.Imports kindModule .fresh o) :
    o.imports = [] := by
  rcases ho with rfl | ⟨path, hpath, -⟩
  · rfl
  · cases hpath

def kindPrototype : Emission.Prototype := ⟨"genMapToBook", "src", "string", .name "any", .name "Book"⟩

theorem legible_kind :
    Generation.Legible {} kindGen [(mapToKind, kindFate)] [kindPrototype] where
  package := by decide
  imports := by
    intro i hi
    obtain rfl := List.mem_singleton.1 hi
    have hplain : ("github.com/spf13/cast".toList.all
        fun c => decide (Source.Token.IsPlain c)) = true := by decide
    exact ⟨by decide, fun c hc => of_decide_eq_true (List.all_eq_true.1 hplain c hc)⟩
  functions := by
    have hkind : Emission.IsReference "Kind" := .name (by decide)
    have htoInt : Emission.IsReference "cast.ToInt" :=
      .qualified (q := "cast") (n := "ToInt") (by decide) (by decide) rfl
    refine .cons ⟨⟨⟨⟨by decide, by decide, by decide,
      .name (by decide), .name (by decide)⟩, rfl, rfl, rfl, rfl⟩, by decide, ?_,
      List.forall_mem_nil _⟩, List.forall_mem_nil _, ?_⟩ .nil
    · exact List.forall_mem_cons.2 ⟨⟨by decide, hkind, htoInt⟩, List.forall_mem_nil _⟩
    · refine List.forall_mem_cons.2 ⟨?_, List.forall_mem_nil _⟩
      rintro cast c i ⟨⟩
      decide

theorem apart_kind : Generation.Apart kindModule {} kindGen [(mapToKind, kindFate)] ["m", "gen"] where
  functions := by decide
  names := by
    intro i _ q _ path hpath
    cases hpath
  unbound := by
    intro df hdf q hlooks
    obtain rfl := List.mem_singleton.1 hdf
    exact absurd hlooks not_looksFor_kind
  callings o ho := absurd ho not_casts_kind
  elsewhere := by
    intro o ho path hpath
    rw [imports_kind ho] at hpath
    cases hpath
  acyclic := by
    intro i hi
    obtain rfl := List.mem_singleton.1 hi
    exact not_leadsTo_kind _

end Sample

namespace Generation

theorem generate_again_kind :
    Sample.kindModule.disk.writeText (Output.place ⟨"/m/gen/gen.go"⟩ none ({} : Config).outputEnd)
        Sample.kindFile.text = .ok Sample.kindDisk
      ∧ (generate Sample.kindModule {} ⟨"/m/gen/gen.go"⟩).answer .fresh = .ok Sample.kindFile
      ∧ (generate (Sample.kindModule.on Sample.kindDisk) {} ⟨"/m/gen/gen.go"⟩).answer .fresh
        = .ok Sample.kindFile := by
  have hplace : Sample.kindModule.disk.locate
      (Output.place ⟨"/m/gen/gen.go"⟩ none ({} : Config).outputEnd)
      = .ok (["m", "gen"] ++ ["gen_gen.go"], none) :=
    rfl
  have hwrite : Sample.kindModule.disk.writeText _ _ = .ok Sample.kindDisk :=
    Disk.writeText_of_none hplace (by decide) (by decide) Sample.kindFile.text
  have hdecls : [(Sample.mapToKind, Sample.kindFate)].map Prod.fst
      = Signature.candidates Sample.kindGen ({} : Config).functionStart :=
    rfl
  obtain ⟨-, hagain⟩ := generate_again Sample.proper_kind Sample.plain_output hplace
    Sample.openFile_kind hdecls Sample.meets_kind Sample.generate_kind (.inl rfl) hwrite
    (.inr ⟨[Sample.kindPrototype], Sample.legible_kind, Sample.apart_kind⟩)
  exact ⟨hwrite, Sample.generate_kind, hagain⟩

end Generation

/-! ### A file that adds a function -/

namespace Sample

set_option maxRecDepth 10000 in
theorem plain_input : Plain "gen.go" := by decide

/-- A file that is written next to `gen.go` is read behind it. -/
theorem openFile_written {w : Surroundings} {source text : String} {d' : Disk}
    {sourceDecls decls : FileDecls} (hfile : w.disk.NewFile ["m", "gen"] "gen_gen.go" text d')
    (hdirectory : w.disk.locate ⟨"/m/gen"⟩ = .ok (["m", "gen"], some .directory))
    (hlist : w.disk.list ⟨"/m/gen"⟩ = .ok [("gen.go", .file (.text source) false)])
    (hread : w.disk.readText ⟨"/m/gen/gen.go"⟩ = .ok source)
    (hsource : Package.Declares source "gen" sourceDecls)
    (htext : Package.Declares text "gen" decls) :
    (Session.openFile (w.on d') ⟨"/m/gen/gen.go"⟩).answer .fresh
      = .ok (Package.ofFiles "gen" "/m/gen" ⟨"/m/gen"⟩
        [(⟨"/m/gen/gen.go"⟩, sourceDecls), (⟨"/m/gen/gen_gen.go"⟩, decls)]) := by
  let := w.recovery
  have hlist' : d'.list ⟨"/m/gen"⟩ = .ok
      [("gen.go", .file (.text source) false), ("gen_gen.go", .file (.text text) false)] := by
    obtain ⟨before, after, hold, hnew⟩ := hfile.list_of_eq hdirectory
    have hone := Except.ok.inj (hold.symm.trans hlist)
    have hall := Disk.list_of_locate (hfile.locate_of_some hdirectory)
    have hsorted := Files.Tree.pairwise_children d'.tree ["m", "gen"]
    rw [Except.ok.inj (hall.symm.trans hnew)] at hsorted
    -- The name of the new file comes behind that of the old one.
    rcases List.append_eq_singleton_iff.1 hone with ⟨rfl, rfl⟩ | ⟨rfl, rfl⟩
    · have hle : "gen_gen.go" ≤ "gen.go" := (List.pairwise_cons.1 hsorted).1 _ List.mem_cons_self
      exact absurd hle (by decide)
    · exact hnew
  have hsources : Package.sourceFiles d' ⟨"/m/gen"⟩
      = .ok [⟨"/m/gen/gen.go"⟩, ⟨"/m/gen/gen_gen.go"⟩] := by
    have hnames : Package.isSourceFile ⟨"gen.go"⟩ = true
        ∧ Package.isSourceFile ⟨"gen_gen.go"⟩ = true := by decide
    have hpaths : Path.joinName ⟨"/m/gen"⟩ "gen.go" = ⟨"/m/gen/gen.go"⟩
        ∧ Path.joinName ⟨"/m/gen"⟩ "gen_gen.go" = ⟨"/m/gen/gen_gen.go"⟩ := by decide
    rw [Package.sourceFiles_of_list hlist', Package.sourcePaths]
    simp [Package.isSourceEntry, hnames, hpaths]
  have hnewText : d'.readText ⟨"/m/gen/gen_gen.go"⟩ = .ok text := by
    have htext := hfile.readText_joinName hdirectory plain_output
    rwa [if_pos rfl] at htext
  have hold : d'.readText ⟨"/m/gen/gen.go"⟩ = .ok source := by
    have hkept := hfile.readText_joinName hdirectory plain_input
    rw [if_neg (by decide)] at hkept
    exact hkept.trans hread
  have hfiles : Package.readFiles d' [⟨"/m/gen/gen.go"⟩, ⟨"/m/gen/gen_gen.go"⟩]
      = .ok [(⟨"/m/gen/gen.go"⟩, sourceDecls), (⟨"/m/gen/gen_gen.go"⟩, decls)] := by
    rw [Package.readFiles, Package.readFiles, hsource.readFile (by decide) hold,
      htext.readFile (by decide) hnewText]
    rfl
  have hvotes : Package.majority? [sourceDecls.package, decls.package] = some "gen" := by
    rw [hsource.package, htext.package]
    decide
  have hdirectory' : d'.isDirectory ⟨"/m/gen"⟩ = true :=
    Disk.isDirectory_of_locate (hfile.locate_of_some hdirectory)
  apply Generation.openFile_fresh_iff.2
  refine ⟨⟨"/m/gen"⟩, rfl, ?_⟩
  refine (Package.ofDirectory_of_files hdirectory' hsources hfiles hvotes).trans ?_
  simp [hsource.package, htext.package]

/-- The characters of a file with a single function, line by line. -/
theorem toList_file {package : String} {is : List PackageImport} {plan : Emission.Plan}
    {lines : List String}
    (hlines : [Emission.marker, "", "package " ++ package] ++ Emission.importLines is
      ++ Emission.functionLines plan = lines) :
    (Emission.header package is ++ ("" ++ Emission.function plan)).toList
      = lines.flatMap fun l => l.toList ++ ['\n'] := by
  rw [Emission.header, Emission.function, String.toList_append, String.toList_append,
    Emission.toList_unlines, Emission.toList_unlines, ← hlines]
  simp

/-- Generated names begin like the names for which code is generated. -/
def prefixConfig : Config := { functionStart := "g", generatedStart := "g" }

def prefixSourceLines : List String :=
  ["package gen", "type Book struct\x7b\x7d",
    "func gBook(m map[string]any) *Book \x7b return nil \x7d"]

def prefixModule : Surroundings := moduleOf [(["m", "gen", "gen.go"], prefixSourceLines)]

def gBook : FuncDecl :=
  ⟨"gBook", [⟨some "m", .map (.name "string") (.name "any")⟩], [⟨none, .pointer (.name "Book")⟩]⟩

/-- The sources of the package, as they are read. -/
def prefixSource : Path × FileDecls :=
  (⟨"/m/gen/gen.go"⟩, ⟨"gen", [], [⟨"Book", .struct [], false⟩], [gBook]⟩)

def prefixGen : Package := Package.ofFiles "gen" "/m/gen" ⟨"/m/gen"⟩ [prefixSource]

/-- A struct without fields from the package `owner` itself is filled. -/
def ownFate (owner : Package) : Generation.Fate :=
  .written ⟨"string", "any", true⟩ ⟨none, "Book", true⟩ ⟨owner, "Book", []⟩ ⟨[], [], [], [], []⟩

/-- The file that is generated. -/
def prefixFile : Generated := Generation.result prefixConfig prefixGen [(gBook, ownFate prefixGen)]

/-- Its lines. -/
def prefixLines : List String :=
  ["// Code generated by map2struct. DO NOT EDIT.", "", "package gen", "",
    "func ggBook(src map[string]any) (obj *Book, err error) \x7b",
    "\tobj = &Book\x7b\x7d", "", "\treturn obj, err", "\x7d"]

def ggBook : FuncDecl :=
  ⟨"ggBook", [⟨some "src", .map (.name "string") (.name "any")⟩],
    [⟨some "obj", .pointer (.name "Book")⟩, ⟨some "err", .name "error"⟩]⟩

/-- What the next run reads of the file. -/
def prefixDecls : FileDecls := ⟨"gen", [], [], [ggBook]⟩

/-- The disk after the first run. -/
def prefixDisk : Disk := withFile prefixModule.disk ["m", "gen", "gen_gen.go"] prefixFile.text

/-- The package, as it is read by the next run. -/
def prefixGenAgain : Package :=
  Package.ofFiles "gen" "/m/gen" ⟨"/m/gen"⟩ [prefixSource, (⟨"/m/gen/gen_gen.go"⟩, prefixDecls)]

/-- The file of the next run: the generated function is a conversion function, too. -/
def prefixFileAgain : Generated := Generation.result prefixConfig prefixGenAgain
  [(gBook, ownFate prefixGenAgain), (ggBook, ownFate prefixGenAgain)]

theorem text_prefixed : prefixFile.text = Emission.header "gen" []
    ++ ("" ++ Emission.function ⟨"ggBook", "src", "map[string]any", "Book", ⟨[], [], [], [], []⟩⟩) :=
  rfl

theorem text_prefixAgain : prefixFileAgain.text = Emission.header "gen" []
    ++ ("" ++ Emission.function ⟨"ggBook", "src", "map[string]any", "Book", ⟨[], [], [], [], []⟩⟩
      ++ Emission.function ⟨"gggBook", "src", "map[string]any", "Book", ⟨[], [], [], [], []⟩⟩) :=
  rfl

set_option maxRecDepth 10000 in
theorem declares_prefixed : Package.Declares prefixFile.text "gen" prefixDecls := by
  have hchars : prefixFile.text.toList = prefixLines.flatMap fun l => l.toList ++ ['\n'] := by
    rw [text_prefixed]
    exact toList_file (by decide)
  simp only [prefixLines, List.flatMap_cons, List.flatMap_nil] at hchars
  repeat rw [String.toList_ofList] at hchars
  exact .of_toList hchars (by decide) (by decide) rfl

set_option maxRecDepth 10000 in
theorem declares_prefixSource :
    Package.Declares (Emission.unlines prefixSourceLines) "gen" prefixSource.2 := by
  have hchars := Emission.toList_unlines prefixSourceLines
  simp only [prefixSourceLines, List.flatMap_cons, List.flatMap_nil] at hchars
  repeat rw [String.toList_ofList] at hchars
  exact .of_toList hchars (by decide) (by decide) rfl

theorem list_prefixed : prefixModule.disk.list ⟨"/m/gen"⟩
    = .ok [("gen.go", .file (.text (Emission.unlines prefixSourceLines)) false)] := by
  decide +kernel

theorem openFile_prefixed :
    (Session.openFile prefixModule ⟨"/m/gen/gen.go"⟩).answer .fresh = .ok prefixGen := by
  have hsources := Package.sourceFiles_of_list list_prefixed
  exact Generation.openFile_fresh_iff.2 ⟨⟨"/m/gen"⟩, rfl,
    Package.ofDirectory_of_file rfl hsources rfl declares_prefixSource (by decide)⟩

theorem generate_prefixed :
    (Generation.generate prefixModule prefixConfig ⟨"/m/gen/gen.go"⟩).answer .fresh
      = .ok prefixFile := by
  have hmeets : Generation.AllMeet prefixModule prefixConfig prefixGen .fresh
      [(gBook, ownFate prefixGen)] := by
    intro df hdf
    obtain rfl := List.mem_singleton.1 hdf
    exact .written rfl rfl rfl
  exact Generation.generate_of_meets openFile_prefixed rfl hmeets

/-- The place of the output is free. -/
theorem locate_prefixed : prefixModule.disk.locate
    (Output.place ⟨"/m/gen/gen.go"⟩ none prefixConfig.outputEnd)
    = .ok (["m", "gen"] ++ ["gen_gen.go"], none) :=
  rfl

theorem writeText_prefixed : prefixModule.disk.writeText
    (Output.place ⟨"/m/gen/gen.go"⟩ none prefixConfig.outputEnd) prefixFile.text = .ok prefixDisk :=
  Disk.writeText_of_none locate_prefixed (by decide) (by decide) prefixFile.text

/-- The next run reads the generated file behind the sources. -/
theorem openFile_prefixed_again :
    (Session.openFile (prefixModule.on prefixDisk) ⟨"/m/gen/gen.go"⟩).answer .fresh
      = .ok prefixGenAgain :=
  openFile_written (Disk.newFile_of_writeText locate_prefixed writeText_prefixed) rfl
    list_prefixed rfl declares_prefixSource declares_prefixed

/-- There is one more conversion function then. -/
theorem generate_prefixed_again :
    (Generation.generate (prefixModule.on prefixDisk) prefixConfig ⟨"/m/gen/gen.go"⟩).answer .fresh
      = .ok prefixFileAgain := by
  have hmeets : Generation.AllMeet (prefixModule.on prefixDisk) prefixConfig prefixGenAgain .fresh
      [(gBook, ownFate prefixGenAgain), (ggBook, ownFate prefixGenAgain)] := by
    intro df hdf
    rcases List.mem_cons.1 hdf with rfl | hdf
    · exact .written rfl rfl rfl
    · obtain rfl := List.mem_singleton.1 hdf
      exact .written rfl rfl rfl
  exact Generation.generate_of_meets openFile_prefixed_again rfl hmeets

end Sample

namespace Generation

/-- A function of the generated file can be a conversion function itself. The next run generates one
more function for it, and the text is a longer one. -/
theorem generate_again_adds :
    Sample.prefixConfig.Valid
      ∧ (generate Sample.prefixModule Sample.prefixConfig ⟨"/m/gen/gen.go"⟩).answer .fresh
        = .ok Sample.prefixFile
      ∧ Sample.prefixModule.disk.writeText
          (Output.place ⟨"/m/gen/gen.go"⟩ none Sample.prefixConfig.outputEnd) Sample.prefixFile.text
        = .ok Sample.prefixDisk
      ∧ (generate (Sample.prefixModule.on Sample.prefixDisk) Sample.prefixConfig
          ⟨"/m/gen/gen.go"⟩).answer .fresh
        = .ok Sample.prefixFileAgain
      ∧ Sample.prefixFileAgain.text ≠ Sample.prefixFile.text := by
  refine ⟨by decide, Sample.generate_prefixed, Sample.writeText_prefixed,
    Sample.generate_prefixed_again, ?_⟩
  intro htext
  rw [Sample.text_prefixed, Sample.text_prefixAgain, ← String.append_assoc] at htext
  -- What comes behind the first text would have to be empty.
  have hchars := congrArg String.toList htext
  rw [String.toList_append, List.append_right_eq_self, Emission.function,
    Emission.toList_unlines] at hchars
  exact absurd hchars (by decide)

end Generation

end StructFill
