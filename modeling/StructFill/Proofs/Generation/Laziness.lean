import StructFill.Proofs.Generation.Independence
import StructFill.Proofs.Session.Locality
import StructFill.Proofs.Session.Readings

/-! # Packages that are not needed

  A package may import many others. A run opens those of them that a conversion
  function has to do with: the package of its output, and those of the types of
  the fields that are not embedded. All others are left alone, so that nothing
  depends on them; they may be broken, or missing.

  **Bound names.** This holds as long as the names that are looked up are bound
  by imports. A name that is not bound is looked for among the declared names of
  the imported packages, and these are opened one after the other.

  **Steps.** What a run opens is put together along the run: one name for an
  output, one for a field, and from there the fields of a struct, the functions
  of a package, and the whole.
-/

namespace StructFill

open Session (Run Reads HasDirectory AgreeOn)
open Source (Field FileDecls FuncDecl)

variable {w w' : Surroundings} {s₀ : Session} {p : Package}

/-! ## Fields -/

namespace Enumeration

/-- To find the declaration of a described type, the package of its qualifier is opened. -/
theorem reads_owner {d : Descriptor} {unit : Package}
    (hbound : ∀ q, d.home = .imported q → (unit.importPathOf? q).isSome) :
    Reads w s₀ (fun path => ∃ q, d.home = .imported q ∧ unit.importPathOf? q = some path)
      (owner w d unit) := by
  unfold owner
  cases hhome : d.home with
  | builtin => exact (Reads.pure _).of_iff (by simp)
  | «local» n => exact (Reads.pure _).of_iff (by simp)
  | imported q => exact (Session.reads_openImport (hbound q hhome)).of_iff (by simp)

theorem reads_resolve {d : Descriptor} {unit : Package}
    (hbound : ∀ q, d.home = .imported q → (unit.importPathOf? q).isSome) :
    Reads w s₀ (fun path => ∃ q, d.home = .imported q ∧ unit.importPathOf? q = some path)
      (resolve w d unit) := by
  refine (reads_owner hbound).outcome.bind_silent (composed_owner d unit).transparent.outcome
    fun outcome => ?_
  rcases outcome with e | _ | o
  · show Reads w s₀ _ (if e.isFatal then throw e else pure _)
    split
    · exact .throw _
    · exact .pure _
  · exact .pure _
  · exact .pure _

end Enumeration

namespace Classification

variable {style : Naming.Style} {struct : OutputStruct} {map : MapParam}

/-- The package of the struct has the path for the qualifier of the field's type. -/
def FieldPath (struct : OutputStruct) (f : Field) (path : String) : Prop :=
  f.embedded = false
    ∧ ∃ q n, f.type.pointee = .qualified q n ∧ struct.owner.importPathOf? q = some path

/-- Each qualifier of a field that is not embedded is bound. -/
def FieldsBound (struct : OutputStruct) (fields : List Field) : Prop :=
  ∀ f ∈ fields, f.embedded = false → ∀ q n, f.type.pointee = .qualified q n →
    (struct.owner.importPathOf? q).isSome

theorem reads_verdict {f : Field} (hbound : f.embedded = false → ∀ q n,
      f.type.pointee = .qualified q n → (struct.owner.importPathOf? q).isSome) :
    Reads w s₀ (FieldPath struct f)
      (verdict w style struct map p f (Descriptor.ofType struct.owner.name f.type)) := by
  -- Only a qualified type refers to another package, and it is no basic type.
  have hqualified : ∀ q n, f.type.pointee = .qualified q n →
      (Descriptor.ofType struct.owner.name f.type).kind = .struct := by
    intro q n htype
    rw [Descriptor.ofType_of_pointee_qualified htype]
  unfold verdict
  cases hembedded : f.embedded with
  | true => exact (Reads.pure _).of_iff fun path => by simp [FieldPath, hembedded]
  | false =>
    simp only [Bool.false_eq_true, if_false]
    cases hkind : (Descriptor.ofType struct.owner.name f.type).kind with
    | base | interface | pointer | unknown =>
      refine (Reads.pure _).of_iff fun path => ⟨False.elim, ?_⟩
      rintro ⟨-, q, n, htype, -⟩
      cases hkind.symm.trans (hqualified q n htype)
    | «struct» =>
      have hhome : ∀ q, (Descriptor.ofType struct.owner.name f.type).home = .imported q →
          (struct.owner.importPathOf? q).isSome := by
        intro q hq
        obtain ⟨n, htype⟩ := Descriptor.home_ofType_eq_imported_iff.1 hq
        exact hbound hembedded q n htype
      refine ((Enumeration.reads_resolve hhome).map _
        (Enumeration.composed_resolve _ _).transparent).of_iff fun path => ?_
      simp only [FieldPath, hembedded, Descriptor.home_ofType_eq_imported_iff, true_and,
        exists_and_right]

/-- Where all fields are classified, the packages of all of them are opened. -/
theorem reads_classifyFields {fields : List Field} {b b' : Buckets}
    (hbound : FieldsBound struct fields)
    (h : (classifyFields w style struct map p fields b).answer s₀ = .ok b') :
    Reads w s₀ (fun path => ∃ f ∈ fields, FieldPath struct f path)
      (classifyFields w style struct map p fields b) := by
  induction fields generalizing b with
  | nil => exact (Reads.pure b).of_iff (by simp)
  | cons f rest ih =>
    rw [classifyFields, (transparent_verdict f _).answer_bind_eq_ok fun v =>
      transparent_classifyFields rest _] at h
    obtain ⟨v, hv, hrest⟩ := h
    have hfirst : Reads w s₀ (FieldPath struct f) (verdict w style struct map p f _) :=
      reads_verdict (hbound f List.mem_cons_self)
    have hothers := ih (fun f' hf' => hbound f' (List.mem_cons_of_mem _ hf')) hrest
    exact (hfirst.bind (transparent_verdict f _) hv hothers).of_iff (by simp)

end Classification

/-! ## Outputs -/

namespace Signature

/-- The package `p` has the path for the qualifier of the output. -/
def OutputPath (p : Package) (o : Output) (path : String) : Prop :=
  ∃ q, o.package = some q ∧ p.importPathOf? q = some path

theorem reads_locate {function : String} {o : Output}
    (hbound : ∀ q, o.package = some q → (p.importPathOf? q).isSome) :
    Reads w s₀ (OutputPath p o) (locate w p function o) := by
  have howner : Reads w s₀ (OutputPath p o) (outputOwner w p function o) := by
    unfold outputOwner
    cases hpackage : o.package with
    | none => exact (Reads.pure _).of_iff fun path => by simp [OutputPath, hpackage]
    | some q =>
      have hopen : Reads w s₀ (OutputPath p o) (Session.openImport w p q) :=
        (Session.reads_openImport (hbound q hpackage)).of_iff fun path => by
          simp [OutputPath, hpackage]
      refine hopen.bind_silent (Session.composed_openImport p q).transparent fun owner => ?_
      cases owner with
      | none => exact .throw _
      | some owner => exact .pure _
  refine howner.bind_silent (composed_outputOwner p function o).transparent fun owner => ?_
  cases owner.findStruct? o.typeName with
  | none => exact .throw _
  | some d => exact .pure _

/-- The path of the output of a declared function. -/
def DeclPath (p : Package) (d : FuncDecl) (path : String) : Prop :=
  ∃ map output, shape d = .ok (map, output) ∧ OutputPath p output path

/-- The qualifiers of the outputs are bound. -/
def OutputsBound (p : Package) (decls : List FuncDecl) : Prop :=
  ∀ d ∈ decls, ∀ map output q, shape d = .ok (map, output) → output.package = some q →
    (p.importPathOf? q).isSome

theorem reads_ofDecl {d : FuncDecl} (hbound : ∀ map output q, shape d = .ok (map, output) →
      output.package = some q → (p.importPathOf? q).isSome) :
    Reads w s₀ (DeclPath p d) (ofDecl w p d) := by
  unfold ofDecl
  cases hshape : shape d with
  | error e => exact (Reads.throw e).of_iff fun path => by simp [DeclPath, hshape]
  | ok found =>
    obtain ⟨map, output⟩ := found
    have hlocate : Reads w s₀ (DeclPath p d) (locate w p d.name output) :=
      (reads_locate fun q => hbound map output q hshape).of_iff fun path => by
        simp [DeclPath, hshape]
    refine hlocate.outcome.bind_silent (composed_locate p d.name output).transparent.outcome
      fun outcome => ?_
    rcases outcome with e | struct
    · show Reads w s₀ _ (if e.isFatal then throw e else pure _)
      split
      · exact .throw _
      · exact .pure _
    · exact .pure _

/-- Where all functions are scanned, the packages of all outputs are opened. -/
theorem reads_scanDecls {decls : List FuncDecl} {scan : Scan} (hbound : OutputsBound p decls)
    (h : (scanDecls w p decls).answer s₀ = .ok scan) :
    Reads w s₀ (fun path => ∃ d ∈ decls, DeclPath p d path) (scanDecls w p decls) := by
  induction decls generalizing scan with
  | nil => exact (Reads.pure _).of_iff (by simp)
  | cons d rest ih =>
    obtain ⟨others, hothers, hfirst⟩ := scanDecls_cons_eq_ok h
    have hdecl := @reads_ofDecl w s₀ p d (hbound d List.mem_cons_self)
    have hrest := ih (fun d' hd' => hbound d' (List.mem_cons_of_mem _ hd')) hothers
    have hall : ∀ k : Scan → Scan, Reads w s₀ (fun path => ∃ d ∈ rest, DeclPath p d path)
        (scanDecls w p rest >>= fun scan => pure (k scan)) :=
      fun k => hrest.bind_silent (transparent_scanDecls p rest) fun _ => .pure _
    have hparts : ∀ path, (∃ d' ∈ d :: rest, DeclPath p d' path)
        ↔ DeclPath p d path ∨ ∃ d' ∈ rest, DeclPath p d' path := by simp
    rw [scanDecls]
    -- A function that is passed over has read what its output needs, as one that is kept has.
    rcases hfirst with ⟨signature, hanswer, -⟩ | ⟨e, hanswer, hfatal, -⟩
    · have houtcome : (ofDecl w p d).outcome.answer s₀ = .ok (.ok signature) :=
        congrArg Except.ok hanswer
      exact (hdecl.outcome.bind (transparent_ofDecl p d).outcome houtcome (hall _)).of_iff
        fun path => (hparts path).symm
    · have houtcome : (ofDecl w p d).outcome.answer s₀ = .ok (.error e) :=
        congrArg Except.ok hanswer
      refine (hdecl.outcome.bind (transparent_ofDecl p d).outcome houtcome ?_).of_iff
        fun path => (hparts path).symm
      simp only [hfatal, Bool.false_eq_true, if_false]
      exact hall _

end Signature

/-! ## Functions -/

namespace Generation

variable {c : Config} {d : FuncDecl}

/-- The packages of the fields of a struct have the path, for the function `d`. -/
def StructPath (w : Surroundings) (s : Session) (p : Package) (d : FuncDecl) (path : String) :
    Prop :=
  ∃ map output struct, Signature.shape d = .ok (map, output)
    ∧ (Signature.locate w p d.name output).answer s = .ok struct
    ∧ ∃ f ∈ struct.fields, Classification.FieldPath struct f path

/-- A function looks up the path of its output, and those of the fields. -/
theorem looksUp_iff {path : String} :
    LooksUp w s₀ p d path ↔ Signature.DeclPath p d path ∨ StructPath w s₀ p d path := by
  constructor
  · rintro (⟨hshape, hqualifier, hentry⟩ | ⟨hshape, hlocate, hfield, hembedded, htype, hentry⟩)
    · exact .inl ⟨_, _, hshape, _, hqualifier, hentry⟩
    · exact .inr ⟨_, _, _, hshape, hlocate, _, hfield, hembedded, _, _, htype, hentry⟩
  · rintro (⟨map, output, hshape, q, hqualifier, hentry⟩
      | ⟨map, output, struct, hshape, hlocate, f, hfield, hembedded, q, n, htype, hentry⟩)
    · exact .output hshape hqualifier hentry
    · exact .field hshape hlocate hfield hembedded htype hentry

/-- All names that are looked up for a conversion function are bound by imports: that of the output
in the package of the function, and those of the fields in the package of the struct. -/
structure NamesBound (w : Surroundings) (s : Session) (c : Config) (p : Package) : Prop where
  outputs : Signature.OutputsBound p (Signature.candidates p c.functionStart)
  fields : ∀ d ∈ Signature.candidates p c.functionStart, ∀ o q, LooksIn w s p d o q →
    (o.importPathOf? q).isSome

/-- What comes of a signature takes the packages of the fields of its struct. -/
theorem reads_piece {signature : Signature} {result : Piece}
    (hbound : ∀ struct, signature.struct = .ok struct →
      Classification.FieldsBound struct struct.fields)
    (h : (piece w c p signature).answer s₀ = .ok result) :
    Reads w s₀ (fun path => ∃ struct, signature.struct = .ok struct
      ∧ ∃ f ∈ struct.fields, Classification.FieldPath struct f path) (piece w c p signature) := by
  unfold piece at h ⊢
  cases hstruct : signature.struct with
  | error e => exact (Reads.pure _).of_iff (by simp)
  | ok struct =>
    rw [hstruct] at h
    -- The run succeeded, so that no field ended it. Hence all of the fields have been looked at.
    have hclassify : ∃ b, (Classification.classify w ⟨c.conversionStart, c.tagKey⟩ struct
        signature.map p).answer s₀ = .ok b := by
      obtain ⟨outcome, houtcome, h⟩ := Run.answer_bind_eq_ok.1 h
      rcases outcome with e | b
      · cases h
      · exact ⟨b, Except.ok.inj houtcome⟩
    obtain ⟨b, hb⟩ := hclassify
    have hfields := Classification.reads_classifyFields (hbound struct hstruct) hb
    refine (hfields.outcome.bind_silent
      (Classification.transparent_classifyFields struct.fields .empty).outcome
      fun outcome => ?_).of_iff (by simp)
    rcases outcome with e | b
    · exact .throw _
    · exact .pure _

/-- What comes of the functions takes the packages of the fields of all structs. -/
theorem reads_pieces {decls : List FuncDecl} {scan : Scan} {ps : List Piece}
    (hbound : ∀ d ∈ decls, ∀ o q, LooksIn w s₀ p d o q → (o.importPathOf? q).isSome)
    (hscan : (Signature.scanDecls w p decls).answer s₀ = .ok scan)
    (hpieces : (pieces w c p scan.functions).answer s₀ = .ok ps) :
    Reads w s₀ (fun path => ∃ d ∈ decls, StructPath w s₀ p d path)
      (pieces w c p scan.functions) := by
  induction decls generalizing scan ps with
  | nil =>
    obtain rfl : ⟨[], []⟩ = scan := Except.ok.inj hscan
    exact (Reads.pure _).of_iff (by simp)
  | cons d rest ih =>
    obtain ⟨others, hothers, hfirst⟩ := Signature.scanDecls_cons_eq_ok hscan
    have hbound' : ∀ d' ∈ rest, ∀ o q, LooksIn w s₀ p d' o q → (o.importPathOf? q).isSome :=
      fun d' hd' => hbound d' (List.mem_cons_of_mem _ hd')
    have hparts : ∀ path, (∃ d' ∈ d :: rest, StructPath w s₀ p d' path)
        ↔ StructPath w s₀ p d path ∨ ∃ d' ∈ rest, StructPath w s₀ p d' path := by simp
    rcases hfirst with ⟨signature, hdecl, rfl⟩ | ⟨e, hdecl, hfatal, rfl⟩
    · obtain ⟨map, output, hshape, rfl, -⟩ := Signature.ofDecl_eq_ok hdecl
      obtain ⟨first, ps', hfirst, hrest, rfl⟩ := pieces_cons_eq_ok hpieces
      have hone := reads_piece (fun struct hlocate f hf hembedded q n htype =>
        hbound d List.mem_cons_self _ q (.field hshape hlocate hf hembedded htype)) hfirst
      have hone' : Reads w s₀ (StructPath w s₀ p d) (piece w c p _) :=
        hone.of_iff fun path => by simp [StructPath, hshape]
      have hall := ih hbound' hothers hrest
      rw [pieces]
      exact (hone'.bind (transparent_piece _) hfirst
        (hall.bind_silent (transparent_pieces _) fun _ => .pure _)).of_iff
          fun path => (hparts path).symm
    · -- A function without a signature has no struct.
      have hshape := Signature.ofDecl_eq_error hdecl hfatal
      have hnone : ∀ path, ¬ StructPath w s₀ p d path := by
        rintro path ⟨map, output, struct, hshape', -⟩
        cases hshape.symm.trans hshape'
      exact (ih hbound' hothers hpieces).of_iff fun path => by simp [hnone]

/-! ## Runs -/

theorem reads_ofPackage {g : Generated} (hbound : NamesBound w s₀ c p)
    (h : (ofPackage w c p).answer s₀ = .ok g) :
    Reads w s₀ (fun path => ∃ d ∈ Signature.candidates p c.functionStart, LooksUp w s₀ p d path)
      (ofPackage w c p) := by
  rw [ofPackage, (Signature.transparent_scan p c.functionStart).answer_bind_eq_ok
    (transparent_puttingTogether p)] at h
  obtain ⟨scan, hscan, h⟩ := h
  obtain ⟨ps, hps, -⟩ := Run.answer_bind_eq_ok.1 h
  have houtputs : Reads w s₀ _ (Signature.scan w p c.functionStart) :=
    Signature.reads_scanDecls hbound.outputs hscan
  have hstructs := (reads_pieces hbound.fields hscan hps).bind_silent
    (transparent_pieces scan.functions) fun ps => .pure (assemble p.name scan.skipped ps)
  refine (houtputs.bind (Signature.transparent_scan p c.functionStart) hscan hstructs).of_iff
    fun path => ?_
  simp only [looksUp_iff, ← exists_or, and_or_left]

/-- The paths that a run needs: the directory of the input, and what the conversion functions look
up. -/
inductive Needs (w : Surroundings) (c : Config) (input : Path) (p : Package) : String → Prop where
  | input {dir : Path} (hdir : input.parent?.filter (·.isAbsolute) = some dir) :
    Needs w c input p dir.text
  | lookup {d path} (hd : d ∈ Signature.candidates p c.functionStart)
    (hlookup : LooksUp w .fresh p d path) : Needs w c input p path

variable {input : Path} {g : Generated}

theorem reads_generate (hp : (Session.openFile w input).answer .fresh = .ok p)
    (hbound : NamesBound w .fresh c p) (hg : (generate w c input).answer .fresh = .ok g) :
    Reads w .fresh (Needs w c input p) (generate w c input) := by
  obtain ⟨dir, hdir, -⟩ := openFile_fresh_iff.1 hp
  have hopen : Reads w .fresh (· = dir.text) (Session.openFile w input) := by
    unfold Session.openFile
    rw [hdir]
    refine (Session.reads_openPath dir.text).bind_silent (Session.transparent_openPath dir.text)
      fun opened => ?_
    cases opened with
    | none => exact .throw _
    | some p => exact .pure p
  rw [generate_eq_bind] at hg ⊢
  rw [(Session.transparent_openFile input).answer_bind transparent_ofPackage, hp] at hg
  refine (hopen.bind (Session.transparent_openFile input) hp
    (reads_ofPackage hbound hg)).of_iff fun path => ?_
  -- What is needed is the package of the input and what its functions look up.
  constructor
  · rintro (rfl | ⟨d, hd, hlookup⟩)
    · exact .input hdir
    · exact .lookup hd hlookup
  · rintro (hdir' | ⟨hd, hlookup⟩)
    · exact .inl (congrArg Path.text (Option.some.inj (hdir'.symm.trans hdir)))
    · exact .inr ⟨_, hd, hlookup⟩

/-! ## Other surroundings -/

/-- The input is opened alike where its directory has the same sources. -/
theorem openFile_congr (hp : (Session.openFile w input).answer .fresh = .ok p)
    (h : ∀ path, Needs w c input p path → AgreeOn w w' path) :
    (Session.openFile w' input).answer .fresh = .ok p := by
  obtain ⟨dir, hdir, hread⟩ := openFile_fresh_iff.1 hp
  have hresolve := (resolve_directory (w := w) (Option.filter_eq_some_iff.1 hdir).2).2
  have hagree := h _ (.input hdir)
  have hsame := Surroundings.read_congr hagree.parser (hagree.directory _ hresolve) dir.text
  exact openFile_fresh_iff.2 ⟨dir, hdir, hsame.trans hread⟩

/-- A run that succeeds has the same result wherever the surroundings agree on what it needs. -/
theorem generate_of_agreeOn (hp : (Session.openFile w input).answer .fresh = .ok p)
    (hbound : NamesBound w .fresh c p) (hg : (generate w c input).answer .fresh = .ok g)
    (hstandard : Session.standardOf w' .fresh = Session.standardOf w .fresh)
    (h : ∀ path, Needs w c input p path → AgreeOn w w' path) :
    (generate w' c input).answer .fresh = .ok g := by
  obtain ⟨p', -, told, hp', hdecls, hmeets, -, -⟩ := told_of_generate hg
  obtain rfl := Except.ok.inj (hp'.symm.trans hp)
  obtain rfl := Except.ok.inj (hg.symm.trans (generate_of_meets hp hdecls hmeets))
  have hd : ∀ df ∈ told, df.1 ∈ Signature.candidates p' c.functionStart := by
    intro df hdf
    rw [← hdecls]
    exact List.mem_map_of_mem hdf
  -- A name that is bound leads to a path that the run needs.
  have hopen : ∀ df ∈ told, ∀ (o : Package) q, (o.importPathOf? q).isSome →
      (∀ path, o.importPathOf? q = some path → LooksUp w .fresh p' df.1 path) →
      (Session.openImport w' o q).answer .fresh = (Session.openImport w o q).answer .fresh := by
    intro df hdf o q hsome hlookup
    obtain ⟨path, hpath⟩ := Option.isSome_iff_exists.1 hsome
    simp only [Session.openImport, hpath]
    exact Session.openPath_congr hstandard (h path (.lookup (hd df hdf) (hlookup path hpath)))
  have hagrees : Agrees w .fresh p' w' .fresh p' c told := by
    refine ⟨rfl, rfl, fun _ => rfl, ?_, ?_, fun _ _ => rfl⟩
    · intro df hdf q hlooks
      cases hlooks with
      | output hshape hqualifier =>
        exact hopen df hdf p' q (hbound.outputs _ (hd df hdf) _ _ q hshape hqualifier)
          fun path hpath => .output hshape hqualifier hpath
      | field hshape hown hlocate hfield hembedded htype =>
        have howner := owner_of_locate hlocate
        rw [hown] at howner
        obtain rfl := howner
        exact hopen df hdf _ q
          (hbound.fields _ (hd df hdf) _ q (.field hshape hlocate hfield hembedded htype))
          fun path hpath => .field hshape hlocate hfield hembedded htype hpath
    · intro df hdf o q _ hlooks
      have hsome := hbound.fields _ (hd df hdf) o q hlooks
      cases hlooks with
      | field hshape hlocate hfield hembedded htype =>
        exact hopen df hdf _ q hsome
          fun path hpath => .field hshape hlocate hfield hembedded htype hpath
  exact hagrees.generate_eq (openFile_congr hp h) hdecls hmeets

/-- **Laziness.** Consider a run that succeeds, where each name that is looked up is bound by an
import. It reads the directories of the paths that it needs, each of them once, and no others. In
all surroundings that agree on these, it has the same result, so that nothing depends on any other
package. -/
theorem generate_reads_needed (earlier : List Session.Question)
    (hp : (Session.openFile w input).answer .fresh = .ok p) (hbound : NamesBound w .fresh c p)
    (hg : (generate w c input).answer (Session.afterAll (earlier.map (w, ·)) .fresh) = .ok g) :
    let before := Session.afterAll (earlier.map (w, ·)) .fresh
    let after := (generate w c input).after before
    after.readPaths.Nodup ∧ after.readPaths.length = after.parsed
      ∧ (∀ path, path ∈ after.readPaths
        ↔ path ∈ before.readPaths ∨ Needs w c input p path ∧ HasDirectory w .fresh path)
      ∧ ∀ w' (earlier' : List Session.Question),
        Session.standardOf w' .fresh = Session.standardOf w .fresh →
        (∀ path, Needs w c input p path → AgreeOn w w' path) →
        (generate w' c input).answer (Session.afterAll (earlier'.map (w', ·)) .fresh) = .ok g := by
  have hanswers := Session.answers_afterAll (w := w) earlier .fresh
  have hfresh : (generate w c input).answer .fresh = .ok g :=
    (Session.answer_ask_afterAll (.generation c input) earlier .fresh).symm.trans hg
  have hconsistent := Session.preserves_ask w (.generation c input) _
    (Session.consistent_afterAll (earlier.map (w, ·)))
  refine ⟨hconsistent.nodup_readPaths, hconsistent.length_readPaths,
    reads_generate hp hbound hfresh _ hanswers, ?_⟩
  intro w' earlier' hstandard h
  exact (Session.answer_ask_afterAll (.generation c input) earlier' .fresh).trans
    (generate_of_agreeOn hp hbound hfresh hstandard h)

end Generation

/-! ## An import that is not needed -/

namespace Sample

def idleSourceLines : List String :=
  ["package gen", "import (", "\t\"m/missing\"", "\t\"m/model\"", ")",
    "func MapToBook(m map[string]any) *model.Book \x7b return nil \x7d"]

/-- One of two imports leads to a directory that does not exist. -/
def idleModule : Surroundings := moduleOf
  [(["m", "gen", "gen.go"], idleSourceLines), (["m", "model", "a.go"], modelLines)]

/-- The sources of the package, as they are read. -/
def idleSource : Path × FileDecls :=
  (⟨"/m/gen/gen.go"⟩, ⟨"gen", [⟨"m/missing", none⟩, ⟨"m/model", none⟩], [], [mapToModel]⟩)

def idleGen : Package := Package.ofFiles "gen" "/m/gen" ⟨"/m/gen"⟩ [idleSource]

def idleFile : Generated := Generation.result {} idleGen
  [(mapToModel, emptyFate "model" aliasModel)]

set_option maxRecDepth 10000 in
theorem openFile_idle :
    (Session.openFile idleModule ⟨"/m/gen/gen.go"⟩).answer .fresh = .ok idleGen := by
  have hdecls : Package.Declares (Emission.unlines idleSourceLines) "gen" idleSource.2 := by
    have hchars := Emission.toList_unlines idleSourceLines
    rw [idleSourceLines] at hchars ⊢
    simp only [List.flatMap_cons, List.flatMap_nil] at hchars
    repeat rw [String.toList_ofList] at hchars
    exact .of_toList hchars (by decide) (by decide) rfl
  have hread : idleModule.disk.readText ⟨"/m/gen/gen.go"⟩
      = .ok (Emission.unlines idleSourceLines) := rfl
  have hsources : Package.sourceFiles idleModule.disk ⟨"/m/gen"⟩ = .ok [⟨"/m/gen/gen.go"⟩] := by
    decide +kernel
  exact Generation.openFile_fresh_iff.2
    ⟨⟨"/m/gen"⟩, rfl, Package.ofDirectory_of_file rfl hsources hread hdecls (by decide)⟩

theorem openPath_idle :
    (Session.openPath idleModule "m/model").answer .fresh = .ok (some aliasModel) := by
  have hsources : Package.sourceFiles idleModule.disk ⟨"/m/model"⟩
      = .ok [⟨"/m/model/a.go"⟩] := by
    decide +kernel
  exact Session.openPath_of_read (by decide)
    (Package.ofDirectory_of_file rfl hsources rfl declares_model (by decide)) rfl

theorem locate_idle :
    (Signature.locate idleModule idleGen "MapToBook" ⟨some "model", "Book", true⟩).answer .fresh
      = .ok ⟨aliasModel, "Book", []⟩ := by
  have himport : idleGen.importPathOf? "model" = some "m/model" := rfl
  simp only [Signature.locate, Signature.outputOwner, Session.openImport, himport,
    Run.answer_bind, openPath_idle, Except.bind]
  rfl

theorem generate_idle :
    (Generation.generate idleModule {} ⟨"/m/gen/gen.go"⟩).answer .fresh = .ok idleFile := by
  refine Generation.generate_of_meets openFile_idle rfl fun df hdf => ?_
  obtain rfl := List.mem_singleton.1 hdf
  exact .written rfl locate_idle rfl

theorem namesBound_idle : Generation.NamesBound idleModule .fresh {} idleGen where
  outputs := by
    intro d hd map output q hshape hq
    obtain rfl := List.mem_singleton.1 hd
    obtain ⟨-, rfl⟩ := Prod.mk.inj (Except.ok.inj hshape)
    obtain rfl := Option.some.inj hq
    decide
  fields := by
    intro d hd o q hlooks
    obtain rfl := List.mem_singleton.1 hd
    cases hlooks with
    | field hshape hlocate hfield =>
      -- The struct has no fields.
      obtain ⟨-, rfl⟩ := Prod.mk.inj (Except.ok.inj hshape)
      obtain rfl := Except.ok.inj (locate_idle.symm.trans hlocate)
      cases hfield

end Sample

namespace Generation

open Sample (idleModule idleGen)

/-- The path `m/missing` has a directory, as the module has one, but nobody asks for it. -/
theorem generate_reads_needed_idle :
    (Session.openFile idleModule ⟨"/m/gen/gen.go"⟩).answer .fresh = .ok idleGen
      ∧ NamesBound idleModule .fresh {} idleGen
      ∧ (generate idleModule {} ⟨"/m/gen/gen.go"⟩).answer .fresh = .ok Sample.idleFile
      ∧ idleGen.importPaths = ["m/missing", "m/model"]
      ∧ HasDirectory idleModule .fresh "m/missing"
      ∧ (∀ path, path ∈ ((generate idleModule {} ⟨"/m/gen/gen.go"⟩).after .fresh).readPaths
        ↔ path = "/m/gen" ∨ path = "m/model")
      ∧ ∀ w', Session.standardOf w' .fresh = Session.standardOf idleModule .fresh →
        AgreeOn idleModule w' "/m/gen" → AgreeOn idleModule w' "m/model" →
        (generate w' {} ⟨"/m/gen/gen.go"⟩).answer .fresh = .ok Sample.idleFile := by
  have hneeds : ∀ path, Needs idleModule {} ⟨"/m/gen/gen.go"⟩ idleGen path
      ↔ path = "/m/gen" ∨ path = "m/model" := by
    intro path
    constructor
    · intro hneeds
      cases hneeds with
      | input hdir => exact .inl (congrArg Path.text (Option.some.inj hdir)).symm
      | lookup hd hlookup =>
        obtain rfl := List.mem_singleton.1 hd
        cases hlookup with
        | output hshape hq hentry =>
          obtain ⟨-, rfl⟩ := Prod.mk.inj (Except.ok.inj hshape)
          obtain rfl := Option.some.inj hq
          exact .inr (Option.some.inj hentry).symm
        | field hshape hlocate hfield =>
          obtain ⟨-, rfl⟩ := Prod.mk.inj (Except.ok.inj hshape)
          obtain rfl := Except.ok.inj (Sample.locate_idle.symm.trans hlocate)
          cases hfield
    · rintro (rfl | rfl)
      · exact @Needs.input idleModule {} ⟨"/m/gen/gen.go"⟩ idleGen ⟨"/m/gen"⟩ rfl
      · exact .lookup (d := Sample.mapToModel) (by decide) (.output rfl rfl rfl)
  obtain ⟨-, -, hreads, hsame⟩ := generate_reads_needed []
    Sample.openFile_idle Sample.namesBound_idle Sample.generate_idle
  refine ⟨Sample.openFile_idle, Sample.namesBound_idle, Sample.generate_idle, by decide,
    ⟨by decide, _, rfl⟩, ?_, ?_⟩
  · intro path
    refine (hreads path).trans ?_
    rw [hneeds]
    constructor
    · rintro (hnone | ⟨hpath, -⟩)
      · cases hnone
      · exact hpath
    · intro hpath
      refine .inr ⟨hpath, ?_⟩
      rcases hpath with rfl | rfl
      · exact ⟨by decide, _, rfl⟩
      · exact ⟨by decide, _, rfl⟩
  · intro w' hstandard hgen hmodel
    refine hsame w' [] hstandard fun path hpath => ?_
    rcases (hneeds path).1 hpath with rfl | rfl
    · exact hgen
    · exact hmodel

end Generation
end StructFill
