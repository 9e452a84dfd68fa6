import StructFill.Proofs.Classification.Domain
import StructFill.Proofs.Generation.Accounting
import StructFill.Proofs.Session.Failures

/-! # Which failures end a run

  Errors are met all over a dependency tree, and each of the functions that
  they pass through decides anew whether to hand them on. In the end there is
  one rule. A run ends early in two ways only: the input cannot be opened, or a
  **look-up** fails for good, which is the opening of a package that an entry of
  an import table leads to. A conversion function looks up the package of its
  output, and those of the types of its fields.
-/

namespace StructFill

open Session (Run Consistent Transparent)
open Source (Field FuncDecl TypeExpr)

variable {w : Surroundings} {s : Session} {p : Package} {e : Error}

/-- The local name `q` is in the import table of `p`, and leads to a package that cannot be
opened. -/
def Package.FailsToOpen (w : Surroundings) (s : Session) (p : Package) (q : String) (e : Error) :
    Prop :=
  ∃ path, p.importPathOf? q = some path ∧ (Session.openPath w path).answer s = .error e

/-! ## Fields -/

/-- Only a qualified name refers to an imported package. -/
theorem Descriptor.home_ofType_eq_imported_iff {package q : String} {t : TypeExpr} :
    (ofType package t).home = .imported q ↔ ∃ n, t.pointee = .qualified q n := by
  have hname : ∀ n, (ofName package n).home ≠ .imported q := by
    intro n
    unfold ofName
    split
    · simp
    · split <;> simp
  constructor
  · intro h
    cases t with
    | name n => exact absurd h (hname n)
    | qualified q' n => exact ⟨n, by simpa [ofType, TypeExpr.pointee] using h⟩
    | pointer inner =>
      cases inner with
      | name n => exact absurd h (hname n)
      | qualified q' n => exact ⟨n, by simpa [ofType, TypeExpr.pointee] using h⟩
      | _ => simp [ofType] at h
    | _ => simp [ofType] at h
  · rintro ⟨n, hn⟩
    rw [ofType_of_pointee_qualified hn]

namespace Enumeration

theorem owner_eq_error_iff {d : Descriptor} : (owner w d p).answer s = .error e ↔
    ∃ q, d.home = .imported q ∧ p.FailsToOpen w s q e := by
  unfold owner
  cases hhome : d.home with
  | builtin | «local» n => simp
  | imported q =>
    simp only [Home.imported.injEq, exists_eq_left']
    exact Session.openImport_eq_error_iff

/-- The look-up of a type hands on the errors that are fatal, and no others. -/
theorem resolve_eq_error_iff {d : Descriptor} : (resolve w d p).answer s = .error e ↔
    e.isFatal = true ∧ (owner w d p).answer s = .error e := by
  rw [resolve, Run.answer_bind, Run.answer_outcome]
  rcases (owner w d p).answer s with err | _ | o
  · change (if err.isFatal then throw err else pure (unavailable err.message) :
      Run Enumeration).answer _ = _ ↔ _
    cases hfatal : err.isFatal with
    | true =>
      rw [if_pos rfl, Run.answer_throw]
      constructor
      · intro h
        obtain rfl := Except.error.inj h
        exact ⟨hfatal, rfl⟩
      · rintro ⟨-, h⟩
        rw [Except.error.inj h]
    | false =>
      simp only [Bool.false_eq_true, if_false, Run.answer_pure, reduceCtorEq, false_iff]
      rintro ⟨hfatal', h⟩
      obtain rfl := Except.error.inj h
      simp [hfatal] at hfatal'
  · simp [Except.bind]
  · simp [Except.bind]

end Enumeration

namespace Classification

variable {style : Naming.Style} {struct : OutputStruct} {map : MapParam}

/-- A field ends the run exactly if the package of its type fails for good. Of an embedded field
the type is not looked up. -/
theorem fieldVerdict_eq_error_iff {f : Field} :
    (fieldVerdict w style struct map p f).answer s = .error e ↔
      e.isFatal = true ∧ f.embedded = false
        ∧ ∃ q n, f.type.pointee = .qualified q n ∧ struct.owner.FailsToOpen w s q e := by
  have howner : (Enumeration.owner w (Descriptor.ofType struct.owner.name f.type) struct.owner).answer
      s = .error e ↔ ∃ q n, f.type.pointee = .qualified q n ∧ struct.owner.FailsToOpen w s q e := by
    simp only [Enumeration.owner_eq_error_iff, Descriptor.home_ofType_eq_imported_iff]
    constructor
    · rintro ⟨q, ⟨n, htype⟩, hopen⟩
      exact ⟨q, n, htype, hopen⟩
    · rintro ⟨q, n, htype, hopen⟩
      exact ⟨q, ⟨n, htype⟩, hopen⟩
  rw [← howner, fieldVerdict, verdict]
  cases hembedded : f.embedded with
  | true => simp
  | false =>
    simp only [Bool.false_eq_true, if_false, true_and]
    cases hkind : (Descriptor.ofType struct.owner.name f.type).kind with
    | «struct» =>
      dsimp only
      rw [Run.answer_map_eq_error, Enumeration.resolve_eq_error_iff]
    | base | pointer | interface | unknown =>
      -- Only names of declared types are looked up.
      have hnone : ¬ (Enumeration.owner w (Descriptor.ofType struct.owner.name f.type)
          struct.owner).answer s = .error e := by
        rw [howner]
        rintro ⟨q, n, htype, -⟩
        rw [Descriptor.ofType_of_pointee_qualified htype] at hkind
        cases hkind
      simp [hnone]

/-- The classification fails if the verdict on some field does. -/
theorem exists_of_classifyFields_eq_error {fields : List Field} {b : Buckets}
    (h : (classifyFields w style struct map p fields b).answer s = .error e) :
    ∃ f ∈ fields, (fieldVerdict w style struct map p f).answer s = .error e := by
  induction fields generalizing b with
  | nil => cases h
  | cons f rest ih =>
    rw [classifyFields, (transparent_verdict f _).answer_bind_eq_error
      fun v => transparent_classifyFields rest _] at h
    rcases h with h | ⟨v, -, h⟩
    · exact ⟨f, List.mem_cons_self, h⟩
    · obtain ⟨f', hf', h⟩ := ih h
      exact ⟨f', List.mem_cons_of_mem _ hf', h⟩

/-- If it succeeds, the verdict on each field does. -/
theorem exists_verdict_of_classify {b : Buckets} {f : Field} (hf : f ∈ struct.fields)
    (h : (classify w style struct map p).answer s = .ok b) :
    ∃ v, (fieldVerdict w style struct map p f).answer s = .ok v := by
  obtain ⟨placed, hfields, hjudged, -⟩ := classify_eq_ok h
  rw [← hfields] at hf
  obtain ⟨fv, hfv, rfl⟩ := List.mem_map.1 hf
  exact ⟨fv.2, hjudged fv hfv⟩

end Classification

/-! ## Functions -/

namespace Signature

variable {d : FuncDecl} {struct : OutputStruct} {output : Output} {map : MapParam}

theorem outputOwner_eq_error_iff (function : String) (hfatal : e.isFatal = true) :
    (outputOwner w p function output).answer s = .error e ↔
      ∃ q, output.package = some q ∧ p.FailsToOpen w s q e := by
  unfold outputOwner
  cases hpackage : output.package with
  | none => simp
  | some q =>
    have hopen : (Session.openImport w p q).answer s = .error e ↔ p.FailsToOpen w s q e :=
      Session.openImport_eq_error_iff
    simp only [Run.answer_bind_eq_error, hopen, Option.some.injEq, exists_eq_left']
    constructor
    · rintro (h | ⟨o?, -, h⟩)
      · exact h
      · -- That there is no package is reported, and is not fatal.
        cases o? with
        | some o => cases h
        | none =>
          obtain rfl := Except.error.inj h
          cases hfatal
    · exact .inl

/-- Looking up a struct ends the run exactly if the package of the output fails for good. -/
theorem locate_eq_error_iff (function : String) (hfatal : e.isFatal = true) :
    (locate w p function output).answer s = .error e ↔
      ∃ q, output.package = some q ∧ p.FailsToOpen w s q e := by
  rw [← outputOwner_eq_error_iff function hfatal, locate, Run.answer_bind_eq_error]
  constructor
  · rintro (h | ⟨owner, -, h⟩)
    · exact h
    · split at h
      · cases h
      · obtain rfl := Except.error.inj h
        cases hfatal
  · exact .inl

/-- Reading a signature ends the run only by the look-up of the struct. -/
theorem locate_of_ofDecl_eq_error (h : (ofDecl w p d).answer s = .error e)
    (hfatal : e.isFatal = true) : ∃ map output, shape d = .ok (map, output)
      ∧ (locate w p d.name output).answer s = .error e := by
  rcases ofDecl_eq_error_cases h with hshape | ⟨-, hlocate⟩
  · obtain ⟨reason, rfl⟩ := shape_eq_error hshape
    cases hfatal
  · exact hlocate

/-- The scan of several functions ends with the fatal error of one of them, noted with it. -/
theorem exists_of_scanDecls_eq_error {decls : List FuncDecl}
    (h : (scanDecls w p decls).answer s = .error e) :
    ∃ d ∈ decls, ∃ e', (ofDecl w p d).answer s = .error e' ∧ e'.isFatal = true
      ∧ e = e'.inFunction d.name := by
  induction decls with
  | nil => cases h
  | cons d rest ih =>
    have hlater : (scanDecls w p rest).answer s = .error e → ∃ d' ∈ d :: rest, ∃ e',
        (ofDecl w p d').answer s = .error e' ∧ e'.isFatal = true ∧ e = e'.inFunction d'.name := by
      intro h
      obtain ⟨d', hd', hrest⟩ := ih h
      exact ⟨d', List.mem_cons_of_mem _ hd', hrest⟩
    -- What is asked for the first function changes no answer for the others, so that the hypothesis
    -- on the same session applies to the rest.
    have hrest : (scanDecls w p rest).answer ((ofDecl w p d).outcome.after s)
        = (scanDecls w p rest).answer s :=
      (transparent_scanDecls p rest).answer_after (transparent_ofDecl p d).keeps s
    rw [scanDecls, Run.answer_bind, Run.answer_outcome] at h
    cases hdecl : (ofDecl w p d).answer s with
    | ok signature =>
      rw [hdecl] at h
      obtain h | ⟨scan, -, h⟩ := Run.answer_bind_eq_error.1 h
      · exact hlater (hrest.symm.trans h)
      · cases h
    | error e' =>
      rw [hdecl] at h
      change (if e'.isFatal then throw (e'.inFunction d.name) else scanDecls w p rest >>= _ :
        Run Scan).answer _ = _ at h
      cases hfatal : e'.isFatal with
      | true =>
        rw [hfatal] at h
        exact ⟨d, List.mem_cons_self, e', hdecl, hfatal, (Except.error.inj h).symm⟩
      | false =>
        rw [hfatal] at h
        obtain h | ⟨scan, -, h⟩ := Run.answer_bind_eq_error.1 h
        · exact hlater (hrest.symm.trans h)
        · cases h

/-- The signatures that a scan keeps are those of the functions. -/
theorem ofDecl_of_mem_scan {decls : List FuncDecl} {scan : Scan} {signature : Signature}
    (h : (scanDecls w p decls).answer s = .ok scan) (hmem : signature ∈ scan.functions) :
    ∃ d ∈ decls, (ofDecl w p d).answer s = .ok signature := by
  induction decls generalizing scan with
  | nil =>
    obtain rfl := Except.ok.inj h
    cases hmem
  | cons d rest ih =>
    have hlater : ∀ {others}, (scanDecls w p rest).answer s = .ok others →
        signature ∈ others.functions → ∃ d' ∈ d :: rest,
          (ofDecl w p d').answer s = .ok signature := by
      intro others hothers hmem
      obtain ⟨d', hd', hdecl⟩ := ih hothers hmem
      exact ⟨d', List.mem_cons_of_mem _ hd', hdecl⟩
    obtain ⟨others, hothers, ⟨first, hdecl, rfl⟩ | ⟨e, -, -, rfl⟩⟩ := scanDecls_cons_eq_ok h
    · rcases List.mem_cons.1 hmem with rfl | hmem
      · exact ⟨d, List.mem_cons_self, hdecl⟩
      · exact hlater hothers hmem
    · exact hlater hothers hmem

end Signature

namespace Generation

variable {c : Config} {d : FuncDecl}

/-- The package `p` looks up import paths for its function `d`: that of the output type, and those
of the types of the fields, as the package of the struct imports them. -/
inductive LooksUp (w : Surroundings) (s : Session) (p : Package) (d : FuncDecl) : String → Prop
    where
  | output {map output q path} (hshape : Signature.shape d = .ok (map, output))
    (hqualifier : output.package = some q) (hentry : p.importPathOf? q = some path) :
    LooksUp w s p d path
  | field {map output struct f q n path} (hshape : Signature.shape d = .ok (map, output))
    (hlocate : (Signature.locate w p d.name output).answer s = .ok struct)
    (hfield : f ∈ struct.fields) (hembedded : f.embedded = false)
    (htype : f.type.pointee = .qualified q n) (hentry : struct.owner.importPathOf? q = some path) :
    LooksUp w s p d path

/-- A look-up for one of the conversion functions fails for good. The error is noted with the
function. -/
inductive Aborts (w : Surroundings) (s : Session) (c : Config) (p : Package) : Error → Prop where
  | lookup {d path e} (hd : d ∈ Signature.candidates p c.functionStart)
    (hlookup : LooksUp w s p d path) (hopen : (Session.openPath w path).answer s = .error e)
    (hfatal : e.isFatal = true) : Aborts w s c p (e.inFunction d.name)

/-! ## The run -/

/-- The scan of the functions ends the run by a look-up of an output. -/
theorem aborts_of_scan (h : (Signature.scan w p c.functionStart).answer s = .error e) :
    Aborts w s c p e := by
  obtain ⟨d, hd, e', hdecl, hfatal, rfl⟩ := Signature.exists_of_scanDecls_eq_error h
  obtain ⟨map, output, hshape, hlocate⟩ := Signature.locate_of_ofDecl_eq_error hdecl hfatal
  obtain ⟨q, hpackage, path, hentry, hopen⟩ := (Signature.locate_eq_error_iff _ hfatal).1 hlocate
  exact .lookup hd (.output hshape hpackage hentry) hopen hfatal

/-- Writing a function ends the run by a look-up of a field. -/
theorem aborts_of_piece {signature : Signature} (hd : d ∈ Signature.candidates p c.functionStart)
    (hdecl : (Signature.ofDecl w p d).answer s = .ok signature)
    (h : (piece w c p signature).answer s = .error e) : Aborts w s c p e := by
  obtain ⟨map, output, hshape, rfl, -⟩ := Signature.ofDecl_eq_ok hdecl
  unfold piece at h
  cases hlocate : (Signature.locate w p d.name output).answer s with
  | error e' =>
    rw [hlocate] at h
    cases h
  | ok struct =>
    rw [hlocate] at h
    change ((Classification.classify w ⟨c.conversionStart, c.tagKey⟩ struct map p).outcome >>= _ :
      Run Piece).answer s = _ at h
    rw [Run.answer_bind, Run.answer_outcome] at h
    -- A struct that is missing has its place among the diagnostics. Only the fields end the run.
    cases hclassify : (Classification.classify w ⟨c.conversionStart, c.tagKey⟩ struct map p).answer
        s with
    | ok b =>
      rw [hclassify] at h
      cases h
    | error e' =>
      rw [hclassify] at h
      obtain rfl : e'.inFunction d.name = e := Except.error.inj h
      obtain ⟨f, hf, hverdict⟩ := Classification.exists_of_classifyFields_eq_error hclassify
      obtain ⟨hfatal, hembedded, q, n, htype, path, hentry, hopen⟩ :=
        Classification.fieldVerdict_eq_error_iff.1 hverdict
      exact .lookup hd (.field hshape hlocate hf hembedded htype hentry) hopen hfatal

theorem exists_of_pieces_eq_error {signatures : List Signature}
    (h : (pieces w c p signatures).answer s = .error e) :
    ∃ signature ∈ signatures, (piece w c p signature).answer s = .error e := by
  induction signatures with
  | nil => cases h
  | cons signature rest ih =>
    have hothers : ∀ first : Piece, Transparent w (do
        let others ← pieces w c p rest
        pure (first :: others) : Run (List Piece)) :=
      fun first => (transparent_pieces rest).bind fun others => .pure _
    rw [pieces, (transparent_piece signature).answer_bind_eq_error hothers] at h
    rcases h with h | ⟨first, -, h⟩
    · exact ⟨signature, List.mem_cons_self, h⟩
    · rcases Run.answer_bind_eq_error.1 h with h | ⟨others, -, h⟩
      · obtain ⟨signature', hmem, hpiece⟩ := ih h
        exact ⟨signature', List.mem_cons_of_mem _ hmem, hpiece⟩
      · cases h

/-- What follows the opening of the package ends early if a look-up fails for good. -/
theorem aborts_of_ofPackage (h : (ofPackage w c p).answer s = .error e) : Aborts w s c p e := by
  rw [ofPackage, (Signature.transparent_scan p c.functionStart).answer_bind_eq_error
    (transparent_puttingTogether p)] at h
  rcases h with h | ⟨scan, hscan, h⟩
  · exact aborts_of_scan h
  · rcases Run.answer_bind_eq_error.1 h with h | ⟨ps, -, h⟩
    · obtain ⟨signature, hmem, hpiece⟩ := exists_of_pieces_eq_error h
      obtain ⟨d, hd, hdecl⟩ := Signature.ofDecl_of_mem_scan hscan hmem
      exact aborts_of_piece hd hdecl hpiece
    · cases h

/-- A run ends early if the input cannot be opened or a look-up fails for good. -/
theorem aborts_of_generate {input : Path} (h : (generate w c input).answer s = .error e) :
    (Session.openFile w input).answer s = .error e
      ∨ ∃ p, (Session.openFile w input).answer s = .ok p ∧ Aborts w s c p e := by
  rw [generate_eq_bind, (Session.transparent_openFile input).answer_bind_eq_error
    transparent_ofPackage] at h
  exact h.imp_right fun ⟨p, hp, h⟩ => ⟨p, hp, aborts_of_ofPackage h⟩

/-- A function that meets a fate has met no fatal error on the way. -/
theorem Meets.not_isFatal {fate : Fate} {path : String} (hmeets : Meets w c p s d fate)
    (hlookup : LooksUp w s p d path) (hopen : (Session.openPath w path).answer s = .error e) :
    e.isFatal = false := by
  by_contra hnot
  have hfatal : e.isFatal = true := by simpa using hnot
  cases hlookup with
  | output hshape hqualifier hentry =>
    -- The look-up of the struct would hand the error on.
    have hlocate := (Signature.locate_eq_error_iff d.name hfatal).2
      ⟨_, hqualifier, path, hentry, hopen⟩
    cases hmeets with
    | skipped hshape' => cases hshape.symm.trans hshape'
    | missing hshape' hlocate' hfatal' =>
      obtain ⟨-, rfl⟩ := Prod.mk.inj (Except.ok.inj (hshape.symm.trans hshape'))
      obtain rfl := Except.error.inj (hlocate.symm.trans hlocate')
      simp [hfatal] at hfatal'
    | written hshape' hlocate' _ =>
      obtain ⟨-, rfl⟩ := Prod.mk.inj (Except.ok.inj (hshape.symm.trans hshape'))
      cases hlocate.symm.trans hlocate'
  | field hshape hlocate hfield hembedded htype hentry =>
    cases hmeets with
    | skipped hshape' => cases hshape.symm.trans hshape'
    | missing hshape' hlocate' _ =>
      obtain ⟨-, rfl⟩ := Prod.mk.inj (Except.ok.inj (hshape.symm.trans hshape'))
      cases hlocate.symm.trans hlocate'
    | written hshape' hlocate' hclassify =>
      obtain ⟨rfl, rfl⟩ := Prod.mk.inj (Except.ok.inj (hshape.symm.trans hshape'))
      obtain rfl := Except.ok.inj (hlocate.symm.trans hlocate')
      obtain ⟨v, hv⟩ := Classification.exists_verdict_of_classify hfield hclassify
      rw [Classification.fieldVerdict_eq_error_iff.2
        ⟨hfatal, hembedded, _, _, htype, path, hentry, hopen⟩] at hv
      cases hv

/-- **Which failures end a run.** In whatever session, a run fails with the error of opening the
input, or with a fatal one of a look-up. An unresolved import path is noted with the function that
looks it up, unless the source of metadata has noted one already, as the toolchain never does. And a
run on an input that can be opened succeeds exactly if none of the look-ups has a fatal error,
whatever happens to packages that are tried for their declared names. -/
theorem generate_failures (w : Surroundings) (c : Config) (input : Path)
    (earlier : Session.History) :
    (∀ e, (generate w c input).answer (Session.afterAll earlier .fresh) = .error e →
      (Session.openFile w input).answer (Session.afterAll earlier .fresh) = .error e
        ∨ e.isFatal = true ∧ ∃ p,
          (Session.openFile w input).answer (Session.afterAll earlier .fresh) = .ok p
            ∧ Aborts w (Session.afterAll earlier .fresh) c p e)
    ∧ (∀ e, (generate w c input).answer (Session.afterAll earlier .fresh) = .error e →
      e.isUnresolved = true → ∃ p f,
        (Session.openFile w input).answer (Session.afterAll earlier .fresh) = .ok p
          ∧ e.neededBy? = some f
          ∧ ((∃ d ∈ Signature.candidates p c.functionStart, d.name = f) ∨ w.provider.Notes f))
    ∧ (∀ h command directory f, ¬ (Toolchain.provider h command directory).Notes f)
    ∧ ∀ p, (Session.openFile w input).answer (Session.afterAll earlier .fresh) = .ok p →
      ((∃ g, (generate w c input).answer (Session.afterAll earlier .fresh) = .ok g) ↔
        ∀ d ∈ Signature.candidates p c.functionStart, ∀ path,
          LooksUp w (Session.afterAll earlier .fresh) p d path → ∀ e,
            (Session.openPath w path).answer (Session.afterAll earlier .fresh) = .error e →
              e.isFatal = false) := by
  have hs := Session.consistent_afterAll earlier
  generalize Session.afterAll earlier .fresh = s at hs ⊢
  refine ⟨?_, ?_, Toolchain.not_notes_provider, ?_⟩
  · intro e h
    rcases aborts_of_generate h with h | ⟨p, hp, haborts⟩
    · exact .inl h
    · refine .inr ⟨?_, p, hp, haborts⟩
      cases haborts with
      | lookup hd hlookup hopen hfatal => rwa [Error.isFatal_inFunction]
  · intro e h hunresolved
    rcases aborts_of_generate h with h | ⟨p, hp, haborts⟩
    · -- The input is opened under its directory, and that is never unresolved.
      simp [Session.isUnresolved_of_openFile hs h] at hunresolved
    · cases haborts with
      | lookup hd hlookup hopen hfatal =>
        rw [Error.isUnresolved_inFunction] at hunresolved
        refine ⟨p, _, hp, Error.neededBy?_inFunction hunresolved, ?_⟩
        rename_i d path e
        cases hnoted : e.neededBy? with
        | none => exact .inl ⟨d, hd, rfl⟩
        | some f => exact .inr (Session.notes_of_openPath hs hnoted hopen)
  · intro p hp
    constructor
    · rintro ⟨g, hg⟩ d hd path hlookup e hopen
      obtain ⟨p', skipped, told, hp', hdecls, hmeets, -, -⟩ := told_of_generate hg
      obtain rfl := Except.ok.inj (hp.symm.trans hp')
      rw [← hdecls] at hd
      obtain ⟨df, hdf, rfl⟩ := List.mem_map.1 hd
      exact (hmeets df hdf).not_isFatal hlookup hopen
    · intro hlookups
      cases h : (generate w c input).answer s with
      | ok g => exact ⟨g, rfl⟩
      | error e =>
        exfalso
        rcases aborts_of_generate h with h | ⟨p', hp', haborts⟩
        · cases hp.symm.trans h
        · obtain rfl := Except.ok.inj (hp.symm.trans hp')
          cases haborts with
          | lookup hd hlookup hopen hfatal =>
            simp [hlookups _ hd _ hlookup _ hopen] at hfatal

end Generation

namespace Sample

/-- A package with an import that `provider` says more about. -/
def strandedSurroundings (provider : Provider) : Surroundings where
  disk := ⟨Files.Tree.empty.plant ["gen", "a.go"] (.file (.text (Emission.unlines
    ["package gen", "import \"x/models\"",
      "func MapToBook(m map[string]any) *models.Book \x7b return nil \x7d"])) false), []⟩
  provider
  goroot := none

/-- No path is a module. -/
def unknowing : Provider := ⟨fun _ => .ok none, none⟩

/-- Each module is said to be missing, and by a function of no package. -/
def accusing : Provider :=
  ⟨fun path => .error (.unresolvedModule path (some "Nobody") "gone"), none⟩

end Sample

namespace Generation

open Sample (strandedSurroundings unknowing accusing)

theorem generate_failures_stranded :
    ∃ reason p, (generate (strandedSurroundings unknowing) {} ⟨"/gen/a.go"⟩).answer
        (Session.afterAll [] .fresh) = .error (.unresolvedModule "x/models" (some "MapToBook") reason)
      ∧ (Session.openFile (strandedSurroundings unknowing) ⟨"/gen/a.go"⟩).answer
        (Session.afterAll [] .fresh) = .ok p
      ∧ ∃ d ∈ Signature.candidates p "MapTo", d.name = "MapToBook" := by
  have hgenerate : (generate (strandedSurroundings unknowing) {} ⟨"/gen/a.go"⟩).answer
      (Session.afterAll [] .fresh) = .error (.unresolvedModule "x/models" (some "MapToBook")
        "no module provides this package (forgot to go get?)") := by
    decide +kernel
  obtain ⟨-, hnoted, -⟩ := generate_failures (strandedSurroundings unknowing) {} ⟨"/gen/a.go"⟩ []
  obtain ⟨p, f, hp, hf, hcandidate⟩ := hnoted _ hgenerate rfl
  obtain rfl := Option.some.inj hf
  refine ⟨_, p, hgenerate, hp, hcandidate.resolve_right ?_⟩
  rintro ⟨path, e, h, -⟩
  cases h

/-- A function that the source of metadata has noted stays, though the package of the input has
none of that name. -/
theorem generate_accused :
    (generate (strandedSurroundings accusing) {} ⟨"/gen/a.go"⟩).answer .fresh
        = .error (.unresolvedModule "" (some "Nobody") "gone")
      ∧ ∃ p, (Session.openFile (strandedSurroundings accusing) ⟨"/gen/a.go"⟩).answer .fresh = .ok p
        ∧ ¬ ∃ d ∈ Signature.candidates p "MapTo", d.name = "Nobody" := by
  have hnames : ((Session.openFile (strandedSurroundings accusing) ⟨"/gen/a.go"⟩).answer
      .fresh).map (fun p => p.functions.map (·.name)) = .ok ["MapToBook"] := by
    decide +kernel
  refine ⟨by decide +kernel, ?_⟩
  cases hopen : (Session.openFile (strandedSurroundings accusing) ⟨"/gen/a.go"⟩).answer .fresh with
  | error e =>
    rw [hopen] at hnames
    cases hnames
  | ok p =>
    rw [hopen] at hnames
    have hnames : p.functions.map (·.name) = ["MapToBook"] := Except.ok.inj hnames
    refine ⟨p, rfl, ?_⟩
    rintro ⟨d, hd, hname⟩
    have hmem : d.name ∈ p.functions.map (·.name) := List.mem_map_of_mem (List.mem_of_mem_filter hd)
    rw [hnames, hname] at hmem
    simp at hmem

end Generation
end StructFill
