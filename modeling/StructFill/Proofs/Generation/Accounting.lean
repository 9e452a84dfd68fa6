import StructFill.Proofs.Classification.Partition

/-! # Nothing is lost on the way

  A run sends each conversion function through several filters: its signature
  is read, its struct is looked up, its fields are put into lists, its text is
  written. Each function has one **fate**, and the result of the run is a
  function of the fates alone. So every function is either written or named by
  one diagnostic, and every field of a function that is written is either
  filled or named by one diagnostic.

  Fates are answers of the session in which the run starts. They are found by
  induction on the functions: what one function leaves in the memory does not
  change what the next one meets.
-/

namespace StructFill

open Source (FuncDecl)
open Session (Run Transparent)

/-- The error says that a source cannot be read. -/
def Error.isParse : Error → Bool
  | .parse .. => true
  | _ => false

/-! ## Signatures -/

namespace Signature

variable {w : Surroundings} {p : Package} {s : Session} {d : FuncDecl}

theorem mapParam_eq_error {function : String} {t : Source.TypeExpr} {e : Error}
    (h : mapParam function t = .error e) : ∃ reason, e = .unsupportedSignature function reason := by
  unfold mapParam at h
  split at h
  · split at h <;> cases h
    exact ⟨_, rfl⟩
  all_goals
    cases h
    exact ⟨_, rfl⟩

theorem outputOf_eq_error {function : String} {t : Source.TypeExpr} {e : Error}
    (h : outputOf function t = .error e) : ∃ reason, e = .unsupportedSignature function reason := by
  unfold outputOf at h
  split at h <;> cases h
  exact ⟨_, rfl⟩

/-- A function without a usable signature is passed over by its name. -/
theorem shape_eq_error {e : Error} (h : shape d = .error e) :
    ∃ reason, e = .unsupportedSignature d.name reason := by
  unfold shape at h
  rcases hparams : d.params with _ | ⟨first, params⟩
  · rw [hparams] at h
    cases h
    exact ⟨_, rfl⟩
  rcases hresults : d.results with _ | ⟨result, results⟩
  · rw [hparams, hresults] at h
    cases h
    exact ⟨_, rfl⟩
  rw [hparams, hresults] at h
  dsimp only at h
  -- There is a parameter and a result. What is left to go wrong is that no parameter is a map, and
  -- the types of the map and of the result.
  split at h
  · cases h
    exact ⟨_, rfl⟩
  · rename_i param _
    cases hmap : mapParam d.name param.type with
    | error e' =>
      rw [hmap] at h
      cases h
      exact mapParam_eq_error hmap
    | ok map =>
      cases houtput : outputOf d.name result.type with
      | error e' =>
        rw [hmap, houtput] at h
        cases h
        exact outputOf_eq_error houtput
      | ok output =>
        rw [hmap, houtput] at h
        cases h

/-- A function that is kept has a map, an output, and whatever the look-up of its struct
answers, unless that ends the run. -/
theorem ofDecl_eq_ok {signature : Signature} (h : (ofDecl w p d).answer s = .ok signature) :
    ∃ map output, shape d = .ok (map, output)
      ∧ signature = ⟨d.name, map, output, (locate w p d.name output).answer s⟩
      ∧ ∀ e, (locate w p d.name output).answer s = .error e → e.isFatal = false := by
  unfold ofDecl at h
  cases hshape : shape d with
  | error e =>
    rw [hshape] at h
    cases h
  | ok shape =>
    obtain ⟨map, output⟩ := shape
    rw [hshape] at h
    obtain ⟨outcome, houtcome, h⟩ := Run.answer_bind_eq_ok.1 h
    obtain rfl : (locate w p d.name output).answer s = outcome := Except.ok.inj houtcome
    refine ⟨map, output, rfl, ?_⟩
    cases hlocate : (locate w p d.name output).answer s with
    | ok struct =>
      rw [hlocate] at h
      exact ⟨(Except.ok.inj h).symm, by simp⟩
    | error e =>
      rw [hlocate] at h
      cases hfatal : e.isFatal with
      | true =>
        -- A fatal error is thrown again.
        simp only [hfatal] at h
        cases h
      | false =>
        simp only [hfatal] at h
        refine ⟨(Except.ok.inj h).symm, ?_⟩
        rintro e' ⟨⟩
        exact hfatal

/-- A signature that cannot be read is not usable, or the look-up of its struct ends the run. -/
theorem ofDecl_eq_error_cases {e : Error} (h : (ofDecl w p d).answer s = .error e) :
    shape d = .error e
      ∨ e.isFatal = true ∧ ∃ map output, shape d = .ok (map, output)
        ∧ (locate w p d.name output).answer s = .error e := by
  unfold ofDecl at h
  cases hshape : shape d with
  | error e' =>
    rw [hshape] at h
    obtain rfl : e' = e := Except.error.inj h
    exact .inl rfl
  | ok shape =>
    obtain ⟨map, output⟩ := shape
    rw [hshape] at h
    change ((locate w p d.name output).outcome >>= _ : Run Signature).answer s = _ at h
    rw [Run.answer_bind, Run.answer_outcome] at h
    cases hlocate : (locate w p d.name output).answer s with
    | ok struct =>
      rw [hlocate] at h
      cases h
    | error e' =>
      rw [hlocate] at h
      change (if e'.isFatal then throw e' else pure _ : Run Signature).answer _ = _ at h
      -- What the look-up throws is fatal, and what is not fatal is kept with the function.
      cases hfatal : e'.isFatal with
      | true =>
        rw [hfatal] at h
        obtain rfl : e' = e := Except.error.inj h
        exact .inr ⟨hfatal, map, output, rfl, hlocate⟩
      | false =>
        rw [hfatal] at h
        cases h

/-- A function that is passed over has no usable signature. -/
theorem ofDecl_eq_error {e : Error} (h : (ofDecl w p d).answer s = .error e)
    (hfatal : e.isFatal = false) : shape d = .error e := by
  rcases ofDecl_eq_error_cases h with hshape | ⟨hfatal', -⟩
  · exact hshape
  · cases hfatal.symm.trans hfatal'

/-- The first function of a list is kept or passed over, and the others are scanned as if they
came first. -/
theorem scanDecls_cons_eq_ok {rest : List FuncDecl} {scan : Scan}
    (h : (scanDecls w p (d :: rest)).answer s = .ok scan) :
    ∃ others, (scanDecls w p rest).answer s = .ok others
      ∧ ((∃ signature, (ofDecl w p d).answer s = .ok signature
            ∧ scan = ⟨signature :: others.functions, others.skipped⟩)
        ∨ ∃ e, (ofDecl w p d).answer s = .error e ∧ e.isFatal = false
            ∧ scan = ⟨others.functions, e :: others.skipped⟩) := by
  have hrest : (scanDecls w p rest).answer ((ofDecl w p d).after s)
      = (scanDecls w p rest).answer s :=
    (transparent_scanDecls p rest).answer_after (transparent_ofDecl p d).keeps s
  obtain ⟨outcome, houtcome, h⟩ := Run.answer_bind_eq_ok.1 h
  obtain rfl : (ofDecl w p d).answer s = outcome := Except.ok.inj houtcome
  rw [Run.after_outcome] at h
  cases hdecl : (ofDecl w p d).answer s with
  | ok signature =>
    rw [hdecl] at h
    obtain ⟨others, hothers, h⟩ := Run.answer_bind_eq_ok.1 h
    exact ⟨others, hrest.symm.trans hothers, .inl ⟨signature, rfl, (Except.ok.inj h).symm⟩⟩
  | error e =>
    rw [hdecl] at h
    cases hfatal : e.isFatal with
    -- A fatal error would have ended the scan.
    | true =>
      simp only [hfatal] at h
      cases h
    | false =>
      simp only [hfatal] at h
      obtain ⟨others, hothers, h⟩ := Run.answer_bind_eq_ok.1 h
      exact ⟨others, hrest.symm.trans hothers, .inr ⟨e, rfl, hfatal, (Except.ok.inj h).symm⟩⟩

end Signature

namespace Generation

variable {w : Surroundings} {c : Config} {p : Package} {s : Session} {d : FuncDecl}

/-! ## Fates -/

/-- What becomes of a conversion function. -/
inductive Fate where
  /-- It is passed over for its signature. -/
  | skipped (reason : String)
  /-- Its struct is not found. -/
  | missing (e : Error)
  /-- A function is written that fills a struct. -/
  | written (map : MapParam) (output : Output) (struct : OutputStruct) (b : Buckets)

/-- The fate that a function of the package `p` meets. -/
inductive Meets (w : Surroundings) (c : Config) (p : Package) (s : Session) (d : FuncDecl) :
    Fate → Prop where
  | skipped {reason} (hshape : Signature.shape d = .error (.unsupportedSignature d.name reason)) :
    Meets w c p s d (.skipped reason)
  | missing {map output e} (hshape : Signature.shape d = .ok (map, output))
    (hlocate : (Signature.locate w p d.name output).answer s = .error e)
    (hfatal : e.isFatal = false) : Meets w c p s d (.missing e)
  | written {map output struct b} (hshape : Signature.shape d = .ok (map, output))
    (hlocate : (Signature.locate w p d.name output).answer s = .ok struct)
    (hclassify : (Classification.classify w ⟨c.conversionStart, c.tagKey⟩ struct map p).answer s
      = .ok b) : Meets w c p s d (.written map output struct b)

namespace Fate

/-- The name and the text of the function that is written. -/
def function? (c : Config) (name : String) : Fate → Option (String × String)
  | .written map output _ b =>
    some (c.generatedStart ++ name, Emission.function
      ⟨c.generatedStart ++ name, c.paramName, map.typeText, output.qualifiedName, b⟩)
  | _ => none

/-- What is reported of a function that is passed over. -/
def early (name : String) : Fate → List Diagnostic
  | .skipped reason => [⟨name, none, .unsupportedSignature, reason⟩]
  | _ => []

/-- What is reported of a function that is not passed over: that its struct is missing, or which
fields are not filled. -/
def late (name : String) : Fate → List Diagnostic
  | .skipped _ => []
  | .missing e =>
    [⟨name, none, if e.isParse then .dependencyParse else .missingOutput, e.message⟩]
  | .written _ _ _ b => fieldDiagnostics name b

/-- The fields that are not filled. -/
def gaps (name : String) : Fate → List Diagnostic
  | .written _ _ _ b => fieldDiagnostics name b
  | _ => []

/-- What comes of a function that is not passed over. -/
def piece? (c : Config) (p : Package) (name : String) : Fate → Option Piece
  | .skipped _ => none
  | .missing e => some ⟨none, [], (Fate.missing e).late name⟩
  | .written map output struct b =>
    some ⟨(Fate.written map output struct b).function? c name,
      functionImports c p ⟨name, map, output, .ok struct⟩ struct b,
      (Fate.written map output struct b).late name⟩

end Fate

theorem missingDiagnostic_eq (name : String) (e : Error) :
    [missingDiagnostic name e] = (Fate.missing e).late name := by
  cases e <;> rfl

/-! ## One function -/

/-- What comes of a function that is kept, by its fate. -/
theorem piece_eq_ok {map : MapParam} {output : Output} {result : Piece}
    (hshape : Signature.shape d = .ok (map, output))
    (hfatal : ∀ e, (Signature.locate w p d.name output).answer s = .error e → e.isFatal = false)
    (h : (piece w c p ⟨d.name, map, output, (Signature.locate w p d.name output).answer s⟩).answer s
      = .ok result) :
    ∃ fate, Meets w c p s d fate ∧ fate.early d.name = []
      ∧ fate.piece? c p d.name = some result := by
  unfold piece at h
  cases hlocate : (Signature.locate w p d.name output).answer s with
  | error e =>
    rw [hlocate] at h
    obtain rfl := Except.ok.inj h
    refine ⟨.missing e, .missing hshape hlocate (hfatal e hlocate), rfl, ?_⟩
    rw [Fate.piece?, ← missingDiagnostic_eq]
  | ok struct =>
    rw [hlocate] at h
    obtain ⟨outcome, houtcome, h⟩ := Run.answer_bind_eq_ok.1 h
    cases hclassify : (Classification.classify w ⟨c.conversionStart, c.tagKey⟩ struct map p).answer
        s with
    | error e =>
      -- An error of the fields ends the run, so there is no piece.
      obtain rfl : Except.error e = outcome := hclassify.symm.trans (Except.ok.inj houtcome)
      cases h
    | ok b =>
      obtain rfl : Except.ok b = outcome := hclassify.symm.trans (Except.ok.inj houtcome)
      obtain rfl := Except.ok.inj h
      exact ⟨.written map output struct b, .written hshape hlocate hclassify, rfl, rfl⟩

/-! ## All functions -/

/-- The fates of a list of functions, each with its function. -/
abbrev Told := List (FuncDecl × Fate)

/-- Each function meets the fate that is told. -/
def AllMeet (w : Surroundings) (c : Config) (p : Package) (s : Session) (told : Told) : Prop :=
  ∀ df ∈ told, Meets w c p s df.1 df.2

theorem AllMeet.cons {fate : Fate} {told : Told} (h : Meets w c p s d fate)
    (hrest : AllMeet w c p s told) : AllMeet w c p s ((d, fate) :: told) := by
  intro df hdf
  rcases List.mem_cons.1 hdf with rfl | hdf
  · exact h
  · exact hrest df hdf

/-- The pieces of several signatures are those that each would give alone. -/
theorem pieces_cons_eq_ok {signature : Signature} {rest : List Signature} {ps : List Piece}
    (h : (pieces w c p (signature :: rest)).answer s = .ok ps) :
    ∃ first others, (piece w c p signature).answer s = .ok first
      ∧ (pieces w c p rest).answer s = .ok others ∧ ps = first :: others := by
  obtain ⟨first, hfirst, h⟩ := Run.answer_bind_eq_ok.1 h
  obtain ⟨others, hothers, h⟩ := Run.answer_bind_eq_ok.1 h
  rw [(transparent_pieces rest).answer_after (transparent_piece signature).keeps s] at hothers
  exact ⟨first, others, hfirst, hothers, (Except.ok.inj h).symm⟩

/-- Signatures are read first and fields are looked at later, but each function meets its fate
as if it were alone. -/
theorem pieces_of_scanDecls {decls : List FuncDecl} {scan : Scan} {ps : List Piece}
    (hscan : (Signature.scanDecls w p decls).answer s = .ok scan)
    (hpieces : (pieces w c p scan.functions).answer s = .ok ps) :
    ∃ told : Told, told.map Prod.fst = decls ∧ AllMeet w c p s told
      ∧ scan.skipped.filterMap skippedDiagnostic? = told.flatMap (fun df => df.2.early df.1.name)
      ∧ ps = told.filterMap (fun df => df.2.piece? c p df.1.name) := by
  -- Both runs are followed at once. Scan and pieces of the rest are those of a run that never met
  -- the first function.
  induction decls generalizing scan ps with
  | nil =>
    obtain rfl : ⟨[], []⟩ = scan := Except.ok.inj hscan
    obtain rfl : [] = ps := Except.ok.inj hpieces
    exact ⟨[], rfl, by simp [AllMeet], rfl, rfl⟩
  | cons d rest ih =>
    obtain ⟨others, hothers, hfirst⟩ := Signature.scanDecls_cons_eq_ok hscan
    rcases hfirst with ⟨signature, hdecl, rfl⟩ | ⟨e, hdecl, hfatal, rfl⟩
    · -- The function is kept, and its piece comes before those of the rest.
      obtain ⟨map, output, hshape, rfl, hfatal⟩ := Signature.ofDecl_eq_ok hdecl
      obtain ⟨first, ps', hfirst, hrest, rfl⟩ := pieces_cons_eq_ok hpieces
      obtain ⟨told, hdecls, hmeets, hskipped, rfl⟩ := ih hothers hrest
      obtain ⟨fate, hfate, hearly, hpiece⟩ := piece_eq_ok hshape hfatal hfirst
      refine ⟨(d, fate) :: told, by simp [hdecls], hmeets.cons hfate, ?_, ?_⟩
      · simpa [hearly] using hskipped
      · simp [hpiece]
    · -- The function is passed over, and there is no piece for it.
      have hshape := Signature.ofDecl_eq_error hdecl hfatal
      obtain ⟨reason, rfl⟩ := Signature.shape_eq_error hshape
      obtain ⟨told, hdecls, hmeets, hskipped, rfl⟩ := ih hothers hpieces
      refine ⟨(d, .skipped reason) :: told, by simp [hdecls], hmeets.cons (.skipped hshape), ?_, ?_⟩
      · simp [skippedDiagnostic?, Fate.early, hskipped]
      · simp [Fate.piece?]

/-! ## The result of a run -/

/-- The functions that are written, in order: their names and their texts. -/
def written (c : Config) (told : Told) : List (String × String) :=
  told.filterMap fun df => df.2.function? c df.1.name

/-- The result of a run is read off the fates of the functions. -/
structure Ledger (c : Config) (told : Told) (g : Generated) : Prop where
  generated : g.report.generated = (written c told).map Prod.fst
  text : ∃ imports, g.text =
    Emission.header g.package imports ++ String.join ((written c told).map Prod.snd)
  /-- Functions that are passed over are reported before all others. -/
  diagnostics : g.report.diagnostics =
    told.flatMap (fun df => df.2.early df.1.name) ++ told.flatMap (fun df => df.2.late df.1.name)

theorem filterMap_piece_function (told : Told) :
    (told.filterMap fun df => df.2.piece? c p df.1.name).filterMap (·.function)
      = written c told := by
  rw [List.filterMap_filterMap]
  refine List.filterMap_congr fun df _ => ?_
  rcases df.2 with _ | _ | _ <;> rfl

theorem flatMap_piece_diagnostics (told : Told) :
    (told.filterMap fun df => df.2.piece? c p df.1.name).flatMap (·.diagnostics)
      = told.flatMap fun df => df.2.late df.1.name := by
  induction told with
  | nil => rfl
  | cons df rest ih =>
    obtain ⟨d, fate⟩ := df
    cases fate with
    | skipped reason => simpa [Fate.piece?, Fate.late] using ih
    | missing e => simpa [Fate.piece?] using ih
    | written map output struct b => simpa [Fate.piece?] using ih

theorem ledger_assemble (package : String) {skipped : List Error} {told : Told}
    (h : skipped.filterMap skippedDiagnostic? = told.flatMap fun df => df.2.early df.1.name) :
    Ledger c told
      (assemble package skipped (told.filterMap fun df => df.2.piece? c p df.1.name)) := by
  refine ⟨?_, ?_, ?_⟩
  · simp only [assemble, filterMap_piece_function]
  · simp only [assemble, filterMap_piece_function]
    exact ⟨_, rfl⟩
  · simp only [assemble, flatMap_piece_diagnostics, h]

/-- The part of a run that follows the opening of the package of the input. -/
def ofPackage (w : Surroundings) (c : Config) (p : Package) : Run Generated := do
  let scan ← Signature.scan w p c.functionStart
  let ps ← pieces w c p scan.functions
  pure (assemble p.name scan.skipped ps)

theorem generate_eq_bind (input : Path) :
    generate w c input = Session.openFile w input >>= ofPackage w c := rfl

theorem transparent_puttingTogether (p : Package) (scan : Scan) :
    Transparent w (pieces w c p scan.functions >>= fun ps =>
      pure (assemble p.name scan.skipped ps)) :=
  (transparent_pieces scan.functions).bind fun _ => .pure _

theorem transparent_ofPackage (p : Package) : Transparent w (ofPackage w c p) :=
  (Signature.transparent_scan p c.functionStart).bind (transparent_puttingTogether p)

/-- A package for which a run succeeds has told each of its conversion functions its fate, and what
comes of them is put together. -/
theorem told_of_ofPackage {g : Generated} (h : (ofPackage w c p).answer s = .ok g) :
    ∃ skipped told, told.map Prod.fst = Signature.candidates p c.functionStart
      ∧ AllMeet w c p s told
      ∧ skipped.filterMap skippedDiagnostic? = told.flatMap (fun df => df.2.early df.1.name)
      ∧ g = assemble p.name skipped (told.filterMap fun df => df.2.piece? c p df.1.name) := by
  rw [ofPackage, (Signature.transparent_scan p c.functionStart).answer_bind_eq_ok
    (transparent_puttingTogether p)] at h
  obtain ⟨scan, hscan, h⟩ := h
  obtain ⟨ps, hps, h⟩ := Run.answer_bind_eq_ok.1 h
  obtain ⟨told, hdecls, hmeets, hskipped, rfl⟩ := pieces_of_scanDecls hscan hps
  exact ⟨scan.skipped, told, hdecls, hmeets, hskipped, (Except.ok.inj h).symm⟩

/-- A run that succeeds has told each conversion function of the package its fate, and puts
together what comes of them. -/
theorem told_of_generate {input : Path} {g : Generated}
    (h : (generate w c input).answer s = .ok g) :
    ∃ p skipped told, (Session.openFile w input).answer s = .ok p
      ∧ told.map Prod.fst = Signature.candidates p c.functionStart ∧ AllMeet w c p s told
      ∧ skipped.filterMap skippedDiagnostic? = told.flatMap (fun df => df.2.early df.1.name)
      ∧ g = assemble p.name skipped (told.filterMap fun df => df.2.piece? c p df.1.name) := by
  rw [generate_eq_bind, (Session.transparent_openFile input).answer_bind_eq_ok
    transparent_ofPackage] at h
  obtain ⟨p, hp, h⟩ := h
  obtain ⟨skipped, told, hdecls, hmeets, hskipped, hg⟩ := told_of_ofPackage h
  exact ⟨p, skipped, told, hp, hdecls, hmeets, hskipped, hg⟩

/-- The result of a run that succeeds is read off the fates. -/
theorem ledger_of_generate {input : Path} {g : Generated}
    (h : (generate w c input).answer s = .ok g) :
    ∃ p told, (Session.openFile w input).answer s = .ok p
      ∧ told.map Prod.fst = Signature.candidates p c.functionStart
      ∧ AllMeet w c p s told ∧ Ledger c told g := by
  obtain ⟨p, skipped, told, hp, hdecls, hmeets, hskipped, rfl⟩ := told_of_generate h
  exact ⟨p, told, hp, hdecls, hmeets, ledger_assemble p.name hskipped⟩

/-! ## Functions -/

/-- What is reported of a function names it. It has no field exactly if it is about the function
as a whole; that something cannot be written is never reported. -/
structure Tells (name : String) (x : Diagnostic) : Prop where
  function : x.function = name
  field : x.field = none ↔
    x.kind = .unsupportedSignature ∨ x.kind = .missingOutput ∨ x.kind = .dependencyParse
  kind : x.kind ≠ .emission

theorem tells_fieldDiagnostics {name : String} {b : Buckets} {x : Diagnostic}
    (hx : x ∈ fieldDiagnostics name b) : Tells name x ∧ x.field ≠ none := by
  rcases List.mem_append.1 hx with hx | hx
  · obtain ⟨f, -, hf⟩ := List.mem_filterMap.1 hx
    split at hf
    · obtain rfl := Option.some.inj hf
      exact ⟨⟨rfl, by simp, by simp⟩, by simp⟩
    · cases hf
  · obtain ⟨f, -, rfl⟩ := List.mem_map.1 hx
    exact ⟨⟨rfl, by simp, by simp⟩, by simp⟩

theorem tells_early {name : String} {fate : Fate} {x : Diagnostic} (hx : x ∈ fate.early name) :
    Tells name x := by
  cases fate with
  | skipped reason =>
    obtain rfl := List.mem_singleton.1 hx
    exact ⟨rfl, by simp, by simp⟩
  | missing _ | written _ _ _ _ => cases hx

theorem tells_late {name : String} {fate : Fate} {x : Diagnostic} (hx : x ∈ fate.late name) :
    Tells name x := by
  cases fate with
  | skipped _ => cases hx
  | missing e =>
    obtain rfl := List.mem_singleton.1 hx
    cases e.isParse <;> exact ⟨rfl, by simp, by simp⟩
  | written map output struct b => exact (tells_fieldDiagnostics hx).1

/-- A function counts once: as a function that is written or as a diagnostic without a field. -/
theorem Fate.counts_once (fate : Fate) (name n : String) :
    (if name = n then 1 else 0)
      = ((fate.function? c name).toList.map Prod.fst).count (c.generatedStart ++ n)
        + ((fate.early name).countP fun x => x.field = none ∧ x.function = n)
        + ((fate.late name).countP fun x => x.field = none ∧ x.function = n) := by
  cases fate with
  | skipped reason => by_cases h : name = n <;> simp [function?, early, late, h]
  | missing e => by_cases h : name = n <;> simp [function?, early, late, h]
  | written map output struct b =>
    -- What is reported of its fields is not about the function as a whole.
    have hgaps : (fieldDiagnostics name b).countP
        (fun x => decide (x.field = none ∧ x.function = n)) = 0 := by
      rw [List.countP_eq_zero]
      intro x hx
      simp [(tells_fieldDiagnostics hx).2]
    rw [late, hgaps]
    by_cases h : name = n <;> simp [function?, early, h]

theorem counts_once (told : Told) (n : String) :
    told.countP (fun df => df.1.name = n)
      = ((written c told).map Prod.fst).count (c.generatedStart ++ n)
        + (told.flatMap fun df => df.2.early df.1.name).countP
          (fun x => x.field = none ∧ x.function = n)
        + (told.flatMap fun df => df.2.late df.1.name).countP
          (fun x => x.field = none ∧ x.function = n) := by
  -- Both sides are sums over the functions, with the same part for each of them.
  induction told with
  | nil => rfl
  | cons df rest ih =>
    have honce := df.2.counts_once df.1.name n (c := c)
    have hwritten : ((written c (df :: rest)).map Prod.fst)
        = (df.2.function? c df.1.name).toList.map Prod.fst ++ (written c rest).map Prod.fst := by
      simp only [written, List.filterMap_cons]
      cases df.2.function? c df.1.name <;> rfl
    rw [hwritten]
    simp only [List.countP_cons, List.flatMap_cons, List.countP_append, List.count_append,
      decide_eq_true_eq]
    omega

/-- What is reported of the fields of a function is what its fate tells, and nothing else. -/
theorem Fate.filter_fields (fate : Fate) (name n : String) :
    ((fate.early name).filter fun x => x.field ≠ none ∧ x.function = n) = []
      ∧ ((fate.late name).filter fun x => x.field ≠ none ∧ x.function = n)
        = if name = n then fate.gaps name else [] := by
  cases fate with
  | skipped reason => simp [early, late, gaps]
  | missing e => simp [early, late, gaps]
  | written map output struct b =>
    refine ⟨rfl, ?_⟩
    rw [late, gaps]
    by_cases h : name = n
    · rw [if_pos h, List.filter_eq_self]
      intro x hx
      obtain ⟨htells, hfield⟩ := tells_fieldDiagnostics hx
      simp [hfield, htells.function, h]
    · rw [if_neg h, List.filter_eq_nil_iff]
      intro x hx
      simp [(tells_fieldDiagnostics hx).1.function, h]

theorem filter_fields (told : Told) (n : String) :
    ((told.flatMap fun df => df.2.early df.1.name).filter
        fun x => x.field ≠ none ∧ x.function = n) = []
      ∧ ((told.flatMap fun df => df.2.late df.1.name).filter
          fun x => x.field ≠ none ∧ x.function = n)
        = (told.filter fun df => df.1.name = n).flatMap fun df => df.2.gaps df.1.name := by
  induction told with
  | nil => exact ⟨rfl, rfl⟩
  | cons df rest ih =>
    obtain ⟨hearly, hlate⟩ := df.2.filter_fields df.1.name n
    rw [List.flatMap_cons, List.filter_append, hearly, ih.1, List.flatMap_cons, List.filter_append,
      hlate, ih.2]
    refine ⟨rfl, ?_⟩
    by_cases h : df.1.name = n <;> simp [h]

/-! ## Fields -/

section fields

open Classification (positions slot_of_mem_positions Carries)

variable {style : Naming.Style} {struct : OutputStruct} {map : MapParam} {b : Buckets}

/-- Every position of the fields is either filled or reported, and only once. Where a position
lands is what `slot` says. -/
structure Covers (style : Naming.Style) (name : String) (fields : List Source.Field)
    (slot : Fin fields.length → Option Slot) (b : Buckets) : Prop where
  entries : ∀ k, List.Forall₂ (fun i e => Carries style k (fields.get i) e)
    (positions slot (some k)) (b.entries k)
  /-- One diagnostic for each position that is not filled, and none for the others. -/
  reported : List.Forall₂ (fun i x => x.field = some (fields.get i).name
      ∧ x.kind = if slot i = none then .droppedField else .unresolvedField)
    (positions slot (some .unsupported) ++ positions slot none) (fieldDiagnostics name b)
  total : b.assigned.length + (fieldDiagnostics name b).length = fields.length

/-- Each field that is left to be filled by hand is reported. -/
theorem forall₂_unresolved {fields : List Source.Field} {is : List (Fin fields.length)}
    {es : List FilledField} (name : String)
    (h : List.Forall₂ (fun i e => Carries style .unsupported (fields.get i) e) is es) :
    List.Forall₂ (fun i x => x.field = some (fields.get i).name ∧ x.kind = .unresolvedField) is
      (es.filterMap fun f =>
        match f.strategy with
        | .unsupported reason => some (⟨name, some f.name, .unresolvedField, reason⟩ : Diagnostic)
        | _ => none) := by
  induction h with
  | nil => exact .nil
  | @cons i e is es hcarries _ ih =>
    obtain ⟨hslot, hname, -, -, -⟩ := hcarries
    cases hs : e.strategy with
    | unsupported reason =>
      simp only [List.filterMap_cons, hs]
      exact .cons ⟨by rw [hname], rfl⟩ ih
    | direct _ | enumeration _ _ _ | assign _ => simp [hs, Strategy.slot] at hslot

/-- The fields of a function that is written are filled or reported. -/
theorem covers_of_classify (h : (Classification.classify w style struct map p).answer s = .ok b)
    (name : String) : ∃ slot, Covers style name struct.fields slot b := by
  obtain ⟨placed, hfields, -, hpartition⟩ := Classification.classify_partition h
  have hentries := hpartition.entries_positions hfields
  have hdropped := hpartition.dropped_positions hfields
  have hunresolved := forall₂_unresolved name (hentries .unsupported)
  have hsize : b.size = struct.fields.length := by
    rw [hpartition.size, ← hfields, List.length_map]
  generalize Classification.slotAt hfields = slot at hentries hdropped hunresolved
  have hreported : List.Forall₂ (fun i x => x.field = some (struct.fields.get i).name
        ∧ x.kind = if slot i = none then .droppedField else .unresolvedField)
      (positions slot (some .unsupported) ++ positions slot none) (fieldDiagnostics name b) := by
    refine List.rel_append ?_ ?_
    · refine ((List.forall₂_and_left _ _).2 ⟨fun _ => slot_of_mem_positions, hunresolved⟩).imp ?_
      rintro i x ⟨hslot, hfield, hkind⟩
      exact ⟨hfield, by simp [hslot, hkind]⟩
    · -- Of the dropped fields only the names are kept, so they are matched by these.
      have hnames : List.Forall₂ (fun (f : DroppedField) i => f.name = (struct.fields.get i).name)
          b.dropped (positions slot none) := by
        rw [← List.forall₂_map_right_iff, ← List.forall₂_map_left_iff, hdropped]
        exact List.forall₂_refl _
      rw [List.forall₂_map_right_iff]
      refine ((List.forall₂_and_left _ _).2 ⟨fun _ => slot_of_mem_positions, hnames.flip⟩).imp ?_
      rintro i f ⟨hslot, hname⟩
      exact ⟨by rw [hname], by simp [hslot]⟩
  refine ⟨slot, hentries, hreported, ?_⟩
  have hlength := hreported.length_eq
  have hunsupported := (hentries .unsupported).length_eq
  have hnone := congrArg List.length hdropped
  simp only [List.length_append, List.length_map, Buckets.entries, Buckets.assigned,
    Buckets.size] at hlength hunsupported hnone hsize ⊢
  omega

end fields

/-! ## The account of a run -/

/-- **Nothing is lost.** A run that succeeds tells each conversion function of the package its
fate. Each of them is written, under its name and with one text, or is reported once as a whole;
and each field of a struct that is filled is filled or reported once. -/
theorem generate_accounts {input : Path} {g : Generated}
    (h : (generate w c input).answer s = .ok g) :
    ∃ p told, (Session.openFile w input).answer s = .ok p
      ∧ told.map Prod.fst = Signature.candidates p c.functionStart
      ∧ AllMeet w c p s told ∧ Ledger c told g
      ∧ (∀ n, (Signature.candidates p c.functionStart).countP (fun d => d.name = n)
        = g.report.generated.count (c.generatedStart ++ n)
          + g.report.diagnostics.countP (fun x => x.field = none ∧ x.function = n))
      ∧ (∀ x ∈ g.report.diagnostics, ∃ df ∈ told, Tells df.1.name x)
      ∧ (∀ n, g.report.diagnostics.filter (fun x => x.field ≠ none ∧ x.function = n)
        = (told.filter fun df => df.1.name = n).flatMap fun df => df.2.gaps df.1.name)
      ∧ ∀ d map output struct b, (d, .written map output struct b) ∈ told →
        ∃ slot, Covers ⟨c.conversionStart, c.tagKey⟩ d.name struct.fields slot b := by
  obtain ⟨p, told, hp, hdecls, hmeets, hledger⟩ := ledger_of_generate h
  refine ⟨p, told, hp, hdecls, hmeets, hledger, ?_, ?_, ?_, ?_⟩
  · intro n
    rw [← hdecls, List.countP_map, hledger.generated, hledger.diagnostics, List.countP_append,
      ← Nat.add_assoc]
    exact counts_once told n
  · intro x hx
    rw [hledger.diagnostics] at hx
    rcases List.mem_append.1 hx with hx | hx
    · obtain ⟨df, hdf, hx⟩ := List.mem_flatMap.1 hx
      exact ⟨df, hdf, tells_early hx⟩
    · obtain ⟨df, hdf, hx⟩ := List.mem_flatMap.1 hx
      exact ⟨df, hdf, tells_late hx⟩
  · intro n
    obtain ⟨hearly, hlate⟩ := filter_fields told n
    rw [hledger.diagnostics, List.filter_append, hearly, hlate, List.nil_append]
  · intro d map output struct b hd
    cases hmeets _ hd with
    | written _ _ hclassify => exact covers_of_classify hclassify d.name

theorem generate_accounts_package :
    ∃ g told, (generate Sample.surroundings {} ⟨"/gen/gen.go"⟩).answer Sample.session = .ok g
      ∧ told.map Prod.fst = Signature.candidates Sample.package "MapTo"
      ∧ AllMeet Sample.surroundings {} Sample.package Sample.session told ∧ Ledger {} told g
      ∧ g.report.generated = ["genMapToBook"]
      ∧ g.report.diagnostics.map (fun x => (x.kind, x.function, x.field)) =
        [(.unsupportedSignature, "MapToNothing", none),
          (.unresolvedField, "MapToBook", some "Notes"),
          (.unresolvedField, "MapToBook", some "Status"),
          (.droppedField, "MapToBook", some "Author"),
          (.missingOutput, "MapToGhost", none), (.dependencyParse, "MapToWreck", none)] := by
  obtain ⟨p, told, hp, hdecls, hmeets, hledger, -⟩ := generate_accounts
    (show (generate Sample.surroundings {} ⟨"/gen/gen.go"⟩).answer Sample.session = .ok _ from rfl)
  obtain rfl : Sample.package = p := Except.ok.inj hp
  exact ⟨_, told, rfl, hdecls, hmeets, hledger, rfl, rfl⟩

end Generation
end StructFill
