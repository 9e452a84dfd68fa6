import StructFill.Proofs.Package.Rereading
import StructFill.Proofs.Session.NewFile
import StructFill.Proofs.Session.Queries

/-! # What a package depends on

  A fresh session opens a path in three steps: it looks among the standard
  packages, asks for the records of some modules, and reads the sources of one
  directory. Nothing else in the surroundings has a say. Two surroundings that
  agree on these three give the same package, or the same error.
-/

namespace StructFill

open Files (Disk)

/-! ## Directories -/

namespace Package

/-- Both disks have the same source files in the directory, with the same texts. -/
structure SameSources (d d' : Disk) (dir : Path) : Prop where
  isDirectory : d'.isDirectory dir = d.isDirectory dir
  sources : sourceFiles d' dir = sourceFiles d dir
  texts : ∀ paths, sourceFiles d dir = .ok paths → ∀ p ∈ paths, d'.readText p = d.readText p

theorem ofDirectory_congr [Source.Recovery] {d d' : Disk} {dir : Path} (h : SameSources d d' dir)
    (importPath : String) : ofDirectory d' dir importPath = ofDirectory d dir importPath := by
  unfold ofDirectory
  rw [h.isDirectory, h.sources]
  split
  · rfl
  cases hsources : sourceFiles d dir with
  | error e => rfl
  | ok paths =>
    have hfiles : readFiles d' paths = readFiles d paths :=
      readFiles_congr fun p hp => readFile_congr (h.texts paths hsources p hp)
    simp only [bind, Except.bind, hfiles]

end Package

theorem Surroundings.read_congr {w w' : Surroundings} {dir : Path}
    (hparser : w'.recovery = w.recovery) (h : Package.SameSources w.disk w'.disk dir)
    (importPath : String) :
    w'.read dir importPath = w.read dir importPath := by
  rw [Surroundings.read, Surroundings.read, hparser]
  let := w.recovery
  exact Package.ofDirectory_congr h importPath

namespace Session

variable {w w' : Surroundings} {s : Session} {path b : String}

/-! ## Records of modules -/

/-- What is on record was asked for. -/
def OnRecord (s : Session) : Prop := ∀ m, (s.modules.lookup m).isSome → m ∈ s.asked

theorem onRecord_moduleAt (hs : OnRecord s) (b : String) : OnRecord ((moduleAt w b).after s) := by
  intro m hm
  rw [after_moduleAt] at hm ⊢
  cases hb : s.modules.lookup b with
  | some record =>
    rw [hb] at hm
    exact hs m hm
  | none =>
    rw [hb] at hm
    cases hq : w.provider.query b with
    | error e =>
      rw [hq] at hm
      exact List.mem_cons_of_mem _ (hs m hm)
    | ok record =>
      rw [hq] at hm
      by_cases heq : m = b
      · exact heq ▸ List.mem_cons_self
      · have hne : (m == b) = false := by simpa using heq
        refine List.mem_cons_of_mem _ (hs m ?_)
        simpa [noteModule, noteAsked, List.lookup_cons, hne] using hm

/-- Nothing that was asked is forgotten. -/
theorem asked_subset {α : Type} {paths : List String} {r : Run α} (hr : Asks w paths r) {m : String}
    (hm : m ∈ s.asked) : m ∈ (r.after s).asked := by
  obtain ⟨asked, -, hinquiry⟩ := hr s
  rw [hinquiry.asked]
  exact List.mem_append_right _ hm

/-- A module that a search comes to has been asked for in the end. -/
theorem mem_asked_moduleAt (hs : OnRecord s) (b : String) : b ∈ ((moduleAt w b).after s).asked := by
  cases hb : s.modules.lookup b with
  | some record => exact asked_subset (asks_moduleAt b) (hs b (by simp [hb]))
  | none =>
    rw [after_moduleAt, hb]
    cases w.provider.query b <;> exact List.mem_cons_self

theorem answer_moduleAt_fresh (w : Surroundings) (b : String) :
    (moduleAt w b).answer .fresh = w.provider.query b := by
  rw [answer_moduleAt]
  rfl

/-! ## The search along a path -/

/-- A module that does not contain the path is passed over. -/
theorem dependencyDir_next (rest : List String) {m : Option Module.Info}
    (hm : (moduleAt w b).answer s = .ok m)
    (hpass : ∀ record, m = some record → below? path record.path = none) :
    (dependencyDir w path (b :: rest)).answer s = (dependencyDir w path rest).answer s
      ∧ (dependencyDir w path (b :: rest)).after s
        = (dependencyDir w path rest).after ((moduleAt w b).after s) := by
  have hrest : (dependencyDir w path rest).answer ((moduleAt w b).after s)
      = (dependencyDir w path rest).answer s :=
    (steady_dependencyDir path rest).answer_after (steady_moduleAt b).keeps s
  rw [dependencyDir, Run.answer_bind, Run.after_bind, hm, ← hrest]
  cases m with
  | none => exact ⟨rfl, rfl⟩
  | some record =>
    have hnone := hpass record rfl
    simp only [Except.bind, hnone, and_self]

/-- A search asks for the module that it comes to first. -/
theorem mem_asked_dependencyDir (hs : OnRecord s) (b : String) (rest : List String) :
    b ∈ ((dependencyDir w path (b :: rest)).after s).asked := by
  have hb := mem_asked_moduleAt (w := w) hs b
  rw [dependencyDir, Run.after_bind]
  cases (moduleAt w b).answer s with
  | error e => exact hb
  | ok m =>
    dsimp only
    cases m with
    | none => exact asked_subset (asks_dependencyDir path rest) hb
    | some record =>
      dsimp only
      cases below? path record.path with
      | none => exact asked_subset (asks_dependencyDir path rest) hb
      | some sub => dsimp only; cases record.effectiveDir? <;> exact hb

/-- The search depends on the records of the modules that it asks for. -/
theorem dependencyDir_congr {bs : List String} (hs : moduleAnswers w s = moduleAnswers w .fresh)
    (hrecord : OnRecord s)
    (hsame : ∀ m ∈ ((dependencyDir w path bs).after s).asked,
      w'.provider.query m = w.provider.query m) :
    (dependencyDir w' path bs).answer .fresh = (dependencyDir w path bs).answer .fresh := by
  induction bs generalizing s with
  | nil => rfl
  | cons b rest ih =>
    have hmodule : (moduleAt w b).answer s = w.provider.query b := by
      rw [(steady_moduleAt b).determined hs, answer_moduleAt_fresh]
    have hquery := hsame b (mem_asked_dependencyDir hrecord b rest)
    have hfresh := answer_moduleAt_fresh w b
    have hfresh' := (answer_moduleAt_fresh w' b).trans hquery
    -- A module that is passed over leaves the question to the rest of the path.
    have hnext : ∀ m, w.provider.query b = .ok m →
        (∀ record, m = some record → below? path record.path = none) →
        (dependencyDir w' path (b :: rest)).answer .fresh
          = (dependencyDir w path (b :: rest)).answer .fresh := by
      intro m hm hpass
      obtain ⟨-, hafter⟩ := dependencyDir_next rest (hmodule.trans hm) hpass
      rw [(dependencyDir_next rest (hfresh.trans hm) hpass).1,
        (dependencyDir_next rest (hfresh'.trans hm) hpass).1]
      rw [hafter] at hsame
      exact ih (((steady_moduleAt b).keeps s).trans hs) (onRecord_moduleAt hrecord b) hsame
    cases hm : w.provider.query b with
    | error e =>
      rw [dependencyDir, dependencyDir, Run.answer_bind, Run.answer_bind, hfresh, hfresh', hm]
      rfl
    | ok m =>
      cases m with
      | none => exact hnext none hm (by simp)
      | some record =>
        cases hbelow : below? path record.path with
        | none => exact hnext _ hm (by rintro _ ⟨⟩; exact hbelow)
        | some sub =>
          rw [dependencyDir, dependencyDir, Run.answer_bind, Run.answer_bind, hfresh, hfresh', hm]
          simp only [Except.bind, hbelow]
          cases record.effectiveDir? <;> rfl

/-! ## The directory of a path -/

/-- Where the package is below a directory of a standard one. -/
theorem answer_standardDir (path : String) (s : Session) :
    (standardDir w path).answer s = .ok (match Text.cutFirst? '/' path.toList with
      | some (first, rest) =>
        ((standardOf w s).lookup (String.ofList first)).map (·.joinName (String.ofList rest))
      | none => (standardOf w s).lookup path) := by
  rw [standardDir, Run.answer_bind, answer_standardRoots]
  simp only [Except.bind]
  cases Text.cutFirst? '/' path.toList with
  | none => simp only [Run.answer_pure]
  | some cut => simp only [Run.answer_pure]

theorem after_standardDir (path : String) (s : Session) :
    (standardDir w path).after s = (standardRoots w).after s := by
  rw [standardDir, Run.after_bind, answer_standardRoots]
  dsimp only
  cases Text.cutFirst? '/' path.toList with
  | none => simp only [Run.after_pure]
  | some cut => simp only [Run.after_pure]

/-- The search outside the standard packages. -/
def resolveModule (w : Surroundings) (path : String) : Run (Option Path) := do
  match mainDir? (← mainModule w) path with
  | some dir => pure (some dir)
  | none => some <$> dependencyDir w path (beginnings path)

theorem steady_resolveModule (path : String) :
    Run.Steady (moduleAnswers w) remembered (resolveModule w path) := by
  refine (steady_moduleAt "").bind fun m => ?_
  cases mainDir? m path with
  | some dir => exact .pure _
  | none => exact (steady_dependencyDir path _).map _

theorem resolveAfresh_eq (hpseudo : path ≠ pseudoPackage)
    (habsolute : ¬ (Path.mk path).isAbsolute) (hblank : path ≠ "") :
    resolveAfresh w path = (standardDir w path >>= fun dir? =>
      match dir? with
      | some dir => pure (some dir)
      | none => resolveModule w path) := by
  rw [resolveAfresh, if_neg hpseudo, if_neg habsolute, if_neg hblank]
  rfl

/-- The other paths are settled without any question. -/
theorem resolveAfresh_early (w w' : Surroundings)
    (h : path = pseudoPackage ∨ (Path.mk path).isAbsolute ∨ path = "") :
    resolveAfresh w path = resolveAfresh w' path := by
  unfold resolveAfresh
  split
  · rfl
  split
  · rfl
  split
  · rfl
  · grind

/-- The search depends on the records of the main module and of those that it asks for. -/
theorem resolveModule_congr (hs : moduleAnswers w s = moduleAnswers w .fresh)
    (hrecord : OnRecord s)
    (hsame : ∀ m ∈ ((resolveModule w path).after s).asked,
      w'.provider.query m = w.provider.query m) :
    (resolveModule w' path).answer .fresh = (resolveModule w path).answer .fresh := by
  have hdependency : ∀ (w : Surroundings) s,
      (dependencyDir w path (beginnings path)).answer ((moduleAt w "").after s)
        = (dependencyDir w path (beginnings path)).answer s :=
    fun w s => (steady_dependencyDir path _).answer_after (steady_moduleAt "").keeps s
  have hmodule : (moduleAt w "").answer s = w.provider.query "" := by
    rw [(steady_moduleAt "").determined hs, answer_moduleAt_fresh]
  have hmain := mem_asked_moduleAt (w := w) hrecord ""
  -- The main module is asked for first, whatever comes of it.
  have hasked : "" ∈ ((resolveModule w path).after s).asked := by
    rw [resolveModule, mainModule, Run.after_bind]
    cases (moduleAt w "").answer s with
    | error e => exact hmain
    | ok m =>
      dsimp only
      cases mainDir? m path with
      | some dir => exact hmain
      | none => exact asked_subset ((asks_dependencyDir path _).map some) hmain
  have hquery := hsame "" hasked
  rw [resolveModule, resolveModule, mainModule, mainModule, Run.answer_bind, Run.answer_bind,
    answer_moduleAt_fresh, answer_moduleAt_fresh, hquery]
  cases hm : w.provider.query "" with
  | error e => rfl
  | ok m =>
    simp only [Except.bind]
    cases hdir : mainDir? m path with
    | some dir => rfl
    | none =>
      dsimp only
      rw [resolveModule, mainModule, Run.after_bind, hmodule, hm] at hsame
      simp only [hdir, Run.after_map] at hsame
      rw [Run.answer_map, Run.answer_map, hdependency, hdependency,
        dependencyDir_congr (((steady_moduleAt "").keeps s).trans hs)
          (onRecord_moduleAt hrecord "") hsame]

/-- The modules for whose records a fresh session asks to find the directory of the path. -/
def modulesAsked (w : Surroundings) (path : String) : List String :=
  ((resolve w path).after .fresh).asked

theorem resolveAfresh_congr (hstandard : standardOf w' .fresh = standardOf w .fresh)
    (hsame : ∀ m ∈ ((resolveAfresh w path).after .fresh).asked,
      w'.provider.query m = w.provider.query m) :
    (resolveAfresh w' path).answer .fresh = (resolveAfresh w path).answer .fresh := by
  by_cases hpseudo : path = pseudoPackage
  · rw [resolveAfresh_early w' w (.inl hpseudo)]
  by_cases habsolute : (Path.mk path).isAbsolute
  · rw [resolveAfresh_early w' w (.inr (.inl habsolute))]
  by_cases hblank : path = ""
  · rw [resolveAfresh_early w' w (.inr (.inr hblank))]
  have hdir : (standardDir w' path).answer .fresh = (standardDir w path).answer .fresh := by
    simp only [answer_standardDir, hstandard]
  have hkept : ∀ w : Surroundings, (resolveModule w path).answer ((standardDir w path).after .fresh)
      = (resolveModule w path).answer .fresh :=
    fun w => (steady_resolveModule path).answer_after (steady_standardDir path).keeps .fresh
  -- The standard packages come first. Only if they have no directory for the path does the search
  -- ask for modules, and then it asks for those of the hypothesis.
  rw [resolveAfresh_eq hpseudo habsolute hblank, Run.after_bind] at hsame
  rw [resolveAfresh_eq hpseudo habsolute hblank, resolveAfresh_eq hpseudo habsolute hblank,
    Run.answer_bind, Run.answer_bind, hdir]
  cases hfound : (standardDir w path).answer .fresh with
  | error e => simp only [Except.bind]
  | ok dir? =>
    cases dir? with
    | some dir => simp only [Except.bind, Run.answer_pure]
    | none =>
      rw [hfound] at hsame
      have hrecord : OnRecord ((standardDir w path).after .fresh) := by
        obtain ⟨n, hafter⟩ := after_standardRoots (w := w) .fresh
        intro m hm
        rw [after_standardDir, hafter] at hm
        cases hm
      simp only [Except.bind]
      rw [hkept, hkept]
      exact resolveModule_congr ((steady_standardDir path).keeps .fresh) hrecord hsame

/-- A path has the same directory wherever the standard packages are the same, and so are the
records of the modules that are asked for. -/
theorem resolve_congr (hstandard : standardOf w' .fresh = standardOf w .fresh)
    (hsame : ∀ m ∈ modulesAsked w path, w'.provider.query m = w.provider.query m) :
    (resolve w' path).answer .fresh = (resolve w path).answer .fresh := by
  rw [answer_resolve, answer_resolve]
  refine resolveAfresh_congr hstandard fun m hm => hsame m ?_
  rw [modulesAsked, after_resolve]
  cases (resolveAfresh w path).answer .fresh <;> exact hm

/-! ## The package of a path -/

/-- The surroundings `w'` agree with `w` on what the path depends on: on the records of the modules
that are asked for, on the sources of its directory, and on the parser that reads them. -/
structure AgreeOn (w w' : Surroundings) (path : String) : Prop where
  modules : ∀ m ∈ modulesAsked w path, w'.provider.query m = w.provider.query m
  directory : ∀ dir, (resolve w path).answer .fresh = .ok (some dir) →
    Package.SameSources w.disk w'.disk dir
  parser : w'.recovery = w.recovery

theorem openPath_congr (hstandard : standardOf w' .fresh = standardOf w .fresh)
    (h : AgreeOn w w' path) :
    (openPath w' path).answer .fresh = (openPath w path).answer .fresh := by
  by_cases hblank : path = ""
  · rw [hblank, openPath, openPath, if_pos rfl, if_pos rfl]
  rw [openPath_fresh hblank, openPath_fresh hblank, resolve_congr hstandard h.modules]
  cases hdir : (resolve w path).answer .fresh with
  | error e => rfl
  | ok dir? =>
    cases dir? with
    | none => rfl
    | some dir =>
      simp only [Except.bind, readPackage,
        Surroundings.read_congr h.parser (h.directory dir hdir)]

end Session
end StructFill
