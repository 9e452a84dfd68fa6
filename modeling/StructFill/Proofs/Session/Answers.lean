import StructFill.Proofs.Session.Run
import StructFill.Session.Opening

/-! # What sessions answer

  A session remembers answers so that they need not be found again. Nothing
  else may come of it: what a session answers to a question is the same before
  and after any other question was asked.

  Three views of a session are built on each other: the answers about modules
  and standard packages, those about directories, and those about packages.
  The last one, `answers`, is kept by every run, and every run is determined
  by it.
-/

namespace StructFill.Session

open Run (Keeps Steady)

variable {α β : Type} {w : Surroundings}

/-! ## Modules and standard packages -/

/-- What a session answers about modules and about the standard packages. -/
def moduleAnswers (w : Surroundings) (s : Session) :
    (String → Except Error (Option Module.Info)) × Except Error (List (String × Path)) :=
  (fun path => (moduleAt w path).answer s, (standardRoots w).answer s)

/-- What is remembered of directories and packages. -/
def remembered (s : Session) :
    List (String × Option Path) × List (String × Package) × List (String × Error) :=
  (s.dirs, s.packages, s.failures)

/-- A record is remembered, or else it is what the provider says. -/
theorem answer_moduleAt (path : String) (s : Session) :
    (moduleAt w path).answer s =
      match s.modules.lookup path with
      | some m => .ok m
      | none => w.provider.query path := by
  rw [moduleAt, Run.answer_get_bind]
  cases s.modules.lookup path with
  | some m => rfl
  | none => cases w.provider.query path <;> simp [Run.answer_bind, Except.bind, Except.map]

theorem after_moduleAt (path : String) (s : Session) :
    (moduleAt w path).after s =
      match s.modules.lookup path, w.provider.query path with
      | some _, _ => s
      | none, .error _ => s.noteAsked path
      | none, .ok m => (s.noteAsked path).noteModule path m := by
  rw [moduleAt, Run.after_get_bind]
  cases s.modules.lookup path with
  | some m => rfl
  | none => cases w.provider.query path <;> simp [Run.after_bind]

/-- The directories of the standard packages that a session has listed or would list. -/
def standardOf (w : Surroundings) (s : Session) : List (String × Path) :=
  s.standard.getD (((w.goroot.or w.provider.goroot).map (listStandard w.disk)).getD [])

theorem answer_standardRoots (s : Session) :
    (standardRoots w).answer s = .ok (standardOf w s) := by
  rw [standardRoots, Run.answer_get_bind, standardOf]
  cases s.standard with
  | some roots => rfl
  | none => cases w.goroot <;> simp [Run.answer_bind, Except.bind, Except.map]

/-- Listing the standard packages notes them and nothing else but the question. -/
theorem after_standardRoots (s : Session) :
    ∃ n, (standardRoots w).after s =
      { s with standard := some (standardOf w s), gorootCalls := n } := by
  rw [standardRoots, Run.after_get_bind, standardOf]
  cases hs : s.standard with
  | some roots =>
    refine ⟨s.gorootCalls, ?_⟩
    show s = { s with standard := some roots }
    rw [← hs]
  | none =>
    cases w.goroot with
    | some root => exact ⟨s.gorootCalls, by simp [noteStandard]⟩
    | none =>
      exact ⟨s.gorootCalls + 1, by simp [Run.after_bind, noteStandard, noteGorootCall]⟩

/-- The answers about modules depend on what is remembered of them. -/
theorem moduleAnswers_eq {s s' : Session} (hmodules : s.modules = s'.modules)
    (hstandard : s.standard = s'.standard) : moduleAnswers w s = moduleAnswers w s' := by
  refine Prod.ext (funext fun path => ?_) ?_
  · show (moduleAt w path).answer s = (moduleAt w path).answer s'
    rw [answer_moduleAt, answer_moduleAt, hmodules]
  · show (standardRoots w).answer s = (standardRoots w).answer s'
    rw [answer_standardRoots, answer_standardRoots, standardOf, standardOf, hstandard]

/-- Noting what the provider said changes no answer about modules. -/
theorem steady_moduleAt (path : String) :
    Steady (moduleAnswers w) remembered (moduleAt w path) where
  keeps s := by
    refine Prod.ext (funext fun path' => ?_) ?_
    · show (moduleAt w path').answer _ = (moduleAt w path').answer s
      rw [answer_moduleAt, answer_moduleAt, after_moduleAt]
      cases hm : s.modules.lookup path with
      | some m => rfl
      | none =>
        cases hq : w.provider.query path with
        | error e => rfl
        | ok m =>
          -- Asked again, the path gets from the memory what the provider has just said.
          by_cases h : path' = path
          · subst h
            simp [noteModule, noteAsked, hm, hq]
          · have hne : (path' == path) = false := by simpa using h
            simp [noteModule, noteAsked, List.lookup_cons, hne]
    · show (standardRoots w).answer _ = (standardRoots w).answer s
      rw [answer_standardRoots, answer_standardRoots, after_moduleAt]
      cases s.modules.lookup path <;> cases w.provider.query path <;> rfl
  spares s := by
    rw [after_moduleAt]
    cases s.modules.lookup path <;> cases w.provider.query path <;> rfl
  determined h := congrFun (congrArg Prod.fst h) path

theorem steady_standardRoots : Steady (moduleAnswers w) remembered (standardRoots w) where
  keeps s := by
    obtain ⟨n, hafter⟩ := after_standardRoots (w := w) s
    rw [hafter]
    refine Prod.ext (funext fun path => ?_) ?_
    · show (moduleAt w path).answer _ = (moduleAt w path).answer s
      rw [answer_moduleAt, answer_moduleAt]
    · show (standardRoots w).answer _ = (standardRoots w).answer s
      rw [answer_standardRoots, answer_standardRoots]
      rfl
  spares s := by
    obtain ⟨n, hafter⟩ := after_standardRoots (w := w) s
    rw [hafter]
    rfl
  determined h := congrArg Prod.snd h

/-! ## Directories -/

/-- What a session answers about modules and about directories. -/
def dirAnswers (w : Surroundings) (s : Session) :
    ((String → Except Error (Option Module.Info)) × Except Error (List (String × Path)))
      × (String → Except Error (Option Path)) :=
  (moduleAnswers w s, fun path => (resolve w path).answer s)

theorem steady_standardDir (path : String) :
    Steady (moduleAnswers w) remembered (standardDir w path) := by
  refine steady_standardRoots.bind fun roots => ?_
  cases Text.cutFirst? '/' path.toList with
  | none => exact .pure _
  | some cut => exact .pure _

/-- The search along the beginnings of a path asks for one module after the other. -/
theorem steady_dependencyDir (path : String) (beginnings : List String) :
    Steady (moduleAnswers w) remembered (dependencyDir w path beginnings) := by
  induction beginnings with
  | nil => exact .throw _
  | cons b rest ih =>
    refine (steady_moduleAt b).bind fun m => ?_
    cases m with
    | none => exact ih
    | some m =>
      dsimp only
      cases below? path m.path with
      | none => exact ih
      | some sub =>
        dsimp only
        cases m.effectiveDir? with
        | none => exact .throw _
        | some dir => exact .pure _

theorem steady_resolveAfresh (path : String) :
    Steady (moduleAnswers w) remembered (resolveAfresh w path) := by
  unfold resolveAfresh
  split
  · exact .pure _
  split
  · exact .pure _
  split
  · exact .throw _
  refine (steady_standardDir path).bind fun dir => ?_
  cases dir with
  | some dir => exact .pure _
  | none =>
    refine (steady_moduleAt "").bind fun m => ?_
    cases mainDir? m path with
    | some dir => exact .pure _
    | none => exact (steady_dependencyDir path _).map _

/-- A directory is remembered, or else it is looked for. -/
theorem answer_resolve (path : String) (s : Session) :
    (resolve w path).answer s =
      match s.dirs.lookup path with
      | some dir => .ok dir
      | none => (resolveAfresh w path).answer s := by
  rw [resolve, Run.answer_get_bind]
  cases s.dirs.lookup path with
  | some dir => rfl
  | none =>
    simp only [Run.answer_bind]
    cases (resolveAfresh w path).answer s <;> rfl

theorem after_resolve (path : String) (s : Session) :
    (resolve w path).after s =
      match s.dirs.lookup path, (resolveAfresh w path).answer s with
      | some _, _ => s
      | none, .ok dir => ((resolveAfresh w path).after s).noteDir path dir
      | none, .error _ => (resolveAfresh w path).after s := by
  rw [resolve, Run.after_get_bind]
  cases s.dirs.lookup path with
  | some dir => rfl
  | none =>
    simp only [Run.after_bind]
    cases (resolveAfresh w path).answer s <;> rfl

/-- Sessions that answer alike about modules and remember the same directories answer alike
about directories. -/
theorem dirAnswers_eq {s s' : Session} (hmodules : moduleAnswers w s = moduleAnswers w s')
    (hdirs : s.dirs = s'.dirs) : dirAnswers w s = dirAnswers w s' := by
  refine Prod.ext hmodules (funext fun path => ?_)
  show (resolve w path).answer s = (resolve w path).answer s'
  rw [answer_resolve, answer_resolve, hdirs, (steady_resolveAfresh path).determined hmodules]

/-- What is steady for the answers about modules is so for those about directories. -/
theorem Run.Steady.dirs {r : Run α} (h : Steady (moduleAnswers w) remembered r) :
    Steady (dirAnswers w) remembered r where
  keeps s := dirAnswers_eq (h.keeps s) (congrArg Prod.fst (h.spares s))
  spares := h.spares
  determined hs := h.determined (congrArg Prod.fst hs)

/-- What is remembered of packages. -/
def rememberedPackages (s : Session) : List (String × Package) × List (String × Error) :=
  (s.packages, s.failures)

/-- Noting the answer that a session gives about a directory changes no answer. -/
theorem dirAnswers_noteDir {path : String} {dir : Option Path} {s : Session}
    (h : (resolve w path).answer s = .ok dir) :
    dirAnswers w (s.noteDir path dir) = dirAnswers w s := by
  have hmodules : moduleAnswers w (s.noteDir path dir) = moduleAnswers w s :=
    moduleAnswers_eq rfl rfl
  refine Prod.ext hmodules (funext fun path' => ?_)
  show (resolve w path').answer _ = (resolve w path').answer s
  -- Other paths are looked for as before, since the answers about modules are the same.
  by_cases heq : path' = path
  · subst heq
    rw [answer_resolve, h]
    simp [noteDir]
  · have hne : (path' == path) = false := by simpa using heq
    rw [answer_resolve, answer_resolve, (steady_resolveAfresh path').determined hmodules]
    simp [noteDir, List.lookup_cons, hne]

theorem steady_resolve (path : String) :
    Steady (dirAnswers w) rememberedPackages (resolve w path) where
  keeps s := by
    have hafresh := (steady_resolveAfresh (w := w) path).dirs
    have hanswer := answer_resolve (w := w) path s
    rw [after_resolve]
    cases hd : s.dirs.lookup path with
    | some dir => rfl
    | none =>
      cases ha : (resolveAfresh w path).answer s with
      | error e => exact hafresh.keeps s
      | ok dir =>
        rw [hd, ha] at hanswer
        -- The answer that is noted is the one that the session had in store before the search.
        have hstored : (resolve w path).answer ((resolveAfresh w path).after s) = .ok dir :=
          (congrFun (congrArg Prod.snd (hafresh.keeps s)) path).trans hanswer
        exact (dirAnswers_noteDir hstored).trans (hafresh.keeps s)
  spares s := by
    have hafresh := congrArg Prod.snd ((steady_resolveAfresh (w := w) path).spares s)
    rw [after_resolve]
    cases s.dirs.lookup path with
    | some dir => rfl
    | none => cases (resolveAfresh w path).answer s <;> exact hafresh
  determined h := congrFun (congrArg Prod.snd h) path

/-! ## Packages -/

/-- What a session answers to any question. -/
def answers (w : Surroundings) (s : Session) :
    (((String → Except Error (Option Module.Info)) × Except Error (List (String × Path)))
      × (String → Except Error (Option Path))) × (String → Except Error (Option Package)) :=
  (dirAnswers w s, fun path => (openPath w path).answer s)

/-- The run changes no answer of a session, and its own answer depends on those only. -/
abbrev Transparent (w : Surroundings) (r : Run α) : Prop := Steady (answers w) (fun _ => ()) r

/-- What is read from the directory of an import path. -/
def readPackage (w : Surroundings) (path : String) :
    Option Path → Except Error (Option Package)
  | none => .ok none
  | some dir => (w.read dir path).map some

/-- A package is remembered, or its failure is, or else its directory is read. -/
theorem answer_openPath {path : String} (hpath : path ≠ "") (s : Session) :
    (openPath w path).answer s =
      match s.packages.lookup path, s.failures.lookup path with
      | some p, _ => .ok (some p)
      | none, some e => .error e
      | none, none => ((resolve w path).answer s).bind (readPackage w path) := by
  rw [openPath, if_neg hpath, Run.answer_get_bind]
  cases s.packages.lookup path with
  | some p => rfl
  | none =>
    cases s.failures.lookup path with
    | some e => rfl
    | none =>
      simp only [Run.answer_bind]
      cases (resolve w path).answer s with
      | error e => rfl
      | ok dir =>
        cases dir with
        | none => rfl
        | some dir =>
          cases h : w.read dir path <;>
            simp [Except.bind, Except.map, readPackage, h, Run.answer_bind]

theorem after_openPath {path : String} (hpath : path ≠ "") (s : Session) :
    (openPath w path).after s =
      match s.packages.lookup path, s.failures.lookup path, (resolve w path).answer s with
      | none, none, .ok (some dir) =>
        match w.read dir path with
        | .ok p => ((resolve w path).after s).noteParsed.notePackage path p
        | .error e => ((resolve w path).after s).noteParsed.noteFailure path e
      | none, none, _ => (resolve w path).after s
      | _, _, _ => s := by
  rw [openPath, if_neg hpath, Run.after_get_bind]
  cases s.packages.lookup path with
  | some p => rfl
  | none =>
    cases s.failures.lookup path with
    | some e => rfl
    | none =>
      simp only [Run.after_bind]
      cases (resolve w path).answer s with
      | error e => rfl
      | ok dir =>
        cases dir with
        | none => rfl
        | some dir => cases h : w.read dir path <;> simp [Run.after_bind, h]

/-- Sessions that answer alike about directories and remember the same of packages answer
alike. -/
theorem answers_eq {s s' : Session} (hdirs : dirAnswers w s = dirAnswers w s')
    (hpackages : rememberedPackages s = rememberedPackages s') : answers w s = answers w s' := by
  refine Prod.ext hdirs (funext fun path => ?_)
  show (openPath w path).answer s = (openPath w path).answer s'
  by_cases hpath : path = ""
  · subst hpath
    rfl
  · have hp : s.packages = s'.packages := congrArg Prod.fst hpackages
    have hf : s.failures = s'.failures := congrArg Prod.snd hpackages
    rw [answer_openPath hpath, answer_openPath hpath, hp, hf,
      (steady_resolve path).determined hdirs]

/-- What is steady for the answers about directories is so for all answers. -/
theorem Run.Steady.transparent {r : Run α} (h : Steady (dirAnswers w) rememberedPackages r) :
    Transparent w r where
  keeps s := answers_eq (h.keeps s) (h.spares s)
  spares _ := rfl
  determined hs := h.determined (congrArg Prod.fst hs)

/-- What a session notes for one path changes no answer, if it does not change the one for this
path. -/
theorem answers_of_others {path : String} {s s' : Session} (hdirs : dirAnswers w s' = dirAnswers w s)
    (hsame : (openPath w path).answer s' = (openPath w path).answer s)
    (hpackages : ∀ p ≠ path, s'.packages.lookup p = s.packages.lookup p)
    (hfailures : ∀ p ≠ path, s'.failures.lookup p = s.failures.lookup p) :
    answers w s' = answers w s := by
  refine Prod.ext hdirs (funext fun path' => ?_)
  show (openPath w path').answer s' = (openPath w path').answer s
  by_cases hempty : path' = ""
  · subst hempty
    rfl
  by_cases heq : path' = path
  · subst heq
    exact hsame
  · rw [answer_openPath hempty, answer_openPath hempty, (steady_resolve path').determined hdirs,
      hpackages path' heq, hfailures path' heq]

/-- Noting the package that a session answers with changes no answer. -/
theorem answers_notePackage {path : String} {p : Package} {s : Session} (hpath : path ≠ "")
    (h : (openPath w path).answer s = .ok (some p)) :
    answers w (s.noteParsed.notePackage path p) = answers w s := by
  have hdirs : dirAnswers w (s.noteParsed.notePackage path p) = dirAnswers w s :=
    dirAnswers_eq (moduleAnswers_eq rfl rfl) rfl
  refine answers_of_others hdirs (?_ : (openPath w path).answer _ = _) ?_ fun _ _ => rfl
  · rw [h, answer_openPath hpath]
    simp [notePackage]
  · intro path' hne
    have hne' : (path' == path) = false := by simpa using hne
    simp [notePackage, noteParsed, List.lookup_cons, hne']

/-- Noting the failure that a session answers with changes no answer. The path must not have a
package, which would hide the failure. -/
theorem answers_noteFailure {path : String} {e : Error} {s : Session} (hpath : path ≠ "")
    (hnone : s.packages.lookup path = none) (h : (openPath w path).answer s = .error e) :
    answers w (s.noteParsed.noteFailure path e) = answers w s := by
  have hdirs : dirAnswers w (s.noteParsed.noteFailure path e) = dirAnswers w s :=
    dirAnswers_eq (moduleAnswers_eq rfl rfl) rfl
  refine answers_of_others hdirs (?_ : (openPath w path).answer _ = _) (fun _ _ => rfl) ?_
  · rw [h, answer_openPath hpath]
    simp [noteFailure, noteParsed, hnone]
  · intro path' hne
    have hne' : (path' == path) = false := by simpa using hne
    simp [noteFailure, noteParsed, List.lookup_cons, hne']

/-- Opening a package changes no answer, whether it is read now or was before. -/
theorem transparent_openPath (path : String) : Transparent w (openPath w path) where
  keeps s := by
    by_cases hpath : path = ""
    · subst hpath
      rfl
    have hresolve : answers w ((resolve w path).after s) = answers w s :=
      (steady_resolve path).transparent.keeps s
    have hpackages := (steady_resolve (w := w) path).spares s
    have hanswer := answer_openPath (w := w) hpath s
    rw [after_openPath hpath]
    cases hp : s.packages.lookup path with
    | some p => rfl
    | none =>
      cases hf : s.failures.lookup path with
      | some e => rfl
      | none =>
        rw [hp, hf] at hanswer
        cases hr : (resolve w path).answer s with
        | error e => exact hresolve
        | ok dir =>
          cases dir with
          | none => exact hresolve
          | some dir =>
            rw [hr] at hanswer
            -- What is noted is the answer that the session had in store before the reading.
            have hstored : (openPath w path).answer ((resolve w path).after s) =
                readPackage w path (some dir) :=
              (congrFun (congrArg Prod.snd hresolve) path).trans hanswer
            show answers w (match w.read dir path with
              | .ok p => _
              | .error e => _) = _
            cases hread : w.read dir path with
            | ok p =>
              refine (answers_notePackage hpath ?_).trans hresolve
              rw [hstored, readPackage, hread, Except.map]
            | error e =>
              -- The search for the directory has opened no package in the meantime.
              have hnone : ((resolve w path).after s).packages.lookup path = none := by
                rw [show ((resolve w path).after s).packages = s.packages from
                  congrArg Prod.fst hpackages, hp]
              refine (answers_noteFailure hpath hnone ?_).trans hresolve
              rw [hstored, readPackage, hread, Except.map]
  spares _ := rfl
  determined h := congrFun (congrArg Prod.snd h) path

end StructFill.Session
