import StructFill.Proofs.Session.Locality

/-! # Where a package lies

  A path that is neither special nor below a standard package is placed by the
  records of modules. The main module comes first. After it the beginnings of
  the path are tried, the longest first, and the first record of a module that
  contains the path settles the matter, for better or worse: where its files
  are missing, no shorter beginning is asked for.

  **Containment.** A module contains the paths that continue its own path at a
  slash. The record of a beginning may be that of another module, so that the
  path of the record counts, not the beginning.

  **Placement.** `Placed` says what the answer is, in terms of the records only.
  It leaves open how the beginnings are enumerated, and it has exactly one
  answer for each path.
-/

namespace StructFill

open Session (Run)

/-! ## Modules that contain a path -/

/-- The directory in which the packages of a module are looked for. -/
inductive Module.Info.Home (m : Module.Info) : Path → Prop where
  | replacement {r dir} (hr : m.replace = some r) (hdir : r.dir = some dir) : Home m dir
  /-- Its own directory counts where no replacement has one. -/
  | own {dir} (hr : ∀ r, m.replace = some r → r.dir = none) (hdir : m.dir = some dir) : Home m dir

theorem Module.Info.effectiveDir?_eq_some_iff {m : Module.Info} {dir : Path} :
    m.effectiveDir? = some dir ↔ m.Home dir := by
  constructor
  · intro h
    cases hr : m.replace.bind (·.dir) with
    | some d =>
      obtain ⟨r, hreplace, hdir⟩ := Option.bind_eq_some_iff.1 hr
      obtain rfl : d = dir := by simpa [effectiveDir?, hr] using h
      exact .replacement hreplace hdir
    | none =>
      have hown : m.dir = some dir := by simpa [effectiveDir?, hr] using h
      exact .own (fun r hreplace => by rwa [hreplace] at hr) hown
  · rintro (⟨hr, hdir⟩ | ⟨hr, hdir⟩)
    · simp [effectiveDir?, hr, hdir]
    · cases hreplace : m.replace with
      | none => simp [effectiveDir?, hreplace, hdir]
      | some r => simp [effectiveDir?, hreplace, hr r hreplace, hdir]

namespace Session

variable {w : Surroundings} {path b : String}

/-- The path lies in the module `m`, and `rest` is what it has behind the path of the module. -/
def LiesIn (path m rest : String) : Prop := path = m ∧ rest = "" ∨ path = m ++ "/" ++ rest

theorem below?_eq_some_iff {m rest : String} (hpath : path ≠ "") (habsolute : ¬ (Path.mk path).isAbsolute) :
    below? path m = some rest ↔ LiesIn path m rest := by
  by_cases hm : m = ""
  · -- Only the empty path and absolute ones continue the empty path.
    subst hm
    have hnot : ¬ LiesIn path "" rest := by
      rintro (⟨rfl, -⟩ | rfl)
      · exact hpath rfl
      · simp [Path.isAbsolute] at habsolute
    simp [below?, hnot]
  rw [below?, if_neg hm, LiesIn]
  constructor
  · intro h
    cases hcut : m.toList.isPrefixOf? path.toList with
    | none => simp [hcut] at h
    | some cs =>
      have happend := List.isPrefixOf?_eq_some_iff_append_eq.1 hcut
      rw [hcut] at h
      split at h
      next hcs =>
        obtain rfl := Option.some.inj hcs
        left
        exact ⟨String.toList_injective (by simpa using happend.symm), (Option.some.inj h).symm⟩
      next cs' hcs =>
        obtain rfl := Option.some.inj hcs
        obtain rfl := Option.some.inj h
        right
        apply String.toList_injective
        rw [← happend]
        simp
      next => cases h
  · have hcut : ∀ cs, m.toList ++ cs = path.toList →
        m.toList.isPrefixOf? path.toList = some cs :=
      fun cs hcs => List.isPrefixOf?_eq_some_iff_append_eq.2 hcs
    rintro (⟨rfl, rfl⟩ | rfl)
    · rw [hcut [] (by simp)]
    · rw [hcut ('/' :: rest.toList) (by simp)]
      simp

/-- A module does not contain a path that goes on with another character than a slash. -/
theorem not_liesIn_append {m t rest : String} (hblank : t ≠ "") (hslash : t.toList.head? ≠ some '/') :
    ¬ LiesIn (m ++ t) m rest := by
  rintro (⟨h, -⟩ | h)
  · exact hblank (by simpa using h)
  · rw [String.append_assoc, String.append_right_inj] at h
    subst h
    simp at hslash

/-! ## Beginnings -/

/-- All beginnings of a path at its slashes are tried. -/
theorem mem_beginnings_iff : b ∈ beginnings path ↔ Begins b path := by
  refine ⟨begins_of_mem_beginnings, fun h => ?_⟩
  have hjoin : ∀ t : String, Text.join ['/'] (Text.splitOn Path.isSlash t.toList) = t.toList :=
    fun t => Text.join_splitOn (by simp [Path.isSlash]) _
  have hpos := List.length_pos_of_ne_nil (Text.splitOn_ne_nil Path.isSlash b.toList)
  -- The elements of the beginning are the first ones of the path.
  obtain ⟨more, hmore⟩ : ∃ more, Text.splitOn Path.isSlash path.toList
      = Text.splitOn Path.isSlash b.toList ++ more := by
    rcases h with rfl | ⟨rest, rfl⟩
    · exact ⟨[], (List.append_nil _).symm⟩
    · refine ⟨Text.splitOn Path.isSlash rest.toList, ?_⟩
      simpa using @Text.splitOn_append Path.isSlash '/' rfl b.toList rest.toList
  simp only [beginnings, List.mem_map, List.mem_reverse, List.mem_range]
  refine ⟨(Text.splitOn Path.isSlash b.toList).length - 1, ?_, ?_⟩
  · rw [hmore, List.length_append]
    omega
  · rw [Nat.sub_add_cancel hpos, hmore, List.take_left, hjoin, String.ofList_toList]

/-! ## Placement -/

/-- The record of the beginning, if there is one, is of a module that does not contain the path. -/
def Passes (w : Surroundings) (path b : String) : Prop :=
  ∃ record, w.provider.query b = .ok record
    ∧ ∀ m, record = some m → ∀ rest, ¬ LiesIn path m.path rest

/-- The main module has no place for the path. -/
def OutsideMain (w : Surroundings) (path : String) : Prop :=
  ∃ record, w.provider.query "" = .ok record
    ∧ ∀ m dir, record = some m → m.dir = some dir → ∀ rest, ¬ LiesIn path m.path rest

/-- What a beginning of the path settles. -/
inductive Settles (w : Surroundings) (path b : String) : Except Error Path → Prop where
  | found {m dir rest} (hm : w.provider.query b = .ok (some m)) (hlies : LiesIn path m.path rest)
    (hhome : m.Home dir) : Settles w path b (.ok (subdirectory dir rest))
  /-- The module contains the path, but its files are not there. -/
  | missing {m rest} (hm : w.provider.query b = .ok (some m)) (hlies : LiesIn path m.path rest)
    (hhome : ∀ dir, ¬ m.Home dir) : Settles w path b (.error (.unresolved path
      ("module " ++ m.path ++ " is missing from the module cache (run go mod download?)")))
  | failed {e} (hm : w.provider.query b = .error e) : Settles w path b (.error e)

/-- Where the path is placed, in terms of the records of modules. -/
inductive Placed (w : Surroundings) (path : String) : Except Error (Option Path) → Prop where
  | mainFailed {e} (hm : w.provider.query "" = .error e) : Placed w path (.error e)
  | main {m dir rest} (hm : w.provider.query "" = .ok (some m)) (hdir : m.dir = some dir)
    (hlies : LiesIn path m.path rest) : Placed w path (.ok (some (subdirectory dir rest)))
  /-- The longest beginning that does not pass settles it. -/
  | dependency {b : String} {answer : Except Error Path} (hmain : OutsideMain w path) (hb : Begins b path)
    (hlonger : ∀ b', Begins b' path → b.length < b'.length → Passes w path b')
    (hsettles : Settles w path b answer) : Placed w path (answer.map some)
  | unknown (hmain : OutsideMain w path) (hpasses : ∀ b, Begins b path → Passes w path b) :
    Placed w path (.error (.unresolved path
      "no module provides this package (forgot to go get?)"))

/-! ## The search -/

section Search

variable (hpath : path ≠ "") (habsolute : ¬ (Path.mk path).isAbsolute)

include hpath habsolute

theorem below?_eq_none_iff {m : String} : below? path m = none ↔ ∀ rest, ¬ LiesIn path m rest := by
  rw [Option.eq_none_iff_forall_ne_some]
  exact forall_congr' fun rest => not_congr (below?_eq_some_iff hpath habsolute)

theorem mainDir?_eq_some_iff {record : Option Module.Info} {dir : Path} :
    mainDir? record path = some dir ↔ ∃ m root rest, record = some m ∧ m.dir = some root
      ∧ LiesIn path m.path rest ∧ dir = subdirectory root rest := by
  simp only [mainDir?, Option.bind_eq_bind, Option.bind_eq_some_iff,
    below?_eq_some_iff hpath habsolute, Option.some.injEq]
  constructor
  · rintro ⟨m, hm, rest, hlies, root, hroot, rfl⟩
    exact ⟨m, root, rest, hm, hroot, hlies, rfl⟩
  · rintro ⟨m, root, rest, hm, hroot, hlies, rfl⟩
    exact ⟨m, hm, rest, hlies, root, hroot, rfl⟩

theorem outsideMain_iff : OutsideMain w path ↔
    ∃ record, w.provider.query "" = .ok record ∧ mainDir? record path = none := by
  refine exists_congr fun record => and_congr_right fun _ => ?_
  rw [Option.eq_none_iff_forall_ne_some]
  simp only [ne_eq, mainDir?_eq_some_iff hpath habsolute]
  constructor
  · rintro houtside dir ⟨m, root, rest, hm, hroot, hlies, -⟩
    exact houtside m root hm hroot rest hlies
  · intro hnone m root hm hroot rest hlies
    exact hnone _ ⟨m, root, rest, hm, hroot, hlies, rfl⟩

/-- Beginnings that pass are gone through. -/
theorem dependencyDir_passes {before bs : List String} (h : ∀ b ∈ before, Passes w path b) :
    (dependencyDir w path (before ++ bs)).answer .fresh
      = (dependencyDir w path bs).answer .fresh := by
  induction before with
  | nil => rfl
  | cons b before ih =>
    obtain ⟨record, hquery, houtside⟩ := h b List.mem_cons_self
    have hrecord := (answer_moduleAt_fresh w b).trans hquery
    refine (dependencyDir_next _ hrecord fun m hm => ?_).1.trans
      (ih fun b hb => h b (List.mem_cons_of_mem _ hb))
    exact (below?_eq_none_iff hpath habsolute).2 (houtside m hm)

/-- The first beginning that settles the matter ends the search. -/
theorem dependencyDir_settles {bs : List String} {answer : Except Error Path}
    (h : Settles w path b answer) : (dependencyDir w path (b :: bs)).answer .fresh = answer := by
  rw [dependencyDir, Run.answer_bind, answer_moduleAt_fresh]
  cases h with
  | found hm hlies hhome =>
    simp only [hm, Except.bind, (below?_eq_some_iff hpath habsolute).2 hlies,
      Module.Info.effectiveDir?_eq_some_iff.2 hhome, Run.answer_pure]
  | @missing m rest hm hlies hhome =>
    have hnone : m.effectiveDir? = none :=
      Option.eq_none_iff_forall_ne_some.2 fun dir hdir =>
        hhome dir (Module.Info.effectiveDir?_eq_some_iff.1 hdir)
    simp only [hm, Except.bind, (below?_eq_some_iff hpath habsolute).2 hlies, hnone,
      Run.answer_throw]
  | failed hm => simp only [hm, Except.bind]

/-- A beginning passes, or it settles the matter. -/
theorem passes_or_settles (w : Surroundings) (b : String) :
    Passes w path b ∨ ∃ answer, Settles w path b answer := by
  cases hquery : w.provider.query b with
  | error e => exact .inr ⟨_, .failed hquery⟩
  | ok record =>
    cases record with
    | none => exact .inl ⟨none, hquery, by simp⟩
    | some m =>
      cases hbelow : below? path m.path with
      | none =>
        refine .inl ⟨some m, hquery, ?_⟩
        rintro _ ⟨⟩
        exact (below?_eq_none_iff hpath habsolute).1 hbelow
      | some rest =>
        have hlies := (below?_eq_some_iff hpath habsolute).1 hbelow
        cases hdir : m.effectiveDir? with
        | some dir =>
          exact .inr ⟨_, .found hquery hlies (Module.Info.effectiveDir?_eq_some_iff.1 hdir)⟩
        | none =>
          refine .inr ⟨_, .missing hquery hlies fun dir hhome => ?_⟩
          rw [Module.Info.effectiveDir?_eq_some_iff.2 hhome] at hdir
          cases hdir

/-- All beginnings in a list pass, or one after those that pass settles the matter. -/
theorem exists_first_settles (w : Surroundings) (bs : List String) :
    (∀ b ∈ bs, Passes w path b) ∨ ∃ before b after answer, bs = before ++ b :: after
      ∧ (∀ b' ∈ before, Passes w path b') ∧ Settles w path b answer := by
  induction bs with
  | nil => exact .inl (by simp)
  | cons b bs ih =>
    rcases passes_or_settles hpath habsolute w b with hpasses | ⟨answer, hsettles⟩
    · rcases ih with hall | ⟨before, b', after, answer, rfl, hbefore, hsettles⟩
      · exact .inl (List.forall_mem_cons.2 ⟨hpasses, hall⟩)
      · exact .inr ⟨b :: before, b', after, answer, rfl,
          List.forall_mem_cons.2 ⟨hpasses, hbefore⟩, hsettles⟩
    · exact .inr ⟨[], b, bs, answer, rfl, by simp, hsettles⟩

/-- Every path has a place, be it an error. -/
theorem exists_placed (w : Surroundings) : ∃ answer, Placed w path answer := by
  cases hquery : w.provider.query "" with
  | error e => exact ⟨_, .mainFailed hquery⟩
  | ok record =>
    cases hdir : mainDir? record path with
    | some dir =>
      obtain ⟨m, root, rest, rfl, hroot, hlies, -⟩ := (mainDir?_eq_some_iff hpath habsolute).1 hdir
      exact ⟨_, .main hquery hroot hlies⟩
    | none =>
      have hmain := (outsideMain_iff hpath habsolute).2 ⟨record, hquery, hdir⟩
      rcases exists_first_settles hpath habsolute w (beginnings path) with
        hall | ⟨before, b, after, answer, hbs, hbefore, hsettles⟩
      · exact ⟨_, .unknown hmain fun b hb => hall b (mem_beginnings_iff.2 hb)⟩
      have hb : b ∈ beginnings path := by simp [hbs]
      refine ⟨_, .dependency hmain (mem_beginnings_iff.1 hb) (fun b' hb' hlt => ?_) hsettles⟩
      -- The longer beginnings come before this one.
      have hmem := mem_beginnings_iff.2 hb'
      have horder := pairwise_beginnings path
      rw [hbs] at hmem horder
      rcases List.mem_append.1 hmem with hmem | hmem
      · exact hbefore b' hmem
      · have hafter := (List.pairwise_cons.1 (List.pairwise_append.1 horder).2.1).1
        rcases List.mem_cons.1 hmem with rfl | hmem
        · omega
        · have := hafter b' hmem
          omega

/-- The search finds the place of the path. -/
theorem resolveModule_of_placed {answer : Except Error (Option Path)} (h : Placed w path answer) :
    (resolveModule w path).answer .fresh = answer := by
  -- Asking for the main module first changes no later answer, so the search behind it is that of
  -- a fresh session.
  have hsearch : OutsideMain w path → (resolveModule w path).answer .fresh
      = ((dependencyDir w path (beginnings path)).answer .fresh).map some := by
    intro hmain
    obtain ⟨record, hquery, hnone⟩ := (outsideMain_iff hpath habsolute).1 hmain
    have hkept : (dependencyDir w path (beginnings path)).answer ((moduleAt w "").after .fresh)
        = (dependencyDir w path (beginnings path)).answer .fresh :=
      (steady_dependencyDir path _).answer_after (steady_moduleAt "").keeps .fresh
    rw [resolveModule, mainModule, Run.answer_bind, answer_moduleAt_fresh, hquery]
    simp only [Except.bind, hnone, Run.answer_map, hkept]
  cases h with
  | mainFailed hm =>
    rw [resolveModule, mainModule, Run.answer_bind, answer_moduleAt_fresh, hm]
    simp only [Except.bind]
  | @main m root rest hm hroot hlies =>
    have hdir := (mainDir?_eq_some_iff hpath habsolute).2 ⟨m, root, rest, rfl, hroot, hlies, rfl⟩
    rw [resolveModule, mainModule, Run.answer_bind, answer_moduleAt_fresh, hm]
    simp only [Except.bind, hdir, Run.answer_pure]
  | @dependency b answer hmain hb hlonger hsettles =>
    obtain ⟨before, after, hbs⟩ := List.append_of_mem (mem_beginnings_iff.2 hb)
    have horder := pairwise_beginnings path
    rw [hbs] at horder
    have hbefore : ∀ b' ∈ before, Passes w path b' := by
      intro b' hb'
      refine hlonger b' (mem_beginnings_iff.1 (by simp [hbs, hb'])) ?_
      exact (List.pairwise_append.1 horder).2.2 b' hb' b List.mem_cons_self
    rw [hsearch hmain, hbs, dependencyDir_passes hpath habsolute hbefore,
      dependencyDir_settles hpath habsolute hsettles]
  | unknown hmain hpasses =>
    have hall : ∀ b ∈ beginnings path, Passes w path b :=
      fun b hb => hpasses b (mem_beginnings_iff.1 hb)
    rw [hsearch hmain, ← List.append_nil (beginnings path),
      dependencyDir_passes hpath habsolute hall]
    rfl

end Search

/-! ## Resolution -/

theorem answer_standardDir_eq_none (h : (standardOf w .fresh).lookup (firstElement path) = none) :
    (standardDir w path).answer .fresh = .ok none := by
  rw [answer_standardDir]
  unfold firstElement at h
  cases hcut : Text.cutFirst? '/' path.toList with
  | none => rw [hcut] at h; simp [h]
  | some cut => rw [hcut] at h; simp [h]

/-- A path that no standard package contains is looked for among the modules. -/
theorem answer_resolve_of_standard_none (hpseudo : path ≠ pseudoPackage)
    (habsolute : ¬ (Path.mk path).isAbsolute) (hpath : path ≠ "")
    (hstandard : (standardOf w .fresh).lookup (firstElement path) = none) :
    (resolve w path).answer .fresh = (resolveModule w path).answer .fresh := by
  have hkept : (resolveModule w path).answer ((standardDir w path).after .fresh)
      = (resolveModule w path).answer .fresh :=
    (steady_resolveModule path).answer_after (steady_standardDir path).keeps .fresh
  rw [answer_resolve]
  show (resolveAfresh w path).answer .fresh = _
  rw [resolveAfresh_eq hpseudo habsolute hpath, Run.answer_bind,
    answer_standardDir_eq_none hstandard]
  simp only [Except.bind, hkept]

/-- **Resolution by modules.** A path that is not empty, relative, not the pseudo package, and not
below a standard package has the directory, or the error, that the records of modules say, and no
other, whatever the session was asked before. A module contains no path that continues its own one
within an element. -/
theorem resolve_placed (earlier : List Question) (h : ¬ NeedsNoModule w .fresh path) :
    (∀ answer, (resolve w path).answer (afterAll (earlier.map (w, ·)) .fresh) = answer
        ↔ Placed w path answer)
      ∧ ∀ m t rest, t ≠ "" → t.toList.head? ≠ some '/' → ¬ LiesIn (m ++ t) m rest := by
  have hpath : path ≠ "" := by
    rintro rfl
    exact h .blank
  have hpseudo : path ≠ pseudoPackage := by
    rintro rfl
    exact h .pseudo
  have habsolute : ¬ (Path.mk path).isAbsolute := fun habsolute => h (.absolute habsolute)
  have hstandard : (standardOf w .fresh).lookup (firstElement path) = none :=
    Option.eq_none_iff_forall_ne_some.2 fun dir hdir => h (.standard hdir)
  have hanswer : (resolve w path).answer (afterAll (earlier.map (w, ·)) .fresh)
      = (resolveModule w path).answer .fresh :=
    (answer_ask_afterAll (.directory path) earlier .fresh).trans
      (answer_resolve_of_standard_none hpseudo habsolute hpath hstandard)
  refine ⟨fun answer => ?_, fun m t rest => not_liesIn_append⟩
  rw [hanswer]
  constructor
  · rintro rfl
    obtain ⟨answer, hplaced⟩ := exists_placed hpath habsolute w
    rwa [resolveModule_of_placed hpath habsolute hplaced]
  · exact resolveModule_of_placed hpath habsolute

/-- Four modules: the main one, one whose record is found under the path of a package of another
one, one with a replacement, and one whose path is shorter. -/
def forkedModules : Surroundings where
  disk := ⟨.empty, []⟩
  provider := ⟨fun
    | "" => .ok (some { Module.Info.blank with path := "m", dir := some ⟨"/m"⟩ })
    | "a/b/c" => .ok (some { Module.Info.blank with path := "a/bc", dir := some ⟨"/bc"⟩ })
    | "a/b" => .ok (some { Module.Info.blank with
        path := "a/b"
        replace := some { Module.Info.blank with path := "fork", dir := some ⟨"/fork"⟩ } })
    | "a" => .ok (some { Module.Info.blank with path := "a", dir := some ⟨"/a"⟩ })
    | _ => .ok none, none⟩
  goroot := none

theorem resolve_placed_replacement :
    ¬ NeedsNoModule forkedModules .fresh "a/b/c"
      ∧ (resolve forkedModules "a/b/c").answer
        (afterAll ([.directory "a", .mainModule].map (forkedModules, ·)) .fresh)
        = .ok (some ⟨"/fork/c"⟩)
      ∧ Placed forkedModules "a/b/c" (.ok (some ⟨"/fork/c"⟩)) := by
  have hneeds : ¬ NeedsNoModule forkedModules .fresh "a/b/c" := by
    generalize hpath : "a/b/c" = path
    rintro (_ | _ | habsolute | hstandard)
    · exact absurd hpath (by decide)
    · exact absurd hpath (by decide)
    · subst hpath
      exact absurd habsolute (by decide)
    · cases hstandard
  have hanswer : (resolve forkedModules "a/b/c").answer
      (afterAll ([.directory "a", .mainModule].map (forkedModules, ·)) .fresh)
      = .ok (some ⟨"/fork/c"⟩) := rfl
  exact ⟨hneeds, hanswer, ((resolve_placed _ hneeds).1 _).1 hanswer⟩

end Session
end StructFill
