import StructFill.Proofs.Session.Placement

/-! # Directories within the root of a package

  What an import path has behind the path of its module is joined to the
  directory of the module. It is cut off as text and joined as a path, and the
  two readings differ: a text that begins with a slash is an absolute path,
  which stands for itself, and the step to a parent is kept.

  **Containment** is lexical. A path lies within another one if it has the
  components of that one first and the others never lead above it.

  So the directory of an import path lies within that of its module where the
  rest of the path does not climb. It need not otherwise: a slash too many
  leads anywhere.
-/

namespace StructFill

open Session (Run)

/-! ## Lexical containment -/

namespace Path

/-- The components, from `n` entries below the start on, never lead above the start. -/
def staysWithin : Nat → List Component → Bool
  | _, [] => true
  | n, .entry _ :: cs => staysWithin (n + 1) cs
  | n + 1, .up :: cs => staysWithin n cs
  | 0, .up :: _ => false
  | n, .here :: cs => staysWithin n cs
  | _, .root :: _ => false

/-- The path is `root`, or lies below it. -/
def Within (p root : Path) : Prop :=
  ∃ cs, p.components = root.components ++ cs ∧ staysWithin 0 cs

instance (p root : Path) : Decidable (p.Within root) :=
  decidable_of_iff ((root.components.isPrefixOf? p.components).any (staysWithin 0) = true) <| by
    rw [Option.any_eq_true]
    refine exists_congr fun cs => and_congr_left fun _ => ?_
    rw [List.isPrefixOf?_eq_some_iff_append_eq, eq_comm]

theorem within_self (p : Path) : p.Within p := ⟨[], by simp, rfl⟩

theorem staysWithin_of_forall {cs : List Component} (h : ∀ c ∈ cs, c ≠ .root ∧ c ≠ .up) (n : Nat) :
    staysWithin n cs := by
  induction cs generalizing n with
  | nil => rfl
  | cons c cs ih =>
    obtain ⟨⟨hroot, hup⟩, hrest⟩ := List.forall_mem_cons.1 h
    cases c with
    | root => exact absurd rfl hroot
    | up => exact absurd rfl hup
    | here => simpa [staysWithin] using ih hrest n
    | entry name => simpa [staysWithin] using ih hrest (n + 1)

/-- A relative path that is joined stays within where it does so by itself. -/
theorem within_join_iff {root q : Path} (hq : q.isAbsolute = false) :
    (root.join q).Within root ↔ staysWithin 0 q.components := by
  by_cases hroot : root.text = ""
  · obtain rfl : root = ⟨""⟩ := by rw [← hroot]
    have hblank : (Path.mk "").components = [] := rfl
    simp [Within, hblank, join, hq]
  · have hcomponents := components_join hroot hq
    -- A dot in front is the one component that joining leaves out, and it leads nowhere.
    have hdot : staysWithin 0 q.components
        = staysWithin 0 (q.pieces.filterMap pieceComponent?) := by
      rw [components_eq]
      rcases frontSteps_of_relative hq with hfront | hfront <;> simp [hfront, staysWithin]
    rw [hdot, Within, hcomponents]
    constructor
    · rintro ⟨cs, hcs, hstays⟩
      rwa [List.append_cancel_left hcs]
    · intro hstays
      exact ⟨_, rfl, hstays⟩

/-- Joined to the root, the rest leads to the root or below it. -/
def StaysBelow (root : Path) (rest : String) : Prop :=
  if (Path.mk rest).isAbsolute then (Path.mk rest).Within root
  else staysWithin 0 (Path.mk rest).components

theorem within_joinName_iff {root : Path} {rest : String} :
    (root.joinName rest).Within root ↔ root.StaysBelow rest := by
  unfold StaysBelow joinName
  split
  next habsolute => simp [join, habsolute]
  next hrelative => exact within_join_iff (by simpa using hrelative)

/-- No piece of the path is empty or the step to a parent. -/
def Tidy (p : Path) : Prop := ∀ piece ∈ p.pieces, piece ≠ [] ∧ piece ≠ ['.', '.']

theorem staysBelow_of_tidy {root : Path} {rest : String} (h : (Path.mk rest).Tidy) :
    root.StaysBelow rest := by
  have hrelative : (Path.mk rest).isAbsolute = false := by
    rw [← Bool.not_eq_true, isAbsolute_iff]
    rintro ⟨q, qs, hpieces⟩
    exact (h [] (by simp [hpieces])).1 rfl
  rw [StaysBelow, if_neg (by simp [hrelative])]
  -- Only a piece of two dots would lead to a parent, and a tidy text has none.
  refine staysWithin_of_forall (fun c hc => ?_) 0
  rw [components_eq, List.mem_append] at hc
  rcases hc with hfront | hpiece
  · rcases frontSteps_of_relative hrelative with hnone | hdot
    · simp [hnone] at hfront
    · obtain rfl : c = .here := by simpa [hdot] using hfront
      simp
  · obtain ⟨piece, hmem, hc⟩ := List.mem_filterMap.1 hpiece
    have hup := (h piece hmem).2
    unfold pieceComponent? at hc
    rw [if_neg hup] at hc
    split at hc
    · cases hc
    · obtain rfl := Option.some.inj hc
      simp

end Path

namespace Session

variable {w : Surroundings} {path rest : String} {root dir : Path}

/-! ## Remainders -/

theorem LiesIn.unique {m rest' : String} (h : LiesIn path m rest) (h' : LiesIn path m rest') :
    rest = rest' := by
  have hlonger : ∀ rest : String, m ≠ m ++ "/" ++ rest := by
    intro rest heq
    have hlength := congrArg (List.length ∘ String.toList) heq
    simp at hlength
  rcases h with ⟨rfl, rfl⟩ | hpath
  · rcases h' with ⟨-, rfl⟩ | hpath'
    · rfl
    · exact absurd hpath' (hlonger rest')
  · rcases h' with ⟨rfl, rfl⟩ | hpath'
    · exact absurd hpath (hlonger rest)
    · rwa [hpath, String.append_right_inj] at hpath'

theorem exists_liesIn_firstElement (path : String) : ∃ rest, LiesIn path (firstElement path) rest := by
  unfold firstElement
  cases hcut : Text.cutFirst? '/' path.toList with
  | none => exact ⟨"", .inl ⟨rfl, rfl⟩⟩
  | some cut =>
    refine ⟨String.ofList cut.2, .inr (String.toList_injective ?_)⟩
    simpa using Text.eq_of_cutFirst? hcut

/-- The rest of a tidy path stays below the root. -/
theorem staysBelow_of_liesIn {m : String} (hlies : LiesIn path m rest) (h : (Path.mk path).Tidy) :
    root.StaysBelow rest := by
  rcases hlies with ⟨rfl, rfl⟩ | rfl
  · show Path.staysWithin 0 (Path.mk "").components
    rfl
  · refine Path.staysBelow_of_tidy fun piece hpiece => h piece ?_
    have hpieces := Path.pieces_append m.toList rest.toList
    have htext : String.ofList (m.toList ++ '/' :: rest.toList) = m ++ "/" ++ rest := by
      apply String.toList_injective
      simp
    rw [htext] at hpieces
    rw [hpieces]
    exact List.mem_append_right _ hpiece

/-! ## Roots -/

/-- The directory below which the path is placed, and what the path has behind it. -/
inductive RootOf (w : Surroundings) (path : String) : Path → String → Prop where
  | standard {root : Path} {rest : String}
    (hroot : (standardOf w .fresh).lookup (firstElement path) = some root)
    (hlies : LiesIn path (firstElement path) rest) : RootOf w path root rest
  | main {m : Module.Info} {root : Path} {rest : String}
    (hstandard : (standardOf w .fresh).lookup (firstElement path) = none)
    (hm : w.provider.query "" = .ok (some m)) (hdir : m.dir = some root)
    (hlies : LiesIn path m.path rest) : RootOf w path root rest
  /-- The longest beginning that does not pass is a module that contains the path. -/
  | dependency {b : String} {m : Module.Info} {root : Path} {rest : String}
    (hstandard : (standardOf w .fresh).lookup (firstElement path) = none)
    (hmain : OutsideMain w path) (hb : Begins b path)
    (hlonger : ∀ b', Begins b' path → b.length < b'.length → Passes w path b')
    (hm : w.provider.query b = .ok (some m)) (hlies : LiesIn path m.path rest)
    (hhome : m.Home root) : RootOf w path root rest

theorem RootOf.liesIn (h : RootOf w path root rest) : ∃ m, LiesIn path m rest := by
  cases h with
  | standard _ hlies => exact ⟨_, hlies⟩
  | main _ _ _ hlies => exact ⟨_, hlies⟩
  | dependency _ _ _ _ _ hlies _ => exact ⟨_, hlies⟩

/-- The directory is the root itself, or that to which the rest is joined. -/
def JoinedTo (dir root : Path) (rest : String) : Prop :=
  dir = root ∧ rest = "" ∨ dir = root.joinName rest

theorem joinedTo_subdirectory (root : Path) (rest : String) :
    JoinedTo (subdirectory root rest) root rest := by
  unfold subdirectory
  split
  next h => exact .inl ⟨rfl, h⟩
  · exact .inr rfl

theorem JoinedTo.within_iff (h : JoinedTo dir root rest) :
    dir.Within root ↔ root.StaysBelow rest := by
  rcases h with ⟨rfl, rfl⟩ | rfl
  · exact iff_of_true dir.within_self rfl
  · exact Path.within_joinName_iff

/-- A standard package is joined to the directory of its first element. -/
theorem answer_standardDir_of_root
    (hroot : (standardOf w .fresh).lookup (firstElement path) = some root)
    (hlies : LiesIn path (firstElement path) rest) :
    ∃ dir, (standardDir w path).answer .fresh = .ok (some dir) ∧ JoinedTo dir root rest := by
  rw [answer_standardDir]
  unfold firstElement at hroot hlies
  cases hcut : Text.cutFirst? '/' path.toList with
  | none =>
    rw [hcut] at hroot hlies
    exact ⟨root, by simp [hroot], .inl ⟨rfl, hlies.unique (.inl ⟨rfl, rfl⟩)⟩⟩
  | some cut =>
    rw [hcut] at hroot hlies
    have hrest : LiesIn path (String.ofList cut.1) (String.ofList cut.2) := by
      refine .inr (String.toList_injective ?_)
      simpa using Text.eq_of_cutFirst? hcut
    obtain rfl := hlies.unique hrest
    exact ⟨root.joinName (String.ofList cut.2), by simp [hroot], .inr rfl⟩

/-! ## Resolution -/

section Resolution

variable (hpseudo : path ≠ pseudoPackage) (habsolute : ¬ (Path.mk path).isAbsolute)
  (hpath : path ≠ "")

include hpseudo habsolute hpath

/-- A path with a root has a directory, and the rest is joined to the root. -/
theorem answer_resolve_of_rootOf (h : RootOf w path root rest) :
    ∃ dir, (resolve w path).answer .fresh = .ok (some dir) ∧ JoinedTo dir root rest := by
  cases h with
  | standard hroot hlies =>
    obtain ⟨dir, hdir, hjoined⟩ := answer_standardDir_of_root hroot hlies
    refine ⟨dir, ?_, hjoined⟩
    rw [answer_resolve]
    show (resolveAfresh w path).answer .fresh = _
    rw [resolveAfresh_eq hpseudo habsolute hpath, Run.answer_bind, hdir]
    simp only [Except.bind, Run.answer_pure]
  | main hstandard hm hdir hlies =>
    refine ⟨_, ?_, joinedTo_subdirectory root rest⟩
    rw [answer_resolve_of_standard_none hpseudo habsolute hpath hstandard]
    exact resolveModule_of_placed hpath habsolute (.main hm hdir hlies)
  | dependency hstandard hmain hb hlonger hm hlies hhome =>
    refine ⟨_, ?_, joinedTo_subdirectory root rest⟩
    rw [answer_resolve_of_standard_none hpseudo habsolute hpath hstandard]
    exact resolveModule_of_placed hpath habsolute
      (.dependency hmain hb hlonger (.found hm hlies hhome))

/-- A directory that is found has a root. -/
theorem exists_rootOf (h : (resolve w path).answer .fresh = .ok (some dir)) :
    ∃ root rest, RootOf w path root rest := by
  cases hstandard : (standardOf w .fresh).lookup (firstElement path) with
  | some root =>
    obtain ⟨rest, hlies⟩ := exists_liesIn_firstElement path
    exact ⟨root, rest, .standard hstandard hlies⟩
  | none =>
    -- Of the places that the records can give, those of an answer with a directory have a root.
    obtain ⟨answer, hplaced⟩ := exists_placed hpath habsolute w
    rw [answer_resolve_of_standard_none hpseudo habsolute hpath hstandard,
      resolveModule_of_placed hpath habsolute hplaced] at h
    cases hplaced with
    | mainFailed => cases h
    | main hm hdir hlies => exact ⟨_, _, .main hstandard hm hdir hlies⟩
    | dependency hmain hb hlonger hsettles =>
      cases hsettles with
      | found hm hlies hhome =>
        exact ⟨_, _, .dependency hstandard hmain hb hlonger hm hlies hhome⟩
      | missing => cases h
      | failed => cases h
    | unknown => cases h

end Resolution

/-- **Containment.** The directory of a path that is not absolute is placed below a root: the
directory of a standard package, that of the main module, or that of a dependency. It lies within
the root if and only if the rest of the path stays below it. So it does wherever no element of the
path is empty or the step to a parent. -/
theorem resolve_within (earlier : List Question) (habsolute : ¬ (Path.mk path).isAbsolute)
    (h : (resolve w path).answer (afterAll (earlier.map (w, ·)) .fresh) = .ok (some dir)) :
    (∃ root rest, RootOf w path root rest)
      ∧ ∀ root rest, RootOf w path root rest → JoinedTo dir root rest
        ∧ (dir.Within root ↔ root.StaysBelow rest)
        ∧ ((Path.mk path).Tidy → dir.Within root) := by
  have hfresh : (resolve w path).answer .fresh = .ok (some dir) :=
    (answer_ask_afterAll (.directory path) earlier .fresh).symm.trans h
  -- The two paths that have no directory.
  have hpseudo : path ≠ pseudoPackage := by
    rintro rfl
    cases hfresh
  have hpath : path ≠ "" := by
    rintro rfl
    cases hfresh
  refine ⟨exists_rootOf hpseudo habsolute hpath hfresh, fun root rest hroot => ?_⟩
  obtain ⟨dir', hdir', hjoined⟩ := answer_resolve_of_rootOf hpseudo habsolute hpath hroot
  obtain rfl : dir' = dir := by simpa [hfresh] using hdir'.symm
  refine ⟨hjoined, hjoined.within_iff, fun htidy => ?_⟩
  obtain ⟨m, hlies⟩ := hroot.liesIn
  exact hjoined.within_iff.2 (staysBelow_of_liesIn hlies htidy)

/-- The main module alone. -/
def applicationOnly : Surroundings where
  disk := ⟨.empty, []⟩
  provider := ⟨fun
    | "" => .ok (some { Module.Info.blank with path := "example.com/app", dir := some ⟨"/src/app"⟩ })
    | _ => .ok none, none⟩
  goroot := none

theorem rootOf_applicationOnly {rest : String} (hpath : path = "example.com/app/" ++ rest) :
    RootOf applicationOnly path ⟨"/src/app"⟩ rest := .main rfl rfl rfl (.inr hpath)

theorem resolve_within_application :
    ¬ (Path.mk "example.com/app/a/../b").isAbsolute
      ∧ (resolve applicationOnly "example.com/app/a/../b").answer
        (afterAll ([.directory "example.com/app", .mainModule].map (applicationOnly, ·)) .fresh)
        = .ok (some ⟨"/src/app/a/../b"⟩)
      ∧ (Path.mk "/src/app/a/../b").Within ⟨"/src/app"⟩ := by
  have hrelative : ¬ (Path.mk "example.com/app/a/../b").isAbsolute := by decide
  have hanswer : (resolve applicationOnly "example.com/app/a/../b").answer
      (afterAll ([.directory "example.com/app", .mainModule].map (applicationOnly, ·)) .fresh)
      = .ok (some ⟨"/src/app/a/../b"⟩) := rfl
  have hroot : RootOf applicationOnly "example.com/app/a/../b" ⟨"/src/app"⟩ "a/../b" :=
    rootOf_applicationOnly rfl
  have hbelow : (Path.mk "/src/app").StaysBelow "a/../b" := by
    rw [Path.StaysBelow, if_neg (by decide)]
    decide
  exact ⟨hrelative, hanswer, ((resolve_within _ hrelative hanswer).2 _ _ hroot).2.1.2 hbelow⟩

/-- One slash too many leads to a directory of the system, and a step to a parent next to the
module. -/
theorem resolve_leaves_root :
    ((resolve applicationOnly "example.com/app//etc").answer .fresh = .ok (some ⟨"/etc"⟩)
        ∧ RootOf applicationOnly "example.com/app//etc" ⟨"/src/app"⟩ "/etc"
        ∧ ¬ (Path.mk "/etc").Within ⟨"/src/app"⟩)
      ∧ ((resolve applicationOnly "example.com/app/../x").answer .fresh
          = .ok (some ⟨"/src/app/../x"⟩)
        ∧ RootOf applicationOnly "example.com/app/../x" ⟨"/src/app"⟩ "../x"
        ∧ ¬ (Path.mk "/src/app/../x").Within ⟨"/src/app"⟩) :=
  ⟨⟨rfl, rootOf_applicationOnly rfl, by decide⟩,
    ⟨rfl, rootOf_applicationOnly rfl, by decide⟩⟩

end Session
end StructFill
