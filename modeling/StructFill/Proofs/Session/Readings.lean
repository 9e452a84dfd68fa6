import StructFill.Proofs.Session.Memoization

/-! # What a run reads

  A session keeps the packages that it has read, and the errors of those that it
  could not read. So what a run has read is told by the session after it.

  **Exactly.** `Reads` says which paths a run opens, no more and no less. It is
  stated for all sessions that answer alike, since a run changes no answers:
  the second part of a run opens what it would open at once.
-/

namespace StructFill.Session

variable {w : Surroundings} {s s₀ : Session} {path : String} {P Q : String → Prop} {α β : Type}

/-! ## Paths that were read -/

/-- The paths under which a directory was read, with or without success. -/
def readPaths (s : Session) : List String := s.packages.map Prod.fst ++ s.failures.map Prod.fst

theorem isSome_lookup_iff {γ : Type} {t : List (String × γ)} :
    (t.lookup path).isSome ↔ path ∈ t.map Prod.fst := by
  constructor
  · intro h
    obtain ⟨v, hv⟩ := Option.isSome_iff_exists.1 h
    exact List.mem_map.2 ⟨_, Table.mem_of_lookup hv, rfl⟩
  · intro h
    by_contra hnone
    exact not_mem_keys_of_lookup (Option.not_isSome_iff_eq_none.1 hnone) h

/-- What was read is settled, and nothing else is. -/
theorem mem_readPaths_iff : path ∈ s.readPaths ↔ (s.settled? path).isSome := by
  rw [readPaths, List.mem_append, ← isSome_lookup_iff, ← isSome_lookup_iff, settled?]
  cases s.packages.lookup path <;> simp

/-- Each directory that was read was read under one path. -/
theorem Consistent.nodup_readPaths (hs : Consistent s) : s.readPaths.Nodup :=
  List.nodup_append.2 ⟨hs.packages_nodup, hs.failures_nodup,
    fun _ hp _ hf heq => hs.disjoint _ hp (heq ▸ hf)⟩

theorem Consistent.length_readPaths (hs : Consistent s) : s.readPaths.length = s.parsed := by
  simp [readPaths, hs.parsed]

/-- There is a directory to read for the path. -/
def HasDirectory (w : Surroundings) (s : Session) (path : String) : Prop :=
  path ≠ "" ∧ ∃ dir, (resolve w path).answer s = .ok (some dir)

/-! ## Readings -/

/-- In all sessions that answer as `s₀` does, the run opens the paths of the set `P`: it reads
those that have a directory and were not read before. -/
def Reads (w : Surroundings) (s₀ : Session) (P : String → Prop) (r : Run α) : Prop :=
  ∀ s, answers w s = answers w s₀ → ∀ path,
    path ∈ (r.after s).readPaths ↔ path ∈ s.readPaths ∨ P path ∧ HasDirectory w s₀ path

namespace Reads

theorem of_iff {r : Run α} (hr : Reads w s₀ P r) (h : ∀ path, P path ↔ Q path) :
    Reads w s₀ Q r := by
  rwa [show Q = P from funext fun path => propext (h path).symm]

theorem pure (a : α) : Reads w s₀ (fun _ => False) (pure a : Run α) := by
  intro s _ path
  simp

theorem throw (e : Error) : Reads w s₀ (fun _ => False) (throw e : Run α) := by
  intro s _ path
  simp

theorem outcome {r : Run α} (hr : Reads w s₀ P r) : Reads w s₀ P r.outcome := hr

/-- After a part that succeeds the rest of the run opens its own paths. -/
theorem bind {r : Run α} {k : α → Run β} {a : α} (hr : Reads w s₀ P r) (ht : Transparent w r)
    (ha : r.answer s₀ = .ok a) (hk : Reads w s₀ Q (k a)) :
    Reads w s₀ (fun path => P path ∨ Q path) (r >>= k) := by
  intro s hs path
  have hanswer : r.answer s = .ok a := (ht.determined hs).trans ha
  rw [Run.after_bind, hanswer]
  dsimp only
  rw [hk (r.after s) ((ht.keeps s).trans hs) path, hr s hs path, or_assoc, ← or_and_right]

/-- A rest that opens nothing does not count, whether it is reached or not. -/
theorem bind_silent {r : Run α} {k : α → Run β} (hr : Reads w s₀ P r) (ht : Transparent w r)
    (hk : ∀ a, Reads w s₀ (fun _ => False) (k a)) : Reads w s₀ P (r >>= k) := by
  intro s hs path
  rw [Run.after_bind]
  cases r.answer s with
  | error e => exact hr s hs path
  | ok a =>
    dsimp only
    rw [hk a (r.after s) ((ht.keeps s).trans hs) path, hr s hs path]
    simp

theorem map {r : Run α} (f : α → β) (hr : Reads w s₀ P r) (ht : Transparent w r) :
    Reads w s₀ P (f <$> r) := hr.bind_silent ht fun _ => .pure _

end Reads

/-- Opening a path opens just this path. -/
theorem reads_openPath (path : String) : Reads w s₀ (· = path) (openPath w path) := by
  intro s hs path'
  rw [mem_readPaths_iff, mem_readPaths_iff]
  by_cases hpath : path = ""
  · subst hpath
    have hafter : (openPath w "").after s = s := rfl
    rw [hafter]
    constructor
    · exact .inl
    · rintro (h | ⟨rfl, hne, -⟩)
      · exact h
      · exact absurd rfl hne
  have hdirectory : HasDirectory w s₀ path ↔ ∃ dir, (resolve w path).answer s = .ok (some dir) := by
    rw [HasDirectory, (steady_resolve path).transparent.determined hs]
    simp [hpath]
  have hsame := samePackages_resolve (w := w) path s
  have hopens := opens_openPath (w := w) hpath s
  -- From here on the step is only known by what `Opens` says of it.
  generalize (openPath w path).answer s = answer at hopens
  generalize (openPath w path).after s = after at hopens ⊢
  cases hopens with
  | known hsettled =>
    constructor
    · exact .inl
    · rintro (h | ⟨rfl, -⟩)
      · exact h
      · rw [hsettled]
        rfl
  | unplaced hnew hdir | pseudo hnew hdir =>
    rw [hsame.settled?]
    constructor
    · exact .inl
    · rintro (h | ⟨rfl, hsome⟩)
      · exact h
      · obtain ⟨dir, hdir'⟩ := hdirectory.1 hsome
        cases hdir.symm.trans hdir'
  | @read dir hnew hdir =>
    have hnew' := (hsame.settled? path).trans hnew
    by_cases heq : path' = path
    · subst heq
      simp [settled?_settle_self hnew', hdirectory.2 ⟨dir, hdir⟩]
    · simp [settled?_settle_of_ne heq, hsame.settled?, heq]

/-- A name that is bound leads to one path. -/
theorem reads_openImport {p : Package} {q : String} (hbound : (p.importPathOf? q).isSome) :
    Reads w s₀ (fun path => p.importPathOf? q = some path) (openImport w p q) := by
  obtain ⟨path, hpath⟩ := Option.isSome_iff_exists.1 hbound
  rw [openImport, hpath]
  exact (reads_openPath path).of_iff fun path' => by simp [eq_comm]

end StructFill.Session
