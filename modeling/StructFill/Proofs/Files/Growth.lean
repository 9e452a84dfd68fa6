import StructFill.Output.Writing
import StructFill.Proofs.Files.Writing

/-! # What saving a text changes

  **Growth.** Before a text is written its directory is made, and those above
  it. This only adds directories where nothing was, and it may stop half-way.

  **Writing.** The text is written to the one place where its path leads to.
  All other files are what they were.
-/

namespace StructFill

open Files (Disk Attempt Entry Key Tree)

namespace Files

namespace Disk

variable {d d' d'' : Disk} {p : Path} {k : Key} {text : String} {ε δ : Type}

/-! ## Growth -/

/-- The disk `d'` has what `d` has, and perhaps directories where nothing was. -/
structure Grown (d d' : Disk) : Prop where
  cwd : d'.cwd = d.cwd
  find : ∀ k, d'.tree.find? k = d.tree.find? k
    ∨ d.tree.find? k = none ∧ d'.tree.find? k = some .directory

theorem Grown.refl (d : Disk) : d.Grown d := ⟨rfl, fun _ => .inl rfl⟩

theorem Grown.trans (h : d.Grown d') (h' : d'.Grown d'') : d.Grown d'' where
  cwd := h'.cwd.trans h.cwd
  find := by
    intro k
    rcases h'.find k with hsame | ⟨hnone, hnew⟩
    · rw [hsame]
      exact h.find k
    · rcases h.find k with hsame | ⟨-, hmade⟩
      · exact .inr ⟨hsame ▸ hnone, hnew⟩
      · rw [hmade] at hnone
        cases hnone

/-! ## Making directories -/

theorem eq_of_put {e : Entry} (h : d.put k e = .ok d') :
    d' = { d with tree := d.tree.insert k e } := by
  unfold put at h
  split at h
  · exact (Except.ok.inj h).symm
  · cases h
  · cases h

theorem grown_makeDirectory (h : d.makeDirectory p = .ok d') : d.Grown d' := by
  unfold makeDirectory at h
  split at h
  · cases h
  next k hlocate =>
    have hnone := find?_of_locate hlocate
    have hk : k ≠ [] := by
      rintro rfl
      cases hnone
    obtain rfl := eq_of_put h
    refine ⟨rfl, fun k' => ?_⟩
    by_cases hkey : k' = k
    · subst hkey
      exact .inr ⟨hnone, Tree.find?_insert_self _ _ hk⟩
    · exact .inl (Tree.find?_insert_of_ne _ _ hkey)
  · cases h

theorem grown_ensureDirectory (h : d.ensureDirectory p = .ok d') : d.Grown d' := by
  unfold ensureDirectory at h
  split at h
  next d₁ hmake =>
    obtain rfl := Except.ok.inj h
    exact grown_makeDirectory hmake
  · split at h
    · obtain rfl := Except.ok.inj h
      exact .refl d
    · cases h

theorem grown_attempt {r : Except ε Disk} (h : ∀ d', r = .ok d' → d.Grown d') :
    d.Grown (d.attempt r).disk := by
  cases r with
  | ok d' => exact h d' rfl
  | error e => exact .refl d

/-- What goes on from a grown disk and only makes it grow makes the first disk grow. -/
theorem Grown.andThen {a : Attempt ε} {next : Disk → Attempt ε} (ha : d.Grown a.disk)
    (hnext : ∀ d' : Disk, d'.Grown (next d').disk) : d.Grown (a.andThen next).disk := by
  unfold Attempt.andThen
  split
  · exact ha.trans (hnext a.disk)
  · exact ha

theorem grown_makeDirectoriesWithin (n : Nat) (d : Disk) (p : Path) :
    d.Grown (makeDirectoriesWithin n d p).disk := by
  have hensure : ∀ d' : Disk, d'.Grown (d'.attempt (d'.ensureDirectory p)).disk :=
    fun d' => grown_attempt fun _ => grown_ensureDirectory
  induction n generalizing p with
  | zero => exact hensure d
  | succ n ih =>
    rw [makeDirectoriesWithin]
    split
    · exact .refl d
    · split
      · -- The directories above come first; they stay if this one cannot be made.
        refine (ih _ fun d' => grown_attempt fun _ => grown_ensureDirectory).andThen hensure
      · exact hensure d

theorem grown_makeDirectories (d : Disk) (p : Path) : d.Grown (d.makeDirectories p).disk :=
  grown_makeDirectoriesWithin _ d p

/-! ## Writing -/

/-- Seen from outside, the disk `d'` is `d` with the text in the file that the path leads to, and
perhaps with directories where nothing was. -/
structure Written (d : Disk) (p : Path) (text : String) (d' : Disk) : Prop where
  cwd : d'.cwd = d.cwd
  place : ∃ k executable, d'.locate p = .ok (k, some (.file (.text text) executable))
    ∧ ∀ k', k' ≠ k → d'.tree.find? k' = d.tree.find? k'
      ∨ d.tree.find? k' = none ∧ d'.tree.find? k' = some .directory

end Disk

/-- A way to what is no directory leads there when something else is put there. -/
theorem Tree.follow_insert_self {t : Tree} {place k : Key} {steps : List (List Char)}
    {e? : Option Entry} {e : Entry} (h : t.follow place steps = .ok (k, e?))
    (he : e? ≠ some .directory) : (t.insert k e).follow place steps = .ok (k, some e) := by
  have hfind := Tree.find?_of_follow h
  have hk : k ≠ [] := by
    rintro rfl
    exact he hfind
  induction steps generalizing place with
  | nil =>
    obtain ⟨rfl, -⟩ := Prod.mk.inj (Except.ok.inj h)
    rw [follow, find?_insert_self t e hk]
  | cons x xs ih =>
    rw [follow] at h
    split at h
    · cases h
    next hdirectory =>
      -- Directories are passed on the way, so the key is not among them.
      have hplace : place ≠ k := by
        rintro rfl
        exact he (hfind.trans hdirectory)
      rw [follow, find?_insert_of_ne t e hplace, hdirectory]
      dsimp only at h ⊢
      split at h
      next hdot =>
        rw [if_pos hdot]
        exact ih h
      next hdot =>
        rw [if_neg hdot]
        split at h
        next hup =>
          rw [if_pos hup]
          exact ih h
        next hup =>
          rw [if_neg hup]
          exact ih h
    · cases h

namespace Disk

variable {d d' : Disk} {p : Path} {text : String}

theorem written_of_writeText (h : d.writeText p text = .ok d') : d.Written p text d' := by
  -- What a text replaces is no directory.
  have hplace : ∃ k e? executable, d.locate p = .ok (k, e?) ∧ e? ≠ some .directory
      ∧ d.put k (.file (.text text) executable) = .ok d' := by
    unfold writeText at h
    split at h
    · cases h
    next k e? hlocate =>
      split at h
      · cases h
      next hsame =>
        rw [not_ne_iff.1 hsame] at hlocate
        split at h
        · cases h
        · exact ⟨k, _, _, hlocate, by simp, h⟩
        · exact ⟨k, _, _, hlocate, by simp, h⟩
        · exact ⟨k, _, _, hlocate, by simp, h⟩
  obtain ⟨k, e?, executable, hlocate, hfile, hput⟩ := hplace
  obtain rfl := eq_of_put hput
  refine ⟨rfl, k, executable, ?_, fun k' hk => .inl (Tree.find?_insert_of_ne _ _ hk)⟩
  unfold locate at hlocate ⊢
  split at hlocate
  · cases hlocate
  next hblank =>
    rw [if_neg hblank]
    exact Tree.follow_insert_self hlocate hfile

/-- Growing before a text is written makes no difference to the files. -/
theorem Grown.written {d'' : Disk} (h : d.Grown d') (h' : d'.Written p text d'') :
    d.Written p text d'' := by
  obtain ⟨hcwd, k, executable, hlocate, hfind⟩ := h'
  refine ⟨hcwd.trans h.cwd, k, executable, hlocate, fun k' hk => ?_⟩
  rcases hfind k' hk with hsame | ⟨hnone, hnew⟩
  · rw [hsame]
    exact h.find k'
  · rcases h.find k' with hsame | ⟨-, hmade⟩
    · exact .inr ⟨hsame ▸ hnone, hnew⟩
    · rw [hmade] at hnone
      cases hnone

end Disk
end Files

/-! ## Saving -/

namespace Output

variable {d : Disk} {p : Path} {text : String}

theorem grown_prepare (d : Disk) (p : Path) : d.Grown (prepare d p).disk := by
  unfold prepare
  split
  · exact .refl d
  next dir _ => exact d.grown_makeDirectories dir

/-- Either the text is written behind what was prepared, or saving fails and leaves just that. -/
theorem save_cases (d : Disk) (p : Path) (text : String) :
    (∃ d', (prepare d p).disk.writeText p text = .ok d' ∧ save d p text = ⟨d', none⟩)
      ∨ ∃ e, save d p text = ⟨(prepare d p).disk, some e⟩ := by
  cases hfailure : (prepare d p).failure with
  | some e =>
    refine .inr ⟨e, ?_⟩
    simp only [save, Attempt.andThen, hfailure]
    rw [← hfailure]
  | none =>
    cases hwrite : (prepare d p).disk.writeText p text with
    | ok d' =>
      refine .inl ⟨d', rfl, ?_⟩
      simp only [save, Attempt.andThen, hfailure, hwrite, Except.mapError, Disk.attempt]
    | error e =>
      refine .inr ⟨.io p e.message, ?_⟩
      simp only [save, Attempt.andThen, hfailure, hwrite, Except.mapError, Disk.attempt]

/-- A text that cannot be saved changes no file. -/
theorem grown_save_of_failure {e : Error} (h : (save d p text).failure = some e) :
    d.Grown (save d p text).disk := by
  rcases save_cases d p text with ⟨d', -, hsave⟩ | ⟨e', hsave⟩
  · rw [hsave] at h
    cases h
  · rw [hsave]
    exact grown_prepare d p

/-- A text that is saved changes one file. -/
theorem written_save (h : (save d p text).failure = none) :
    d.Written p text (save d p text).disk := by
  rcases save_cases d p text with ⟨d', hwrite, hsave⟩ | ⟨e, hsave⟩
  · rw [hsave]
    exact (grown_prepare d p).written (Disk.written_of_writeText hwrite)
  · rw [hsave] at h
    cases h

theorem write_eq_ok_iff {d' : Disk} :
    write d p text = .ok d' ↔ (save d p text).failure = none ∧ (save d p text).disk = d' := by
  unfold write Attempt.result
  cases (save d p text).failure with
  | none => simp
  | some e => simp

end Output
end StructFill
