import StructFill.Proofs.Session.Memoization
import StructFill.Session.Toolchain

/-! # How sessions fail

  Two things can go wrong when a package is opened: its directory is not found,
  or its sources cannot be read. Only the first is a matter of modules, and an
  error about it has not yet been noted with a function.

  The input file is opened under its directory, for which no module is asked.
  A package that is looked for by its declared name is passed over when it
  cannot be opened, so that such a search never fails.
-/

namespace StructFill

open Session (Run)

namespace Error

/-- The error says that an import path leads to no directory. -/
def isUnresolved : Error → Bool
  | .unresolvedModule .. => true
  | _ => false

/-- The function that is noted with the error. -/
def neededBy? : Error → Option String
  | .unresolvedModule _ neededBy _ => neededBy
  | _ => none

@[simp] theorem isUnresolved_inFunction (function : String) (e : Error) :
    (e.inFunction function).isUnresolved = e.isUnresolved := by
  unfold inFunction; split <;> rfl

/-- An unresolved import path is noted with the first function that needs it. -/
theorem neededBy?_inFunction {function : String} {e : Error} (h : e.isUnresolved = true) :
    (e.inFunction function).neededBy? = some (e.neededBy?.getD function) := by
  rcases e with ⟨_, _ | _, _⟩ | _ | _ | _ | _ | _ | _ | _ | _ | _ <;> first | rfl | cases h

end Error

/-- The source of metadata notes a function with an error of its own. -/
def Provider.Notes (p : Provider) (function : String) : Prop :=
  ∃ path e, p.query path = .error e ∧ e.neededBy? = some function

/-- An answer that fails is about the command, not about a module. -/
theorem Toolchain.neededBy?_of_answer {h : Program.Host} {command : String} {directory : Path}
    {arguments : List String} {e : Error} (he : answer h command directory arguments = .error e) :
    e.neededBy? = none := by
  unfold answer at he
  split at he
  · obtain rfl := Except.error.inj he
    rfl
  · split at he
    · obtain rfl := Except.error.inj he
      rfl
    · obtain rfl := Except.error.inj he
      rfl
    · cases he

/-- Metadata from the toolchain comes without functions. -/
theorem Toolchain.not_notes_provider (h : Program.Host) (command : String) (directory : Path)
    (function : String) : ¬ (provider h command directory).Notes function := by
  rintro ⟨path, e, he, hfunction⟩
  simp only [provider, query, bind, Except.bind] at he
  -- There is an error if the command gives no answer, and if its answer describes no module.
  cases hanswer : answer h command directory
      (["list", "-m", "-json"] ++ if path = "" then [] else [path]) with
  | error e' =>
    rw [hanswer] at he
    obtain rfl := Except.error.inj he
    cases (neededBy?_of_answer hanswer).symm.trans hfunction
  | ok text? =>
    rw [hanswer] at he
    cases text? with
    | none => cases he
    | some text =>
      dsimp only at he
      split at he
      · cases htext : Module.Info.ofText text with
        | ok m =>
          rw [htext] at he
          cases he
        | error e' =>
          rw [htext] at he
          obtain rfl : e' = e := Except.error.inj he
          unfold Module.Info.ofText at htext
          split at htext
          · cases htext
          · obtain rfl := Except.error.inj htext
            cases hfunction
      · cases he

namespace Package

variable {d : Files.Disk}

/-! ## Reading a directory -/

theorem isUnresolved_of_readFile [Source.Recovery] {path : Path} {e : Error}
    (h : readFile d path = .error e) :
    e.isUnresolved = false := by
  unfold readFile at h
  split at h
  · obtain rfl := Except.error.inj h
    rfl
  split at h
  · cases h
  · next source _ _ =>
    cases hparse : parseSource path source with
    | ok decls =>
      rw [hparse] at h
      cases h
    | error e' =>
      rw [hparse] at h
      obtain rfl : e' = e := Except.error.inj h
      unfold parseSource at hparse
      split at hparse
      · obtain rfl := Except.error.inj hparse
        rfl
      split at hparse
      · obtain rfl := Except.error.inj hparse
        rfl
      · cases hparse

theorem isUnresolved_of_readFiles [Source.Recovery] {paths : List Path} {e : Error}
    (h : readFiles d paths = .error e) : e.isUnresolved = false := by
  induction paths with
  | nil => cases h
  | cons path rest ih =>
    simp only [readFiles, bind, Except.bind] at h
    split at h
    next e' hfile =>
      obtain rfl := Except.error.inj h
      exact isUnresolved_of_readFile hfile
    split at h
    next e' hrest =>
      obtain rfl := Except.error.inj h
      exact ih hrest
    split at h <;> cases h

/-- What goes wrong with the files of a directory is no matter of modules. -/
theorem isUnresolved_of_ofDirectory [Source.Recovery] {dir : Path} {path : String} {e : Error}
    (h : ofDirectory d dir path = .error e) : e.isUnresolved = false := by
  unfold ofDirectory at h
  split at h
  · obtain rfl := Except.error.inj h
    rfl
  simp only [bind, Except.bind] at h
  split at h
  next e' hsources =>
    obtain rfl := Except.error.inj h
    unfold sourceFiles at hsources
    split at hsources
    · cases hsources
    · obtain rfl := Except.error.inj hsources
      rfl
  split at h
  next e' hfiles =>
    obtain rfl := Except.error.inj h
    exact isUnresolved_of_readFiles hfiles
  split at h
  · obtain rfl := Except.error.inj h
    rfl
  · cases h

end Package

theorem Surroundings.isUnresolved_of_read {w : Surroundings} {dir : Path} {path : String}
    {e : Error} (h : w.read dir path = .error e) : e.isUnresolved = false :=
  @Package.isUnresolved_of_ofDirectory _ w.recovery _ _ _ h

namespace Session

variable {w : Surroundings} {s : Session} {path : String} {e : Error}

/-! ## Looking for a directory -/

section

variable {f : String} (hnoted : e.neededBy? = some f)
include hnoted

theorem notes_of_moduleAt (h : (moduleAt w path).answer s = .error e) : w.provider.Notes f := by
  rw [answer_moduleAt] at h
  split at h
  · cases h
  · exact ⟨path, e, h, hnoted⟩

theorem notes_of_dependencyDir {bs : List String}
    (h : (dependencyDir w path bs).answer s = .error e) : w.provider.Notes f := by
  induction bs generalizing s with
  | nil =>
    obtain rfl := Except.error.inj h
    cases hnoted
  | cons b rest ih =>
    rcases Run.answer_bind_eq_error.1 h with h | ⟨m, -, h⟩
    · exact notes_of_moduleAt hnoted h
    split at h
    · exact ih h
    split at h
    · exact ih h
    split at h
    · cases h
    · obtain rfl := Except.error.inj h
      cases hnoted

/-- On the way to a directory only the source of metadata may note a function. -/
theorem notes_of_resolve (h : (resolve w path).answer s = .error e) : w.provider.Notes f := by
  rw [answer_resolve] at h
  split at h
  · cases h
  unfold resolveAfresh at h
  split at h
  · cases h
  split at h
  · cases h
  split at h
  · obtain rfl := Except.error.inj h
    cases hnoted
  rcases Run.answer_bind_eq_error.1 h with h | ⟨dir, -, h⟩
  · -- The standard packages are listed without asking for a module.
    rcases Run.answer_bind_eq_error.1 h with h | ⟨roots, -, h⟩
    · rw [answer_standardRoots] at h
      cases h
    · split at h <;> cases h
  split at h
  · cases h
  rcases Run.answer_bind_eq_error.1 h with h | ⟨m, -, h⟩
  · exact notes_of_moduleAt hnoted h
  split at h
  · cases h
  · exact notes_of_dependencyDir hnoted (Run.answer_map_eq_error.1 h)

end

/-- An absolute path stands for its directory. -/
theorem resolve_of_isAbsolute (habsolute : (Path.mk path).isAbsolute = true) :
    (resolve w path).answer s ≠ .error e := by
  intro h
  rw [answer_resolve] at h
  split at h
  · cases h
  rw [resolveAfresh, if_pos habsolute] at h
  split at h <;> cases h

/-! ## Opening a package -/

/-- An error of reading is no matter of modules, now or when it was remembered. -/
theorem isUnresolved_of_reading (hs : Consistent s) (h : reading? w s path = some (.error e)) :
    e.isUnresolved = false := by
  unfold reading? at h
  split at h
  next r hsettled =>
    obtain rfl := Option.some.inj h
    rw [settled?] at hsettled
    split at hsettled
    · cases hsettled
    · obtain ⟨e', hlookup, he⟩ := Option.map_eq_some_iff.1 hsettled
      obtain rfl := Except.error.inj he
      obtain ⟨w', dir, hread⟩ := hs.read _ (Table.mem_of_lookup hlookup)
      exact Surroundings.isUnresolved_of_read hread
  next => exact Surroundings.isUnresolved_of_read (Option.some.inj h)
  next => cases h

theorem neededBy?_of_not_isUnresolved (h : e.isUnresolved = false) : e.neededBy? = none := by
  cases e <;> first | rfl | cases h

/-- An error of opening a package that comes with a function has it from the source of
metadata. -/
theorem notes_of_openPath {f : String} (hs : Consistent s) (hnoted : e.neededBy? = some f)
    (h : (openPath w path).answer s = .error e) : w.provider.Notes f := by
  rcases reading_of_error (ne_blank_of_answer h (by simp)) h with hread | ⟨-, hdir⟩
  · rw [neededBy?_of_not_isUnresolved (isUnresolved_of_reading hs hread)] at hnoted
    cases hnoted
  · exact notes_of_resolve hnoted hdir

/-- No module is asked for the directory of the input. -/
theorem isUnresolved_of_openFile {file : Path} (hs : Consistent s)
    (h : (openFile w file).answer s = .error e) : e.isUnresolved = false := by
  unfold openFile at h
  split at h
  · obtain rfl := Except.error.inj h
    rfl
  next dir hdir =>
    obtain ⟨-, habsolute⟩ := Option.filter_eq_some_iff.1 hdir
    rcases Run.answer_bind_eq_error.1 h with h | ⟨p?, -, h⟩
    · rcases reading_of_error (ne_blank_of_answer h (by simp)) h with hread | ⟨-, hresolve⟩
      · exact isUnresolved_of_reading hs hread
      · exact absurd hresolve (resolve_of_isAbsolute habsolute)
    · split at h
      · cases h
      · obtain rfl := Except.error.inj h
        rfl

/-! ## Local names -/

/-- The search for a declared name never fails. -/
theorem exists_answer_probe (name : String) (paths : List String) :
    ∃ o?, (probe w name paths).answer s = .ok o? := by
  induction paths with
  | nil => exact ⟨none, rfl⟩
  | cons path rest ih =>
    rw [answer_probe_cons]
    split
    · exact ih
    split
    · split
      · exact ⟨_, rfl⟩
      · exact ih
    · exact ih

/-- A local name fails where an entry of the import table leads to a package that does. -/
theorem openImport_eq_error_iff {p : Package} {name : String} :
    (openImport w p name).answer s = .error e ↔
      ∃ path, p.importPathOf? name = some path ∧ (openPath w path).answer s = .error e := by
  unfold openImport
  cases hpath : p.importPathOf? name with
  | some path => simp
  | none =>
    obtain ⟨o?, ho⟩ := exists_answer_probe (w := w) (s := s) name p.importPaths
    simp [ho]

end Session
end StructFill
