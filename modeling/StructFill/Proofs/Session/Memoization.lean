import Mathlib.Data.List.Nodup
import StructFill.Proofs.Package.Tables
import StructFill.Proofs.Session.History

/-! # What a session remembers of packages

  A package is read once. From then on the session answers with what came of
  the reading, a package or an error, and does nothing else. This holds whatever
  happens to the files in between, and whoever asks: a caller, the search for a
  declared name, or a generation.

  **Steps.** Opening a path does one of four things to a session; `opens_openPath`
  says which. Both the invariant `Consistent` and the growth of the memory,
  `Extends`, are read off these four cases, and carried over to whole histories.
-/

namespace StructFill

namespace Package

/-! ## Reading a directory -/

theorem importPath_addImport (p : Package) (i : Source.Import) :
    (p.addImport i).importPath = p.importPath := by
  unfold addImport
  cases i.localName with
  | none => rfl
  | some a => dsimp only; split <;> rfl

theorem importPath_addType (p : Package) (d : Source.TypeDecl) :
    (p.addType d).importPath = p.importPath := by
  unfold addType
  split <;> rfl

/-- A fold keeps what each of its steps keeps. -/
theorem importPath_foldl {α : Type} {f : Package → α → Package}
    (hf : ∀ p a, (f p a).importPath = p.importPath) (as : List α) (p : Package) :
    (as.foldl f p).importPath = p.importPath := by
  induction as generalizing p with
  | nil => rfl
  | cons a as ih => rw [List.foldl_cons, ih, hf]

theorem importPath_addFile (p : Package) (file : Path × Source.FileDecls) :
    (p.addFile file).importPath = p.importPath := by
  simp only [addFile]
  rw [importPath_foldl importPath_addType, importPath_foldl importPath_addImport]

/-- A package carries the path under which it was opened. -/
theorem importPath_of_ofDirectory [Source.Recovery] {d : Files.Disk} {dir : Path} {path : String}
    {p : Package} (h : ofDirectory d dir path = .ok p) : p.importPath = path := by
  unfold ofDirectory at h
  split at h
  · cases h
  · simp only [bind, Except.bind] at h
    split at h
    · cases h
    split at h
    · cases h
    split at h
    · cases h
    · obtain rfl := Except.ok.inj h
      rw [ofFiles, importPath_foldl importPath_addFile]
      rfl

end Package

theorem Surroundings.importPath_of_read {w : Surroundings} {dir : Path} {path : String}
    {p : Package} (h : w.read dir path = .ok p) : p.importPath = path :=
  @Package.importPath_of_ofDirectory w.recovery _ _ _ _ h

namespace Session

variable {w : Surroundings} {s s' : Session} {path : String}

/-! ## What is settled -/

/-- What the session remembers of reading the package of a path. -/
def settled? (s : Session) (path : String) : Option (Except Error Package) :=
  match s.packages.lookup path with
  | some p => some (.ok p)
  | none => (s.failures.lookup path).map .error

/-- Notes what came of reading the package of a path. -/
def settle (s : Session) (path : String) : Except Error Package → Session
  | .ok p => s.noteParsed.notePackage path p
  | .error e => s.noteParsed.noteFailure path e

theorem settled?_eq_none : s.settled? path = none ↔
    s.packages.lookup path = none ∧ s.failures.lookup path = none := by
  unfold settled?
  cases s.packages.lookup path <;> simp

/-- What came of a reading is remembered. -/
theorem settled?_settle_self (h : s.settled? path = none) (r : Except Error Package) :
    (s.settle path r).settled? path = some r := by
  obtain ⟨hp, -⟩ := settled?_eq_none.1 h
  cases r with
  | ok p => simp [settle, settled?, notePackage]
  | error e => simp [settle, settled?, noteFailure, noteParsed, hp]

/-- Nothing that was remembered before is touched. -/
theorem settled?_settle_of_ne {path' : String} (hne : path' ≠ path) (r : Except Error Package) :
    (s.settle path r).settled? path' = s.settled? path' := by
  have hbeq : (path' == path) = false := by simpa using hne
  cases r with
  | ok p => simp [settle, settled?, notePackage, noteParsed, List.lookup_cons, hbeq]
  | error e => simp [settle, settled?, noteFailure, noteParsed, List.lookup_cons, hbeq]

/-! ## Steps -/

/-- The two sessions remember the same of packages, and have read as many directories. -/
structure SamePackages (s s' : Session) : Prop where
  packages : s'.packages = s.packages
  failures : s'.failures = s.failures
  parsed : s'.parsed = s.parsed

namespace SamePackages

theorem refl (s : Session) : SamePackages s s := ⟨rfl, rfl, rfl⟩

theorem trans {s₁ s₂ s₃ : Session} (h : SamePackages s₁ s₂) (h' : SamePackages s₂ s₃) :
    SamePackages s₁ s₃ :=
  ⟨h'.packages.trans h.packages, h'.failures.trans h.failures, h'.parsed.trans h.parsed⟩

theorem settled? (h : SamePackages s s') (path : String) : s'.settled? path = s.settled? path := by
  rw [Session.settled?, Session.settled?, h.packages, h.failures]

end SamePackages

theorem samePackages_moduleAt (path : String) : Run.Along SamePackages (moduleAt w path) := by
  intro s
  rw [after_moduleAt]
  cases s.modules.lookup path <;> cases w.provider.query path <;> exact ⟨rfl, rfl, rfl⟩

/-- The search for a directory touches nothing that is remembered of packages. -/
theorem samePackages_resolve (path : String) : Run.Along SamePackages (resolve w path) := by
  refine along_resolve .refl (fun _ _ _ => .trans) samePackages_moduleAt ?_
    (fun _ _ _ => ⟨rfl, rfl, rfl⟩) path
  intro s
  obtain ⟨n, hafter⟩ := after_standardRoots (w := w) s
  rw [hafter]
  exact ⟨rfl, rfl, rfl⟩

/-- What opening a path answers, and the session after it. -/
inductive Opens (w : Surroundings) (path : String) (s : Session) :
    Except Error (Option Package) → Session → Prop where
  /-- The answer is remembered, and nothing else happens. -/
  | known {r} (hsettled : s.settled? path = some r) : Opens w path s (r.map some) s
  /-- There is no directory to read. Nothing is noted of the package. -/
  | unplaced {e} (hnew : s.settled? path = none) (hdir : (resolve w path).answer s = .error e) :
    Opens w path s (.error e) ((resolve w path).after s)
  | pseudo (hnew : s.settled? path = none) (hdir : (resolve w path).answer s = .ok none) :
    Opens w path s (.ok none) ((resolve w path).after s)
  /-- The directory is read, and what came of it is noted. -/
  | read {dir} (hnew : s.settled? path = none) (hdir : (resolve w path).answer s = .ok (some dir)) :
    Opens w path s ((w.read dir path).map some)
      (((resolve w path).after s).settle path (w.read dir path))

theorem opens_openPath (hpath : path ≠ "") (s : Session) :
    Opens w path s ((openPath w path).answer s) ((openPath w path).after s) := by
  rw [answer_openPath hpath, after_openPath hpath]
  -- The cases are those of `Opens`, in the order in which the tables and the disk are asked.
  cases hp : s.packages.lookup path with
  | some p => exact .known (r := .ok p) (by simp [settled?, hp])
  | none =>
    cases hf : s.failures.lookup path with
    | some e => exact .known (r := .error e) (by simp [settled?, hp, hf])
    | none =>
      have hnew : s.settled? path = none := settled?_eq_none.2 ⟨hp, hf⟩
      cases hdir : (resolve w path).answer s with
      | error e => exact .unplaced hnew hdir
      | ok dir =>
        cases dir with
        | none => exact .pseudo hnew hdir
        | some dir =>
          have hread := Opens.read hnew hdir
          cases h : w.read dir path with
          | ok p => simpa [Except.bind, readPackage, h, settle] using hread
          | error e => simpa [Except.bind, readPackage, h, settle] using hread

/-- Opening a path goes along a relation if the search for its directory does, and the noting of
what came of reading a package that was not settled. -/
theorem along_openPath {R : Session → Session → Prop} (hrefl : ∀ s, R s s)
    (htrans : ∀ s₁ s₂ s₃, R s₁ s₂ → R s₂ s₃ → R s₁ s₃) (hresolve : Run.Along R (resolve w path))
    (hsettle : ∀ s dir, path ≠ "" → s.settled? path = none →
      R s (s.settle path (w.read dir path))) :
    Run.Along R (openPath w path) := by
  intro s
  by_cases hpath : path = ""
  · subst hpath
    exact hrefl s
  have hdir := hresolve s
  have hsame := samePackages_resolve (w := w) path s
  have hopens := opens_openPath (w := w) hpath s
  generalize (openPath w path).answer s = answer at hopens
  generalize (openPath w path).after s = after at hopens ⊢
  cases hopens with
  | known _ => exact hrefl s
  | unplaced _ _ | pseudo _ _ => exact hdir
  | read hnew _ =>
    have hnew' := (hsame.settled? path).trans hnew
    exact htrans _ _ _ hdir (hsettle _ _ hpath hnew')

/-- What is known of reading the package of a path: it is remembered, or else the directory is
read. There is nothing to know of a path without a directory. -/
def reading? (w : Surroundings) (s : Session) (path : String) : Option (Except Error Package) :=
  match s.settled? path, (resolve w path).answer s with
  | some r, _ => some r
  | none, .ok (some dir) => some (w.read dir path)
  | none, _ => none

/-- What is known of reading is answered, and is settled from then on. -/
theorem openPath_of_reading {r : Except Error Package} (hpath : path ≠ "")
    (h : reading? w s path = some r) :
    (openPath w path).answer s = r.map some
      ∧ ((openPath w path).after s).settled? path = some r := by
  have hresolve := samePackages_resolve (w := w) path s
  have hopens := opens_openPath (w := w) hpath s
  generalize (openPath w path).answer s = answer at hopens ⊢
  generalize (openPath w path).after s = after at hopens ⊢
  cases hopens with
  | known hsettled =>
    obtain rfl : _ = r := by simpa [reading?, hsettled] using h
    exact ⟨rfl, hsettled⟩
  | unplaced hnew hdir | pseudo hnew hdir => simp [reading?, hnew, hdir] at h
  | read hnew hdir =>
    obtain rfl : _ = r := by simpa [reading?, hnew, hdir] using h
    exact ⟨rfl, settled?_settle_self ((hresolve.settled? path).trans hnew) _⟩

/-- Without a reading the answer is that of the search for a directory, and nothing is noted of
the package. -/
theorem openPath_of_no_reading (hpath : path ≠ "") (h : reading? w s path = none) :
    (openPath w path).answer s = ((resolve w path).answer s).map (fun _ => none)
      ∧ SamePackages s ((openPath w path).after s) := by
  have hresolve := samePackages_resolve (w := w) path s
  have hopens := opens_openPath (w := w) hpath s
  generalize (openPath w path).answer s = answer at hopens ⊢
  generalize (openPath w path).after s = after at hopens ⊢
  cases hopens with
  | known hsettled => simp [reading?, hsettled] at h
  | unplaced _ hdir | pseudo _ hdir => exact ⟨by rw [hdir]; rfl, hresolve⟩
  | read hnew hdir => simp [reading?, hnew, hdir] at h

/-! ## Growth -/

/-- Whatever is settled stays settled in the same way. -/
def Extends (s s' : Session) : Prop :=
  ∀ path r, s.settled? path = some r → s'.settled? path = some r

theorem Extends.trans {s₁ s₂ s₃ : Session} (h : Extends s₁ s₂) (h' : Extends s₂ s₃) :
    Extends s₁ s₃ := fun path r hr => h' path r (h path r hr)

theorem SamePackages.extends (h : SamePackages s s') : Extends s s' := by
  intro path r hr
  rw [h.settled?, hr]

theorem extends_settle (h : s.settled? path = none) (r : Except Error Package) :
    Extends s (s.settle path r) := by
  intro path' r' hr'
  have hne : path' ≠ path := by
    rintro rfl
    simp [h] at hr'
  rw [settled?_settle_of_ne hne, hr']

theorem extends_openPath (path : String) : Run.Along Extends (openPath w path) :=
  along_openPath (fun _ _ _ hr => hr) (fun _ _ _ => .trans)
    (fun s => (samePackages_resolve path s).extends) fun _ _ _ hnew => extends_settle hnew _

theorem extends_ask (w : Surroundings) (q : Question) : Run.Along Extends (q.ask w) :=
  q.composed_ask.along (fun _ _ _ hr => hr) (fun _ _ _ => .trans)
    (fun path s => (samePackages_moduleAt path s).extends)
    (fun path s => (samePackages_resolve path s).extends) extends_openPath

/-- No history takes back what is settled. -/
theorem extends_afterAll (h : History) (s : Session) : Extends s (afterAll h s) :=
  along_afterAll (fun _ _ _ hr => hr) (fun _ _ _ => .trans) extends_ask h s

/-! ## Consistency -/

/-- The two tables of packages and the account of readings fit together. -/
structure Consistent (s : Session) : Prop where
  packages_nodup : (s.packages.map Prod.fst).Nodup
  failures_nodup : (s.failures.map Prod.fst).Nodup
  /-- No path has both a package and a failure. -/
  disjoint : ∀ path ∈ s.packages.map Prod.fst, path ∉ s.failures.map Prod.fst
  /-- Each directory that was read left one package or one failure. -/
  parsed : s.parsed = s.packages.length + s.failures.length
  importPath : ∀ x ∈ s.packages, x.2.importPath = x.1
  blank : "" ∉ s.packages.map Prod.fst ∧ "" ∉ s.failures.map Prod.fst
  /-- Failures come from reading a directory, never from looking for one. -/
  read : ∀ x ∈ s.failures, ∃ (w : Surroundings) (dir : Path), w.read dir x.1 = .error x.2

theorem consistent_fresh : Consistent .fresh :=
  ⟨.nil, .nil, by simp [fresh], rfl, by simp [fresh], by simp [fresh], by simp [fresh]⟩

theorem SamePackages.consistent (h : SamePackages s s') (hs : Consistent s) : Consistent s' := by
  obtain ⟨hp, hf, hparsed⟩ := h
  obtain ⟨h₁, h₂, h₃, h₄, h₅, h₆, h₇⟩ := hs
  rw [← hp] at h₁ h₃ h₄ h₅ h₆
  rw [← hf] at h₂ h₃ h₄ h₆ h₇
  rw [← hparsed] at h₄
  exact ⟨h₁, h₂, h₃, h₄, h₅, h₆, h₇⟩

theorem not_mem_keys_of_lookup {α : Type} {t : List (String × α)} (h : t.lookup path = none) :
    path ∉ t.map Prod.fst := by
  simp only [List.mem_map, not_exists, not_and]
  intro x hx hpath
  have hne := List.lookup_eq_none_iff.1 h x hx
  simp [hpath] at hne

/-- Noting what came of a reading keeps the tables in order. -/
theorem consistent_settle {dir : Path} (hs : Consistent s) (hpath : path ≠ "")
    (hnew : s.settled? path = none) :
    Consistent (s.settle path (w.read dir path)) := by
  obtain ⟨hp, hf⟩ := settled?_eq_none.1 hnew
  have hpackages := not_mem_keys_of_lookup hp
  have hfailures := not_mem_keys_of_lookup hf
  have hparsed := hs.parsed
  -- A reading is noted in one of two tables. The path was in neither, so the keys stay different
  -- and the tables stay apart.
  cases hread : w.read dir path with
  | ok p =>
    have hkey := Surroundings.importPath_of_read hread
    refine ⟨?_, hs.failures_nodup, ?_, ?_, ?_, ?_, hs.read⟩
    · exact List.nodup_cons.2 ⟨hpackages, hs.packages_nodup⟩
    · intro path' hpath'
      rcases List.mem_cons.1 hpath' with rfl | hpath'
      · exact hfailures
      · exact hs.disjoint path' hpath'
    · simp only [settle, notePackage, noteParsed, List.length_cons]
      omega
    · intro x hx
      rcases List.mem_cons.1 hx with rfl | hx
      · exact hkey
      · exact hs.importPath x hx
    · refine ⟨?_, hs.blank.2⟩
      exact List.not_mem_cons_of_ne_of_not_mem hpath.symm hs.blank.1
  | error e =>
    refine ⟨hs.packages_nodup, ?_, ?_, ?_, hs.importPath, ?_, ?_⟩
    · exact List.nodup_cons.2 ⟨hfailures, hs.failures_nodup⟩
    · intro path' hpath' hmem
      rcases List.mem_cons.1 hmem with rfl | hmem
      · exact hpackages hpath'
      · exact hs.disjoint path' hpath' hmem
    · simp only [settle, noteFailure, noteParsed, List.length_cons]
      omega
    · refine ⟨hs.blank.1, ?_⟩
      exact List.not_mem_cons_of_ne_of_not_mem hpath.symm hs.blank.2
    · intro x hx
      rcases List.mem_cons.1 hx with rfl | hx
      · exact ⟨_, dir, hread⟩
      · exact hs.read x hx

/-- The run leads from consistent sessions to consistent ones. -/
def Preserves (s s' : Session) : Prop := Consistent s → Consistent s'

theorem preserves_openPath (path : String) : Run.Along Preserves (openPath w path) :=
  along_openPath (fun _ hs => hs) (fun _ _ _ h h' hs => h' (h hs))
    (fun s => (samePackages_resolve path s).consistent)
    fun _ _ hpath hnew hs => consistent_settle hs hpath hnew

theorem preserves_ask (w : Surroundings) (q : Question) : Run.Along Preserves (q.ask w) :=
  q.composed_ask.along (fun _ hs => hs) (fun _ _ _ h h' hs => h' (h hs))
    (fun path s => (samePackages_moduleAt path s).consistent)
    (fun path s => (samePackages_resolve path s).consistent) preserves_openPath

/-- Every session that a history leads to is consistent. -/
theorem consistent_afterAll (h : History) : Consistent (afterAll h .fresh) :=
  holds_afterAll preserves_ask h consistent_fresh

/-! ## Where packages come from -/

/-- Packages come from reading a directory. -/
def Genuine (s : Session) : Prop :=
  ∀ x ∈ s.packages, ∃ (w : Surroundings) (dir : Path), w.read dir x.1 = .ok x.2

/-- The run leads from genuine sessions to genuine ones. -/
def PreservesGenuine (s s' : Session) : Prop := Genuine s → Genuine s'

theorem SamePackages.genuine (h : SamePackages s s') (hs : Genuine s) : Genuine s' := by
  unfold Genuine
  rwa [h.packages]

theorem genuine_settle {dir : Path} (hs : Genuine s) :
    Genuine (s.settle path (w.read dir path)) := by
  cases hread : w.read dir path with
  | error e => exact hs
  | ok p =>
    intro x hx
    rcases List.mem_cons.1 hx with rfl | hx
    · exact ⟨_, dir, hread⟩
    · exact hs x hx

theorem preservesGenuine_ask (w : Surroundings) (q : Question) :
    Run.Along PreservesGenuine (q.ask w) :=
  q.composed_ask.along (fun _ hs => hs) (fun _ _ _ h h' hs => h' (h hs))
    (fun path s => (samePackages_moduleAt path s).genuine)
    (fun path s => (samePackages_resolve path s).genuine)
    fun _ => along_openPath (fun _ hs => hs) (fun _ _ _ h h' hs => h' (h hs))
      (fun s => (samePackages_resolve _ s).genuine) fun _ _ _ _ hs => genuine_settle hs

/-- Every session that a history leads to is genuine. -/
theorem genuine_afterAll (h : History) : Genuine (afterAll h .fresh) :=
  holds_afterAll preservesGenuine_ask h (by simp [Genuine, fresh])

/-! ## Answers that are fixed -/

/-- From this session on, opening the path answers `r` and does nothing else: in any
surroundings, and after any other questions. -/
def Fixed (s : Session) (path : String) (r : Except Error Package) : Prop :=
  ∀ later w, (openPath w path).from (afterAll later s) = (r.map some, afterAll later s)

/-- What came of a reading is answered from then on. -/
theorem fixed_of_reading {r : Except Error Package} (hpath : path ≠ "")
    (h : reading? w s path = some r) : Fixed ((openPath w path).after s) path r := by
  intro later w'
  obtain ⟨-, hsettled⟩ := openPath_of_reading hpath h
  have hlater := extends_afterAll later _ path r hsettled
  -- Opening a settled path is one of the four cases only, and that one leaves the session alone.
  have hopens := opens_openPath (w := w') hpath (afterAll later ((openPath w path).after s))
  generalize afterAll later ((openPath w path).after s) = s' at hlater hopens
  generalize hanswer : (openPath w' path).answer s' = answer at hopens
  generalize hafter : (openPath w' path).after s' = after at hopens
  cases hopens with
  | known hsettled' =>
    obtain rfl := Option.some.inj (hlater.symm.trans hsettled')
    exact Prod.ext hanswer hafter
  | unplaced hnew _ | pseudo hnew _ | read hnew _ => simp [hlater] at hnew

/-- A package is answered only if it was read. -/
theorem reading_of_answer {p : Package} (hpath : path ≠ "")
    (h : (openPath w path).answer s = .ok (some p)) : reading? w s path = some (.ok p) := by
  cases hreading : reading? w s path with
  | none =>
    obtain ⟨hanswer, -⟩ := openPath_of_no_reading hpath hreading
    rw [h] at hanswer
    cases hdir : (resolve w path).answer s <;> simp [hdir, Except.map] at hanswer
  | some r =>
    obtain ⟨hanswer, -⟩ := openPath_of_reading hpath hreading
    rw [h] at hanswer
    cases r with
    | error e => cases hanswer
    | ok p' =>
      obtain rfl := Option.some.inj (Except.ok.inj hanswer)
      rfl

/-- An error is one of reading, or else one of the search for the directory. -/
theorem reading_of_error {e : Error} (hpath : path ≠ "")
    (h : (openPath w path).answer s = .error e) :
    reading? w s path = some (.error e)
      ∨ reading? w s path = none ∧ (resolve w path).answer s = .error e := by
  cases hreading : reading? w s path with
  | none =>
    obtain ⟨hanswer, -⟩ := openPath_of_no_reading hpath hreading
    rw [h] at hanswer
    cases hdir : (resolve w path).answer s with
    | error e' =>
      rw [hdir] at hanswer
      obtain rfl := Except.error.inj hanswer
      exact .inr ⟨rfl, rfl⟩
    | ok dir =>
      rw [hdir] at hanswer
      cases hanswer
  | some r =>
    obtain ⟨hanswer, -⟩ := openPath_of_reading hpath hreading
    rw [h] at hanswer
    cases r with
    | ok p => cases hanswer
    | error e' =>
      obtain rfl := Except.error.inj hanswer
      exact .inl rfl

theorem ne_blank_of_answer {a : Except Error (Option Package)}
    (h : (openPath w path).answer s = a) (ha : a ≠ .ok none) : path ≠ "" := by
  rintro rfl
  exact ha h.symm

/-- A package that is opened is in the table of packages, or is read from a directory now. -/
theorem opened_of_answer {o : Package} (h : (openPath w path).answer s = .ok (some o)) :
    s.packages.lookup path = some o ∨ ∃ dir, w.read dir path = .ok o := by
  have hreading := reading_of_answer (ne_blank_of_answer h (by simp)) h
  unfold reading? at hreading
  split at hreading
  next r hsettled =>
    obtain rfl := Option.some.inj hreading
    rw [settled?] at hsettled
    cases hlookup : s.packages.lookup path with
    | none => simp [hlookup] at hsettled
    | some o' =>
      obtain rfl : o' = o := by simpa [hlookup] using hsettled
      exact .inl rfl
  next => exact .inr ⟨_, Option.some.inj hreading⟩
  next => cases hreading

/-- A package that is opened under a path carries the path. -/
theorem importPath_of_answer {path : String} {o : Package} (hs : Consistent s)
    (h : (openPath w path).answer s = .ok (some o)) : o.importPath = path := by
  rcases opened_of_answer h with hlookup | ⟨dir, hread⟩
  · exact hs.importPath (path, o) (Table.mem_of_lookup hlookup)
  · exact Surroundings.importPath_of_read hread

/-- A package that is opened was read from a directory, now or before. -/
theorem exists_read_of_answer {o : Package} (hs : Genuine s)
    (h : (openPath w path).answer s = .ok (some o)) :
    ∃ (w : Surroundings) (dir : Path), w.read dir path = .ok o := by
  rcases opened_of_answer h with hlookup | ⟨dir, hread⟩
  · exact hs (path, o) (Table.mem_of_lookup hlookup)
  · exact ⟨_, dir, hread⟩

/-! ## Packages are read once -/

/-- What a session makes of packages, for whatever surroundings it is asked in. -/
structure ReadsOnce (s : Session) : Prop where
  consistent : Consistent s
  /-- A package that is answered is answered from then on, and never read again. -/
  package : ∀ {w path p}, (openPath w path).answer s = .ok (some p) →
    Fixed ((openPath w path).after s) path (.ok p)
  /-- The same holds of an error that comes from reading the directory. -/
  failure : ∀ {w path e}, (openPath w path).answer s = .error e →
    reading? w s path = some (.error e) → Fixed ((openPath w path).after s) path (.error e)
  /-- Any other error is one of the search for the directory. It is not remembered. -/
  unplaced : ∀ {w path e}, (openPath w path).answer s = .error e →
    reading? w s path ≠ some (.error e) →
      (resolve w path).answer s = .error e ∧ SamePackages s ((openPath w path).after s)

/-- **Packages are read once**, whatever is asked and however the surroundings change. -/
theorem readsOnce_afterAll (earlier : History) : ReadsOnce (afterAll earlier .fresh) where
  consistent := consistent_afterAll earlier
  package h := by
    have hpath := ne_blank_of_answer h (by simp)
    exact fixed_of_reading hpath (reading_of_answer hpath h)
  failure h hread := fixed_of_reading (ne_blank_of_answer h (by simp)) hread
  unplaced h hread := by
    have hpath := ne_blank_of_answer h (by simp)
    obtain hread' | ⟨hnone, hdir⟩ := reading_of_error hpath h
    · exact absurd hread' hread
    · exact ⟨hdir, (openPath_of_no_reading hpath hnone).2⟩

/-- Surroundings with the given source files in the directory `/a`. -/
private def withSources (files : List (String × String)) : Surroundings where
  disk := ⟨files.foldl (fun t f => t.plant ["a", f.1] (.file (.text f.2) false)) .empty, []⟩
  provider := ⟨fun _ => .ok none, none⟩
  goroot := none

/-- A directory that was not there stays unreadable, although its sources are there later. -/
example :
    let later := openPath (withSources [("a.go", "package a\n")]) "/a"
    (later.answer ((openPath (withSources []) "/a").after .fresh)).map (·.isSome)
        = .error (.unparsable ⟨"/a"⟩ "not a directory")
      ∧ (later.answer .fresh).map (·.isSome) = .ok true := by
  decide +kernel

end Session
end StructFill
