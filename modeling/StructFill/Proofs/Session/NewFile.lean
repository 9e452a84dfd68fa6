import StructFill.Proofs.Package.Rereading
import StructFill.Proofs.Session.Failures

/-! # Sessions that meet a new file

  A fresh session in surroundings where a file was written in the meantime finds
  the same directories, since no directory is new. It reads the same packages
  wherever an import path leads to another directory than that of the file.
-/

namespace StructFill

open Files (Disk Key)
open Source (FileDecls Import)

/-- The surroundings with another disk. -/
def Surroundings.on (w : Surroundings) (d : Disk) : Surroundings := { w with disk := d }

theorem Surroundings.read_elsewhere {w : Surroundings} {d' : Disk} {k : Key} {n text : String}
    {dir : Path} {importPath : String} (h : w.disk.NewFile k n text d') (ht : w.disk.tree.Proper)
    (hdir : Package.isSourceFile ⟨n⟩ = true → w.disk.locate dir ≠ .ok (k, some .directory)) :
    (w.on d').read dir importPath = w.read dir importPath := by
  let := w.recovery
  exact Package.ofDirectory_elsewhere h ht hdir

namespace Session

variable {w : Surroundings} {d' : Disk} {k : Key} {n text : String}

/-! ## Directories -/

theorem listStandard_eq (d : Disk) (root : Path) : listStandard d root
    = (((d.list (root.joinName "src")).toOption.getD []).filter (·.2.isDirectory)).map
      fun x => (x.1, (root.joinName "src").joinName x.1) := by
  unfold listStandard
  dsimp only
  cases d.list (root.joinName "src") <;> rfl

theorem listStandard_newFile (h : w.disk.NewFile k n text d') :
    listStandard d' = listStandard w.disk := by
  funext root
  rw [listStandard_eq, listStandard_eq, h.filter_directories]

theorem standardRoots_newFile (h : w.disk.NewFile k n text d') :
    standardRoots (w.on d') = standardRoots w := by
  have hlist : listStandard (w.on d').disk = listStandard w.disk := listStandard_newFile h
  unfold standardRoots
  rw [hlist]
  rfl

theorem moduleAt_on (path : String) : moduleAt (w.on d') path = moduleAt w path := rfl

theorem dependencyDir_on (path : String) (bs : List String) :
    dependencyDir (w.on d') path bs = dependencyDir w path bs := by
  induction bs with
  | nil => rfl
  | cons b rest ih => rw [dependencyDir, dependencyDir, ih, moduleAt_on]

/-- The same directories are found as before. -/
theorem resolve_newFile (h : w.disk.NewFile k n text d') (path : String) :
    resolve (w.on d') path = resolve w path := by
  have hafresh : resolveAfresh (w.on d') path = resolveAfresh w path := by
    unfold resolveAfresh standardDir mainModule
    rw [standardRoots_newFile h, dependencyDir_on, moduleAt_on]
  unfold resolve
  rw [hafresh]

/-! ## Packages -/

/-- An import path leads to the directory under a key. -/
def LeadsTo (w : Surroundings) (path : String) (k : Key) : Prop :=
  ∃ dir, (resolve w path).answer .fresh = .ok (some dir)
    ∧ w.disk.locate dir = .ok (k, some .directory)

theorem openPath_fresh {path : String} (hpath : path ≠ "") :
    (openPath w path).answer .fresh
      = ((resolve w path).answer .fresh).bind (readPackage w path) := by
  rw [answer_openPath hpath]
  rfl

/-- A path that leads to a directory from which a package is read leads to this package. -/
theorem openPath_of_read {path : String} {dir : Path} {p : Package} (hpath : path ≠ "")
    (hread : w.read dir path = .ok p)
    (hresolve : (resolve w path).answer .fresh = .ok (some dir)) :
    (openPath w path).answer .fresh = .ok (some p) := by
  rw [openPath_fresh hpath, hresolve]
  simp only [Except.bind, readPackage, hread, Except.map]

/-- A path that leads elsewhere leads to the same package. -/
theorem openPath_newFile (h : w.disk.NewFile k n text d') (ht : w.disk.tree.Proper) {path : String}
    (hpath : Package.isSourceFile ⟨n⟩ = true → ¬ LeadsTo w path k) :
    (openPath (w.on d') path).answer .fresh = (openPath w path).answer .fresh := by
  by_cases hblank : path = ""
  · rw [hblank, openPath, openPath, if_pos rfl, if_pos rfl]
  rw [openPath_fresh hblank, openPath_fresh hblank, resolve_newFile h]
  cases hdir : (resolve w path).answer .fresh with
  | error e => rfl
  | ok dir? =>
    cases dir? with
    | none => rfl
    | some dir =>
      have helsewhere : Package.isSourceFile ⟨n⟩ = true →
          w.disk.locate dir ≠ .ok (k, some .directory) :=
        fun hsource hlocate => hpath hsource ⟨dir, hdir, hlocate⟩
      change ((w.on d').read dir path).map some = (w.read dir path).map some
      rw [Surroundings.read_elsewhere h ht helsewhere]

/-! ## Local names -/

/-- A package whose imports lead elsewhere has the same names for the same packages. -/
theorem openImport_newFile (h : w.disk.NewFile k n text d') (ht : w.disk.tree.Proper) {o : Package}
    (ho : Package.isSourceFile ⟨n⟩ = true → ∀ path ∈ o.imports.map Prod.snd, ¬ LeadsTo w path k)
    (q : String) :
    (openImport (w.on d') o q).answer .fresh = (openImport w o q).answer .fresh := by
  unfold openImport
  cases hpath : o.importPathOf? q with
  | some path =>
    exact openPath_newFile h ht fun hsource =>
      ho hsource path (List.mem_map.2 ⟨_, Table.mem_of_lookup hpath, rfl⟩)
  | none =>
    have hpaths : ∀ path ∈ o.importPaths, Package.isSourceFile ⟨n⟩ = true → ¬ LeadsTo w path k :=
      fun path hmem hsource => ho hsource path (mem_sortedDistinct.1 hmem)
    dsimp only
    generalize o.importPaths = paths at hpaths
    induction paths with
    | nil => rfl
    | cons path rest ih =>
      rw [answer_probe_cons, answer_probe_cons, openPath_newFile h ht (hpaths path List.mem_cons_self),
        ih fun path' hmem => hpaths path' (List.mem_cons_of_mem _ hmem)]

/-! ## More imports -/

variable {s : Session} {q : String}

/-- The package of the import path declares the name, and the path does not suggest it. -/
def Suits (w : Surroundings) (s : Session) (q path : String) : Prop :=
  Package.defaultName path ≠ q ∧ ∃ o, (openPath w path).answer s = .ok (some o) ∧ o.name = q

/-- The first path that suits the name decides. -/
theorem probe_cases (q : String) (paths : List String) :
    ((probe w q paths).answer s = .ok none ∧ ∀ path ∈ paths, ¬ Suits w s q path)
      ∨ ∃ before path after, paths = before ++ path :: after ∧ (∀ x ∈ before, ¬ Suits w s q x)
        ∧ Suits w s q path ∧ (probe w q paths).answer s = (openPath w path).answer s := by
  induction paths with
  | nil => exact .inl ⟨rfl, by simp⟩
  | cons path rest ih =>
    -- A path that does not suit is passed over.
    have hlater : ¬ Suits w s q path →
        (probe w q (path :: rest)).answer s = (probe w q rest).answer s →
        ((probe w q (path :: rest)).answer s = .ok none
            ∧ ∀ path' ∈ path :: rest, ¬ Suits w s q path')
          ∨ ∃ before path' after, path :: rest = before ++ path' :: after
            ∧ (∀ x ∈ before, ¬ Suits w s q x) ∧ Suits w s q path'
            ∧ (probe w q (path :: rest)).answer s = (openPath w path').answer s := by
      intro hnot hskip
      rw [hskip]
      rcases ih with ⟨hnone, hrest⟩ | ⟨before, path', after, rfl, hbefore, hsuits, hanswer⟩
      · exact .inl ⟨hnone, List.forall_mem_cons.2 ⟨hnot, hrest⟩⟩
      · exact .inr ⟨path :: before, path', after, rfl, List.forall_mem_cons.2 ⟨hnot, hbefore⟩,
          hsuits, hanswer⟩
    have hcons := answer_probe_cons (w := w) q path rest s
    split at hcons
    next hsuggested => exact hlater (fun hsuits => hsuits.1 hsuggested) hcons
    next hsuggested =>
      split at hcons
      next o hopen =>
        split at hcons
        next hname =>
          refine .inr ⟨[], path, rest, rfl, by simp, ⟨hsuggested, o, hopen, hname⟩, ?_⟩
          rw [hcons, hopen]
        next hname =>
          refine hlater ?_ hcons
          rintro ⟨-, o', hopen', hname'⟩
          obtain rfl := Option.some.inj (Except.ok.inj (hopen.symm.trans hopen'))
          exact hname hname'
      next hnone =>
        refine hlater ?_ hcons
        rintro ⟨-, o', hopen', -⟩
        exact hnone o' hopen'

/-- More paths to try make no difference, if those among them that suit lead to the same answer. -/
theorem probe_of_subset {xs ys : List String} (hxs : xs.Pairwise (· < ·))
    (hys : ys.Pairwise (· < ·)) (hsubset : ∀ x ∈ xs, x ∈ ys)
    (hnew : ∀ y ∈ ys, y ∉ xs → Suits w s q y →
      (openPath w y).answer s = (probe w q xs).answer s) :
    (probe w q ys).answer s = (probe w q xs).answer s := by
  rcases probe_cases (w := w) (s := s) q ys with
    ⟨hnone, hys'⟩ | ⟨before, y, after, rfl, hbefore, hsuits, hanswer⟩
  · rcases probe_cases (w := w) (s := s) q xs with ⟨hnone', -⟩ | ⟨before, x, after, rfl, -, hsuits, -⟩
    · rw [hnone, hnone']
    · exact absurd hsuits (hys' x (hsubset x (by simp)))
  · rw [hanswer]
    by_cases hy : y ∈ xs
    · -- The path is the first of the old ones, too.
      rcases probe_cases (w := w) (s := s) q xs with
        ⟨-, hxs'⟩ | ⟨before', x, after', rfl, hbefore', hsuits', hanswer'⟩
      · exact absurd hsuits (hxs' y hy)
      · rw [hanswer']
        obtain ⟨-, hbehind, hacross⟩ := List.pairwise_append.1 hxs
        obtain ⟨-, hbehind', hacross'⟩ := List.pairwise_append.1 hys
        have hx := hsubset x (by simp)
        rcases List.mem_append.1 hy with hy | hy
        · exact absurd hsuits (hbefore' y hy)
        rcases List.mem_cons.1 hy with rfl | hy
        · rfl
        rcases List.mem_append.1 hx with hx | hx
        · exact absurd hsuits' (hbefore x hx)
        rcases List.mem_cons.1 hx with rfl | hx
        · rfl
        · have hlt := (List.pairwise_cons.1 hbehind).1 y hy
          have hlt' := (List.pairwise_cons.1 hbehind').1 x hx
          exact absurd (String.lt_trans hlt hlt') (String.lt_irrefl _)
    · exact hnew y (by simp) hy hsuits

section

variable {name importPath : String} {dir : Path} {before after : List (Path × FileDecls)}
  {file : Path × FileDecls}

/-- With one more file a local name leads to the same package, if the file binds no name of the
others anew, and what it imports is not mistaken for something else. -/
theorem openImport_insert
    (hnames : ∀ b ∈ file.2.bindings, ∀ path,
      (Package.ofFiles name importPath dir (before ++ after)).importPathOf? b.1 = some path →
        b.2 = path)
    (hunbound : (Package.ofFiles name importPath dir (before ++ after)).importPathOf? q = none →
      ∀ i ∈ file.2.imports, q ∈ i.bindings.map Prod.fst ∨ Suits w s q i.path →
        (openPath w i.path).answer s
          = (openImport w (Package.ofFiles name importPath dir (before ++ after)) q).answer s) :
    (openImport w (Package.ofFiles name importPath dir (before ++ file :: after)) q).answer s
      = (openImport w (Package.ofFiles name importPath dir (before ++ after)) q).answer s := by
  have hkept : ∀ q' path,
      (Package.ofFiles name importPath dir (before ++ after)).importPathOf? q' = some path →
      (Package.ofFiles name importPath dir (before ++ file :: after)).importPathOf? q' = some path :=
    fun q' path h =>
      Package.importPathOf?_insert_of_some (fun path' hmem => hnames _ hmem path h) h
  cases hbound : (Package.ofFiles name importPath dir (before ++ after)).importPathOf? q with
  | some path => rw [openImport, openImport, hkept q path hbound, hbound]
  | none =>
    have himport : ∀ b ∈ file.2.bindings, ∃ i ∈ file.2.imports, b ∈ i.bindings ∧ b.2 = i.path := by
      intro b hb
      obtain ⟨i, hi, hb⟩ := List.mem_flatMap.1 hb
      exact ⟨i, hi, hb, Import.path_of_mem_bindings hb⟩
    cases hbound' : (Package.ofFiles name importPath dir (before ++ file :: after)).importPathOf? q
      with
    | some path =>
      obtain ⟨i, hi, hb, rfl⟩ := himport _ (Package.mem_bindings_of_insert hbound hbound')
      rw [← hunbound hbound i hi (.inl (List.mem_map.2 ⟨_, hb, rfl⟩)), openImport, hbound']
    | none =>
      -- Both times the name is looked for among the paths.
      have hopen : ∀ i ∈ file.2.imports, Suits w s q i.path → (openPath w i.path).answer s
          = (probe w q (Package.ofFiles name importPath dir (before ++ after)).importPaths).answer
            s := by
        intro i hi hsuits
        rw [hunbound hbound i hi (.inr hsuits), openImport, hbound]
      rw [openImport, openImport, hbound', hbound]
      apply probe_of_subset (pairwise_sortedDistinct _) (pairwise_sortedDistinct _)
      · intro path hpath
        obtain ⟨q', hq'⟩ := (Package.mem_importPaths_ofFiles _).1 hpath
        exact (Package.mem_importPaths_ofFiles _).2 ⟨q', hkept q' path hq'⟩
      · intro path hpath hold hsuits
        obtain ⟨q', hq'⟩ := (Package.mem_importPaths_ofFiles _).1 hpath
        have hnone : (Package.ofFiles name importPath dir (before ++ after)).importPathOf? q'
            = none := by
          cases hq : (Package.ofFiles name importPath dir (before ++ after)).importPathOf? q' with
          | none => rfl
          | some path' =>
            obtain rfl := Option.some.inj ((hkept q' path' hq).symm.trans hq')
            exact absurd ((Package.mem_importPaths_ofFiles _).2 ⟨q', hq⟩) hold
        obtain ⟨i, hi, -, hi'⟩ := himport _ (Package.mem_bindings_of_insert hnone hq')
        dsimp only at hi'
        rw [hi'] at hsuits ⊢
        exact hopen i hi hsuits

end

end Session
end StructFill
