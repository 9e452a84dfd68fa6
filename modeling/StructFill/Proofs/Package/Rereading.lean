import StructFill.Proofs.Files.Writing
import StructFill.Proofs.Package.Tables
import StructFill.Proofs.Package.Vote

/-! # Reading a directory again

  When a file was written in the meantime, the packages of all other
  directories are read as before. The package of its directory is put together
  from one more file, provided that the file can be read and declares the name
  that the package has: no such file can change which name most files share.
-/

namespace StructFill

open Files (Disk Tree Key Entry)
open StructFill.Path (Plain)
open Source (FileDecls)

/-- The names on the way to an entry are names that a path can have. -/
def Files.Tree.Proper (t : Tree) : Prop := ∀ x ∈ t.entries, ∀ m ∈ x.1, Plain m

instance (t : Tree) : Decidable t.Proper :=
  inferInstanceAs (Decidable (∀ x ∈ t.entries, ∀ m ∈ x.1, Plain m))

theorem Files.Tree.Proper.plain {t : Tree} (ht : t.Proper) {k : Key} {m : String} {e : Entry}
    (h : (m, e) ∈ t.children k) : Plain m := by
  unfold Tree.children at h
  obtain ⟨m', hm', hpair⟩ := List.mem_filterMap.1 h
  obtain ⟨e', -, hpair⟩ := Option.map_eq_some_iff.1 hpair
  obtain ⟨rfl, rfl⟩ := Prod.mk.inj hpair
  simp only [List.mem_mergeSort, List.mem_eraseDups] at hm'
  obtain ⟨x, hx, hname⟩ := List.mem_filterMap.1 hm'
  apply ht x hx
  rw [Tree.childName?_eq_some_iff.1 hname]
  simp

namespace Package

/-! ## Reading files -/

variable {d d' : Disk}

theorem readFile_eq_ok_some_iff [Source.Recovery] {path : Path} {decls : FileDecls} :
    readFile d path = .ok (some decls)
      ↔ ∃ text, d.readText path = .ok text ∧ Source.isIgnored text = false
        ∧ parseSource path text = .ok decls := by
  unfold readFile
  cases hread : d.readText path with
  | error e => simp
  | ok text =>
    cases hkept : Source.isIgnored text with
    | true => simp [hkept]
    | false => cases hparse : parseSource path text <;> simp [hkept, hparse, Except.map]

/-- Files are read one by one. -/
theorem readFiles_cons_eq_ok_iff [Source.Recovery] {path : Path} {rest : List Path}
    {files : List (Path × FileDecls)} :
    readFiles d (path :: rest) = .ok files ↔
      ∃ decls? others, readFile d path = .ok decls? ∧ readFiles d rest = .ok others
        ∧ files = (decls?.map (path, ·)).toList ++ others := by
  rw [readFiles]
  cases readFile d path with
  | error e => simp [bind, Except.bind]
  | ok decls? =>
    cases readFiles d rest with
    | error e => simp [bind, Except.bind]
    | ok others => cases decls? <;> simp [bind, Except.bind, eq_comm]

/-- What is read as a file of several is what is read of it alone. -/
theorem readFile_of_mem_readFiles [Source.Recovery] {paths : List Path}
    {files : List (Path × FileDecls)}
    {f : Path × FileDecls} (h : readFiles d paths = .ok files) (hf : f ∈ files) :
    readFile d f.1 = .ok (some f.2) := by
  induction paths generalizing files with
  | nil =>
    obtain rfl := Except.ok.inj h
    cases hf
  | cons path rest ih =>
    obtain ⟨decls?, others, hfirst, hrest, rfl⟩ := readFiles_cons_eq_ok_iff.1 h
    rcases List.mem_append.1 hf with hf | hf
    · obtain ⟨decls, rfl, rfl⟩ := Option.map_eq_some_iff.1 (Option.mem_toList.1 hf)
      exact hfirst
    · exact ih hrest hf

theorem readFiles_append [Source.Recovery] (xs ys : List Path) : readFiles d (xs ++ ys)
    = (readFiles d xs).bind fun fs => (readFiles d ys).map (fs ++ ·) := by
  induction xs with
  | nil => cases h : readFiles d ys <;> simp [readFiles, Except.bind, Except.map, h]
  | cons x xs ih =>
    simp only [List.cons_append, readFiles, bind, ih]
    cases readFile d x with
    | error e => rfl
    | ok decls =>
      cases readFiles d xs with
      | error e => rfl
      | ok fs => cases readFiles d ys <;> cases decls <;> rfl

/-- Files that are read come in the parts in which their paths come. -/
theorem readFiles_append_eq_ok [Source.Recovery] {xs ys : List Path}
    {files : List (Path × FileDecls)} (h : readFiles d (xs ++ ys) = .ok files) :
    ∃ before after, readFiles d xs = .ok before ∧ readFiles d ys = .ok after
      ∧ files = before ++ after := by
  rw [readFiles_append] at h
  cases hbefore : readFiles d xs with
  | error e =>
    rw [hbefore] at h
    cases h
  | ok before =>
    cases hafter : readFiles d ys with
    | error e =>
      rw [hbefore, hafter] at h
      cases h
    | ok after =>
      rw [hbefore, hafter] at h
      exact ⟨before, after, rfl, rfl, (Except.ok.inj h).symm⟩

theorem readFiles_congr [Source.Recovery] {paths : List Path}
    (h : ∀ p ∈ paths, readFile d' p = readFile d p) :
    readFiles d' paths = readFiles d paths := by
  induction paths with
  | nil => rfl
  | cons p rest ih =>
    rw [readFiles, readFiles, h p List.mem_cons_self,
      ih fun p' hp' => h p' (List.mem_cons_of_mem _ hp')]

/-- The paths of the sources among the entries of a directory. -/
def sourcePaths (dir : Path) (entries : List (String × Entry)) : List Path :=
  (entries.filter isSourceEntry).map fun x => dir.joinName x.1

theorem sourceFiles_of_list {dir : Path} {entries : List (String × Entry)}
    (h : d.list dir = .ok entries) : sourceFiles d dir = .ok (sourcePaths dir entries) := by
  rw [sourceFiles, h]
  rfl

theorem sourcePaths_append (dir : Path) (xs ys : List (String × Entry)) :
    sourcePaths dir (xs ++ ys) = sourcePaths dir xs ++ sourcePaths dir ys := by
  simp [sourcePaths]

theorem readFile_congr [Source.Recovery] {p : Path} (h : d'.readText p = d.readText p) :
    readFile d' p = readFile d p := by
  rw [readFile, readFile, h]

/-! ## Other directories -/

section

variable {k k' : Key} {n text : String} {dir : Path} (h : d.NewFile k n text d')
  (ht : d.tree.Proper)
include h ht

/-- The files that were in a directory are read as before. -/
theorem readFiles_newFile [Source.Recovery] (hdir : d.locate dir = .ok (k', some .directory))
    {entries : List (String × Entry)} (hentries : ∀ x ∈ entries, x ∈ d.tree.children k') :
    readFiles d' (sourcePaths dir entries) = readFiles d (sourcePaths dir entries) := by
  apply readFiles_congr
  intro p hp
  obtain ⟨⟨m, e⟩, hmem, rfl⟩ := List.mem_map.1 hp
  have hchild := hentries _ (List.mem_filter.1 hmem).1
  apply readFile_congr
  rw [h.readText_joinName hdir (ht.plain hchild), if_neg]
  -- What was there is not the new file.
  intro heq
  unfold Tree.children at hchild
  obtain ⟨m', -, hpair⟩ := List.mem_filterMap.1 hchild
  obtain ⟨e', hfind, hpair⟩ := Option.map_eq_some_iff.1 hpair
  obtain ⟨rfl, rfl⟩ := Prod.mk.inj hpair
  rw [heq, h.nothing] at hfind
  cases hfind

/-- The package of another directory is read as before, and so is each package if the new file is no
source. -/
theorem ofDirectory_elsewhere [Source.Recovery] {importPath : String}
    (hdir : isSourceFile ⟨n⟩ = true → d.locate dir ≠ .ok (k, some .directory)) :
    ofDirectory d' dir importPath = ofDirectory d dir importPath := by
  unfold ofDirectory
  rw [h.isDirectory_eq]
  cases hdirectory : d.isDirectory dir with
  | false => rfl
  | true =>
    obtain ⟨k', hlocate⟩ := Disk.exists_locate_of_isDirectory hdirectory
    have hlist := Disk.list_of_locate hlocate
    have hsources : ∃ entries', d'.list dir = .ok entries'
        ∧ sourcePaths dir entries' = sourcePaths dir (d.tree.children k') := by
      by_cases hk : k' = k
      · subst hk
        have hnot : isSourceFile ⟨n⟩ ≠ true := fun hsource => hdir hsource hlocate
        obtain ⟨front, back, hold, hnew⟩ := h.list_of_eq hlocate
        refine ⟨_, hnew, ?_⟩
        rw [Except.ok.inj (hlist.symm.trans hold)]
        simp [sourcePaths, isSourceEntry, hnot]
      · exact ⟨_, (h.list_of_ne hlocate hk).trans hlist, rfl⟩
    obtain ⟨entries', hlist', hsame⟩ := hsources
    rw [sourceFiles_of_list hlist, sourceFiles_of_list hlist', hsame]
    simp only [bind, Except.bind]
    rw [readFiles_newFile h ht hlocate fun x hx => hx]

end

/-! ## The directory of the file -/

/-- A text that does not keep itself out is read as the declarations of a package. -/
structure Declares (text : String) (package : String) (decls : FileDecls) : Prop where
  kept : Source.isIgnored text = false
  parsed : Source.Grammar.declarations? text = some decls
  package : decls.package = package

theorem parseSource_eq_ok [Source.Recovery] {path : Path} {text : String} {decls : FileDecls}
    (h : parseSource path text = .ok decls) : decls.package ≠ "" := by
  unfold parseSource at h
  split at h
  · cases h
  split at h
  · cases h
  next hne =>
    obtain rfl := Except.ok.inj h
    exact hne

/-- Files without a name for their package are not read. -/
theorem package_ne_blank [Source.Recovery] {paths : List Path} {files : List (Path × FileDecls)}
    (h : readFiles d paths = .ok files) : ∀ f ∈ files, f.2.package ≠ "" := by
  intro f hf
  obtain ⟨text, -, -, hparse⟩ := readFile_eq_ok_some_iff.1 (readFile_of_mem_readFiles h hf)
  exact parseSource_eq_ok hparse

theorem Declares.of_toList {text name : String} {decls : FileDecls} {cs : List Char}
    (htext : text.toList = cs)
    (hkept : Source.ignoredLines (Text.splitOn (· == '\n') cs) = false)
    (hparsed : ((Source.Token.scan? cs).bind Source.Grammar.items?).map FileDecls.ofItems
      = some decls)
    (hname : decls.package = name) : Declares text name decls where
  kept := by rw [Source.isIgnored, htext, hkept]
  parsed := by
    rw [Source.Grammar.declarations?, htext, ← hparsed]
    cases Source.Token.scan? cs with
    | none => rfl
    | some ts => cases hitems : Source.Grammar.items? ts <;> simp [hitems]
  package := hname

theorem Declares.readFile [Source.Recovery] {text name : String} {decls : FileDecls} {path : Path}
    (hdecls : Declares text name decls) (hname : name ≠ "") (hread : d.readText path = .ok text) :
    Package.readFile d path = .ok (some decls) := by
  rw [Package.readFile, hread]
  simp [hdecls.kept, parseSource, hdecls.parsed, hdecls.package, hname, Except.map]

/-- A package that is read has a name that most of the files share, and consists of these files. -/
theorem ofDirectory_eq_ok [Source.Recovery] {dir : Path} {importPath : String} {p : Package}
    {entries : List (String × Entry)} (hlist : d.list dir = .ok entries)
    (h : ofDirectory d dir importPath = .ok p) :
    ∃ files, readFiles d (sourcePaths dir entries) = .ok files
      ∧ majority? (files.map (·.2.package)) = some p.name
      ∧ p = ofFiles p.name importPath dir (files.filter fun f => f.2.package == p.name) := by
  unfold ofDirectory at h
  split at h
  · cases h
  rw [sourceFiles_of_list hlist] at h
  simp only [bind, Except.bind] at h
  split at h
  · cases h
  next files hfiles =>
    split at h
    · cases h
    next name hname =>
      obtain rfl := Except.ok.inj h
      rw [name_ofFiles]
      exact ⟨files, hfiles, hname, rfl⟩

theorem ofDirectory_of_files [Source.Recovery] {dir : Path} {importPath name : String}
    {paths : List Path} {files : List (Path × FileDecls)} (hdirectory : d.isDirectory dir = true)
    (hsources : sourceFiles d dir = .ok paths) (hfiles : readFiles d paths = .ok files)
    (hname : majority? (files.map (·.2.package)) = some name) :
    ofDirectory d dir importPath
      = .ok (ofFiles name importPath dir (files.filter fun f => f.2.package == name)) := by
  unfold ofDirectory
  rw [hdirectory, hsources]
  simp [bind, Except.bind, hfiles, hname]

/-- A directory with a single source file. -/
theorem ofDirectory_of_file [Source.Recovery] {dir path : Path} {importPath text name : String}
    {decls : FileDecls}
    (hdirectory : d.isDirectory dir = true) (hsources : sourceFiles d dir = .ok [path])
    (hread : d.readText path = .ok text) (hdecls : Declares text name decls) (hname : name ≠ "") :
    ofDirectory d dir importPath = .ok (ofFiles name importPath dir [(path, decls)]) := by
  have hfiles : readFiles d [path] = .ok [(path, decls)] := by
    rw [readFiles, hdecls.readFile hname hread]
    rfl
  have hname' : majority? [decls.package] = some name :=
    hdecls.package ▸ majority?_singleton decls.package
  rw [ofDirectory_of_files hdirectory hsources hfiles hname']
  simp [hdecls.package]

/-- The package of the directory is put together from the files that it had and from the new one,
somewhere between them. -/
theorem ofDirectory_newFile [Source.Recovery] {k : Key} {n text : String} {dir : Path}
    {decls : FileDecls}
    {importPath : String} {p : Package} (h : d.NewFile k n text d') (ht : d.tree.Proper)
    (hn : Plain n) (hsource : isSourceFile ⟨n⟩ = true)
    (hdir : d.locate dir = .ok (k, some .directory)) (hp : ofDirectory d dir importPath = .ok p)
    (hdecls : Declares text p.name decls) :
    ∃ before after, p = ofFiles p.name importPath dir (before ++ after)
      ∧ ofDirectory d' dir importPath
        = .ok (ofFiles p.name importPath dir (before ++ (dir.joinName n, decls) :: after)) := by
  obtain ⟨front, back, hlist, hlist'⟩ := h.list_of_eq hdir
  have hchildren : d.tree.children k = front ++ back :=
    Except.ok.inj ((Disk.list_of_locate hdir).symm.trans hlist)
  obtain ⟨files, hfiles, hname, hpackage⟩ := ofDirectory_eq_ok hlist hp
  have hnamed : p.name ≠ "" := by
    obtain ⟨f, hf, hfname⟩ := List.mem_map.1 (mem_of_majority? hname)
    rw [← hfname]
    exact package_ne_blank hfiles f hf
  -- The files that were there come in two parts, with the new one between them.
  rw [sourcePaths_append] at hfiles
  obtain ⟨before, after, hbefore, hafter, rfl⟩ := readFiles_append_eq_ok hfiles
  have hbefore' : readFiles d' (sourcePaths dir front) = .ok before :=
    (readFiles_newFile h ht hdir fun x hx => by simp [hchildren, hx]).trans hbefore
  have hafter' : readFiles d' (sourcePaths dir back) = .ok after :=
    (readFiles_newFile h ht hdir fun x hx => by simp [hchildren, hx]).trans hafter
  have hread : d'.readText (dir.joinName n) = .ok text := by
    rw [h.readText_joinName hdir hn, if_pos rfl]
  have hfile := hdecls.readFile hnamed hread
  have hfiles' : readFiles d' (sourcePaths dir (front ++ (n, .file (.text text) false) :: back))
      = .ok (before ++ (dir.joinName n, decls) :: after) := by
    have hcons : sourcePaths dir ((n, .file (.text text) false) :: back)
        = dir.joinName n :: sourcePaths dir back := by
      simp [sourcePaths, isSourceEntry, hsource]
    rw [sourcePaths_append, readFiles_append, hbefore', hcons, readFiles, hfile, hafter']
    rfl
  have hname' : majority? ((before ++ (dir.joinName n, decls) :: after).map (·.2.package))
      = some p.name := by
    rw [List.map_append] at hname
    simpa [hdecls.package] using majority?_insert hname
  have hdirectory : d'.isDirectory dir = true :=
    Disk.isDirectory_of_locate (h.locate_of_some hdir)
  refine ⟨before.filter fun f => f.2.package == p.name,
    after.filter fun f => f.2.package == p.name, ?_, ?_⟩
  · rwa [List.filter_append] at hpackage
  · rw [ofDirectory_of_files hdirectory (sourceFiles_of_list hlist') hfiles' hname',
      List.filter_append]
    simp [hdecls.package]

end Package
end StructFill
