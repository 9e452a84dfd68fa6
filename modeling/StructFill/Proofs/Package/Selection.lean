import StructFill.Proofs.Package.Rereading

/-! # Which files make a package

  The sources of a directory vote on the name of its package, those that keep
  themselves out apart. Most votes win, and of several names with as many votes
  the one that is voted for first.

  **What the package has.** Its files are those that voted for its name, in the
  order of their names. All that it declares and imports is from these files.

  **No vote.** Where every source keeps itself out there is no package, as if
  there were no source at all.
-/

namespace StructFill

open Files (Disk Tree Entry Key)
open Source (Import FileDecls TypeDecl)

namespace Package

/-! ## What the files declare -/

variable {name importPath : String} {dir : Path} (files : List (Path × FileDecls))

theorem exists_of_mem_types {d : TypeDecl} (h : d ∈ (ofFiles name importPath dir files).types) :
    ∃ f ∈ files, d ∈ f.2.types := by
  rw [ofFiles_eq] at h
  rcases mem_of_mem_foldl_declare h with h | h
  · cases h
  · exact List.mem_flatMap.1 h

theorem exists_of_mem_importsOf {bindings : Import → List (String × String)} {b : String × String}
    (h : b ∈ (importsOf files).flatMap bindings) :
    ∃ f ∈ files, b ∈ f.2.imports.flatMap bindings := by
  obtain ⟨i, hi, hb⟩ := List.mem_flatMap.1 h
  obtain ⟨f, hf, hi⟩ := List.mem_flatMap.1 hi
  exact ⟨f, hf, List.mem_flatMap.2 ⟨i, hi, hb⟩⟩

theorem exists_of_mem_imports {b : String × String}
    (h : b ∈ (ofFiles name importPath dir files).imports) : ∃ f ∈ files, b ∈ f.2.bindings := by
  obtain ⟨q, path⟩ := b
  rw [mem_imports_ofFiles, importPathOf?_ofFiles] at h
  exact exists_of_mem_importsOf files (List.mem_reverse.1 (Table.mem_of_lookup h))

theorem exists_of_mem_qualifiers {b : String × String}
    (h : b ∈ (ofFiles name importPath dir files).qualifiers) :
    ∃ f ∈ files, b ∈ f.2.callings := by
  obtain ⟨path, q⟩ := b
  have hordered : (ofFiles name importPath dir files).qualifiers.Ordered := by
    have hbare : Table.Ordered ([] : Table String) := List.Pairwise.nil
    rw [ofFiles_eq]
    exact hbare.foldl_add _
  have hfound := hordered.get?_of_mem h
  rw [← qualifierFor?, qualifierFor?_ofFiles] at hfound
  exact exists_of_mem_importsOf files (Table.mem_of_lookup hfound)

/-! ## The files of a directory -/

/-- A file is in the directory whose name is that of a source, and not of a test. -/
def HasSource (d : Disk) (dir : Path) (n : String) : Prop :=
  ∃ entries content executable, d.list dir = .ok entries
    ∧ (n, Entry.file content executable) ∈ entries ∧ isSourceFile ⟨n⟩ = true

/-- A source that does not keep itself out, with its declarations. -/
structure Kept [Source.Recovery] (d : Disk) (dir : Path) (n : String) (decls : FileDecls) :
    Prop where
  source : HasSource d dir n
  reads : ∃ text, d.readText (dir.joinName n) = .ok text ∧ Source.isIgnored text = false
    ∧ parseSource (dir.joinName n) text = .ok decls

theorem isSourceFile_iff {n : String} (hn : Path.Plain n) :
    isSourceFile ⟨n⟩ = true
      ↔ ".go".toList <:+ n.toList ∧ ¬ "_test.go".toList <:+ n.toList := by
  have hname : (Path.mk n).fileName? = some n := by
    rw [Path.fileName?, hn.components]
    rfl
  simp only [isSourceFile, hname, Bool.and_eq_true, List.isSuffixOf_iff_suffix,
    Bool.not_eq_true', ← Bool.not_eq_true]

theorem isSourceEntry_iff {x : String × Entry} :
    isSourceEntry x = true
      ↔ (∃ content executable, x.2 = .file content executable) ∧ isSourceFile ⟨x.1⟩ = true := by
  obtain ⟨n, e⟩ := x
  cases e <;> simp [isSourceEntry]

/-- An entry with its declarations, unless it keeps itself out. -/
def keptFile? [Source.Recovery] (d : Disk) (dir : Path) (x : String × Entry) :
    Option (String × FileDecls) :=
  (readFile d (dir.joinName x.1)).toOption.join.map (x.1, ·)

theorem keptFile?_of_readFile [Source.Recovery] {d : Disk} {dir : Path} {x : String × Entry}
    {decls? : Option FileDecls} (h : readFile d (dir.joinName x.1) = .ok decls?) :
    keptFile? d dir x = decls?.map (x.1, ·) := by
  rw [keptFile?, h]
  rfl

theorem keptFile?_eq_some_iff [Source.Recovery] {d : Disk} {dir : Path} {x : String × Entry}
    {n : String} {decls : FileDecls} :
    keptFile? d dir x = some (n, decls)
      ↔ x.1 = n ∧ readFile d (dir.joinName n) = .ok (some decls) := by
  constructor
  · intro h
    cases hread : readFile d (dir.joinName x.1) with
    | error e =>
      rw [keptFile?, hread] at h
      cases h
    | ok decls? =>
      rw [keptFile?_of_readFile hread] at h
      obtain ⟨decls', rfl, hpair⟩ := Option.map_eq_some_iff.1 h
      obtain ⟨rfl, rfl⟩ := Prod.mk.inj hpair
      exact ⟨rfl, hread⟩
  · rintro ⟨rfl, hread⟩
    rw [keptFile?_of_readFile hread]
    rfl

/-- The sources among some entries that do not keep themselves out, with their declarations. -/
def keptAmong [Source.Recovery] (d : Disk) (dir : Path) (entries : List (String × Entry)) :
    List (String × FileDecls) :=
  (entries.filter isSourceEntry).filterMap (keptFile? d dir)

theorem readFiles_eq_keptAmong [Source.Recovery] {d : Disk} {dir : Path}
    {entries : List (String × Entry)}
    (h : ∀ x ∈ entries, isSourceEntry x = true →
      ∃ decls?, readFile d (dir.joinName x.1) = .ok decls?) :
    readFiles d (sourcePaths dir entries)
      = .ok ((keptAmong d dir entries).map fun f => (dir.joinName f.1, f.2)) := by
  induction entries with
  | nil => rfl
  | cons x rest ih =>
    have hrest := ih fun x' hx' => h x' (List.mem_cons_of_mem _ hx')
    unfold sourcePaths keptAmong at hrest ⊢
    cases hsource : isSourceEntry x with
    | false =>
      rw [List.filter_cons_of_neg (by simp [hsource])]
      exact hrest
    | true =>
      obtain ⟨decls?, hread⟩ := h x List.mem_cons_self hsource
      rw [List.filter_cons_of_pos hsource, List.map_cons, readFiles, hread, hrest,
        List.filterMap_cons, keptFile?_of_readFile hread]
      cases decls? <;> rfl

theorem mem_keptAmong [Source.Recovery] {d : Disk} {dir : Path} {entries : List (String × Entry)}
    {n : String} {decls : FileDecls} (hlist : d.list dir = .ok entries) :
    (n, decls) ∈ keptAmong d dir entries ↔ Kept d dir n decls := by
  unfold keptAmong
  rw [List.mem_filterMap]
  constructor
  · rintro ⟨⟨m, e⟩, hx, hkept⟩
    obtain ⟨rfl, hread⟩ := keptFile?_eq_some_iff.1 hkept
    obtain ⟨hentry, hsource⟩ := List.mem_filter.1 hx
    obtain ⟨⟨content, executable, rfl⟩, hname⟩ := isSourceEntry_iff.1 hsource
    exact ⟨⟨entries, content, executable, hlist, hentry, hname⟩, readFile_eq_ok_some_iff.1 hread⟩
  · rintro ⟨⟨entries', content, executable, hlist', hentry, hname⟩, hreads⟩
    obtain rfl : entries = entries' := Except.ok.inj (hlist.symm.trans hlist')
    have hsource : isSourceEntry (n, Entry.file content executable) = true :=
      isSourceEntry_iff.2 ⟨⟨content, executable, rfl⟩, hname⟩
    exact ⟨_, List.mem_filter.2 ⟨hentry, hsource⟩,
      keptFile?_eq_some_iff.2 ⟨rfl, readFile_eq_ok_some_iff.2 hreads⟩⟩

theorem pairwise_keptAmong [Source.Recovery] {d : Disk} {dir : Path}
    {entries : List (String × Entry)} (h : (entries.map Prod.fst).Pairwise (· < ·)) :
    ((keptAmong d dir entries).map Prod.fst).Pairwise (· < ·) := by
  rw [List.pairwise_map] at h ⊢
  unfold keptAmong
  rw [List.pairwise_filterMap]
  refine (h.filter _).imp ?_
  rintro x y hlt ⟨m, _⟩ hm ⟨n, _⟩ hn
  obtain ⟨rfl, -⟩ := keptFile?_eq_some_iff.1 hm
  obtain ⟨rfl, -⟩ := keptFile?_eq_some_iff.1 hn
  exact hlt

/-! ## The package -/

/-- The names that the files declare for their package, in the order of the files. -/
def packageNames (kept : List (String × FileDecls)) : List String := kept.map (·.2.package)

/-- The files that declare a name for their package. -/
def declaring (a : String) (kept : List (String × FileDecls)) : List (String × FileDecls) :=
  kept.filter (·.2.package == a)

/-- What a package has of the files of its directory: `kept` are those that do not keep themselves
out, in the order of their names. -/
structure Selects (dir : Path) (kept : List (String × FileDecls)) (p : Package) : Prop where
  /-- Some file declares the name. -/
  chosen : p.name ∈ packageNames kept
  /-- No name is declared by more files. -/
  most : ∀ a, (packageNames kept).count a ≤ (packageNames kept).count p.name
  /-- Of the names that are declared by as many files, none has its first file before. -/
  first : ∀ a, (packageNames kept).count a = (packageNames kept).count p.name →
    (packageNames kept).idxOf p.name ≤ (packageNames kept).idxOf a
  files : p.files = (declaring p.name kept).map fun f => dir.joinName f.1
  functions : p.functions = (declaring p.name kept).flatMap (·.2.functions)
  types : ∀ t ∈ p.types, ∃ f ∈ declaring p.name kept, t ∈ f.2.types
  imports : ∀ b ∈ p.imports, ∃ f ∈ declaring p.name kept, b ∈ f.2.bindings
  qualifiers : ∀ b ∈ p.qualifiers, ∃ f ∈ declaring p.name kept, b ∈ f.2.callings

theorem selects_ofFiles {dir : Path} {kept : List (String × FileDecls)} {name : String}
    (importPath : String) (h : majority? (packageNames kept) = some name) :
    Selects dir kept (ofFiles name importPath dir
      ((declaring name kept).map fun f => (dir.joinName f.1, f.2))) := by
  have hname := @name_ofFiles name importPath dir
    ((declaring name kept).map fun f => (dir.joinName f.1, f.2))
  -- A file of the list is one of those with the name, behind its path.
  have hback : ∀ q : FileDecls → Prop,
      (∃ f ∈ (declaring name kept).map fun f => (dir.joinName f.1, f.2), q f.2) →
        ∃ f ∈ declaring name kept, q f.2 := by
    rintro q ⟨g, hg, hq⟩
    obtain ⟨f, hf, rfl⟩ := List.mem_map.1 hg
    exact ⟨f, hf, hq⟩
  constructor
  case chosen =>
    rw [hname]
    exact mem_of_majority? h
  case most =>
    rw [hname]
    exact count_le_of_majority? h
  case first =>
    rw [hname]
    exact fun a => idxOf_le_of_majority? h
  case files =>
    rw [hname, files_ofFiles, List.map_map]
    rfl
  case functions => rw [hname, functions_ofFiles, List.flatMap_map]
  case types =>
    rw [hname]
    exact fun t ht => hback (t ∈ ·.types) (exists_of_mem_types _ ht)
  case imports =>
    rw [hname]
    exact fun b hb => hback (b ∈ ·.bindings) (exists_of_mem_imports _ hb)
  case qualifiers =>
    rw [hname]
    exact fun b hb => hback (b ∈ ·.callings) (exists_of_mem_qualifiers _ hb)

theorem ofDirectory_of_no_files [Source.Recovery] {d : Disk} {dir : Path} {importPath : String}
    {paths : List Path}
    (hdirectory : d.isDirectory dir = true) (hsources : sourceFiles d dir = .ok paths)
    (hfiles : readFiles d paths = .ok []) :
    ofDirectory d dir importPath = .error (.unparsable dir "no Go source files") := by
  unfold ofDirectory
  rw [hdirectory, hsources]
  simp [bind, Except.bind, hfiles, majority?_nil]

/-- **The selection.** In a directory all of whose sources can be read, let `kept` be those that do
not keep themselves out, in the order of their names; tests are not among them. If there are none,
reading the directory fails. Otherwise it gives a package that selects its files from these. -/
theorem ofDirectory_selects [Source.Recovery] {d : Disk} {dir : Path} (importPath : String)
    (hdirectory : d.isDirectory dir = true)
    (hreads : ∀ n, HasSource d dir n → ∃ text, d.readText (dir.joinName n) = .ok text
      ∧ (Source.isIgnored text = false →
        ∃ decls, parseSource (dir.joinName n) text = .ok decls)) :
    ∃ kept : List (String × FileDecls),
      (kept.map Prod.fst).Pairwise (· < ·)
        ∧ (∀ n decls, (n, decls) ∈ kept ↔ Kept d dir n decls)
        ∧ (∀ f ∈ kept, Path.Plain f.1 → ¬ "_test.go".toList <:+ f.1.toList)
        ∧ (kept = [] →
          ofDirectory d dir importPath = .error (.unparsable dir "no Go source files"))
        ∧ (kept ≠ [] → ∃ p, ofDirectory d dir importPath = .ok p ∧ Selects dir kept p) := by
  obtain ⟨k, hlocate⟩ := Disk.exists_locate_of_isDirectory hdirectory
  have hlist := Disk.list_of_locate hlocate
  -- Each entry that is a source is read, if perhaps only to find that it keeps itself out.
  have hfiles : ∀ x ∈ d.tree.children k, isSourceEntry x = true →
      ∃ decls?, readFile d (dir.joinName x.1) = .ok decls? := by
    rintro ⟨n, e⟩ hx hsource
    obtain ⟨⟨content, executable, rfl⟩, hname⟩ := isSourceEntry_iff.1 hsource
    obtain ⟨text, hread, hparse⟩ := hreads n ⟨_, content, executable, hlist, hx, hname⟩
    unfold readFile
    rw [hread]
    cases hignored : Source.isIgnored text with
    | true => exact ⟨none, by simp [hignored]⟩
    | false =>
      obtain ⟨decls, hdecls⟩ := hparse hignored
      exact ⟨some decls, by simp [hignored, hdecls, Except.map]⟩
  have hall := readFiles_eq_keptAmong hfiles
  have hsources := sourceFiles_of_list hlist
  refine ⟨keptAmong d dir (d.tree.children k),
    pairwise_keptAmong (d.tree.strict_children k), fun n decls => mem_keptAmong hlist, ?_, ?_, ?_⟩
  · rintro ⟨n, decls⟩ hf hplain
    obtain ⟨⟨-, -, -, -, -, hname⟩, -⟩ := (mem_keptAmong hlist).1 hf
    exact ((isSourceFile_iff hplain).1 hname).2
  · intro hnone
    rw [hnone] at hall
    exact ofDirectory_of_no_files hdirectory hsources hall
  · intro hsome
    have hvotes : packageNames (keptAmong d dir (d.tree.children k)) ≠ [] := by
      simpa [packageNames] using hsome
    obtain ⟨name, hname⟩ := exists_majority? hvotes
    refine ⟨_, ?_, selects_ofFiles importPath hname⟩
    have hvote : majority? (((keptAmong d dir (d.tree.children k)).map
        fun f => (dir.joinName f.1, f.2)).map (·.2.package)) = some name := by
      rw [List.map_map]
      exact hname
    rw [ofDirectory_of_files hdirectory hsources hall hvote, List.filter_map]
    rfl

end Package

/-! ## A vote that ends in a tie -/

namespace Sample

def mainText : String := "package main\n"

def shelfText : String := "package shelf\ntype Shelf int\n"

def ignoredText : String := "//go:build ignore\n\npackage shelf\n"

/-- Two sources with different names, one that keeps itself out, and a test. -/
def tiedTree : Tree :=
  (((Tree.empty.plant ["m", "d_test.go"] (.file (.text shelfText) false)).plant
    ["m", "c.go"] (.file (.text ignoredText) false)).plant
    ["m", "b.go"] (.file (.text shelfText) false)).plant
    ["m", "a.go"] (.file (.text mainText) false)

def tiedDisk : Disk := ⟨tiedTree, []⟩

def tiedEntries : List (String × Entry) :=
  [("a.go", .file (.text mainText) false), ("b.go", .file (.text shelfText) false),
    ("c.go", .file (.text ignoredText) false), ("d_test.go", .file (.text shelfText) false)]

def mainDecls : FileDecls := ⟨"main", [], [], []⟩

def shelfDecls : FileDecls := ⟨"shelf", [], [⟨"Shelf", .named (.name "int"), false⟩], []⟩

def mainPackage : Package :=
  Package.ofFiles "main" "m" ⟨"/m"⟩ [(⟨"/m/a.go"⟩, mainDecls)]

theorem list_tied : tiedDisk.list ⟨"/m"⟩ = .ok tiedEntries := by
  have hlocate : tiedDisk.locate ⟨"/m"⟩ = .ok (["m"], some .directory) := by decide
  have hnames : (tiedTree.entries.filterMap fun x => Tree.childName? ["m"] x.1).eraseDups
      = ["a.go", "b.go", "c.go", "d_test.go"] := by decide
  have hchildren : tiedTree.children ["m"] = tiedEntries := by
    rw [Tree.children, hnames, List.mergeSort_of_pairwise (by decide)]
    rfl
  rw [Disk.list_of_locate hlocate, ← hchildren]
  rfl

theorem declares_main : Package.Declares mainText "main" mainDecls := by
  have hchars : mainText.toList = mainText.toList := rfl
  conv_rhs at hchars => rw [mainText, String.toList_ofList]
  exact .of_toList hchars (by decide) (by decide) rfl

theorem declares_shelf : Package.Declares shelfText "shelf" shelfDecls := by
  have hchars : shelfText.toList = shelfText.toList := rfl
  conv_rhs at hchars => rw [shelfText, String.toList_ofList]
  exact .of_toList hchars (by decide) (by decide) rfl

theorem readFile_main : Package.readFile tiedDisk ⟨"/m/a.go"⟩ = .ok (some mainDecls) :=
  declares_main.readFile (by decide) rfl

theorem readFile_shelf : Package.readFile tiedDisk ⟨"/m/b.go"⟩ = .ok (some shelfDecls) :=
  declares_shelf.readFile (by decide) rfl

theorem readText_ignored : tiedDisk.readText ⟨"/m/c.go"⟩ = .ok ignoredText
    ∧ Source.isIgnored ignoredText = true :=
  ⟨rfl, by decide⟩

theorem ofDirectory_tied : Package.ofDirectory tiedDisk ⟨"/m"⟩ "m" = .ok mainPackage := by
  have hpaths : Package.sourcePaths ⟨"/m"⟩ tiedEntries
      = [⟨"/m/a.go"⟩, ⟨"/m/b.go"⟩, ⟨"/m/c.go"⟩] := by decide
  have hignored : Package.readFile tiedDisk ⟨"/m/c.go"⟩ = .ok none := by
    rw [Package.readFile, readText_ignored.1]
    simp [readText_ignored.2]
  have hfiles : Package.readFiles tiedDisk (Package.sourcePaths ⟨"/m"⟩ tiedEntries)
      = .ok [(⟨"/m/a.go"⟩, mainDecls), (⟨"/m/b.go"⟩, shelfDecls)] := by
    rw [hpaths, Package.readFiles, readFile_main, Package.readFiles, readFile_shelf,
      Package.readFiles, hignored]
    rfl
  exact Package.ofDirectory_of_files (by decide)
    (Package.sourceFiles_of_list list_tied) hfiles (by decide)

end Sample

namespace Package

open Sample

/-- Each name has one vote, so that the first file decides. The others add nothing. -/
theorem ofDirectory_selects_tied :
    tiedDisk.isDirectory ⟨"/m"⟩ = true
      ∧ (∀ n, HasSource tiedDisk ⟨"/m"⟩ n →
        ∃ text, tiedDisk.readText ((Path.mk "/m").joinName n) = .ok text
          ∧ (Source.isIgnored text = false →
            ∃ decls, parseSource ((Path.mk "/m").joinName n) text = .ok decls))
      ∧ ofDirectory tiedDisk ⟨"/m"⟩ "m" = .ok mainPackage
      ∧ ∃ kept : List (String × FileDecls), ("b.go", shelfDecls) ∈ kept
        ∧ Selects ⟨"/m"⟩ kept mainPackage := by
  have hdirectory : tiedDisk.isDirectory ⟨"/m"⟩ = true := by decide
  -- The directory has two sources, a file that is ignored, and one that is no source.
  have hreads : ∀ n, HasSource tiedDisk ⟨"/m"⟩ n →
      ∃ text, tiedDisk.readText ((Path.mk "/m").joinName n) = .ok text
        ∧ (Source.isIgnored text = false →
          ∃ decls, parseSource ((Path.mk "/m").joinName n) text = .ok decls) := by
    rintro n ⟨entries, content, executable, hlist, hentry, hname⟩
    obtain rfl : tiedEntries = entries := Except.ok.inj (list_tied.symm.trans hlist)
    simp only [tiedEntries, List.mem_cons, Prod.mk.injEq, List.not_mem_nil, or_false] at hentry
    rcases hentry with ⟨rfl, -⟩ | ⟨rfl, -⟩ | ⟨rfl, -⟩ | ⟨rfl, -⟩
    · obtain ⟨text, hread, -, hparse⟩ := readFile_eq_ok_some_iff.1 readFile_main
      exact ⟨text, hread, fun _ => ⟨_, hparse⟩⟩
    · obtain ⟨text, hread, -, hparse⟩ := readFile_eq_ok_some_iff.1 readFile_shelf
      exact ⟨text, hread, fun _ => ⟨_, hparse⟩⟩
    · refine ⟨ignoredText, readText_ignored.1, fun hkept => ?_⟩
      exact absurd (readText_ignored.2.symm.trans hkept) (by decide)
    · exact absurd hname (by decide)
  obtain ⟨kept, -, hkept, -, -, hopen⟩ := ofDirectory_selects "m" hdirectory hreads
  have hshelf : ("b.go", shelfDecls) ∈ kept := by
    have hentry : ("b.go", Entry.file (.text shelfText) false) ∈ tiedEntries := by decide
    exact (hkept _ _).2 ⟨⟨_, _, _, list_tied, hentry, by decide⟩,
      readFile_eq_ok_some_iff.1 readFile_shelf⟩
  obtain ⟨p, hp, hselects⟩ := hopen (List.ne_nil_of_mem hshelf)
  obtain rfl : p = mainPackage := Except.ok.inj (hp.symm.trans ofDirectory_tied)
  exact ⟨hdirectory, hreads, ofDirectory_tied, kept, hshelf, hselects⟩

end Package
end StructFill
