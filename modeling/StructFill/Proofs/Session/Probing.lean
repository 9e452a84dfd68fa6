import StructFill.Proofs.Session.NewFile

/-! # Names that no import binds

  A local name that is missing from the import table is looked for among the
  declared names of the imported packages, in the order of their paths.

  **Passing over.** The search passes over paths that suggest the name, since
  these would stand under it in the table. So they do, for every import: where
  the name is missing from the table, no path suggests it, and nothing is
  passed over that could be found.

  **Failures.** What cannot be opened declares no name. It is passed over as
  well, and the answer is the same as if it were not imported at all.
-/

namespace StructFill

open Session (openImport openPath)
open Source (FileDecls Import)

namespace Package

/-- The import table has every import path under the name that the path suggests. -/
theorem importPathOf?_defaultName_isSome {name importPath path : String} {dir : Path}
    {files : List (Path × FileDecls)}
    (hpath : path ∈ (ofFiles name importPath dir files).importPaths) :
    ((ofFiles name importPath dir files).importPathOf? (defaultName path)).isSome := by
  obtain ⟨q, hq⟩ := (mem_importPaths_ofFiles files).1 hpath
  rw [importPathOf?_ofFiles] at hq
  have hbinding : (q, path) ∈ (importsOf files).flatMap Import.bindings :=
    List.mem_reverse.1 (Table.mem_of_lookup hq)
  -- The import that binds some name to the path binds the suggested one, too.
  obtain ⟨i, hi, hbinding⟩ := List.mem_flatMap.1 hbinding
  obtain rfl : path = i.path := Import.path_of_mem_bindings hbinding
  have hsuggested : (defaultName i.path, i.path) ∈ (importsOf files).flatMap Import.bindings :=
    List.mem_flatMap.2 ⟨i, hi, List.mem_cons_self⟩
  rw [importPathOf?_ofFiles, List.lookup_isSome_iff]
  exact ⟨_, List.mem_reverse.2 hsuggested, by simp⟩

end Package

namespace Session

/-- The package `p` imports `o` by a path, and `o` declares the name. -/
structure Offers (w : Surroundings) (s : Session) (p : Package) (name path : String) (o : Package) :
    Prop where
  imported : path ∈ p.importPaths
  opens : (openPath w path).answer s = .ok (some o)
  declares : o.name = name

variable {w : Surroundings} {s : Session} {p : Package} {n : String}

/-- Unless a path suggests the name, it suits the name exactly if it offers a package. -/
theorem suits_iff {path : String} (hpath : path ∈ p.importPaths)
    (hskip : Package.defaultName path ≠ n) : Suits w s n path ↔ ∃ o, Offers w s p n path o := by
  constructor
  · intro hsuits
    obtain ⟨-, o, hopen, hname⟩ := hsuits
    exact ⟨o, hpath, hopen, hname⟩
  · intro hoffers
    obtain ⟨o, -, hopen, hname⟩ := hoffers
    exact ⟨hskip, o, hopen, hname⟩

/-- A path offers one package only. -/
theorem Offers.unique {path : String} {o o' : Package} (h : Offers w s p n path o)
    (h' : Offers w s p n path o') : o = o' :=
  Option.some.inj (Except.ok.inj (h.opens.symm.trans h'.opens))

/-- The search finds nothing, and then nothing is offered, or it finds what the first of all paths
offers that offer anything. -/
theorem probe_offers (hskip : ∀ path ∈ p.importPaths, Package.defaultName path ≠ n) :
    ((probe w n p.importPaths).answer s = .ok none ∧ ∀ path o, ¬ Offers w s p n path o)
      ∨ ∃ path o, (probe w n p.importPaths).answer s = .ok (some o) ∧ Offers w s p n path o
        ∧ ∀ path' o', Offers w s p n path' o' → path ≤ path' := by
  rcases probe_cases (w := w) (s := s) n p.importPaths with
    ⟨hnone, hnot⟩ | ⟨before, path, after, hpaths, hbefore, hsuits, hanswer⟩
  · left
    refine ⟨hnone, ?_⟩
    intro path o hoffers
    have hmem := hoffers.imported
    exact hnot path hmem ((suits_iff hmem (hskip path hmem)).2 ⟨o, hoffers⟩)
  · right
    have hmem : path ∈ p.importPaths := by simp [hpaths]
    obtain ⟨o, hoffers⟩ := (suits_iff hmem (hskip path hmem)).1 hsuits
    refine ⟨path, o, hanswer.trans hoffers.opens, hoffers, ?_⟩
    intro path' o' hoffers'
    have hmem' := hoffers'.imported
    have hsuits' := (suits_iff hmem' (hskip path' hmem')).2 ⟨o', hoffers'⟩
    -- The paths are in order, and none of those in front suits.
    have hordered : p.importPaths.Pairwise (· < ·) := pairwise_sortedDistinct _
    rw [hpaths] at hmem' hordered
    rcases List.mem_append.1 hmem' with hfront | hback
    · exact absurd hsuits' (hbefore path' hfront)
    · rcases List.mem_cons.1 hback with rfl | hback
      · exact String.le_refl _
      · have hbehind := (List.pairwise_append.1 hordered).2.1
        exact Std.le_of_lt ((List.pairwise_cons.1 hbehind).1 path' hback)

end Session

/-! ## Several packages of one name -/

namespace Sample

/-- Surroundings in which nothing is found. -/
def barren : Surroundings := ⟨⟨.empty, []⟩, ⟨fun _ => .ok none, none⟩, none⟩

/-- Imports of which three cannot be opened, and two are of packages that declare `kinds`. -/
def mixedDecls : FileDecls :=
  ⟨"gen", [⟨"m/z-kinds", none⟩, ⟨"C", none⟩, ⟨"m/broken", some "b"⟩, ⟨"m/missing", none⟩,
    ⟨"m/go-kinds", some "_"⟩], [], []⟩

def mixed : Package := Package.ofFiles "gen" "/gen" ⟨"/gen"⟩ [(⟨"/gen/gen.go"⟩, mixedDecls)]

def goKinds : Package := .bare "kinds" "m/go-kinds" ⟨"/m/go-kinds"⟩

/-- A session that has read two packages of one name, and has failed to read a third one. -/
def mixedSession : Session :=
  { packages := [("m/z-kinds", .bare "kinds" "m/z-kinds" ⟨"/m/z-kinds"⟩), ("m/go-kinds", goKinds)]
    failures := [("m/broken", .unparsable ⟨"/m/broken"⟩ "syntax error")] }

end Sample

namespace Session

variable {w : Surroundings} {s : Session} {p : Package} {n : String}

/-- **Declared names.** Where the import table does not have a name, no import path suggests it.
Looking the name up never fails. It gives no package exactly if no imported package declares the
name, and else the one with the least of the paths that lead to such packages. -/
theorem openImport_declaredName {name importPath : String} {dir : Path}
    {files : List (Path × FileDecls)} (hp : p = Package.ofFiles name importPath dir files)
    (hunbound : p.importPathOf? n = none) :
    (∀ path ∈ p.importPaths, Package.defaultName path ≠ n)
      ∧ (∃ o?, (openImport w p n).answer s = .ok o?)
      ∧ ((openImport w p n).answer s = .ok none ↔ ∀ path o, ¬ Offers w s p n path o)
      ∧ ∀ o, (openImport w p n).answer s = .ok (some o) ↔
        ∃ path, Offers w s p n path o ∧ ∀ path' o', Offers w s p n path' o' → path ≤ path' := by
  have hskip : ∀ path ∈ p.importPaths, Package.defaultName path ≠ n := by
    intro path hpath hsuggested
    subst hp
    have hbound := Package.importPathOf?_defaultName_isSome hpath
    rw [hsuggested, hunbound] at hbound
    exact Bool.noConfusion hbound
  have hprobe : openImport w p n = probe w n p.importPaths := by
    rw [openImport, hunbound]
  refine ⟨hskip, ?_⟩
  rw [hprobe]
  rcases probe_offers (w := w) (s := s) hskip with
    ⟨hnone, hnot⟩ | ⟨path, o, hsome, hoffers, hleast⟩
  · refine ⟨⟨none, hnone⟩, iff_of_true hnone hnot, ?_⟩
    intro o
    refine iff_of_false (by simp [hnone]) ?_
    intro hfound
    obtain ⟨path, hoffers, -⟩ := hfound
    exact hnot path o hoffers
  · refine ⟨⟨some o, hsome⟩, iff_of_false (by simp [hsome]) fun hnot => hnot path o hoffers, ?_⟩
    intro o'
    rw [hsome]
    constructor
    · intro hsame
      obtain rfl : o = o' := Option.some.inj (Except.ok.inj hsame)
      exact ⟨path, hoffers, hleast⟩
    · intro hfound
      obtain ⟨path', hoffers', hleast'⟩ := hfound
      -- Each of the two paths is at most the other one.
      obtain rfl : path = path' :=
        String.le_antisymm (hleast path' o' hoffers') (hleast' path o hoffers)
      rw [hoffers.unique hoffers']

/-- Of the two packages that declare the name, the one of the lesser path is found. -/
theorem openImport_declaredName_mixed :
    Sample.mixed.importPathOf? "kinds" = none
      ∧ Sample.mixed.importPaths = ["C", "m/broken", "m/go-kinds", "m/missing", "m/z-kinds"]
      ∧ (openImport Sample.barren Sample.mixed "kinds").answer Sample.mixedSession
        = .ok (some Sample.goKinds) := by
  have hunbound : Sample.mixed.importPathOf? "kinds" = none := by decide
  have hpaths : Sample.mixed.importPaths
      = ["C", "m/broken", "m/go-kinds", "m/missing", "m/z-kinds"] := by decide
  refine ⟨hunbound, hpaths, ?_⟩
  obtain ⟨-, -, -, hsome⟩ := openImport_declaredName (w := Sample.barren)
    (s := Sample.mixedSession) (rfl : Sample.mixed = _) hunbound
  rw [hsome]
  refine ⟨"m/go-kinds", ⟨by simp [hpaths], rfl, rfl⟩, ?_⟩
  intro path o hoffers
  have hmem := hoffers.imported
  have hopens := hoffers.opens
  simp only [hpaths, List.mem_cons, List.not_mem_nil, or_false] at hmem
  -- The two paths in front open nothing.
  rcases hmem with rfl | rfl | rfl | rfl | rfl
  · cases hopens
  · cases hopens
  all_goals decide

end Session
end StructFill
