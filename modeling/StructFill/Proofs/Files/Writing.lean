import Mathlib.Data.List.Basic
import StructFill.Files.Disk
import StructFill.Proofs.Files.Paths

/-! # What a new file changes

  A file that is put where there was nothing is seen by those who list its
  directory, where it comes between two others, and by those who read it. All
  other paths lead where they led before, and all other directories have the
  entries they had.
-/

namespace StructFill.Files

namespace Tree

variable {t : Tree} {k place : Key} {n : String} {e : Entry}

/-! ## Following -/

/-- Steps are followed one after the other. -/
theorem follow_append (t : Tree) (place : Key) (xs ys : List (List Char)) :
    t.follow place (xs ++ ys) = (t.follow place xs).bind fun r => t.follow r.1 ys := by
  induction xs generalizing place with
  | nil => rfl
  | cons x xs ih =>
    rw [List.cons_append, follow, follow]
    cases t.find? place with
    | none => rfl
    | some e =>
      cases e with
      | directory =>
        dsimp only
        split
        · exact ih place
        · split
          · exact ih place.dropLast
          · exact ih (place ++ [String.ofList x])
      | file _ _ | tool _ => rfl

theorem follow_congr {t' : Tree} (h : ∀ k, t'.find? k = t.find? k) : t'.follow = t.follow := by
  funext place steps
  induction steps generalizing place with
  | nil => rw [follow, follow, h]
  | cons x xs ih => simp only [follow, h, ih]

theorem find?_of_follow {steps : List (List Char)} {e? : Option Entry}
    (h : t.follow place steps = .ok (k, e?)) : e? = t.find? k := by
  induction steps generalizing place with
  | nil =>
    obtain ⟨rfl, rfl⟩ := Prod.mk.inj (Except.ok.inj h)
    rfl
  | cons x xs ih =>
    rw [follow] at h
    split at h
    · cases h
    · split at h
      · exact ih h
      · split at h <;> exact ih h
    · cases h

/-- A new entry that is no directory changes the end of those ways only that led to it, or on
from it. -/
theorem follow_insert (hnew : t.find? k = none) (he : e ≠ .directory) (place : Key)
    (steps : List (List Char)) :
    (t.insert k e).follow place steps = t.follow place steps
      ∨ t.follow place steps = .ok (k, none) ∧ (t.insert k e).follow place steps = .ok (k, some e)
      ∨ t.follow place steps = .error .notFound
        ∧ (t.insert k e).follow place steps = .error .notDirectory := by
  have hk : k ≠ [] := by
    rintro rfl
    cases hnew
  induction steps generalizing place with
  | nil =>
    by_cases hplace : place = k
    · subst hplace
      refine .inr (.inl ⟨?_, ?_⟩)
      · rw [follow, hnew]
      · rw [follow, find?_insert_self t e hk]
    · left
      rw [follow, follow, find?_insert_of_ne t e hplace]
  | cons x xs ih =>
    by_cases hplace : place = k
    · -- Nothing was below the key, and there is still no directory.
      subst hplace
      refine .inr (.inr ⟨?_, ?_⟩)
      · rw [follow, hnew]
      · rw [follow, find?_insert_self t e hk]
        cases e with
        | directory => exact absurd rfl he
        | file _ _ | tool _ => rfl
    · rw [follow, follow, find?_insert_of_ne t e hplace]
      cases t.find? place with
      | none => exact .inl rfl
      | some e' =>
        cases e' with
        | directory =>
          dsimp only
          split
          · exact ih place
          · split
            · exact ih place.dropLast
            · exact ih (place ++ [String.ofList x])
        | file _ _ | tool _ => exact .inl rfl

/-! ## Entries of directories -/

theorem childName?_eq_some_iff {k' : Key} : childName? k k' = some n ↔ k' = k ++ [n] := by
  unfold childName?
  constructor
  · intro h
    split at h
    next name hrest =>
      obtain rfl := Option.some.inj h
      exact (List.isPrefixOf?_eq_some_iff_append_eq.1 hrest).symm
    next => cases h
  · intro h
    rw [List.isPrefixOf?_eq_some_iff_append_eq.2 h.symm]

theorem mem_names_iff : (n ∈ t.entries.filterMap fun x => childName? k x.1)
    ↔ (t.find? (k ++ [n])).isSome := by
  have hfind : t.find? (k ++ [n]) = t.entries.lookup (k ++ [n]) := by
    cases k <;> rfl
  rw [hfind, List.lookup_isSome_iff, List.mem_filterMap]
  simp only [childName?_eq_some_iff, beq_iff_eq, @eq_comm _ (k ++ [n])]

theorem nodup_eraseDups (names : List String) : names.eraseDups.Nodup := by
  induction hlength : names.length using Nat.strongRecOn generalizing names with
  | ind l ih =>
    cases names with
    | nil => exact .nil
    | cons a names =>
      have hshorter : (names.filter fun b => !b == a).length < l := by
        have hle := List.length_filter_le (fun b => !b == a) names
        simp only [List.length_cons] at hlength
        omega
      rw [List.eraseDups_cons, List.nodup_cons]
      exact ⟨by simp, ih _ hshorter _ rfl⟩

theorem pairwise_sort (names : List String) :
    List.Pairwise (fun a b => a ≤ b) (names.mergeSort fun a b => decide (a ≤ b)) := by
  have hsorted := @List.pairwise_mergeSort _ (fun a b : String => decide (a ≤ b))
    (by simpa using fun a b c => String.le_trans) (by simpa using String.le_total) names
  simpa using hsorted

/-- The entries of a directory are in the order of their names, each once. -/
theorem strict_children (t : Tree) (k : Key) :
    ((t.children k).map Prod.fst).Pairwise (· < ·) := by
  have hnodup : ((t.entries.filterMap fun x => childName? k x.1).eraseDups.mergeSort
      fun a b => decide (a ≤ b)).Nodup :=
    (List.mergeSort_perm _ _).nodup_iff.2 (nodup_eraseDups _)
  have hstrict := ((pairwise_sort _).and hnodup).imp fun {a b : String} h =>
    Std.lt_of_le_of_ne h.1 h.2
  rw [List.pairwise_map, children, List.pairwise_filterMap]
  refine hstrict.imp ?_
  intro m m' hlt x hx y hy
  obtain ⟨-, -, rfl⟩ := Option.map_eq_some_iff.1 hx
  obtain ⟨-, -, rfl⟩ := Option.map_eq_some_iff.1 hy
  exact hlt

theorem pairwise_children (t : Tree) (k : Key) :
    (t.children k).Pairwise fun x y => x.1 ≤ y.1 :=
  (List.pairwise_map.1 (strict_children t k)).imp Std.le_of_lt

/-- The entries of a directory are read off what is found there. -/
theorem children_congr {t' : Tree} (h : ∀ m, t'.find? (k ++ [m]) = t.find? (k ++ [m])) :
    t'.children k = t.children k := by
  have hperm : ((t'.entries.filterMap fun x => childName? k x.1).eraseDups).Perm
      (t.entries.filterMap fun x => childName? k x.1).eraseDups := by
    rw [List.perm_ext_iff_of_nodup (nodup_eraseDups _) (nodup_eraseDups _)]
    intro m
    rw [List.mem_eraseDups, List.mem_eraseDups, mem_names_iff, mem_names_iff, h]
  unfold children
  simp only [h]
  -- In order, the names are the same list.
  congr 1
  apply List.Perm.eq_of_pairwise (fun a b _ _ => String.le_antisymm) (pairwise_sort _)
    (pairwise_sort _)
  exact ((List.mergeSort_perm _ _).trans hperm).trans (List.mergeSort_perm _ _).symm

/-- Other directories keep their entries. -/
theorem children_insert_of_ne {k' : Key} (h : k' ≠ k) :
    (t.insert (k ++ [n]) e).children k' = t.children k' := by
  apply children_congr
  intro m
  apply find?_insert_of_ne
  intro heq
  exact h (List.append_inj_left' heq rfl)

/-- In its directory the new entry comes between two others. -/
theorem children_insert (hnew : t.find? (k ++ [n]) = none) :
    ∃ before after, t.children k = before ++ after
      ∧ (t.insert (k ++ [n]) e).children k = before ++ (n, e) :: after := by
  have hmem : n ∉ t.entries.filterMap fun x => childName? k x.1 := by
    rw [mem_names_iff, hnew]
    simp
  generalize hnames : (t.entries.filterMap fun x => childName? k x.1) = names at hmem
  have hfilter : names.filter (fun m => !m == n) = names := by
    rw [List.filter_eq_self]
    intro m hm
    have hne : m ≠ n := fun heq => hmem (heq ▸ hm)
    simpa using hne
  have hinserted : ((t.insert (k ++ [n]) e).entries.filterMap fun x => childName? k x.1).eraseDups
      = n :: names.eraseDups := by
    rw [insert, List.filterMap_cons, childName?_eq_some_iff.2 rfl, hnames]
    dsimp only
    rw [List.eraseDups_cons, hfilter]
  -- The names are sorted, and sorting with one more name leaves the others in their order.
  obtain ⟨before, after, hsorted', hsorted, -⟩ :=
    @List.mergeSort_cons _ (fun a b : String => decide (a ≤ b))
      (by simpa using fun a b c => String.le_trans) (by simpa using String.le_total) n
      names.eraseDups
  have hfind : ∀ ms : List String, n ∉ ms →
      (ms.filterMap fun m => ((t.insert (k ++ [n]) e).find? (k ++ [m])).map (m, ·))
        = ms.filterMap fun m => (t.find? (k ++ [m])).map (m, ·) := by
    intro ms hms
    refine List.filterMap_congr fun m hm => ?_
    rw [find?_insert_of_ne t e]
    intro heq
    obtain rfl : m = n := by simpa using heq
    exact hms hm
  have hout : n ∉ before ∧ n ∉ after := by
    have hnot : n ∉ names.eraseDups.mergeSort fun a b => decide (a ≤ b) := by
      simpa using hmem
    rw [hsorted] at hnot
    simpa using hnot
  have hself : (t.insert (k ++ [n]) e).find? (k ++ [n]) = some e :=
    find?_insert_self t e (by simp)
  refine ⟨before.filterMap fun m => (t.find? (k ++ [m])).map (m, ·),
    after.filterMap fun m => (t.find? (k ++ [m])).map (m, ·), ?_, ?_⟩
  · simp only [children, hnames, hsorted, List.filterMap_append]
  · simp only [children, hinserted, hsorted', List.filterMap_append, List.filterMap_cons, hself,
      Option.map_some, hfind before hout.1, hfind after hout.2]

end Tree

namespace Disk

open StructFill.Path (Plain isSlash)

variable {d d' : Disk} {k : Key} {n text : String} {p q : Path}

/-! ## Paths to entries -/

/-- The steps of a path whose slash at the end is left aside. -/
theorem pathSteps_eq (p : Path) : pathSteps p
    = p.pieces.filter (· != []) ++ if p.text.toList.getLast? = some '/' then [['.']] else [] := by
  unfold pathSteps Path.pieces
  dsimp only
  split <;> simp

/-- A plain name behind a slash is one more step. -/
theorem pathSteps_append_plain (as : List Char) {m : String} (hm : Plain m) :
    pathSteps ⟨String.ofList (as ++ '/' :: m.toList)⟩
      = (Text.splitOn isSlash as).filter (· != []) ++ [m.toList] := by
  have hne : m.toList ≠ [] := by
    intro h
    have hentry := hm.entry
    simp [Path.pieceComponent?, h] at hentry
  have hlast : (as ++ '/' :: m.toList).getLast? ≠ some '/' := by
    rw [List.getLast?_append_of_ne_nil _ (by simp), List.getLast?_cons_of_ne_nil hne]
    intro hslash
    have hmem := hm.noSlash '/' (List.mem_of_getLast? hslash)
    cases hmem
  rw [pathSteps_eq, Path.pieces_append, Text.splitOn_of_forall hm.noSlash, String.toList_ofList,
    if_neg hlast]
  simp [hne]

/-- A plain name is followed from a directory to what is there. -/
theorem follow_plain {t : Tree} (hdirectory : t.find? k = some .directory) {m : String}
    (hm : Plain m) : t.follow k [m.toList] = .ok (k ++ [m], t.find? (k ++ [m])) := by
  have hentry := hm.entry
  have hdot : m.toList ≠ ['.'] := by
    intro h
    simp [Path.pieceComponent?, h] at hentry
  have hup : m.toList ≠ ['.', '.'] := by
    intro h
    simp [Path.pieceComponent?, h] at hentry
  rw [Tree.follow, hdirectory]
  simp [hdot, hup, Tree.follow]

/-- A dot at the end stays in the directory. -/
theorem follow_of_dot {t : Tree} {place : Key} {steps : List (List Char)}
    (h : t.follow place (steps ++ [['.']]) = .ok (k, some .directory)) :
    t.follow place steps = .ok (k, some .directory) := by
  rw [Tree.follow_append] at h
  cases hfirst : t.follow place steps with
  | error e =>
    rw [hfirst] at h
    cases h
  | ok r =>
    obtain ⟨k', e?⟩ := r
    rw [hfirst] at h
    change t.follow k' [['.']] = _ at h
    rw [Tree.follow] at h
    split at h
    · cases h
    next hdot =>
      obtain ⟨rfl, -⟩ := Prod.mk.inj (Except.ok.inj h)
      rw [Tree.find?_of_follow hfirst, hdot]
    · cases h

/-- A text that leads to a directory, a slash and a plain name lead to the entry of that name. -/
theorem locate_append_plain {as : List Char} {m : String} (hm : Plain m)
    (habsolute : Path.isAbsolute ⟨String.ofList (as ++ '/' :: m.toList)⟩ = q.isAbsolute)
    (hfollow : d.tree.follow (if q.isAbsolute = true then [] else d.cwd)
      ((Text.splitOn isSlash as).filter (· != [])) = .ok (k, some .directory)) :
    d.locate ⟨String.ofList (as ++ '/' :: m.toList)⟩ = .ok (k ++ [m], d.tree.find? (k ++ [m])) := by
  rw [locate, if_neg (by simp), habsolute, pathSteps_append_plain as hm, Tree.follow_append, hfollow]
  exact follow_plain (Tree.find?_of_follow hfollow).symm hm

/-- A plain name that is joined to the path of a directory leads to the entry of that name. -/
theorem locate_joinName (hq : d.locate q = .ok (k, some .directory)) {m : String} (hm : Plain m) :
    d.locate (q.joinName m) = .ok (k ++ [m], d.tree.find? (k ++ [m])) := by
  unfold locate at hq
  split at hq
  · cases hq
  next hblank =>
  have hrelative : (Path.mk m).isAbsolute = false := hm.not_isAbsolute
  rw [pathSteps_eq] at hq
  by_cases hslash : q.text.toList.getLast? = some '/'
  · -- The slash at the end of the path is the one in front of the name.
    obtain ⟨as, has⟩ := List.getLast?_eq_some_iff.1 hslash
    have hpieces : q.pieces = Text.splitOn isSlash as ++ [[]] := by
      rw [Path.pieces, has, Text.splitOn_append (by rfl)]
      rfl
    have hjoined : q.joinName m = ⟨String.ofList (as ++ '/' :: m.toList)⟩ := by
      have htext : q.text ++ m = String.ofList (as ++ '/' :: m.toList) := by
        apply String.toList_injective
        simp [has]
      simp [Path.joinName, Path.join, hrelative, hslash, htext]
    rw [if_pos hslash, hpieces] at hq
    simp only [List.filter_append, bne_self_eq_false, List.filter_cons, List.filter_nil,
      List.append_nil, Bool.false_eq_true, if_false] at hq
    rw [hjoined]
    refine locate_append_plain hm ?_ (follow_of_dot hq)
    rw [Path.isAbsolute, Path.isAbsolute, String.toList_ofList, has]
    cases as <;> rfl
  · have hjoined : q.joinName m = ⟨String.ofList (q.text.toList ++ '/' :: m.toList)⟩ := by
      have htext : q.text ++ "/" ++ m = String.ofList (q.text.toList ++ '/' :: m.toList) := by
        apply String.toList_injective
        simp
      simp [Path.joinName, Path.join, hrelative, hslash, hblank, htext]
    rw [if_neg hslash, List.append_nil] at hq
    rw [hjoined]
    refine locate_append_plain hm ?_ hq
    have hne : q.text.toList ≠ [] := by simpa using hblank
    obtain ⟨c, cs, hcs⟩ := List.exists_cons_of_ne_nil hne
    rw [Path.isAbsolute, Path.isAbsolute, String.toList_ofList, hcs]
    rfl

theorem list_of_locate (hp : d.locate p = .ok (k, some .directory)) :
    d.list p = .ok (d.tree.children k) := by
  rw [list, hp]

theorem get_of_locate {e? : Option Entry} (hp : d.locate p = .ok (k, e?)) :
    d.get p = e?.elim (.error .notFound) .ok := by
  rw [get, hp]
  cases e? <;> rfl

theorem isDirectory_of_locate (hp : d.locate p = .ok (k, some .directory)) :
    d.isDirectory p = true := by
  rw [isDirectory, get_of_locate hp]
  rfl

theorem exists_locate_of_isDirectory (h : d.isDirectory p = true) :
    ∃ k, d.locate p = .ok (k, some .directory) := by
  unfold isDirectory get at h
  cases hlocate : d.locate p with
  | error e => simp [hlocate] at h
  | ok r =>
    obtain ⟨k, e?⟩ := r
    rcases e? with _ | _ | _ | _ <;> simp_all

/-! ## A new file -/

/-- Seen from outside, the disk `d'` is `d` with a file of the given text, where nothing was, under
the name `n` in the directory `k`. -/
structure NewFile (d : Disk) (k : Key) (n text : String) (d' : Disk) : Prop where
  nothing : d.tree.find? (k ++ [n]) = none
  cwd : d'.cwd = d.cwd
  find : ∀ k', d'.tree.find? k'
    = (d.tree.insert (k ++ [n]) (.file (.text text) false)).find? k'

/-- A file is put where its path leads to, unless there is a directory. -/
theorem put_of_writeText {e? : Option Entry} (hplace : d.locate p = .ok (k, e?))
    (hfile : ∀ e, e? = some e → ∃ content, e = .file content false)
    (hwrite : d.writeText p text = .ok d') :
    d' = { d with tree := d.tree.insert k (.file (.text text) false) } := by
  have hput : d.put k (.file (.text text) false) = .ok d' := by
    unfold writeText at hwrite
    split at hwrite
    · cases hwrite
    next k' entry hlocate =>
      split at hwrite
      · cases hwrite
      -- The place is looked up again, and it is the one of the hypothesis.
      next hsame =>
        rw [not_ne_iff.1 hsame, hplace] at hlocate
        obtain ⟨rfl, rfl⟩ := Prod.mk.inj (Except.ok.inj hlocate)
        cases he : e? with
        | none =>
          rw [he] at hwrite
          exact hwrite
        | some e =>
          obtain ⟨content, rfl⟩ := hfile e he
          rw [he] at hwrite
          exact hwrite
  unfold put at hput
  split at hput
  · exact (Except.ok.inj hput).symm
  · cases hput
  · cases hput

theorem find?_of_locate {e? : Option Entry} (h : d.locate p = .ok (k, e?)) : d.tree.find? k = e? := by
  unfold locate at h
  split at h
  · cases h
  · exact (Tree.find?_of_follow h).symm

/-- A missing entry of a directory can be written to. -/
theorem writeText_of_none (hplace : d.locate p = .ok (k, none)) (hslash : p.withoutEndSlashes = p)
    (hdirectory : d.tree.find? k.dropLast = some .directory) (text : String) :
    d.writeText p text = .ok { d with tree := d.tree.insert k (.file (.text text) false) } := by
  rw [writeText, hslash, hplace]
  simp [put, hdirectory]

/-- Writing to a path that leads to a missing entry of a directory makes a new file. -/
theorem newFile_of_writeText (hplace : d.locate p = .ok (k ++ [n], none))
    (hwrite : d.writeText p text = .ok d') : NewFile d k n text d' := by
  obtain rfl := put_of_writeText hplace (by simp) hwrite
  exact ⟨find?_of_locate hplace, rfl, fun _ => rfl⟩

namespace NewFile

variable (h : NewFile d k n text d')
include h

theorem children (k' : Key) : d'.tree.children k'
    = (d.tree.insert (k ++ [n]) (.file (.text text) false)).children k' :=
  Tree.children_congr fun m => h.find (k' ++ [m])

/-- A path leads where it led, or to the new file, or through it. -/
theorem locate_cases (p : Path) :
    d'.locate p = d.locate p
      ∨ d.locate p = .ok (k ++ [n], none)
        ∧ d'.locate p = .ok (k ++ [n], some (.file (.text text) false))
      ∨ d.locate p = .error .notFound ∧ d'.locate p = .error .notDirectory := by
  unfold locate
  rw [h.cwd, Tree.follow_congr h.find]
  split
  · exact .inl rfl
  · exact Tree.follow_insert h.nothing (by simp) _ _

/-- Writing to the same path once more replaces the text. -/
theorem overwrite {d'' : Disk} {text' : String} (hplace : d.locate p = .ok (k ++ [n], none))
    (hwrite : d'.writeText p text' = .ok d'') : NewFile d k n text' d'' := by
  have hfound : d'.locate p = .ok (k ++ [n], some (.file (.text text) false)) := by
    rcases h.locate_cases p with hsame | ⟨-, hafter⟩ | ⟨hmissing, -⟩
    · rw [hsame, hplace]
      have hnothing := find?_of_locate (hsame.trans hplace)
      rw [h.find, Tree.find?_insert_self _ _ (by simp)] at hnothing
      cases hnothing
    · exact hafter
    · rw [hplace] at hmissing
      cases hmissing
  obtain rfl := put_of_writeText hfound (by simp) hwrite
  refine ⟨h.nothing, h.cwd, ?_⟩
  intro k'
  by_cases hk : k' = k ++ [n]
  · subst hk
    rw [Tree.find?_insert_self _ _ (by simp), Tree.find?_insert_self _ _ (by simp)]
  · rw [Tree.find?_insert_of_ne _ _ hk, Tree.find?_insert_of_ne _ _ hk, h.find,
      Tree.find?_insert_of_ne _ _ hk]

/-- A path to an entry leads there still. -/
theorem locate_of_some {k' : Key} {e : Entry} (hp : d.locate p = .ok (k', some e)) :
    d'.locate p = .ok (k', some e) := by
  rcases h.locate_cases p with hsame | ⟨hnone, -⟩ | ⟨hmissing, -⟩
  · rw [hsame, hp]
  · rw [hp] at hnone
    cases hnone
  · rw [hp] at hmissing
    cases hmissing

/-- No directory is new. -/
theorem isDirectory_eq (p : Path) : d'.isDirectory p = d.isDirectory p := by
  unfold isDirectory get
  rcases h.locate_cases p with hsame | ⟨hbefore, hafter⟩ | ⟨hbefore, hafter⟩
  · rw [hsame]
  · rw [hbefore, hafter]
  · rw [hbefore, hafter]

/-- Another directory has the entries that it had. -/
theorem list_of_ne {k' : Key} (hp : d.locate p = .ok (k', some .directory)) (hne : k' ≠ k) :
    d'.list p = d.list p := by
  rw [list_of_locate (h.locate_of_some hp), list_of_locate hp, h.children]
  exact congrArg Except.ok (Tree.children_insert_of_ne hne)

/-- The directory has one more entry, between two others. -/
theorem list_of_eq (hp : d.locate p = .ok (k, some .directory)) :
    ∃ before after, d.list p = .ok (before ++ after)
      ∧ d'.list p = .ok (before ++ (n, .file (.text text) false) :: after) := by
  obtain ⟨before, after, hold, hnew⟩ := Tree.children_insert (e := .file (.text text) false) h.nothing
  refine ⟨before, after, ?_, ?_⟩
  · rw [list_of_locate hp, hold]
  · rw [list_of_locate (h.locate_of_some hp), h.children, hnew]

/-- The directories among the entries of a directory are those that were there. -/
theorem filter_directories (p : Path) :
    ((d'.list p).toOption.getD []).filter (·.2.isDirectory)
      = ((d.list p).toOption.getD []).filter (·.2.isDirectory) := by
  rcases h.locate_cases p with hsame | ⟨hbefore, hafter⟩ | ⟨hbefore, hafter⟩
  · cases hp : d.locate p with
    | error e => rw [list, list, hsame, hp]
    | ok r =>
      obtain ⟨k', e?⟩ := r
      rcases e? with _ | e
      · rw [list, list, hsame, hp]
      · cases e with
        | directory =>
          by_cases hk : k' = k
          · subst hk
            obtain ⟨before, after, hold, hnew⟩ := h.list_of_eq hp
            rw [hold, hnew]
            simp [Except.toOption, Entry.isDirectory]
          · rw [h.list_of_ne hp hk]
        | file _ _ | tool _ => rw [list, list, hsame, hp]
  · rw [list, list, hbefore, hafter]
    rfl
  · rw [list, list, hbefore, hafter]
    rfl

/-- The new file has its text, and all others have the one they had. -/
theorem readText_joinName {k' : Key} (hq : d.locate q = .ok (k', some .directory)) {m : String}
    (hm : Plain m) :
    d'.readText (q.joinName m)
      = if k' ++ [m] = k ++ [n] then .ok text else d.readText (q.joinName m) := by
  have hold := get_of_locate (locate_joinName hq hm)
  have hnew := get_of_locate (locate_joinName (h.locate_of_some hq) hm)
  rw [readText, readText, hnew, hold, h.find]
  by_cases heq : k' ++ [m] = k ++ [n]
  · rw [if_pos heq, heq, Tree.find?_insert_self _ _ (by simp)]
    rfl
  · rw [if_neg heq, Tree.find?_insert_of_ne _ _ heq]

end NewFile
end Disk
end StructFill.Files
