import StructFill.Package.Directory

/-! # What a package makes of its files

  A package is put together from its files one after the other. Seen from
  outside it is the list of what all files declare, in order, and the only
  question is which of several declarations of one name counts: of imports that
  bind a name the last one, of names for an import path the first one, and of
  types the first one as well.

  So a file can be put among others without any harm where it says nothing new,
  or something that no other file says.
-/

namespace StructFill

namespace Table

variable {α : Type}

/-- Of several values that are set for a key the last one counts. -/
theorem get?_foldl_set (bs : List (String × α)) (t : Table α) (k : String) :
    get? (bs.foldl (fun t b => set b.1 b.2 t) t) k = (bs.reverse.lookup k).or (get? t k) := by
  induction bs generalizing t with
  | nil => rfl
  | cons b bs ih =>
    obtain ⟨k', v⟩ := b
    have hfirst : get? (set k' v t) k = ([(k', v)].lookup k).or (get? t k) := by
      by_cases hk : k = k'
      · subst hk
        simp
      · have hbeq : (k == k') = false := by simpa using hk
        simp [get?_set_of_ne hk, List.lookup_cons, hbeq]
    rw [List.foldl_cons, ih, hfirst, List.reverse_cons, List.lookup_append, Option.or_assoc]

theorem get?_add (k k₀ : String) (v : α) (t : Table α) :
    get? (add k v t) k₀ = (get? t k₀).or ([(k, v)].lookup k₀) := by
  unfold add
  by_cases hk : k₀ = k
  · subst hk
    cases h : get? t k₀ <;> simp [h]
  · have hbeq : (k₀ == k) = false := by simpa using hk
    split
    · simp [List.lookup_cons, hbeq]
    · simp [get?_set_of_ne hk, List.lookup_cons, hbeq]

/-- Of several values that are added for a key the first one counts. -/
theorem get?_foldl_add (bs : List (String × α)) (t : Table α) (k : String) :
    get? (bs.foldl (fun t b => add b.1 b.2 t) t) k = (get? t k).or (bs.lookup k) := by
  induction bs generalizing t with
  | nil => simp
  | cons b bs ih =>
    obtain ⟨k', v⟩ := b
    rw [List.foldl_cons, ih, get?_add, Option.or_assoc, ← List.lookup_append]
    rfl

/-- The keys of a table are in order, each once. -/
def Ordered (t : Table α) : Prop := (t.map Prod.fst).Pairwise (· < ·)

theorem mem_keys_set {k k₀ : String} {v : α} {t : Table α} (h : k₀ ∈ (set k v t).map Prod.fst) :
    k₀ = k ∨ k₀ ∈ t.map Prod.fst := by
  induction t with
  | nil => simpa [set] using h
  | cons b rest ih =>
    obtain ⟨k', v'⟩ := b
    rw [set] at h
    split at h
    next heq =>
      subst heq
      simpa using h
    next =>
      split at h
      · simpa using h
      · rcases List.mem_cons.1 h with rfl | h
        · simp
        · rcases ih h with rfl | h
          · exact .inl rfl
          · exact .inr (List.mem_cons_of_mem _ h)

theorem Ordered.set {t : Table α} (h : t.Ordered) (k : String) (v : α) : (set k v t).Ordered := by
  -- The three branches are those of the insertion: the key is there, belongs in front, or is
  -- looked for further on.
  induction t with
  | nil => simp [Table.set, Ordered]
  | cons b rest ih =>
    obtain ⟨k', v'⟩ := b
    obtain ⟨hfirst, hrest⟩ := List.pairwise_cons.1 h
    rw [Table.set]
    split
    next heq =>
      subst heq
      exact h
    next hne =>
      split
      next hlt =>
        refine List.pairwise_cons.2 ⟨?_, h⟩
        intro k₀ hk₀
        rcases List.mem_cons.1 hk₀ with rfl | hk₀
        · exact hlt
        · exact String.lt_trans hlt (hfirst k₀ hk₀)
      next hnot =>
        refine List.pairwise_cons.2 ⟨?_, ih hrest⟩
        intro k₀ hk₀
        rcases mem_keys_set hk₀ with rfl | hk₀
        · exact Std.lt_of_le_of_ne (String.not_lt.1 hnot) (Ne.symm hne)
        · exact hfirst k₀ hk₀

theorem Ordered.foldl_set {t : Table α} (h : t.Ordered) (bs : List (String × α)) :
    (bs.foldl (fun t b => Table.set b.1 b.2 t) t).Ordered := by
  induction bs generalizing t with
  | nil => exact h
  | cons b bs ih => exact ih (h.set b.1 b.2)

theorem Ordered.add {t : Table α} (h : t.Ordered) (k : String) (v : α) : (add k v t).Ordered := by
  rw [Table.add]
  split
  · exact h
  · exact h.set k v

theorem Ordered.foldl_add {t : Table α} (h : t.Ordered) (bs : List (String × α)) :
    (bs.foldl (fun t b => Table.add b.1 b.2 t) t).Ordered := by
  induction bs generalizing t with
  | nil => exact h
  | cons b bs ih => exact ih (h.add b.1 b.2)

/-- What is found under a key stands there. -/
theorem mem_of_lookup {t : List (String × α)} {k : String} {v : α} (h : t.lookup k = some v) :
    (k, v) ∈ t := by
  obtain ⟨before, after, rfl, -⟩ := List.lookup_eq_some_iff.1 h
  simp

/-- In an ordered table each entry is the one that is found under its key. -/
theorem Ordered.get?_of_mem {t : Table α} (h : t.Ordered) {k : String} {v : α} (hmem : (k, v) ∈ t) :
    get? t k = some v := by
  induction t with
  | nil => cases hmem
  | cons b rest ih =>
    obtain ⟨k', v'⟩ := b
    obtain ⟨hfirst, hrest⟩ := List.pairwise_cons.1 h
    rcases List.mem_cons.1 hmem with hpair | hmem
    · obtain ⟨rfl, rfl⟩ := Prod.mk.inj hpair
      simp [get?]
    · have hne : (k == k') = false := by
        have hlt : k' < k := hfirst k (List.mem_map.2 ⟨_, hmem, rfl⟩)
        have hkey : k ≠ k' := by
          rintro rfl
          exact String.lt_irrefl _ hlt
        simpa using hkey
      simpa [get?, List.lookup_cons, hne] using ih hrest hmem

end Table

/-! ## Texts in order -/

/-- One more text is put where it belongs, unless it is there. -/
theorem sortedDistinct_cons (a : String) (as : List String) :
    ∃ before after, sortedDistinct as = before ++ after ∧ (∀ b ∈ before, b < a)
      ∧ (∀ b, after.head? = some b → a ≤ b)
      ∧ sortedDistinct (a :: as)
        = if after.head? = some a then before ++ after else before ++ a :: after := by
  have hsplit := List.takeWhile_append_dropWhile (p := fun b => decide (b < a))
    (l := sortedDistinct as)
  have hbefore := List.all_takeWhile (p := fun b => decide (b < a)) (l := sortedDistinct as)
  have hafter := List.head?_dropWhile_not (fun b => decide (b < a)) (sortedDistinct as)
  refine ⟨_, _, hsplit.symm, ?_, ?_, ?_⟩
  · intro b hb
    simpa using List.all_eq_true.1 hbefore b hb
  · intro b hb
    rw [hb] at hafter
    exact String.not_lt.1 (by simpa using hafter)
  · rw [hsplit]
    rfl

/-- Putting texts in order neither adds one nor loses one. -/
theorem mem_sortedDistinct {a : String} {as : List String} : a ∈ sortedDistinct as ↔ a ∈ as := by
  induction as with
  | nil => rfl
  | cons b rest ih =>
    obtain ⟨before, after, hrest, -, -, hcons⟩ := sortedDistinct_cons b rest
    rw [hcons, List.mem_cons, ← ih, hrest]
    split
    next hhead =>
      have hmem : b ∈ after := List.mem_of_head? hhead
      simp only [List.mem_append]
      constructor
      · exact .inr
      · rintro (rfl | h)
        · exact .inr hmem
        · exact h
    next =>
      simp only [List.mem_append, List.mem_cons, or_left_comm]

theorem pairwise_sortedDistinct (as : List String) : (sortedDistinct as).Pairwise (· < ·) := by
  induction as with
  | nil => exact .nil
  | cons a rest ih =>
    obtain ⟨before, after, hrest, hbefore, hafter, hcons⟩ := sortedDistinct_cons a rest
    rw [hrest] at ih
    rw [hcons]
    split
    · exact ih
    next hhead =>
      obtain ⟨hfront, hback, hcross⟩ := List.pairwise_append.1 ih
      -- What comes behind the new text is greater than the first of it, and that is greater.
      have hgreater : ∀ b ∈ after, a < b := by
        cases after with
        | nil => simp
        | cons b after =>
          have hfirst : a < b := by
            apply Std.lt_of_le_of_ne (hafter b rfl)
            rintro rfl
            exact hhead rfl
          intro b' hb'
          rcases List.mem_cons.1 hb' with rfl | hb'
          · exact hfirst
          · exact String.lt_trans hfirst ((List.pairwise_cons.1 hback).1 b' hb')
      refine List.pairwise_append.2 ⟨hfront, List.pairwise_cons.2 ⟨hgreater, hback⟩, ?_⟩
      intro b hb b' hb'
      rcases List.mem_cons.1 hb' with rfl | hb'
      · exact hbefore b hb
      · exact hcross b hb b' hb'

open Source (Import FileDecls TypeDecl FuncDecl)

namespace Source.Import

/-- The local names that an import binds, with its path. -/
def bindings (i : Import) : List (String × String) :=
  (Package.defaultName i.path, i.path) ::
    match i.localName with
    | none => []
    | some a => if a = "_" ∨ a = "." then [] else [(a, i.path)]

/-- The name that an import gives to its path, if it is usable. -/
def callings (i : Import) : List (String × String) :=
  match i.localName with
  | none => [(i.path, Package.defaultName i.path)]
  | some a => if a = "_" ∨ a = "." then [] else [(i.path, a)]

theorem path_of_mem_bindings {i : Import} {b : String × String} (h : b ∈ i.bindings) :
    b.2 = i.path := by
  unfold bindings at h
  rcases List.mem_cons.1 h with rfl | h
  · rfl
  · split at h
    · cases h
    · split at h
      · cases h
      · rw [List.mem_singleton.1 h]

/-- A path is called by a name that is bound to it. -/
theorem mem_bindings_of_mem_callings {i : Import} {path q : String}
    (h : (path, q) ∈ i.callings) : (q, path) ∈ i.bindings := by
  unfold callings at h
  unfold bindings
  cases hname : i.localName with
  | none =>
    rw [hname] at h
    obtain ⟨rfl, rfl⟩ := Prod.mk.inj (List.mem_singleton.1 h)
    exact List.mem_cons_self
  | some a =>
    rw [hname] at h
    dsimp only at h ⊢
    split at h
    · cases h
    next ha =>
      obtain ⟨rfl, rfl⟩ := Prod.mk.inj (List.mem_singleton.1 h)
      rw [if_neg ha]
      simp

end Source.Import

namespace Source.FileDecls

/-- The local names that the imports of a file bind, with their paths. -/
def bindings (decls : FileDecls) : List (String × String) := decls.imports.flatMap Import.bindings

/-- The names that the imports of a file give to their paths. -/
def callings (decls : FileDecls) : List (String × String) := decls.imports.flatMap Import.callings

end Source.FileDecls

namespace Package

/-! ## Imports -/

theorem addImport_eq (p : Package) (i : Import) :
    p.addImport i = { p with
      imports := i.bindings.foldl (fun t b => Table.set b.1 b.2 t) p.imports
      qualifiers := i.callings.foldl (fun t b => Table.add b.1 b.2 t) p.qualifiers } := by
  unfold addImport Import.bindings Import.callings
  cases i.localName with
  | none => rfl
  | some a =>
    dsimp only
    split <;> rfl

theorem foldl_addImport (is : List Import) (p : Package) :
    is.foldl addImport p = { p with
      imports := (is.flatMap Import.bindings).foldl (fun t b => Table.set b.1 b.2 t) p.imports
      qualifiers :=
        (is.flatMap Import.callings).foldl (fun t b => Table.add b.1 b.2 t) p.qualifiers } := by
  induction is generalizing p with
  | nil => rfl
  | cons i is ih =>
    rw [List.foldl_cons, ih, addImport_eq]
    simp [List.foldl_append]

/-! ## Types -/

/-- Takes in a declaration, unless its name is declared. -/
def declare (ts : List TypeDecl) (d : TypeDecl) : List TypeDecl :=
  if ts.any (·.name == d.name) then ts else ts ++ [d]

theorem find?_declare (ts : List TypeDecl) (d : TypeDecl) (n : String) :
    (declare ts d).find? (·.name == n)
      = (ts.find? (·.name == n)).or ([d].find? (·.name == n)) := by
  unfold declare
  split
  next h =>
    by_cases hn : d.name = n
    · -- The name is declared already, so that the first declaration stays.
      subst hn
      obtain ⟨d', hd', hname⟩ := List.any_eq_true.1 h
      have hfound : (ts.find? (·.name == d.name)).isSome := by
        rw [List.find?_isSome]
        exact ⟨d', hd', hname⟩
      obtain ⟨d'', hd''⟩ := Option.isSome_iff_exists.1 hfound
      simp [hd'']
    · have hbeq : (d.name == n) = false := by simpa using hn
      simp [hbeq]
  next => simp [List.find?_append]

/-- Of several declarations of a name the first one stays. -/
theorem find?_foldl_declare (ds ts : List TypeDecl) (n : String) :
    (ds.foldl declare ts).find? (·.name == n)
      = (ts.find? (·.name == n)).or (ds.find? (·.name == n)) := by
  induction ds generalizing ts with
  | nil => simp
  | cons d ds ih =>
    rw [List.foldl_cons, ih, find?_declare, Option.or_assoc, ← List.find?_append]
    rfl

theorem mem_of_mem_foldl_declare {ds ts : List TypeDecl} {d : TypeDecl}
    (h : d ∈ ds.foldl declare ts) : d ∈ ts ∨ d ∈ ds := by
  induction ds generalizing ts with
  | nil => exact .inl h
  | cons d' ds ih =>
    rcases ih h with h | h
    · unfold declare at h
      split at h
      · exact .inl h
      · rcases List.mem_append.1 h with h | h
        · exact .inl h
        · rw [List.mem_singleton.1 h]
          exact .inr List.mem_cons_self
    · exact .inr (List.mem_cons_of_mem _ h)

/-- Each name is declared once, and the names that come first are declared first. -/
theorem map_name_foldl_declare (ds ts : List TypeDecl) :
    (ds.foldl declare ts).map (·.name) = ts.map (·.name)
      ++ ((ds.map (·.name)).filter (· ∉ ts.map (·.name))).eraseDups := by
  induction ds generalizing ts with
  | nil => simp
  | cons d ds ih =>
    have hdeclared : ts.any (·.name == d.name) = true ↔ d.name ∈ ts.map (·.name) := by simp
    rw [List.foldl_cons, ih, List.map_cons]
    by_cases hd : d.name ∈ ts.map (·.name)
    · rw [declare, if_pos (hdeclared.2 hd), List.filter_cons_of_neg (by simpa using hd)]
    · -- The name is new, and the declarations behind it add it no more.
      have hrest : (ds.map (·.name)).filter (· ∉ (ts ++ [d]).map (·.name))
          = ((ds.map (·.name)).filter (· ∉ ts.map (·.name))).filter (!· == d.name) := by
        rw [List.filter_filter]
        refine List.filter_congr fun n _ => ?_
        rw [Bool.eq_iff_iff]
        simp only [List.map_append, List.map_cons, List.map_nil, List.mem_append,
          List.mem_singleton, not_or, decide_eq_true_eq, Bool.and_eq_true, Bool.not_eq_true',
          beq_eq_false_iff_ne, ne_eq]
        exact and_comm
      rw [declare, if_neg (fun h => hd (hdeclared.1 h)), hrest,
        List.filter_cons_of_pos (by simpa using hd), List.eraseDups_cons, List.map_append,
        List.append_assoc]
      rfl

theorem nodup_map_name_foldl_declare {ds ts : List TypeDecl} (h : (ts.map (·.name)).Nodup) :
    ((ds.foldl declare ts).map (·.name)).Nodup := by
  induction ds generalizing ts with
  | nil => exact h
  | cons d ds ih =>
    refine ih ?_
    unfold declare
    split
    · exact h
    next hnew =>
      have hname : d.name ∉ ts.map (·.name) := by simpa using hnew
      rw [List.map_append]
      refine List.nodup_append.2 ⟨h, by simp, ?_⟩
      rintro n hn m hm rfl
      obtain rfl : n = d.name := by simpa using hm
      exact hname hn

/-! ## The index of the types -/

/-- The names of declarations with their places. -/
def places (ts : List TypeDecl) : List (String × Nat) := ts.zipIdx.map fun x => (x.1.name, x.2)

/-- The index of a list of declarations. -/
def indexOf (ts : List TypeDecl) : Table Nat :=
  (places ts).foldl (fun t b => Table.set b.1 b.2 t) []

theorem mem_places_iff {ts : List TypeDecl} {n : String} {i : Nat} :
    (n, i) ∈ places ts ↔ ∃ h : i < ts.length, ts[i].name = n := by
  unfold places
  rw [List.mem_map]
  constructor
  · rintro ⟨⟨d, j⟩, hmem, hpair⟩
    obtain ⟨rfl, rfl⟩ := Prod.mk.inj hpair
    obtain ⟨h, hd⟩ := List.getElem?_eq_some_iff.1 (List.mem_zipIdx_iff_getElem?.1 hmem)
    exact ⟨h, congrArg TypeDecl.name hd⟩
  · rintro ⟨h, rfl⟩
    exact ⟨(ts[i], i), List.mem_zipIdx_iff_getElem?.2 (List.getElem?_eq_getElem h), rfl⟩

theorem get?_indexOf (ts : List TypeDecl) (n : String) :
    (indexOf ts).get? n = (places ts).reverse.lookup n := by
  simp [indexOf, Table.get?_foldl_set]

/-- The index has the names of the declarations. -/
theorem isSome_get?_indexOf (ts : List TypeDecl) (n : String) :
    ((indexOf ts).get? n).isSome = ts.any (·.name == n) := by
  rw [get?_indexOf, Bool.eq_iff_iff, List.lookup_isSome_iff, List.any_eq_true]
  constructor
  · rintro ⟨⟨m, i⟩, hmem, hm⟩
    obtain ⟨h, rfl⟩ := mem_places_iff.1 (List.mem_reverse.1 hmem)
    exact ⟨ts[i], List.getElem_mem h, BEq.symm hm⟩
  · rintro ⟨d, hd, hname⟩
    obtain ⟨i, h, rfl⟩ := List.getElem_of_mem hd
    exact ⟨(ts[i].name, i), List.mem_reverse.2 (mem_places_iff.2 ⟨h, rfl⟩), BEq.symm hname⟩

/-- The index leads from a name to the declaration that bears it, where no two bear one name. -/
theorem get?_indexOf_eq_some_iff {ts : List TypeDecl} (hts : (ts.map (·.name)).Nodup) {n : String}
    {i : Nat} : (indexOf ts).get? n = some i ↔ ∃ h : i < ts.length, ts[i].name = n := by
  have hfound : ∀ j, (indexOf ts).get? n = some j → ∃ h : j < ts.length, ts[j].name = n := by
    intro j hj
    rw [get?_indexOf] at hj
    exact mem_places_iff.1 (List.mem_reverse.1 (Table.mem_of_lookup hj))
  refine ⟨hfound i, ?_⟩
  rintro ⟨h, hname⟩
  have hsome : ((indexOf ts).get? n).isSome = true := by
    rw [isSome_get?_indexOf, List.any_eq_true]
    exact ⟨ts[i], List.getElem_mem h, by simpa using hname⟩
  obtain ⟨j, hj⟩ := Option.isSome_iff_exists.1 hsome
  obtain ⟨hlt, hname'⟩ := hfound j hj
  -- Both places bear the name, and no two places do.
  have hsame : i = j := by
    have hi : i < (ts.map (·.name)).length := by simpa using h
    have hj : j < (ts.map (·.name)).length := by simpa using hlt
    have hnames : (ts.map (·.name))[i] = (ts.map (·.name))[j] := by
      rw [List.getElem_map, List.getElem_map, hname, hname']
    exact (List.getElem_inj hts).1 hnames
  rw [hj, hsame]

/-- Looking up a name in the index finds what a search through the list finds. -/
theorem bind_get?_indexOf {ts : List TypeDecl} (hts : (ts.map (·.name)).Nodup) (n : String) :
    ((indexOf ts).get? n).bind (fun i => ts[i]?) = ts.find? (·.name == n) := by
  cases hfind : ts.find? (·.name == n) with
  | none =>
    have hnone : ((indexOf ts).get? n).isSome = false := by
      rw [isSome_get?_indexOf]
      simpa using hfind
    rw [Option.isNone_iff_eq_none.1 (Option.isSome_eq_false_iff.1 hnone)]
    rfl
  | some d =>
    obtain ⟨i, h, rfl⟩ := List.getElem_of_mem (List.mem_of_find?_eq_some hfind)
    have hname : ts[i].name = n := by simpa using List.find?_some hfind
    rw [(get?_indexOf_eq_some_iff hts).2 ⟨h, hname⟩]
    simp

/-- The package has an index of its types. -/
def Indexed (p : Package) : Prop := p.typeIndex = indexOf p.types

theorem addType_eq {p : Package} (hp : p.Indexed) (d : TypeDecl) :
    p.addType d = { p with
      types := declare p.types d
      typeIndex := indexOf (declare p.types d) } := by
  have hplaces : places (p.types ++ [d]) = places p.types ++ [(d.name, p.types.length)] := by
    simp [places, List.zipIdx_append]
  unfold addType declare
  rw [hp, isSome_get?_indexOf]
  split
  · rw [← hp]
  · rw [indexOf, indexOf, hplaces, List.foldl_append]
    rfl

theorem foldl_addType {p : Package} (hp : p.Indexed) (ds : List TypeDecl) :
    ds.foldl addType p = { p with
      types := ds.foldl declare p.types
      typeIndex := indexOf (ds.foldl declare p.types) } := by
  induction ds generalizing p with
  | nil => rw [List.foldl_nil, List.foldl_nil, ← hp]
  | cons d ds ih =>
    have hnext : (p.addType d).Indexed := by
      rw [addType_eq hp]
      rfl
    rw [List.foldl_cons, ih hnext, addType_eq hp, List.foldl_cons]

/-! ## Files -/

/-- What a list of files imports. -/
def importsOf (files : List (Path × FileDecls)) : List Import := files.flatMap (·.2.imports)

theorem addFile_eq {p : Package} (hp : p.Indexed) (file : Path × FileDecls) :
    p.addFile file = { p with
      files := p.files ++ [file.1]
      imports := (file.2.imports.flatMap Import.bindings).foldl
        (fun t b => Table.set b.1 b.2 t) p.imports
      qualifiers := (file.2.imports.flatMap Import.callings).foldl
        (fun t b => Table.add b.1 b.2 t) p.qualifiers
      types := file.2.types.foldl declare p.types
      typeIndex := indexOf (file.2.types.foldl declare p.types)
      functions := p.functions ++ file.2.functions } := by
  have himported :
      (file.2.imports.foldl addImport { p with files := p.files ++ [file.1] }).Indexed := by
    rw [foldl_addImport]
    exact hp
  simp only [addFile]
  rw [foldl_addType himported, foldl_addImport]

theorem foldl_addFile (files : List (Path × FileDecls)) {p : Package} (hp : p.Indexed) :
    files.foldl addFile p = { p with
      files := p.files ++ files.map Prod.fst
      imports := ((importsOf files).flatMap Import.bindings).foldl
        (fun t b => Table.set b.1 b.2 t) p.imports
      qualifiers := ((importsOf files).flatMap Import.callings).foldl
        (fun t b => Table.add b.1 b.2 t) p.qualifiers
      types := (files.flatMap (·.2.types)).foldl declare p.types
      typeIndex := indexOf ((files.flatMap (·.2.types)).foldl declare p.types)
      functions := p.functions ++ files.flatMap (·.2.functions) } := by
  induction files generalizing p with
  | nil =>
    have hindex : indexOf p.types = p.typeIndex := hp.symm
    simp [importsOf, hindex]
  | cons file files ih =>
    have hnext : (p.addFile file).Indexed := by
      rw [addFile_eq hp]
      rfl
    rw [List.foldl_cons, ih hnext, addFile_eq hp]
    simp [importsOf, List.flatMap_append, List.foldl_append]

variable {name importPath : String} {dir : Path} (files : List (Path × FileDecls))

/-- What a package has of its files, taken in one after the other. -/
theorem ofFiles_eq : ofFiles name importPath dir files =
    { name, importPath, dir
      files := files.map Prod.fst
      imports := ((importsOf files).flatMap Import.bindings).foldl
        (fun t b => Table.set b.1 b.2 t) []
      qualifiers := ((importsOf files).flatMap Import.callings).foldl
        (fun t b => Table.add b.1 b.2 t) []
      types := (files.flatMap (·.2.types)).foldl declare []
      typeIndex := indexOf ((files.flatMap (·.2.types)).foldl declare [])
      functions := files.flatMap (·.2.functions) } := by
  have hbare : (bare name importPath dir).Indexed := rfl
  rw [ofFiles, foldl_addFile files hbare]
  rfl

/-- A local name stands for the path that it was bound to last. -/
theorem importPathOf?_ofFiles (n : String) :
    (ofFiles name importPath dir files).importPathOf? n
      = ((importsOf files).flatMap Import.bindings).reverse.lookup n := by
  rw [ofFiles_eq, importPathOf?]
  simp [Table.get?_foldl_set]

/-- An import path is called by the name that was given to it first. -/
theorem qualifierFor?_ofFiles (path : String) :
    (ofFiles name importPath dir files).qualifierFor? path
      = ((importsOf files).flatMap Import.callings).lookup path := by
  rw [ofFiles_eq, qualifierFor?]
  simp [Table.get?_foldl_add]

/-- Of several declarations of a type the first one counts. -/
theorem findType?_ofFiles (n : String) :
    (ofFiles name importPath dir files).findType? n
      = (files.flatMap (·.2.types)).find? (·.name == n) := by
  have hnodup : (((files.flatMap (·.2.types)).foldl declare []).map (·.name)).Nodup :=
    nodup_map_name_foldl_declare (by simp)
  rw [ofFiles_eq, findType?, bind_get?_indexOf hnodup, find?_foldl_declare]
  simp

theorem name_ofFiles : (ofFiles name importPath dir files).name = name := by rw [ofFiles_eq]

theorem dir_ofFiles : (ofFiles name importPath dir files).dir = dir := by rw [ofFiles_eq]

theorem files_ofFiles : (ofFiles name importPath dir files).files = files.map Prod.fst := by
  rw [ofFiles_eq]

/-- The import table has each local name once, with the path that it stands for. -/
theorem mem_imports_ofFiles {q path : String} :
    (q, path) ∈ (ofFiles name importPath dir files).imports
      ↔ (ofFiles name importPath dir files).importPathOf? q = some path := by
  have hordered : (ofFiles name importPath dir files).imports.Ordered := by
    have hbare : Table.Ordered ([] : Table String) := List.Pairwise.nil
    rw [ofFiles_eq]
    exact hbare.foldl_set _
  exact ⟨hordered.get?_of_mem, Table.mem_of_lookup⟩

theorem mem_importPaths_ofFiles {path : String} :
    path ∈ (ofFiles name importPath dir files).importPaths
      ↔ ∃ q, (ofFiles name importPath dir files).importPathOf? q = some path := by
  rw [importPaths, mem_sortedDistinct, List.mem_map]
  constructor
  · rintro ⟨⟨q, path'⟩, hmem, rfl⟩
    exact ⟨q, (mem_imports_ofFiles files).1 hmem⟩
  · rintro ⟨q, h⟩
    exact ⟨(q, path), (mem_imports_ofFiles files).2 h, rfl⟩

theorem functions_ofFiles :
    (ofFiles name importPath dir files).functions = files.flatMap (·.2.functions) := by
  rw [ofFiles_eq]

/-! ## One more file -/

section

variable {before after : List (Path × FileDecls)} {file : Path × FileDecls} {q path : String}

theorem importPathOf?_insert :
    (ofFiles name importPath dir (before ++ file :: after)).importPathOf? q
      = ((((importsOf after).flatMap Import.bindings).reverse.lookup q).or
          (file.2.bindings.reverse.lookup q)).or
        (((importsOf before).flatMap Import.bindings).reverse.lookup q) := by
  rw [importPathOf?_ofFiles, ← List.lookup_append, ← List.lookup_append]
  simp [importsOf, FileDecls.bindings]

theorem importPathOf?_append :
    (ofFiles name importPath dir (before ++ after)).importPathOf? q
      = (((importsOf after).flatMap Import.bindings).reverse.lookup q).or
        (((importsOf before).flatMap Import.bindings).reverse.lookup q) := by
  rw [importPathOf?_ofFiles, ← List.lookup_append]
  simp [importsOf]

/-- A name stands for its path still, if the file does not bind it to another one. -/
theorem importPathOf?_insert_of_some (hfile : ∀ path', (q, path') ∈ file.2.bindings → path' = path)
    (h : (ofFiles name importPath dir (before ++ after)).importPathOf? q = some path) :
    (ofFiles name importPath dir (before ++ file :: after)).importPathOf? q = some path := by
  rw [importPathOf?_append] at h
  rw [importPathOf?_insert]
  cases hafter : ((importsOf after).flatMap Import.bindings).reverse.lookup q with
  | some path' =>
    rw [hafter] at h
    exact h
  | none =>
    rw [hafter] at h
    cases hmiddle : file.2.bindings.reverse.lookup q with
    | none => exact h
    | some path' =>
      have hmem : (q, path') ∈ file.2.bindings := List.mem_reverse.1 (Table.mem_of_lookup hmiddle)
      rw [hfile path' hmem]
      rfl

/-- A name that was not bound is bound by the file or not at all. -/
theorem mem_bindings_of_insert
    (hnone : (ofFiles name importPath dir (before ++ after)).importPathOf? q = none)
    (h : (ofFiles name importPath dir (before ++ file :: after)).importPathOf? q = some path) :
    (q, path) ∈ file.2.bindings := by
  rw [importPathOf?_append, Option.or_eq_none_iff] at hnone
  rw [importPathOf?_insert, hnone.1, hnone.2, Option.none_or, Option.or_none] at h
  exact List.mem_reverse.1 (Table.mem_of_lookup h)

/-- A path is called as it was before, if the file calls it so first or not at all. -/
theorem getD_qualifierFor?_insert (default : String)
    (hfile : ∀ a, file.2.callings.lookup path = some a →
      a = ((ofFiles name importPath dir (before ++ after)).qualifierFor? path).getD default) :
    ((ofFiles name importPath dir (before ++ file :: after)).qualifierFor? path).getD default
      = ((ofFiles name importPath dir (before ++ after)).qualifierFor? path).getD default := by
  have hlong : ((importsOf (before ++ file :: after)).flatMap Import.callings).lookup path
      = (((importsOf before).flatMap Import.callings).lookup path).or
        ((file.2.callings.lookup path).or
          (((importsOf after).flatMap Import.callings).lookup path)) := by
    rw [← List.lookup_append, ← List.lookup_append]
    simp [importsOf, FileDecls.callings]
  have hshort : ((importsOf (before ++ after)).flatMap Import.callings).lookup path
      = (((importsOf before).flatMap Import.callings).lookup path).or
        (((importsOf after).flatMap Import.callings).lookup path) := by
    rw [← List.lookup_append]
    simp [importsOf]
  rw [qualifierFor?_ofFiles, hshort] at hfile
  rw [qualifierFor?_ofFiles, qualifierFor?_ofFiles, hlong, hshort]
  -- The first file decides what a path is called. So the new file is asked only if those in front
  -- of it do not call the path.
  cases hbefore : ((importsOf before).flatMap Import.callings).lookup path with
  | some a => rfl
  | none =>
    cases hmiddle : file.2.callings.lookup path with
    | none => rfl
    | some a =>
      rw [hbefore] at hfile
      exact hfile a hmiddle

/-- A file without types declares none. -/
theorem findType?_insert (htypes : file.2.types = []) (n : String) :
    (ofFiles name importPath dir (before ++ file :: after)).findType? n
      = (ofFiles name importPath dir (before ++ after)).findType? n := by
  simp [findType?_ofFiles, htypes]

end

/-! ## Packages of directories -/

/-- A package is the union of files of its directory. -/
theorem exists_files_of_ofDirectory [Source.Recovery] {d : Files.Disk} {p : Package}
    (h : ofDirectory d dir importPath = .ok p) :
    ∃ name files, p = ofFiles name importPath dir files := by
  unfold ofDirectory at h
  split at h
  · cases h
  simp only [bind, Except.bind] at h
  split at h
  · cases h
  split at h
  · cases h
  split at h
  · cases h
  next name _ => exact ⟨name, _, (Except.ok.inj h).symm⟩

/-- A name by which a package calls an import path is bound to some import path, if perhaps to
another one. -/
theorem importPathOf?_isSome [Source.Recovery] {d : Files.Disk} {p : Package} {path q : String}
    (h : ofDirectory d dir importPath = .ok p) (hq : p.qualifierFor? path = some q) :
    (p.importPathOf? q).isSome := by
  obtain ⟨name, files, rfl⟩ := exists_files_of_ofDirectory h
  rw [qualifierFor?_ofFiles] at hq
  obtain ⟨i, hi, hcalling⟩ := List.mem_flatMap.1 (Table.mem_of_lookup hq)
  have hbinding : (q, path) ∈ (importsOf files).flatMap Import.bindings :=
    List.mem_flatMap.2 ⟨i, hi, Import.mem_bindings_of_mem_callings hcalling⟩
  rw [importPathOf?_ofFiles, List.lookup_isSome_iff]
  exact ⟨(q, path), List.mem_reverse.2 hbinding, by simp⟩

end Package
end StructFill
