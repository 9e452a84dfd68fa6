import Mathlib.Data.List.Basic
import StructFill.Config
import StructFill.Output
import StructFill.Proofs.Files.Paths

/-! # When the output takes the place of the input

  The output is named after the input: its name in snake case, and behind it an
  end that is configured. Snake case never makes a name shorter, so an end that
  adds characters to the name keeps the two files apart. Two ends do not: the
  blank one, and one that leads on into another directory by a slash.
-/

namespace StructFill

/-! ## Names in snake case -/

namespace Unicode

/-- No run of capitals has a slash among its small letters. -/
theorem slash_lt_image : ∀ r ∈ lowerRuns, '/'.toNat < r.image := by decide +kernel

theorem toNat_ofNat (n : Nat) : (Char.ofNat n).toNat = n ∨ (Char.ofNat n).toNat = 0 := by
  by_cases h : n.isValidChar
  · left
    have hchar : Char.ofNat n = Char.ofNatAux n h := dif_pos h
    rw [hchar]
    rfl
  · right
    have hchar : Char.ofNat n = Char.ofNatAux 0 (by decide) := dif_neg h
    rw [hchar]
    rfl

theorem lower_ne_nil (c : Char) : lower c ≠ [] := by
  unfold lower
  split
  · simp
  · split <;> simp

/-- Small letters have no slash, apart from the slash itself. -/
theorem eq_slash_of_mem_lower {c : Char} (h : '/' ∈ lower c) : c = '/' := by
  unfold lower at h
  split at h
  · simp at h
  split at h
  next n hn =>
    obtain ⟨r, hr, himage⟩ := List.exists_of_findSome?_eq_some hn
    have hlt := slash_lt_image r hr
    unfold CaseRun.map? at himage
    split at himage
    · obtain rfl := Option.some.inj himage
      -- The image is the point of a character other than the slash, or of no character at all.
      have hslash : '/' = Char.ofNat (r.image + (c.toNat - r.first)) := by simpa using h
      have hpoint := congrArg Char.toNat hslash
      have hvalue : '/'.toNat = 47 := rfl
      rcases toNat_ofNat (r.image + (c.toNat - r.first)) with hn | hn <;> omega
    · cases himage
  next =>
    obtain rfl : '/' = c := by simpa using h
    rfl

theorem length_le_lowerAfter (before cs : List Char) :
    cs.length ≤ (lowerAfter before cs).length := by
  induction cs generalizing before with
  | nil => simp
  | cons c cs ih =>
    have hrest := ih (c :: before)
    have hfirst : 1 ≤ (if c = 'Σ' then
        if leadsToCased before && !leadsToCased cs then ['ς'] else ['σ'] else lower c).length := by
      split
      · split <;> simp
      · exact List.length_pos_iff.2 (lower_ne_nil c)
    rw [lowerAfter, List.length_append, List.length_cons]
    omega

theorem slash_mem_of_lowerAfter {before cs : List Char} (h : '/' ∈ lowerAfter before cs) :
    '/' ∈ cs := by
  induction cs generalizing before with
  | nil => simp [lowerAfter] at h
  | cons c cs ih =>
    rw [lowerAfter, List.mem_append] at h
    rcases h with h | h
    · split at h
      · split at h <;> simp at h
      · rw [eq_slash_of_mem_lower h]
        exact List.mem_cons_self
    · exact List.mem_cons_of_mem _ (ih h)

end Unicode

namespace Naming

theorem length_le_divideWords (inWord : Bool) (cs : List Char) :
    cs.length ≤ (divideWords inWord cs).length := by
  fun_induction divideWords inWord cs <;> simp_all
  omega

theorem length_le_divideHumps (cs : List Char) : cs.length ≤ (divideHumps cs).length := by
  fun_induction divideHumps cs <;> simp_all
  omega

theorem slash_mem_of_divideWords {inWord : Bool} {cs : List Char}
    (h : '/' ∈ divideWords inWord cs) : '/' ∈ cs := by
  fun_induction divideWords inWord cs <;> simp_all <;> grind

theorem slash_mem_of_divideHumps {cs : List Char} (h : '/' ∈ divideHumps cs) : '/' ∈ cs := by
  fun_induction divideHumps cs <;> simp_all <;> grind

/-- Snake case never makes a name shorter. -/
theorem length_le_snakeChars (cs : List Char) : cs.length ≤ (snakeChars cs).length :=
  calc cs.length ≤ (divideWords false cs).length := length_le_divideWords false cs
    _ ≤ (divideHumps (divideWords false cs)).length := length_le_divideHumps _
    _ ≤ (snakeChars cs).length := Unicode.length_le_lowerAfter [] _

/-- Snake case brings no slash into a name. -/
theorem slash_mem_of_snakeChars {cs : List Char} (h : '/' ∈ snakeChars cs) : '/' ∈ cs :=
  slash_mem_of_divideWords (slash_mem_of_divideHumps (Unicode.slash_mem_of_lowerAfter h))

end Naming
/-! ## The name of the input -/

namespace Path

/-- The name of a file is a piece of its path. -/
theorem plain_of_fileName {p : Path} {n : String} (h : p.fileName? = some n) : Plain n := by
  obtain ⟨q, -, hcomponents⟩ := components_of_fileName h
  have hmem : Component.entry n ∈ p.components := by simp [hcomponents]
  rw [components_eq, List.mem_append] at hmem
  rcases hmem with hmem | hmem
  · -- Neither the root nor a dot is an entry.
    unfold frontSteps at hmem
    split at hmem <;> simp at hmem
  · obtain ⟨piece, hpiece, hentry⟩ := List.mem_filterMap.1 hmem
    have hname : n = String.ofList piece := by
      unfold pieceComponent? at hentry
      split at hentry
      · cases hentry
      split at hentry
      · cases hentry
      · exact (Component.entry.inj (Option.some.inj hentry)).symm
    subst hname
    exact ⟨by simpa using Text.eq_false_of_mem_splitOn hpiece, by simpa using hentry⟩

end Path

namespace Output

variable {input : Path} {requested : Option Path}

/-- What the name of the output begins with. -/
def stem (input : Path) : String := input.stem?.getD ""

/-- The directory that the name of the output is joined to. -/
def directory (input : Path) (requested : Option Path) : Path :=
  requested.getD ((input.parent?).getD ⟨""⟩)

/-- A source file has a name that ends in its extension, and lies in the directory that the output
goes to without a request. -/
theorem name_of_isSourcePath (h : isSourcePath input = true) :
    stem input ≠ "" ∧ input.fileName? = some (stem input ++ ".go")
      ∧ input.components = (directory input none).components ++ [.entry (stem input ++ ".go")] := by
  have hextension : input.extension? = some "go" := by simpa [isSourcePath] using h
  obtain ⟨n, hname, hcut⟩ := Option.bind_eq_some_iff.1 hextension
  obtain ⟨q, hparent, hcomponents⟩ := Path.components_of_fileName hname
  have hstem : stem input ≠ "" ∧ n = stem input ++ ".go" := by
    have hstem : stem input = (Path.cutName n).1 := by simp [stem, Path.stem?, hname]
    rw [hstem]
    unfold Path.cutName at hcut ⊢
    split at hcut
    next c cs after hlast =>
      have hlist := Text.eq_of_cutLast? hlast
      obtain rfl : after = ['g', 'o'] := by
        have hafter := congrArg String.toList (Option.some.inj hcut)
        simpa using hafter
      refine ⟨by simp, ?_⟩
      apply String.toList_injective
      simpa using hlist
    next => cases hcut
  refine ⟨hstem.1, by rw [hname, hstem.2], ?_⟩
  rw [hcomponents, hstem.2, directory, hparent]
  rfl

theorem place_eq (h : ∀ p, requested = some p → isSourcePath p = false) (nameEnd : String) :
    place input requested nameEnd
      = (directory input requested).joinName (Naming.snakeCase (stem input) ++ nameEnd ++ ".go") := by
  unfold place directory stem
  cases requested with
  | none => rfl
  | some p => simp [h p rfl]

/-! ## Places -/

/-- The ways in which the output takes the place of the input, by what is put behind its name. -/
inductive Covers (input : Path) (requested : Option Path) : String → Prop where
  /-- Nothing is put behind a name that is in snake case, in the directory of the input. -/
  | blank (hname : Naming.snakeCase (stem input) = stem input)
    (hdirectory : (directory input requested).same (directory input none)) :
    Covers input requested ""
  /-- What is put behind the name leads on into the directory of the input, and ends with the
  name that the input has there. -/
  | nested {before after : String} (hafter : '/' ∉ after.toList)
    (hname : after = stem input)
    (hdirectory : ((directory input requested).joinName
      (Naming.snakeCase (stem input) ++ before)).same (directory input none)) :
    Covers input requested (before ++ "/" ++ after)

theorem same_iff {p q : Path} : p.same q = true ↔ p.components = q.components := by
  simp [Path.same]

/-- Paths to entries are the same if the entries are, and the paths before them. -/
theorem same_entry_iff {p q d e : Path} {n m : String}
    (hp : p.components = d.components ++ [.entry n])
    (hq : q.components = e.components ++ [.entry m]) :
    p.same q = true ↔ d.same e = true ∧ n = m := by
  rw [same_iff, same_iff, hp, hq]
  constructor
  · intro h
    obtain ⟨hbefore, hlast⟩ := List.append_inj' h rfl
    exact ⟨hbefore, by simpa using hlast⟩
  · rintro ⟨hbefore, rfl⟩
    rw [hbefore]

/-- What is put behind a name is blank or makes it longer. -/
theorem eq_blank_of_named {name nameEnd : String}
    (h : Naming.snakeCase name ++ nameEnd = name) : nameEnd = "" := by
  have hchars := congrArg (fun s : String => s.toList.length) h
  have hlonger := Naming.length_le_snakeChars name.toList
  simp only [Naming.snakeCase, String.toList_append, String.toList_ofList,
    List.length_append] at hchars
  have hlength : nameEnd.toList.length = 0 := by omega
  simpa using List.length_eq_zero_iff.1 hlength

/-- A text with a slash has a last one. -/
theorem exists_lastSlash {s : String} (h : '/' ∈ s.toList) :
    ∃ before after : String, s = before ++ "/" ++ after ∧ '/' ∉ after.toList := by
  obtain ⟨before, after, hs, hafter⟩ := List.eq_append_cons_of_mem
    (show '/' ∈ s.toList.reverse from List.mem_reverse.2 h)
  refine ⟨String.ofList after.reverse, String.ofList before.reverse, ?_, by simpa using hafter⟩
  apply String.toList_injective
  have hreverse := congrArg List.reverse hs
  simpa using hreverse

theorem noSlash_of_not_mem {cs : List Char} (h : '/' ∉ cs) : ∀ c ∈ cs, Path.isSlash c = false := by
  intro c hc
  have hne : c ≠ '/' := fun heq => h (heq ▸ hc)
  simpa [Path.isSlash] using hne

theorem append_go_inj {a b : String} : a ++ ".go" = b ++ ".go" ↔ a = b := by
  constructor
  · intro h
    have hchars := congrArg String.toList h
    rw [String.toList_append, String.toList_append] at hchars
    exact String.toList_injective (List.append_cancel_right hchars)
  · rintro rfl
    rfl

/-- A last slash divides a text in one way. -/
theorem lastSlash_inj {a b a' b' : String} (hb : '/' ∉ b.toList) (hb' : '/' ∉ b'.toList)
    (h : a ++ "/" ++ b = a' ++ "/" ++ b') : a = a' ∧ b = b' := by
  have hchars : a.toList ++ '/' :: b.toList = a'.toList ++ '/' :: b'.toList := by
    simpa using congrArg String.toList h
  -- Otherwise one of the slashes would lie behind the other, which is the last.
  have hlast : ∀ {xs ys us vs : List Char}, '/' ∉ ys → xs ++ '/' :: ys = us ++ '/' :: vs →
      ¬ ∃ c m, us = xs ++ c :: m := by
    rintro xs ys us vs hys heq ⟨c, m, rfl⟩
    rw [List.append_assoc, List.append_cancel_left_eq, List.cons_append] at heq
    exact hys ((List.cons.inj heq).2 ▸ by simp)
  rcases List.append_eq_append_iff.1 hchars with ⟨m, hm, hrest⟩ | ⟨m, hm, hrest⟩
  · rcases m with _ | ⟨c, m⟩
    · have hafter := (List.cons.inj hrest).2
      exact ⟨String.toList_injective (by simpa using hm.symm), String.toList_injective hafter⟩
    · exact absurd ⟨c, m, hm⟩ (hlast hb hchars)
  · rcases m with _ | ⟨c, m⟩
    · have hafter := (List.cons.inj hrest).2
      exact ⟨String.toList_injective (by simpa using hm), String.toList_injective hafter.symm⟩
    · exact absurd ⟨c, m, hm⟩ (hlast hb' hchars.symm)

section

variable (hinput : isSourcePath input = true)
include hinput

/-- The name of the input in snake case is a name. -/
theorem snakeCase_stem : Naming.snakeCase (stem input) ≠ ""
    ∧ '/' ∉ (Naming.snakeCase (stem input)).toList := by
  obtain ⟨hstem, hfile, -⟩ := name_of_isSourcePath hinput
  constructor
  · intro hblank
    have hlonger := Naming.length_le_snakeChars (stem input).toList
    have hchars := congrArg String.toList hblank
    simp only [Naming.snakeCase, String.toList_ofList] at hchars
    rw [hchars] at hlonger
    simp_all
  · intro hmem
    have hname : '/' ∈ (stem input).toList :=
      Naming.slash_mem_of_snakeChars (by simpa [Naming.snakeCase] using hmem)
    have hslash := (Path.plain_of_fileName hfile).noSlash '/' (by simp [hname])
    cases hslash

/-- An end without a slash names a file in the directory of the output. -/
theorem same_named_iff {nameEnd : String} (hslash : '/' ∉ nameEnd.toList) :
    ((directory input requested).joinName
        (Naming.snakeCase (stem input) ++ nameEnd ++ ".go")).same input = true
      ↔ (directory input requested).same (directory input none) = true
        ∧ Naming.snakeCase (stem input) ++ nameEnd = stem input := by
  obtain ⟨hsnake, hnoSlash⟩ := snakeCase_stem hinput
  obtain ⟨-, -, hplace⟩ := name_of_isSourcePath hinput
  -- The name has no slash and is longer than two dots, so it is one component.
  have hnamed : Path.Plain (Naming.snakeCase (stem input) ++ nameEnd ++ ".go") := by
    apply Path.plain_of_length
    · apply noSlash_of_not_mem
      simp [hnoSlash, hslash]
    · have hlength : 0 < (Naming.snakeCase (stem input)).toList.length :=
        List.length_pos_iff.2 (by simpa using hsnake)
      have hgo : ".go".toList.length = 3 := rfl
      simp only [String.toList_append, List.length_append]
      omega
  rw [same_entry_iff (Path.components_joinName _ hnamed) hplace, append_go_inj]

/-- An end with a slash leads into another directory, and what follows its last slash names a
file there. -/
theorem same_nested_iff {before after : String} (hafter : '/' ∉ after.toList) :
    ((directory input requested).joinName
        (Naming.snakeCase (stem input) ++ (before ++ "/" ++ after) ++ ".go")).same input = true
      ↔ ((directory input requested).joinName
          (Naming.snakeCase (stem input) ++ before)).same (directory input none) = true
        ∧ after = stem input := by
  obtain ⟨hsnake, hnoSlash⟩ := snakeCase_stem hinput
  obtain ⟨-, -, hplace⟩ := name_of_isSourcePath hinput
  have hlead : Naming.snakeCase (stem input) ++ before ≠ "" := by
    simp [hsnake]
  -- What is joined is taken as relative to the directory, since snake case begins with no slash.
  have hrelative : (Path.mk (Naming.snakeCase (stem input) ++ before)).isAbsolute = false := by
    obtain ⟨c, cs, hcs⟩ := List.exists_cons_of_ne_nil
      (show (Naming.snakeCase (stem input)).toList ≠ [] by simpa using hsnake)
    have hc : c ≠ '/' := fun heq => hnoSlash (by simp [hcs, heq])
    simp [Path.isAbsolute, hcs, hc]
  have hnamed : Path.Plain (after ++ ".go") := by
    apply Path.plain_of_length
    · apply noSlash_of_not_mem
      simp [hafter]
    · simp
  have hcomponents : ((directory input requested).joinName
        (Naming.snakeCase (stem input) ++ (before ++ "/" ++ after) ++ ".go")).components
      = ((directory input requested).joinName
        (Naming.snakeCase (stem input) ++ before)).components ++ [.entry (after ++ ".go")] := by
    have hjoined := Path.components_joinName_nested (directory input requested) hlead hrelative
      hnamed
    simpa only [String.append_assoc] using hjoined
  rw [same_entry_iff hcomponents hplace, append_go_inj]

end

/-- The output takes the place of the input in the two ways of `Covers`, and in no other. -/
theorem place_same_iff (hinput : isSourcePath input = true)
    (hrequested : ∀ p, requested = some p → isSourcePath p = false) (nameEnd : String) :
    (place input requested nameEnd).same input = true ↔ Covers input requested nameEnd := by
  rw [place_eq hrequested]
  -- An end without a slash names a file beside the input, one with a slash leads elsewhere first.
  by_cases hslash : '/' ∈ nameEnd.toList
  · obtain ⟨before, after, rfl, hafter⟩ := exists_lastSlash hslash
    rw [same_nested_iff hinput hafter]
    constructor
    · rintro ⟨hdirectory, rfl⟩
      exact .nested hafter rfl hdirectory
    · intro hcovers
      generalize hend : before ++ "/" ++ after = nameEnd at hcovers
      cases hcovers with
      | blank => simp at hend
      | nested hafter' hname hdirectory =>
        obtain ⟨rfl, rfl⟩ := lastSlash_inj hafter hafter' hend
        exact ⟨hdirectory, hname⟩
  · rw [same_named_iff hinput hslash]
    constructor
    · rintro ⟨hdirectory, hname⟩
      obtain rfl := eq_blank_of_named hname
      exact .blank (by simpa using hname) hdirectory
    · intro hcovers
      cases hcovers with
      | blank hname hdirectory => exact ⟨hdirectory, by simpa using hname⟩
      | nested => simp at hslash

/-- Behind the default end the output never takes the place of this input. -/
theorem place_same_iff_gen : ¬ Covers ⟨"/app/gen.go"⟩ none "_gen" := by
  intro hcovers
  have hsame := (place_same_iff (by decide) (by simp) "_gen").2 hcovers
  exact absurd hsame (by decide)

/-- A blank end is valid, and puts the output in the place of an input in snake case. -/
theorem place_eq_input : ({ outputEnd := "" } : Config).Valid
    ∧ isSourcePath ⟨"/app/gen.go"⟩ = true ∧ place ⟨"/app/gen.go"⟩ none "" = ⟨"/app/gen.go"⟩ := by
  decide

end Output
end StructFill
