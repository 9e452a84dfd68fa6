import StructFill.CommandLine.Run
import StructFill.Proofs.Files.Writing

/-! # Which configuration holds

  A configuration is looked for in the directory of the input and upward. The
  files that are missing, unreadable or wrong are passed over, so what holds is
  the first right one, or the defaults. Only so many directories are looked at.

  **Upward** is what the path says: the directory above is named by the path
  without its last component. For the absolute path of a directory in which no
  step leads to a parent, that is the directory above in the tree. A path that
  ends in such a step is led back down by it, into a directory below its own.
-/

namespace StructFill

open Files (Disk Key Entry)

/-! ## Upward along a path -/

namespace Path

/-- The path without its last `n` components. -/
def above? (p : Path) : Nat → Option Path
  | 0 => some p
  | n + 1 => p.parent?.bind fun q => q.above? n

theorem getElem?_ancestors (p : Path) (limit n : Nat) :
    (p.ancestors limit)[n]? = if n < limit then p.above? n else none := by
  induction limit generalizing p n with
  | zero => simp [ancestors]
  | succ limit ih =>
    rw [ancestors]
    cases n with
    | zero => simp [above?]
    | succ n =>
      cases hparent : p.parent? with
      | none => simp [above?, hparent]
      | some q => simp [above?, hparent, ih q n]

variable {p q : Path} {names : List String}

/-- The parent loses the last name. -/
theorem components_parent {last : String}
    (hp : p.components = .root :: (names ++ [last]).map .entry) (hq : p.parent? = some q) :
    q.components = .root :: names.map .entry := by
  rw [components_of_parent? hq, hp, List.map_append, ← List.cons_append]
  exact List.dropLast_concat

/-- From an absolute path without steps to a parent each name on the way is dropped in turn, the
last one first, down to the root. -/
theorem above?_eq_some (hp : p.components = .root :: names.map .entry) {n : Nat}
    (hq : p.above? n = some q) :
    n ≤ names.length
      ∧ q.components = .root :: (names.take (names.length - n)).map .entry := by
  induction n generalizing p names with
  | zero =>
    obtain rfl := Option.some.inj hq
    simpa using hp
  | succ n ih =>
    obtain ⟨r, hparent, hq⟩ := Option.bind_eq_some_iff.1 hq
    rcases List.eq_nil_or_concat' names with rfl | ⟨front, last, rfl⟩
    · -- The root has no parent.
      rw [parent?_eq_none_iff.2 (.inr (by simp [hp]))] at hparent
      cases hparent
    · obtain ⟨hle, hcomponents⟩ := ih (components_parent hp hparent) hq
      refine ⟨by simpa using hle, ?_⟩
      simpa [List.take_append_of_le_length] using hcomponents

theorem exists_above? (hp : p.components = .root :: names.map .entry) {n : Nat}
    (hn : n ≤ names.length) : ∃ q, p.above? n = some q := by
  induction n generalizing p names with
  | zero => exact ⟨p, rfl⟩
  | succ n ih =>
    rcases List.eq_nil_or_concat' names with rfl | ⟨front, last, rfl⟩
    · simp at hn
    · have hlast : p.components.getLast? = some (.entry last) := by simp [hp, List.getLast?_cons]
      obtain ⟨r, hparent⟩ : ∃ r, p.parent? = some r := by
        rw [← Option.ne_none_iff_exists', ne_eq, parent?_eq_none_iff, hlast]
        simp [hp]
      obtain ⟨q, hq⟩ := ih (components_parent hp hparent) (by simpa using hn)
      exact ⟨q, by rw [above?, hparent]; exact hq⟩

end Path

/-! ## Directories by their names -/

namespace Files

variable {k : Key} {names : List String}

/-- Steps that name entries lead to a directory if and only if there are directories all the
way. -/
theorem Tree.follow_names {t : Tree} {steps : List (List Char)} {place : Key}
    (hnames : steps.filterMap Path.pieceComponent? = names.map .entry) (hblank : [] ∉ steps) :
    t.follow place steps = .ok (k, some .directory)
      ↔ k = place ++ names
        ∧ ∀ j ≤ names.length, t.find? (place ++ names.take j) = some .directory := by
  induction steps generalizing place names with
  | nil =>
    obtain rfl : names = [] := by simpa using hnames.symm
    simp [follow, eq_comm]
  | cons step steps ih =>
    obtain ⟨hstep, hblank⟩ := not_or.1 (mt List.mem_cons.2 hblank)
    by_cases hdirectory : t.find? place = some .directory
    · rw [follow, hdirectory]
      dsimp only
      by_cases hdot : step = ['.']
      · rw [if_pos hdot]
        exact ih (by simpa [hdot, Path.pieceComponent?] using hnames) hblank
      -- The components are all entries, so there is no step to a parent.
      · have hup : step ≠ ['.', '.'] := by
          rintro rfl
          cases names <;> simp [Path.pieceComponent?] at hnames
        have hentry : Path.pieceComponent? step = some (.entry (String.ofList step)) := by
          simp [Path.pieceComponent?, Ne.symm hstep, hdot, hup]
        rw [if_neg hdot, if_neg hup]
        rw [List.filterMap_cons, hentry] at hnames
        obtain ⟨name, names, rfl, hname, hrest⟩ := List.map_eq_cons_iff.1 hnames.symm
        obtain rfl : name = String.ofList step := by simpa using hname
        rw [ih hrest.symm hblank]
        refine and_congr (by simp) ⟨fun h j hj => ?_, fun h j hj => ?_⟩
        · cases j with
          | zero => simpa using hdirectory
          | succ j => simpa using h j (by simpa using hj)
        · simpa using h (j + 1) (by simpa using hj)
    · refine iff_of_false ?_ fun h => hdirectory (by simpa using h.2 0 (Nat.zero_le _))
      rw [follow]
      split <;> simp_all

/-- An absolute path without steps to a parent leads to the directory of its names, if there are
directories all the way. -/
theorem Disk.locate_names {d : Disk} {p : Path} (hp : p.components = .root :: names.map .entry) :
    d.locate p = .ok (k, some .directory)
      ↔ k = names ∧ ∀ j ≤ names.length, d.tree.find? (names.take j) = some .directory := by
  obtain ⟨habsolute, hpieces⟩ := Path.of_components_eq_root_cons hp
  have htext : p.text ≠ "" := by
    intro htext
    simp [Path.isAbsolute, htext] at habsolute
  have hnames : (pathSteps p).filterMap Path.pieceComponent? = names.map .entry := by
    have hblank : ∀ piece : List Char,
        (if (piece != []) = true then Path.pieceComponent? piece else none)
          = Path.pieceComponent? piece := by
      intro piece
      by_cases h : piece = [] <;> simp [h, Path.pieceComponent?]
    rw [pathSteps_eq, List.filterMap_append, List.filterMap_filter, ← hpieces]
    have hdot : Path.pieceComponent? ['.'] = none := rfl
    simp only [hblank]
    split <;> simp [hdot]
  have hblank : [] ∉ pathSteps p := by
    rw [pathSteps_eq]
    split <;> simp
  rw [locate, if_neg htext, if_pos habsolute, Tree.follow_names hnames hblank]
  simp

end Files

/-! ## Files that count -/

namespace Config

variable {d : Disk} {start dir : Path} {c c' : Config} {k : Key}

/-- The text is that of the settings of a configuration. -/
def Settings.Written (text : String) (c : Config) : Prop :=
  (read? ((withoutMark text.toList).length + 1) (withoutMark text.toList)).bind config? = some c

theorem Settings.parse_eq_ok_iff {text : String} :
    parse text = .ok c ↔ Written text c ∧ c.Valid := by
  unfold parse Written
  dsimp only
  split
  next c' hread =>
    rw [hread, checked_eq_ok_iff, Option.some.injEq]
    constructor <;> (rintro ⟨rfl, hvalid⟩; exact ⟨rfl, hvalid⟩)
  next hread => simp [hread]

/-- The directory of the path has a configuration file that can be read and is right. -/
def HeldIn (d : Disk) (dir : Path) (c : Config) : Prop :=
  ∃ text, d.readText (dir.joinName fileName) = .ok text ∧ Settings.Written text c ∧ c.Valid

theorem ofFile?_eq_some_iff : ofFile? d (dir.joinName fileName) = some c ↔ HeldIn d dir c := by
  unfold ofFile? ofFile HeldIn
  simp only [← Settings.parse_eq_ok_iff]
  cases d.readText (dir.joinName fileName) with
  | error e => simp [Except.toOption]
  | ok text => cases hparse : Settings.parse text <;> simp [hparse, Except.toOption]

theorem HeldIn.unique (h : HeldIn d dir c) (h' : HeldIn d dir c') : c = c' := by
  rw [← ofFile?_eq_some_iff] at h h'
  exact Option.some.inj (h.symm.trans h')

/-- The directory of the key has a configuration file that can be read and is right. -/
def HeldUnder (d : Disk) (k : Key) (c : Config) : Prop :=
  ∃ text executable, d.tree.find? (k ++ [fileName]) = some (.file (.text text) executable)
    ∧ Settings.Written text c ∧ c.Valid

theorem plain_fileName : Path.Plain fileName := by decide

theorem heldIn_iff_heldUnder (h : d.locate dir = .ok (k, some .directory)) :
    HeldIn d dir c ↔ HeldUnder d k c := by
  have hget := Files.Disk.get_of_locate (Files.Disk.locate_joinName h plain_fileName)
  unfold HeldIn HeldUnder Files.Disk.readText
  rw [hget]
  rcases d.tree.find? (k ++ [fileName]) with _ | _ | ⟨_ | _, _⟩ | _ <;> simp

/-! ## The search -/

/-- What is found in the first of the places 0, 1, 2, … that has something, within the limit of
the search; the defaults where there is nothing. -/
inductive Nearest (held : Nat → Config → Prop) : Config → Prop where
  | found {n : Nat} {c : Config} (hlimit : n < searchLimit) (hheld : held n c)
    (hnearer : ∀ m < n, ∀ c', ¬ held m c') : Nearest held c
  | defaults (hnone : ∀ n < searchLimit, ∀ c, ¬ held n c) : Nearest held {}

theorem Nearest.unique {held : Nat → Config → Prop}
    (hheld : ∀ n c c', held n c → held n c' → c = c') (h : Nearest held c) (h' : Nearest held c') :
    c = c' := by
  cases h with
  | @found n _ hlimit hc hnearer =>
    cases h' with
    | @found m _ hlimit' hc' hnearer' =>
      rcases Nat.lt_trichotomy n m with hlt | rfl | hlt
      · exact absurd hc (hnearer' n hlt c)
      · exact hheld n c c' hc hc'
      · exact absurd hc' (hnearer m hlt c')
    | defaults hnone => exact absurd hc (hnone n hlimit c)
  | defaults hnone =>
    cases h' with
    | @found m _ hlimit' hc' _ => exact absurd hc' (hnone m hlimit' c')
    | defaults => rfl

/-- The configuration of the directory that is named by the path without its last `n`
components. -/
def HeldAbove (d : Disk) (start : Path) (n : Nat) (c : Config) : Prop :=
  ∃ dir, start.above? n = some dir ∧ HeldIn d dir c

theorem getElem?_candidates (start : Path) (n : Nat) : (candidates start)[n]?
    = if n < searchLimit then (start.above? n).map (·.joinName fileName) else none := by
  rw [candidates, List.getElem?_map, Path.getElem?_ancestors]
  split <;> rfl

theorem heldAbove_iff {n : Nat} (hn : n < searchLimit) :
    HeldAbove d start n c ↔ ∃ p, (candidates start)[n]? = some p ∧ ofFile? d p = some c := by
  rw [getElem?_candidates, if_pos hn]
  simp [HeldAbove, ← ofFile?_eq_some_iff]

theorem nearest_discover (d : Disk) (start : Path) :
    Nearest (HeldAbove d start) (discover d start) := by
  have hlength : (candidates start).length ≤ searchLimit := by
    rw [candidates, List.length_map]
    exact start.length_ancestors_le searchLimit
  unfold discover
  cases hfound : (candidates start).findSome? (ofFile? d) with
  | none =>
    refine .defaults fun n hn c hheld => ?_
    obtain ⟨p, hp, hc⟩ := (heldAbove_iff hn).1 hheld
    have hnone := List.findSome?_eq_none_iff.1 hfound p (List.mem_of_getElem? hp)
    rw [hnone] at hc
    cases hc
  | some c =>
    obtain ⟨before, p, after, hsplit, hc, hbefore⟩ := List.findSome?_eq_some_iff.1 hfound
    have hlimit : before.length < searchLimit := by
      rw [hsplit, List.length_append, List.length_cons] at hlength
      omega
    -- The candidates are in the order of the levels, so a nearer level is a candidate in front, and
    -- those have no settings.
    refine .found hlimit ((heldAbove_iff hlimit).2 ⟨p, by simp [hsplit], hc⟩) fun m hm c' hheld => ?_
    obtain ⟨q, hq, hc'⟩ := (heldAbove_iff (Nat.lt_trans hm hlimit)).1 hheld
    rw [hsplit, List.getElem?_append_left hm] at hq
    rw [hbefore q (List.mem_of_getElem? hq)] at hc'
    cases hc'

/-- Where nothing is found the defaults hold, which are valid as well. -/
theorem Nearest.valid (h : Nearest (HeldAbove d start) c) : c.Valid := by
  cases h with
  | found _ hheld _ =>
    obtain ⟨dir, -, text, -, -, hvalid⟩ := hheld
    exact hvalid
  | defaults => exact valid_default

/-- The configuration of the directory `n` levels above that of the key. -/
def HeldUpward (d : Disk) (k : Key) (n : Nat) (c : Config) : Prop :=
  n ≤ k.length ∧ HeldUnder d (k.take (k.length - n)) c

/-- The path of a directory in which no step leads to a parent names those above it. -/
theorem heldAbove_iff_heldUpward {names : List String}
    (hstart : start.components = .root :: names.map .entry) (hdirectory : d.isDirectory start)
    (n : Nat) (c : Config) : HeldAbove d start n c ↔ HeldUpward d names n c := by
  obtain ⟨k, hlocate⟩ := Files.Disk.exists_locate_of_isDirectory hdirectory
  obtain ⟨-, hway⟩ := (Files.Disk.locate_names hstart).1 hlocate
  -- A directory above is a prefix of the names, and there are directories all the way.
  have hheld : ∀ {dir}, start.above? n = some dir → n ≤ names.length
      ∧ (HeldIn d dir c ↔ HeldUnder d (names.take (names.length - n)) c) := by
    intro dir hdir
    obtain ⟨hle, hcomponents⟩ := Path.above?_eq_some hstart hdir
    refine ⟨hle, heldIn_iff_heldUnder ((Files.Disk.locate_names hcomponents).2 ⟨rfl, ?_⟩)⟩
    intro j hj
    rw [List.take_take]
    exact hway _ (by omega)
  constructor
  · rintro ⟨dir, hdir, hc⟩
    exact ⟨(hheld hdir).1, (hheld hdir).2.1 hc⟩
  · rintro ⟨hle, hc⟩
    obtain ⟨dir, hdir⟩ := Path.exists_above? hstart hle
    exact ⟨dir, hdir, (hheld hdir).2.2 hc⟩

/-! ## The configuration of a run -/

/-- The configuration with what the arguments say instead. -/
def changedBy (a : CommandLine.Arguments) (c : Config) : Config :=
  { c with
    functionStart := a.functionStart.getD c.functionStart
    format := c.format && !a.noFormat }

/-- The configuration on which the arguments have their say: the one that was asked for, or the one
that holds for the directory. -/
def givenFor (h : Program.Host) (a : CommandLine.Arguments) (start : Path) : Except String Config :=
  match a.config with
  | some p => (ofFile h.disk p).mapError Error.message
  | none => .ok (discover h.disk start)

theorem configuration_eq (h : Program.Host) (a : CommandLine.Arguments) (start : Path) :
    CommandLine.configuration h a start
      = (givenFor h a start).bind fun c => (changedBy a c).checked.mapError Problem.message := by
  unfold CommandLine.configuration givenFor changedBy
  cases a.config <;> cases a.functionStart <;> cases a.noFormat <;>
    simp [bind, pure, Except.pure, Except.bind]

/-- The configuration of a run is valid, and the arguments have their say in it. -/
theorem of_configuration {h : Program.Host} {a : CommandLine.Arguments}
    (hc : CommandLine.configuration h a start = .ok c) :
    c.Valid ∧ (a.config = none → c = changedBy a (discover h.disk start)) := by
  rw [configuration_eq] at hc
  cases hgiven : givenFor h a start with
  | error reason =>
    rw [hgiven] at hc
    cases hc
  | ok base =>
    rw [hgiven] at hc
    change (changedBy a base).checked.mapError Problem.message = .ok c at hc
    cases hchecked : (changedBy a base).checked with
    | error problem =>
      rw [hchecked] at hc
      cases hc
    | ok c' =>
      rw [hchecked] at hc
      obtain rfl : c' = c := Except.ok.inj hc
      obtain ⟨rfl, hvalid⟩ := checked_eq_ok_iff.1 hchecked
      refine ⟨hvalid, fun hnone => ?_⟩
      obtain rfl : discover h.disk start = base := by simpa [givenFor, hnone] using hgiven
      rfl

/-- **Discovery.** The configuration that holds for a directory is the first right one in that
directory or above it, and the defaults if there is none. What is looked at are the directories
that are named by the path without its last components, ten at most. For the absolute path of a
directory in which no step leads to a parent these are the directory and those above it in the
tree. What is found is valid, and so is what the arguments make of it where a run goes on. -/
theorem discover_upward (d : Disk) (start : Path) :
    (∀ c, discover d start = c ↔ Nearest (HeldAbove d start) c)
      ∧ (∀ names, start.components = .root :: names.map .entry → d.isDirectory start →
        ∀ c, discover d start = c ↔ Nearest (HeldUpward d names) c)
      ∧ (discover d start).Valid
      ∧ ∀ (h : Program.Host) a c, CommandLine.configuration h a start = .ok c →
        c.Valid ∧ (a.config = none → c = changedBy a (discover h.disk start)) := by
  have hnearest : ∀ c, discover d start = c ↔ Nearest (HeldAbove d start) c := by
    intro c
    constructor
    · rintro rfl
      exact nearest_discover d start
    · refine (nearest_discover d start).unique fun n c c' => ?_
      rintro ⟨dir, hdir, hc⟩ ⟨dir', hdir', hc'⟩
      obtain rfl := Option.some.inj (hdir.symm.trans hdir')
      exact hc.unique hc'
  refine ⟨hnearest, fun names hstart hdirectory => ?_, (nearest_discover d start).valid,
    fun h a c => of_configuration⟩
  have hsame : HeldAbove d start = HeldUpward d names := by
    funext n c
    exact propext (heldAbove_iff_heldUpward hstart hdirectory n c)
  rwa [← hsame]

/-- Below the root a directory with a right configuration, and below it one with a wrong one. -/
def nestedSettings : Disk where
  tree := ⟨[
    (["a"], .directory),
    (["a", fileName], .file (.text "tag_key = \"low\"\n") false),
    (["a", "b"], .directory),
    (["a", "b", fileName], .file (.text "tag_key = [\n") false)]⟩
  cwd := []

/-- The arguments of a run with another beginning of names. -/
def renamingArguments : CommandLine.Arguments where
  input := ⟨"gen.go"⟩
  output := none
  config := none
  functionStart := some "Convert"
  noFormat := true
  stdout := false
  verbose := 0

theorem discover_upward_nested :
    (Path.mk "/a/b").components = .root :: ["a", "b"].map .entry
      ∧ nestedSettings.isDirectory ⟨"/a/b"⟩
      ∧ Nearest (HeldUpward nestedSettings ["a", "b"]) { tagKey := "low" }
      ∧ CommandLine.configuration ⟨nestedSettings, []⟩ renamingArguments ⟨"/a/b"⟩
        = .ok { tagKey := "low", functionStart := "Convert", format := false }
      ∧ ({ tagKey := "low", functionStart := "Convert", format := false } : Config).Valid := by
  have hstart : (Path.mk "/a/b").components = .root :: ["a", "b"].map .entry := by decide
  have hdirectory : nestedSettings.isDirectory ⟨"/a/b"⟩ = true := by decide
  have hconfig : CommandLine.configuration ⟨nestedSettings, []⟩ renamingArguments ⟨"/a/b"⟩
      = .ok { tagKey := "low", functionStart := "Convert", format := false } := by decide
  have hlow : discover nestedSettings ⟨"/a/b"⟩ = { tagKey := "low" } := by decide
  obtain ⟨-, hupward, -, hrun⟩ := discover_upward nestedSettings ⟨"/a/b"⟩
  exact ⟨hstart, hdirectory, (hupward _ hstart hdirectory _).1 hlow, hconfig,
    (hrun _ _ _ hconfig).1⟩

/-- A path that leads into a directory and out of it again ends in the root, and finds what is in
the directory below. -/
theorem discover_below_start :
    nestedSettings.locate ⟨"/a/.."⟩ = .ok ([], some .directory)
      ∧ discover nestedSettings ⟨"/a/.."⟩ = { tagKey := "low" }
      ∧ ¬ Nearest (HeldUpward nestedSettings []) (discover nestedSettings ⟨"/a/.."⟩) := by
  have hlow : discover nestedSettings ⟨"/a/.."⟩ = { tagKey := "low" } := by decide
  have hroot : ∀ n c, ¬ HeldUpward nestedSettings [] n c := by
    rintro n c ⟨-, text, executable, hfile, -⟩
    have hnone : nestedSettings.tree.find? [fileName] = none := by decide
    simp [hnone] at hfile
  refine ⟨by decide, hlow, fun h => ?_⟩
  rw [hlow] at h
  generalize hc : ({ tagKey := "low" } : Config) = c at h
  cases h with
  | found _ hheld _ => exact hroot _ _ hheld
  | defaults => exact absurd hc (by decide)

end Config
end StructFill
