import StructFill.Path
import StructFill.Proofs.Text.Pieces

/-! # Components of joined paths

  A path is cut at its slashes, and everything that is known about it is read
  off the pieces. So a name that is joined to a path adds one component behind
  those of the path, and what lies before the last component of a path is its
  parent.

  A name is **plain** if it is one piece that stands for an entry: it has no
  slash, is not empty, and is neither a dot nor the step to a parent.
-/

namespace StructFill

namespace Path

/-! ## Pieces -/

/-- The pieces of a path between its slashes. -/
def pieces (p : Path) : List (List Char) := Text.splitOn isSlash p.text.toList

/-- The component in front of all pieces: the root, or the dot of a relative path. -/
def frontSteps : List (List Char) → List (Component × List Char)
  | [] :: _ :: _ => [(.root, ['/'])]
  | ['.'] :: _ => [(.here, ['.'])]
  | _ => []

theorem isAbsolute_iff (p : Path) : p.isAbsolute = true ↔ ∃ q qs, p.pieces = [] :: q :: qs := by
  unfold isAbsolute pieces
  cases p.text.toList with
  | nil => simp [Text.splitOn]
  | cons c cs =>
    rw [Text.splitOn]
    cases hcs : Text.splitOn isSlash cs with
    | nil => exact absurd hcs (Text.splitOn_ne_nil _ _)
    | cons q qs =>
      by_cases hc : c = '/'
      · subst hc
        simp [isSlash]
      · simp [isSlash, hc]

/-- The steps of a path, from its pieces. -/
theorem steps_eq (p : Path) :
    p.steps = frontSteps p.pieces
      ++ (piecesAfter [] p.pieces).filterMap fun x => (pieceComponent? x.1).map (·, x.2) := by
  have habsolute := p.isAbsolute_iff
  unfold steps
  rw [show Text.splitOn isSlash p.text.toList = p.pieces from rfl]
  rcases hpieces : p.pieces with _ | ⟨piece, rest⟩
  · exact absurd hpieces (Text.splitOn_ne_nil _ _)
  rw [hpieces] at habsolute
  split
  next h =>
    obtain ⟨q, qs, hcons⟩ := habsolute.1 h
    obtain ⟨rfl, rfl⟩ := List.cons.inj hcons
    rfl
  next h =>
    rcases rest with _ | ⟨q, qs⟩
    · by_cases hdot : piece = ['.'] <;> simp [piecesAfter, frontSteps, hdot]
    · have hne : piece ≠ [] := by
        rintro rfl
        exact h (habsolute.2 ⟨q, qs, rfl⟩)
      by_cases hdot : piece = ['.'] <;> simp [piecesAfter, frontSteps, hdot, hne]

theorem map_fst_piecesAfter (before : List Char) (ps : List (List Char)) :
    (piecesAfter before ps).map Prod.fst = ps := by
  induction ps generalizing before with
  | nil => rfl
  | cons p ps ih => simp [piecesAfter, ih]

theorem map_fst_filterMap (ps : List (List Char × List Char)) :
    (ps.filterMap fun x => (pieceComponent? x.1).map (·, x.2)).map Prod.fst
      = (ps.map Prod.fst).filterMap pieceComponent? := by
  rw [List.map_filterMap, List.filterMap_map]
  congr 1
  funext x
  cases h : pieceComponent? x.1 <;> simp [h]

/-- The components of a path, from its pieces. -/
theorem components_eq (p : Path) :
    p.components
      = (frontSteps p.pieces).map Prod.fst ++ p.pieces.filterMap pieceComponent? := by
  rw [components, steps_eq, List.map_append, map_fst_filterMap, map_fst_piecesAfter]

/-- At the front of a relative path there is at most the dot. -/
theorem frontSteps_of_relative {q : Path} (hq : q.isAbsolute = false) :
    (frontSteps q.pieces).map Prod.fst = [] ∨ (frontSteps q.pieces).map Prod.fst = [.here] := by
  have hnot : ¬ ∃ q' qs, q.pieces = [] :: q' :: qs := by
    rw [← isAbsolute_iff, hq]
    simp
  unfold frontSteps
  split
  next q' qs hpieces => exact absurd ⟨_, _, hpieces⟩ hnot
  · exact .inr rfl
  · exact .inl rfl

/-- No piece stands for the root. -/
theorem root_notMem_filterMap (pieces : List (List Char)) :
    .root ∉ pieces.filterMap pieceComponent? := by
  intro hmem
  obtain ⟨piece, -, hpiece⟩ := List.mem_filterMap.1 hmem
  unfold pieceComponent? at hpiece
  split at hpiece
  · cases hpiece
  · split at hpiece <;> cases hpiece

/-- Only an absolute path has the root as a component, and the others are those of its pieces. -/
theorem of_components_eq_root_cons {p : Path} {cs : List Component}
    (h : p.components = .root :: cs) :
    p.isAbsolute = true ∧ p.pieces.filterMap pieceComponent? = cs := by
  rw [components_eq] at h
  by_cases habsolute : p.isAbsolute = true
  · obtain ⟨q, qs, hpieces⟩ := p.isAbsolute_iff.1 habsolute
    rw [hpieces] at h ⊢
    exact ⟨habsolute, (List.cons.inj h).2⟩
  · have hroot := root_notMem_filterMap p.pieces
    rcases frontSteps_of_relative (by simpa using habsolute) with hfront | hfront
    · rw [hfront, List.nil_append] at h
      simp [h] at hroot
    · simp [hfront] at h

/-! ## Names behind a path -/

/-- A name that stands for an entry of a directory. -/
structure Plain (n : String) : Prop where
  noSlash : ∀ c ∈ n.toList, isSlash c = false
  entry : pieceComponent? n.toList = some (.entry n)

instance (n : String) : Decidable (Plain n) :=
  decidable_of_iff
    ((n.toList.all fun c => !isSlash c) = true ∧ pieceComponent? n.toList = some (.entry n))
    ⟨fun h => ⟨by simpa using h.1, h.2⟩, fun h => ⟨by simpa using h.noSlash, h.entry⟩⟩

/-- A name without a slash is plain if it has more characters than the step to a parent. -/
theorem plain_of_length {n : String} (hslash : ∀ c ∈ n.toList, isSlash c = false)
    (hlength : 2 < n.toList.length) : Plain n where
  noSlash := hslash
  entry := by
    have hblank : n.toList ≠ [] := by intro h; simp [h] at hlength
    have hdot : n.toList ≠ ['.'] := by intro h; simp [h] at hlength
    have hup : n.toList ≠ ['.', '.'] := by intro h; simp [h] at hlength
    simp [pieceComponent?, hblank, hdot, hup]

theorem Plain.pieces {n : String} (hn : Plain n) : (Path.mk n).pieces = [n.toList] :=
  Text.splitOn_of_forall hn.noSlash

theorem Plain.not_isAbsolute {n : String} (hn : Plain n) : (Path.mk n).isAbsolute = false := by
  have hnot : ¬ (Path.mk n).isAbsolute = true := by
    rw [isAbsolute_iff, hn.pieces]
    simp
  simpa using hnot

/-- A plain name alone is one entry. -/
theorem Plain.components {n : String} (hn : Plain n) : (Path.mk n).components = [.entry n] := by
  have hdot : n.toList ≠ ['.'] := by
    intro h
    have hentry := hn.entry
    simp [pieceComponent?, h] at hentry
  rw [components_eq, hn.pieces]
  simp [frontSteps, hdot, hn.entry]

theorem pieces_append (as bs : List Char) :
    (Path.mk (String.ofList (as ++ '/' :: bs))).pieces
      = Text.splitOn isSlash as ++ Text.splitOn isSlash bs := by
  rw [pieces, String.toList_ofList, Text.splitOn_append (by rfl)]

/-- A slash at the end adds nothing to a path, unless it is the root. -/
theorem components_append_slash {as : List Char} (has : as ≠ []) :
    (Path.mk (String.ofList (as ++ ['/']))).components
      = (Path.mk (String.ofList as)).components := by
  have hpieces : (Path.mk (String.ofList as)).pieces = Text.splitOn isSlash as := by
    rw [pieces, String.toList_ofList]
  rw [components_eq, components_eq, pieces_append, hpieces]
  have hfront : frontSteps (Text.splitOn isSlash as ++ [[]])
      = frontSteps (Text.splitOn isSlash as) := by
    rcases h : Text.splitOn isSlash as with _ | ⟨p, _ | ⟨q, qs⟩⟩
    · exact absurd h (Text.splitOn_ne_nil _ _)
    · -- Only the empty text is one empty piece.
      have hne : p ≠ [] := by
        rintro rfl
        have hjoin : Text.join ['/'] (Text.splitOn isSlash as) = as :=
          Text.join_splitOn (by simp [isSlash]) as
        rw [h] at hjoin
        exact has hjoin.symm
      by_cases hdot : p = ['.'] <;> simp [frontSteps, hne, hdot]
    · by_cases hne : p = [] <;> by_cases hdot : p = ['.'] <;> simp [frontSteps, hne, hdot]
  simp [Text.splitOn, hfront, pieceComponent?]

/-- What comes behind a slash adds the components of its pieces. -/
theorem components_append (as bs : List Char) :
    (Path.mk (String.ofList (as ++ '/' :: bs))).components
      = (Path.mk (String.ofList (as ++ ['/']))).components
        ++ (Text.splitOn isSlash bs).filterMap pieceComponent? := by
  -- What stands in front of all pieces depends on the first piece, and on whether there is another.
  have hfront : ∀ qs : List (List Char), qs ≠ [] → frontSteps (Text.splitOn isSlash as ++ qs)
      = frontSteps (Text.splitOn isSlash as ++ [[]]) := by
    intro qs hqs
    obtain ⟨r, rs, rfl⟩ := List.exists_cons_of_ne_nil hqs
    rcases h : Text.splitOn isSlash as with _ | ⟨p, _ | ⟨q, ps⟩⟩
    · exact absurd h (Text.splitOn_ne_nil _ _)
    all_goals by_cases hne : p = [] <;> by_cases hdot : p = ['.'] <;> simp [frontSteps, hne, hdot]
  have hblank : Text.splitOn isSlash [] = [[]] := rfl
  have hskipped : pieceComponent? [] = none := rfl
  rw [components_eq, components_eq, pieces_append, pieces_append,
    hfront _ (Text.splitOn_ne_nil _ _), hblank]
  simp [hskipped]

/-- A plain name behind a slash adds its entry. -/
theorem components_append_plain (as : List Char) {n : String} (hn : Plain n) :
    (Path.mk (String.ofList (as ++ '/' :: n.toList))).components
      = (Path.mk (String.ofList (as ++ ['/']))).components ++ [.entry n] := by
  rw [components_append, Text.splitOn_of_forall hn.noSlash]
  simp [hn.entry]

/-- A relative path that is joined comes behind the components of the path. Its leading dot is
dropped. -/
theorem components_join {p q : Path} (hp : p.text ≠ "") (hq : q.isAbsolute = false) :
    (p.join q).components = p.components ++ q.pieces.filterMap pieceComponent? := by
  have htext : ∀ q : Path, q = ⟨String.ofList q.text.toList⟩ := fun q => by simp
  unfold join
  rw [hq, if_neg (by simp)]
  split
  next h =>
    -- The slash is there already.
    obtain ⟨as, has⟩ := List.getLast?_eq_some_iff.1 (h.resolve_left hp)
    have hjoined : p.text ++ q.text = String.ofList (as ++ '/' :: q.text.toList) := by
      apply String.toList_injective
      simp [has]
    rw [hjoined, components_append, htext p, has]
    rfl
  next h =>
    have hne : p.text.toList ≠ [] := by simpa using hp
    have hjoined : p.text ++ "/" ++ q.text
        = String.ofList (p.text.toList ++ '/' :: q.text.toList) := by
      apply String.toList_injective
      simp
    rw [hjoined, components_append, components_append_slash hne, ← htext p]
    rfl

/-- A joined name comes behind the components of the path. -/
theorem components_joinName (p : Path) {n : String} (hn : Plain n) :
    (p.joinName n).components = p.components ++ [.entry n] := by
  unfold joinName
  by_cases hp : p.text = ""
  · obtain rfl : p = ⟨""⟩ := by rw [← hp]
    have hnone : (Path.mk "").components = [] := rfl
    simpa [join, hn.not_isAbsolute, hnone] using hn.components
  · rw [components_join hp hn.not_isAbsolute, hn.pieces]
    simp [hn.entry]

/-- What follows the name that is joined comes behind it. -/
theorem joinName_append (p : Path) {a : String} (ha : a ≠ "")
    (hrelative : (Path.mk a).isAbsolute = false) (b : String) :
    p.joinName (a ++ b) = ⟨(p.joinName a).text ++ b⟩ := by
  have hrelative' : (Path.mk (a ++ b)).isAbsolute = false := by
    unfold isAbsolute at hrelative ⊢
    have hne : a.toList ≠ [] := by simpa using ha
    obtain ⟨c, cs, hcs⟩ := List.exists_cons_of_ne_nil hne
    simpa [hcs] using hrelative
  simp only [joinName, join, hrelative, hrelative', Bool.false_eq_true, if_false]
  split <;> simp [String.append_assoc]

theorem joinName_ne_blank (p : Path) {a : String} (ha : a ≠ "") : (p.joinName a).text ≠ "" := by
  unfold joinName join
  split
  · exact ha
  · split <;> simp [ha]

/-- A relative name and a plain one that are joined at once are joined one after the other. -/
theorem components_joinName_nested (p : Path) {a n : String} (ha : a ≠ "")
    (hrelative : (Path.mk a).isAbsolute = false) (hn : Plain n) :
    (p.joinName (a ++ "/" ++ n)).components = (p.joinName a).components ++ [.entry n] := by
  have hjoined : p.joinName (a ++ "/" ++ n)
      = ⟨String.ofList ((p.joinName a).text.toList ++ '/' :: n.toList)⟩ := by
    rw [String.append_assoc, joinName_append p ha hrelative]
    apply congrArg Path.mk
    apply String.toList_injective
    simp
  have hne : (p.joinName a).text.toList ≠ [] := by simpa using joinName_ne_blank p ha
  rw [hjoined, components_append_plain _ hn, components_append_slash hne]
  simp

/-! ## Parents -/

/-- A piece comes with the text up to its end. -/
theorem piecesAfter_eq_append {before : List Char} {ps : List (List Char)}
    {xs ys : List (List Char × List Char)} {x : List Char × List Char}
    (h : piecesAfter before ps = xs ++ x :: ys) :
    (∃ qs, ps = xs.map Prod.fst ++ x.1 :: qs)
      ∧ x.2 = before ++ Text.join ['/'] (xs.map Prod.fst ++ [x.1]) := by
  induction xs generalizing before ps with
  | nil =>
    rcases ps with _ | ⟨p, ps⟩
    · cases h
    · obtain ⟨rfl, -⟩ := List.cons.inj h
      exact ⟨⟨ps, rfl⟩, by simp [Text.join]⟩
  | cons y xs ih =>
    rcases ps with _ | ⟨p, ps⟩
    · cases h
    · obtain ⟨rfl, hrest⟩ := List.cons.inj h
      obtain ⟨⟨qs, rfl⟩, htext⟩ := ih hrest
      refine ⟨⟨qs, rfl⟩, ?_⟩
      have hjoin : Text.join ['/'] ([p] ++ (xs.map Prod.fst ++ [x.1]))
          = Text.join ['/'] [p] ++ ['/'] ++ Text.join ['/'] (xs.map Prod.fst ++ [x.1]) :=
        Text.join_append (by simp) (by simp)
      rw [htext]
      simp only [List.map_cons, List.cons_append, List.nil_append] at hjoin ⊢
      rw [hjoin]
      simp [Text.join]

/-- What comes after a piece that counts does not change the front of a path. -/
theorem frontSteps_append {piece : List Char} {c : Component} (hc : pieceComponent? piece = some c)
    (ps qs : List (List Char)) :
    frontSteps (ps ++ piece :: qs) = frontSteps (ps ++ [piece]) := by
  have hblank : piece ≠ [] := by rintro rfl; simp [pieceComponent?] at hc
  have hdot : piece ≠ ['.'] := by rintro rfl; simp [pieceComponent?] at hc
  rcases ps with _ | ⟨p, _ | ⟨p', ps⟩⟩
  · simp [frontSteps, hblank, hdot]
  all_goals by_cases hne : p = [] <;> by_cases hone : p = ['.'] <;> simp [frontSteps, hne, hone]

/-- The text up to the end of a piece has the pieces up to it. -/
theorem pieces_of_piece {p : Path} {xs ys : List (List Char × List Char)} {x : List Char × List Char}
    (h : piecesAfter [] p.pieces = xs ++ x :: ys) :
    (Path.mk (String.ofList x.2)).pieces = xs.map Prod.fst ++ [x.1] := by
  obtain ⟨⟨qs, hps⟩, htext⟩ := piecesAfter_eq_append h
  rw [pieces, String.toList_ofList, htext, List.nil_append]
  refine Text.splitOn_join (by rfl) (by simp) fun piece hmem => ?_
  -- There is no slash in a piece of the path.
  have hpath : piece ∈ Text.splitOn isSlash p.text.toList := by
    change piece ∈ p.pieces
    rw [hps]
    simp only [List.mem_append, List.mem_cons, List.not_mem_nil, or_false] at hmem ⊢
    exact hmem.imp_right .inl
  exact Text.eq_false_of_mem_splitOn hpath

/-- The text up to a piece that counts has the components up to it, behind those of the front. -/
theorem components_of_piece {p : Path} {xs ys : List (Component × List Char)} {c : Component}
    {upTo : List Char}
    (h : (piecesAfter [] p.pieces).filterMap (fun x => (pieceComponent? x.1).map (·, x.2))
      = xs ++ (c, upTo) :: ys) :
    (Path.mk (String.ofList upTo)).components
      = (frontSteps p.pieces).map Prod.fst ++ xs.map Prod.fst ++ [c] := by
  obtain ⟨as, bs, hpieces, rfl, hbs⟩ := List.filterMap_eq_append_iff.1 h
  obtain ⟨skipped, x, rest, rfl, hskipped, hx, -⟩ := List.filterMap_eq_cons_iff.1 hbs
  obtain ⟨c', hc, hpair⟩ := Option.map_eq_some_iff.1 hx
  obtain ⟨rfl, rfl⟩ := Prod.mk.inj hpair
  rw [← List.append_assoc] at hpieces
  have hnone : (skipped.map Prod.fst).filterMap pieceComponent? = [] := by
    rw [List.filterMap_eq_nil_iff]
    intro piece hmem
    obtain ⟨y, hy, rfl⟩ := List.mem_map.1 hmem
    simpa using hskipped y hy
  obtain ⟨⟨qs, hps⟩, -⟩ := piecesAfter_eq_append hpieces
  have hfront := frontSteps_append hc ((as ++ skipped).map Prod.fst) qs
  rw [components_eq, pieces_of_piece hpieces, hps, hfront, map_fst_filterMap]
  simp [List.filterMap_append, hnone, hc]

/-- The text up to a step has the components up to it. -/
theorem components_of_step {p : Path} {before after : List (Component × List Char)}
    {c : Component} {upTo : List Char} (h : p.steps = before ++ (c, upTo) :: after) :
    (Path.mk (String.ofList upTo)).components = before.map Prod.fst ++ [c] := by
  rw [steps_eq] at h
  rcases hfront : frontSteps p.pieces with _ | ⟨f, _ | ⟨f', fs⟩⟩
  · rw [hfront] at h
    simpa [hfront] using components_of_piece h
  · rw [hfront] at h
    rcases before with _ | ⟨b, before⟩
    · -- The step is that of the front itself, of which there are two.
      obtain ⟨rfl, -⟩ := List.cons.inj h
      unfold frontSteps at hfront
      split at hfront
      · obtain ⟨rfl, rfl⟩ : Component.root = c ∧ ['/'] = upTo := by simpa using hfront
        rfl
      · obtain ⟨rfl, rfl⟩ : Component.here = c ∧ ['.'] = upTo := by simpa using hfront
        rfl
      · cases hfront
    · obtain ⟨rfl, hrest⟩ := List.cons.inj h
      simpa [hfront] using components_of_piece hrest
  · unfold frontSteps at hfront
    split at hfront <;> simp at hfront

/-- The parent of a path has all components but the last one. -/
theorem components_of_parent? {p q : Path} (h : p.parent? = some q) :
    q.components = p.components.dropLast := by
  have hlast : ∀ {step rest}, p.steps.reverse = step :: rest → p.steps = rest.reverse ++ [step] := by
    intro step rest hsteps
    rw [← List.reverse_reverse p.steps, hsteps, List.reverse_cons]
  unfold parent? at h
  split at h
  · cases h
  · cases h
  next step _ hsteps =>
    obtain rfl := Option.some.inj h
    rw [components, components, hlast hsteps]
    rfl
  next step c upTo rest _ hsteps =>
    obtain rfl := Option.some.inj h
    have hsplit : p.steps = rest.reverse ++ (c, upTo) :: [step] := by
      rw [hlast hsteps]
      simp
    rw [components_of_step hsplit, components, hsplit]
    simp

/-- Neither the root nor a path without components has a parent. -/
theorem parent?_eq_none_iff {p : Path} :
    p.parent? = none ↔ p.components = [] ∨ p.components.getLast? = some .root := by
  have hhead : p.components.getLast? = p.steps.reverse.head?.map Prod.fst := by
    rw [List.head?_reverse, components, List.getLast?_map]
  have hnil : p.components = [] ↔ p.steps.reverse = [] := by simp [components]
  rw [hhead, hnil, parent?]
  rcases p.steps.reverse with _ | ⟨⟨c, upTo⟩, _ | ⟨step, rest⟩⟩
  · simp
  all_goals cases c <;> simp

/-- A path that leads to a named entry leads to its parent before. -/
theorem components_of_fileName {p : Path} {n : String} (h : p.fileName? = some n) :
    ∃ q, p.parent? = some q ∧ p.components = q.components ++ [.entry n] := by
  have hlast : p.components.getLast? = some (.entry n) := by
    unfold fileName? at h
    split at h
    next name hname =>
      obtain rfl := Option.some.inj h
      exact hname
    next => cases h
  obtain ⟨before, hcomponents⟩ := List.getLast?_eq_some_iff.1 hlast
  obtain ⟨q, hq⟩ : ∃ q, p.parent? = some q := by
    rw [← Option.ne_none_iff_exists', ne_eq, parent?_eq_none_iff, hlast, hcomponents]
    simp
  refine ⟨q, hq, ?_⟩
  rw [components_of_parent? hq, hcomponents, List.dropLast_concat]

end Path
end StructFill
