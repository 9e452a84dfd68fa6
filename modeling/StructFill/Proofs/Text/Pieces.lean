import Mathlib.Data.List.Basic
import StructFill.Text

/-! # Pieces and separators

  Splitting a text and joining its pieces undo each other: a text is cut at
  each of its separators and nowhere else, and no piece has a separator.
-/

namespace StructFill.Text

/-! ## Joining -/

theorem join_append {sep : List Char} {ps qs : List (List Char)} (hp : ps ≠ []) (hq : qs ≠ []) :
    join sep (ps ++ qs) = join sep ps ++ sep ++ join sep qs := by
  induction ps with
  | nil => exact absurd rfl hp
  | cons p ps ih =>
    by_cases hps : ps = []
    · subst hps
      simp [join, List.intercalate_cons_of_ne_nil hq]
    · have hrest : ps ++ qs ≠ [] := by simp [hps]
      have hcons : ∀ rest, rest ≠ [] → join sep (p :: rest) = p ++ sep ++ join sep rest :=
        fun rest h => List.intercalate_cons_of_ne_nil h
      rw [List.cons_append, hcons _ hrest, hcons _ hps, ih hps]
      simp only [List.append_assoc]

/-- The first `n + 1` pieces, a separator, and the pieces after it. -/
theorem join_cut (sep : List Char) {ps : List (List Char)} {n : Nat} (h : n + 1 < ps.length) :
    join sep ps = join sep (ps.take (n + 1)) ++ sep ++ join sep (ps.drop (n + 1)) := by
  have htake : ps.take (n + 1) ≠ [] := by
    apply List.ne_nil_of_length_pos
    simp only [List.length_take]
    omega
  have hdrop : ps.drop (n + 1) ≠ [] := by
    apply List.ne_nil_of_length_pos
    simp only [List.length_drop]
    omega
  rw [← join_append htake hdrop, List.take_append_drop]

/-! ## Splitting -/

variable {sep : Char → Bool}

/-- A text is cut at each separator, so the pieces of its two sides come one after the other. -/
theorem splitOn_append {c : Char} (hc : sep c = true) (as bs : List Char) :
    splitOn sep (as ++ c :: bs) = splitOn sep as ++ splitOn sep bs := by
  induction as with
  | nil =>
    rw [List.nil_append, splitOn]
    cases hbs : splitOn sep bs with
    | nil => exact absurd hbs (splitOn_ne_nil sep bs)
    | cons p ps => simp [hc, hbs, splitOn]
  | cons a as ih =>
    rw [List.cons_append, splitOn, ih, splitOn]
    cases has : splitOn sep as with
    | nil => exact absurd has (splitOn_ne_nil sep as)
    | cons p ps =>
      dsimp only [List.cons_append]
      split <;> rfl

/-- A text without separators is one piece. -/
theorem splitOn_of_forall {cs : List Char} (h : ∀ c ∈ cs, sep c = false) :
    splitOn sep cs = [cs] := by
  induction cs with
  | nil => rfl
  | cons c cs ih =>
    have hc : sep c = false := h c List.mem_cons_self
    rw [splitOn, ih fun c hc => h c (List.mem_cons_of_mem _ hc)]
    simp [hc]

/-- The pieces of a text have no separators. -/
theorem eq_false_of_mem_splitOn {cs p : List Char} (hp : p ∈ splitOn sep cs) :
    ∀ c ∈ p, sep c = false := by
  induction cs generalizing p with
  | nil =>
    obtain rfl : p = [] := by simpa [splitOn] using hp
    simp
  | cons x cs ih =>
    rw [splitOn] at hp
    cases hcs : splitOn sep cs with
    | nil => exact absurd hcs (splitOn_ne_nil sep cs)
    | cons q qs =>
      rw [hcs] at hp ih
      dsimp only at hp
      -- A separator begins a new piece, which is empty. Any other character joins the first piece.
      split at hp
      next =>
        rcases List.mem_cons.1 hp with rfl | hp
        · simp
        · exact ih hp
      next hx =>
        rcases List.mem_cons.1 hp with rfl | hp
        · intro c hc
          rcases List.mem_cons.1 hc with rfl | hc
          · simpa using hx
          · exact ih List.mem_cons_self c hc
        · exact ih (List.mem_cons_of_mem _ hp)

/-- Splitting loses nothing but the separators. -/
theorem join_splitOn {c : Char} (hsep : ∀ x, sep x = true → x = c)
    (cs : List Char) : join [c] (splitOn sep cs) = cs := by
  induction cs with
  | nil => rfl
  | cons x cs ih =>
    rw [splitOn]
    cases hsplit : splitOn sep cs with
    | nil => exact absurd hsplit (splitOn_ne_nil sep cs)
    | cons p ps =>
      rw [hsplit] at ih
      dsimp only
      split
      next hx =>
        obtain rfl := hsep x hx
        rw [← ih]
        simp [join]
      next =>
        rw [← ih]
        simp [join]

/-- Pieces that are joined by a separator are found again. -/
theorem splitOn_join {c : Char} (hc : sep c = true) {ps : List (List Char)} (hps : ps ≠ [])
    (h : ∀ p ∈ ps, ∀ x ∈ p, sep x = false) : splitOn sep (join [c] ps) = ps := by
  induction ps with
  | nil => exact absurd rfl hps
  | cons p ps ih =>
    have hp : splitOn sep p = [p] := splitOn_of_forall (h p List.mem_cons_self)
    by_cases hnil : ps = []
    · subst hnil
      simpa [join] using hp
    · have hjoin : join [c] (p :: ps) = p ++ c :: join [c] ps := by
        rw [join, List.intercalate_cons_of_ne_nil hnil]
        simp [join]
      rw [hjoin, splitOn_append hc, hp, ih hnil fun q hq => h q (List.mem_cons_of_mem _ hq)]
      rfl

/-! ## Cutting -/

theorem eq_of_cutFirst? {c : Char} {cs as bs : List Char} (h : cutFirst? c cs = some (as, bs)) :
    cs = as ++ c :: bs := by
  induction cs generalizing as with
  | nil => cases h
  | cons x cs ih =>
    rw [cutFirst?] at h
    split at h
    next hx =>
      obtain ⟨rfl, rfl⟩ := Prod.mk.inj (Option.some.inj h)
      rw [hx, List.nil_append]
    next =>
      obtain ⟨⟨as', bs'⟩, hcut, hpair⟩ := Option.map_eq_some_iff.1 h
      obtain ⟨rfl, rfl⟩ := Prod.mk.inj hpair
      rw [ih hcut, List.cons_append]

/-- A text that is cut is what comes before the cut, the word, and what comes behind it. -/
theorem eq_of_cutLast? {word cs as bs : List Char} (h : cutLast? word cs = some (as, bs)) :
    cs = as ++ word ++ bs := by
  induction cs generalizing as with
  | nil => cases h
  | cons c cs ih =>
    rw [cutLast?] at h
    split at h
    next a b hcut =>
      obtain ⟨rfl, rfl⟩ := Prod.mk.inj (Option.some.inj h)
      rw [ih hcut]
      rfl
    next =>
      obtain ⟨rest, hrest, hpair⟩ := Option.map_eq_some_iff.1 h
      obtain ⟨rfl, rfl⟩ := Prod.mk.inj hpair
      exact (List.isPrefixOf?_eq_some_iff_append_eq.1 hrest).symm

end StructFill.Text
