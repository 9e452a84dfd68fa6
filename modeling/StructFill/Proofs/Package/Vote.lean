import Mathlib.Data.List.MinMax
import StructFill.Package.Directory
import StructFill.Proofs.Files.Writing

/-! # The vote on the name of a package

  The vote keeps a counter for each name, in the order of the first votes, and
  takes the last of the largest counters from the end. So it is the first of
  the names with the most votes that is chosen: `majority?_eq_argmax`.

  What follows from that does not mention counters any more: nobody has more
  votes, of the names with as many votes none comes first, and one more vote
  for the name that was chosen changes nothing.
-/

namespace StructFill.Package

/-! ## The names, in the order of their first votes -/

theorem eraseDups_concat_of_mem {name : String} {names : List String} (h : name ∈ names) :
    (names ++ [name]).eraseDups = names.eraseDups := by
  have hnew : [name].removeAll names = [] := by simp [List.removeAll, h]
  rw [List.eraseDups_append, hnew, List.eraseDups_nil, List.append_nil]

theorem eraseDups_concat_of_notMem {name : String} {names : List String} (h : name ∉ names) :
    (names ++ [name]).eraseDups = names.eraseDups ++ [name] := by
  have hnew : ([name].removeAll names).eraseDups = [name] := by
    simp [List.removeAll, h, List.eraseDups_cons]
  rw [List.eraseDups_append, hnew]

/-! ## The counters -/

theorem castVote_of_notMem {name : String} {names : List String} (votes : String → Nat)
    (h : name ∉ names) :
    castVote name (names.map fun a => (a, votes a))
      = names.map (fun a => (a, votes a)) ++ [(name, 1)] := by
  induction names with
  | nil => rfl
  | cons a names ih =>
    have hne : a ≠ name := fun ha => h (ha ▸ List.mem_cons_self)
    have hnot : name ∉ names := fun hmem => h (List.mem_cons_of_mem a hmem)
    simp only [List.map_cons, castVote, if_neg hne, ih hnot, List.cons_append]

theorem castVote_of_mem {name : String} {names : List String} (votes : String → Nat)
    (h : name ∈ names) (hnodup : names.Nodup) :
    castVote name (names.map fun a => (a, votes a))
      = names.map fun a => (a, if a = name then votes a + 1 else votes a) := by
  induction names with
  | nil => cases h
  | cons a names ih =>
    obtain ⟨hnot, hnodup⟩ := List.nodup_cons.1 hnodup
    by_cases ha : a = name
    · -- The other names are different, so that their counters stay.
      have hrest : ∀ b ∈ names, (b, votes b) = (b, if b = name then votes b + 1 else votes b) := by
        intro b hb
        have hb' : b ≠ name := fun hname => hnot (by rwa [ha, ← hname])
        rw [if_neg hb']
      simp only [List.map_cons, castVote, if_pos ha, List.map_congr_left hrest]
    · have hmem := (List.mem_cons.1 h).resolve_left (Ne.symm ha)
      simp only [List.map_cons, castVote, if_neg ha, ih hmem hnodup]

/-- Each name that was voted for has one counter, with all its votes. -/
theorem tally_eq (names : List String) :
    tally names = names.eraseDups.map fun a => (a, names.count a) := by
  induction names using List.reverseRecOn with
  | nil => rfl
  | append_singleton names name ih =>
    have hstep : tally (names ++ [name]) = castVote name (tally names) := by
      simp only [tally, List.foldl_append, List.foldl_cons, List.foldl_nil]
    have hcount : ∀ a, (names ++ [name]).count a
        = if a = name then names.count a + 1 else names.count a := by
      intro a
      by_cases ha : a = name
      · simp [ha]
      · simp [ha, Ne.symm ha]
    rw [hstep, ih]
    simp only [hcount]
    by_cases hmem : name ∈ names
    · rw [castVote_of_mem _ (List.mem_eraseDups.2 hmem) (Files.Tree.nodup_eraseDups names),
        eraseDups_concat_of_mem hmem]
    · have hkept : ∀ a ∈ names.eraseDups, (a, names.count a)
          = (a, if a = name then names.count a + 1 else names.count a) := by
        intro a ha
        have ha' : a ≠ name := fun hname => hmem (hname ▸ List.mem_eraseDups.1 ha)
        rw [if_neg ha']
      rw [castVote_of_notMem _ fun h => hmem (List.mem_eraseDups.1 h),
        eraseDups_concat_of_notMem hmem, List.map_congr_left hkept]
      simp [List.count_eq_zero_of_not_mem hmem]

/-! ## The largest counter -/

theorem lastLargest?_concat (counters : List (String × Nat)) (last : String × Nat) :
    lastLargest? (counters ++ [last])
      = some (match lastLargest? counters with
        | none => last
        | some best => if last.2 < best.2 then best else last) := by
  cases counters with
  | nil => rfl
  | cons first counters => simp [lastLargest?, List.foldl_append]

theorem lastLargest?_reverse (votes : String → Nat) (names : List String) :
    lastLargest? (names.map fun a => (a, votes a)).reverse
      = (names.argmax votes).map fun a => (a, votes a) := by
  induction names with
  | nil => rfl
  | cons a names ih =>
    rw [List.map_cons, List.reverse_cons, lastLargest?_concat, ih, List.argmax_cons]
    cases names.argmax votes with
    | none => rfl
    | some b =>
      by_cases h : votes a < votes b
      · simp [h]
      · simp [h]

/-- A name that comes once more is not chosen for that. -/
theorem argmax_eraseDups (votes : String → Nat) (names : List String) :
    names.eraseDups.argmax votes = names.argmax votes := by
  induction names using List.reverseRecOn with
  | nil => rfl
  | append_singleton names name ih =>
    rw [List.argmax_concat]
    by_cases hmem : name ∈ names
    · rw [eraseDups_concat_of_mem hmem, ih]
      cases hbest : names.argmax votes with
      | none =>
        rw [List.argmax_eq_none.1 hbest] at hmem
        cases hmem
      | some best =>
        have hle := List.le_of_mem_argmax hmem hbest
        simp only [if_neg (Nat.not_lt.2 hle)]
    · rw [eraseDups_concat_of_notMem hmem, List.argmax_concat, ih]

/-! ## The name that is chosen -/

/-- The vote gives the first of the names that are voted for most. -/
theorem majority?_eq_argmax (names : List String) :
    majority? names = names.argmax fun a => names.count a := by
  unfold majority?
  rw [tally_eq, lastLargest?_reverse, argmax_eraseDups, Option.map_map]
  exact Option.map_id_apply

variable {names : List String} {a b : String}

theorem majority?_nil : majority? [] = none := rfl

theorem majority?_singleton (a : String) : majority? [a] = some a := rfl

theorem exists_majority? (h : names ≠ []) : ∃ a, majority? names = some a := by
  rw [majority?_eq_argmax]
  exact Option.ne_none_iff_exists'.1 fun hnone => h (List.argmax_eq_none.1 hnone)

theorem mem_of_majority? (h : majority? names = some a) : a ∈ names := by
  rw [majority?_eq_argmax] at h
  exact List.argmax_mem h

/-- No name has more votes than the one that is chosen. -/
theorem count_le_of_majority? (h : majority? names = some a) (b : String) :
    names.count b ≤ names.count a := by
  rw [majority?_eq_argmax] at h
  by_cases hb : b ∈ names
  · exact List.le_of_mem_argmax hb h
  · rw [List.count_eq_zero_of_not_mem hb]
    exact Nat.zero_le _

/-- Of the names with as many votes as the one that is chosen, none comes before it. -/
theorem idxOf_le_of_majority? (h : majority? names = some a) (hb : names.count b = names.count a) :
    names.idxOf a ≤ names.idxOf b := by
  rw [majority?_eq_argmax] at h
  by_cases hmem : b ∈ names
  · exact List.index_of_argmax h hmem hb.ge
  · rw [List.idxOf_of_notMem hmem]
    exact List.idxOf_le_length

/-- A name with more votes than any other is chosen. -/
theorem majority?_of_count_lt (ha : a ∈ names) (h : ∀ b ≠ a, names.count b < names.count a) :
    majority? names = some a := by
  obtain ⟨c, hc⟩ := exists_majority? (List.ne_nil_of_mem ha)
  by_cases hca : c = a
  · rw [hc, hca]
  · have hlt := h c hca
    have hle := count_le_of_majority? hc a
    omega

/-- One more vote for the name that was chosen does not change the choice. -/
theorem majority?_insert {before after : List String}
    (h : majority? (before ++ after) = some a) : majority? (before ++ a :: after) = some a := by
  apply majority?_of_count_lt
  · simp
  · intro b hb
    have hle := count_le_of_majority? h b
    have hne : (a == b) = false := by simpa using hb.symm
    simp only [List.count_append, List.count_cons, hne, beq_self_eq_true] at hle ⊢
    simp only [if_true, Bool.false_eq_true, if_false]
    omega

end StructFill.Package
