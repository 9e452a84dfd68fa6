import Mathlib
import StructFill.Naming

/-! # Where snake case divides a name

  Snake case goes over a name twice. The first pass looks for capitals that
  begin a word of small letters, and takes the whole word, so that it does not
  look at the border behind it. The second pass looks for capitals behind small
  letters and digits.

  **One rule.** Taken together the two passes divide a name where one look at
  three neighbouring characters says so. What the first pass does not look at
  is behind a small letter and left to the second, and the second leaves alone
  what the first has divided, as there is an underscore already.

  **Names of plain letters.** The result has no capitals, so it is divided no
  further, and without underscores it is the name in small letters.
-/

namespace StructFill

namespace Unicode

theorem le_first_of_mem_drop : ∀ r ∈ lowerRuns.drop 1, 0x80 ≤ r.first := by decide +kernel

/-- The lower case of a character with a low number. All these capitals are in the first run. -/
theorem lower_of_lt {c : Char} (hc : c.toNat < 0x80) : lower c = [c.toLower] := by
  have hplain : ∀ n < 0x80, ((CaseRun.mk 65 90 1 97).map? (Char.ofNat n).toNat).elim
      [Char.ofNat n] (fun m => [Char.ofNat m]) = [(Char.ofNat n).toLower] := by decide
  have hdotted : c ≠ '\u0130' := by
    rintro rfl
    exact absurd hc (by decide)
  -- All runs but the first begin at `0x80` or behind it.
  have hrest : (lowerRuns.drop 1).findSome? (·.map? c.toNat) = none := by
    rw [List.findSome?_eq_none_iff]
    intro r hr
    have hfirst := le_first_of_mem_drop r hr
    rw [CaseRun.map?, if_neg (by omega)]
  have hruns : lowerRuns.findSome? (·.map? c.toNat) = (CaseRun.mk 65 90 1 97).map? c.toNat := by
    show (_ :: lowerRuns.drop 1).findSome? _ = _
    rw [List.findSome?_cons, hrest]
    cases (CaseRun.mk 65 90 1 97).map? c.toNat <;> rfl
  rw [lower, if_neg hdotted, hruns]
  obtain ⟨n, hn, rfl⟩ := exists_ofNat_of_lt hc
  rw [← hplain n hn]
  cases (CaseRun.mk 65 90 1 97).map? (Char.ofNat n).toNat <;> rfl

end Unicode

namespace Naming

/-! ## The rule -/

/-- Whether a name is divided in front of a position: a capital is there, and in front of it a small
letter or digit, or else behind it a small letter and in front of it no line break. -/
def dividesAt (cs : List Char) : Nat → Bool
  | 0 => false
  | i + 1 =>
    match cs[i]?, cs[i + 1]? with
    | some a, some u =>
      u.isUpper && (a.isLower || a.isDigit || (a != '\n' && cs[i + 2]?.any Char.isLower))
    | _, _ => false

/-- The name with an underscore at each position at which it is divided. -/
def divided (cs : List Char) : List Char :=
  cs.zipIdx.flatMap fun (c, i) => if dividesAt cs i then ['_', c] else [c]

/-! ## One pass -/

/-- The rule for a capital `u` between `a` and what comes behind. -/
def dividesBetween (a u : Char) (rest : List Char) : Bool :=
  u.isUpper && (a.isLower || a.isDigit || (a != '\n' && startsSmall rest))

/-- Divides what stands behind a character. -/
def divideAfter (a : Char) : List Char → List Char
  | [] => []
  | u :: rest =>
    if dividesBetween a u rest then '_' :: u :: divideAfter u rest else u :: divideAfter u rest

theorem startsSmall_eq (cs : List Char) : startsSmall cs = cs.head?.any Char.isLower := by
  cases cs <;> rfl

/-- The positions behind `front` and `a` are those of the rest. -/
theorem flatMap_dividesAt (front : List Char) (a : Char) (cs : List Char) :
    (cs.zipIdx (front.length + 1)).flatMap
        (fun (c, i) => if dividesAt (front ++ a :: cs) i then ['_', c] else [c])
      = divideAfter a cs := by
  induction cs generalizing front a with
  | nil => rfl
  | cons u rest ih =>
    have hrule : dividesAt (front ++ a :: u :: rest) (front.length + 1)
        = dividesBetween a u rest := by
      simp [dividesAt, dividesBetween, startsSmall_eq, List.getElem?_append_right,
        List.head?_eq_getElem?]
    have hrest := ih (front ++ [a]) u
    simp only [List.length_append, List.length_singleton, List.append_assoc,
      List.singleton_append] at hrest
    rw [List.zipIdx_cons, List.flatMap_cons, hrest, divideAfter]
    dsimp only
    rw [hrule]
    split <;> rfl

theorem divided_cons (a : Char) (cs : List Char) : divided (a :: cs) = a :: divideAfter a cs := by
  have hrest := flatMap_dividesAt [] a cs
  simp only [List.length_nil, List.nil_append] at hrest
  rw [divided, List.zipIdx_cons, List.flatMap_cons, hrest]
  rfl

/-! ## Two passes -/

/-- The first pass keeps the first character, so that the second can look at it. -/
theorem divideHumps_cons_divideWords (a : Char) (inWord : Bool) (u : Char) (rest : List Char) :
    divideHumps (a :: divideWords inWord (u :: rest))
      = if (a.isLower || a.isDigit) && u.isUpper then
          a :: '_' :: divideHumps (divideWords inWord (u :: rest))
        else a :: divideHumps (divideWords inWord (u :: rest)) := by
  obtain ⟨tail, htail⟩ : ∃ tail, divideWords inWord (u :: rest) = u :: tail := by
    cases rest with
    | nil => exact ⟨[], rfl⟩
    | cons v rest =>
      rw [divideWords]
      split
      · exact ⟨_, rfl⟩
      · split <;> exact ⟨_, rfl⟩
  rw [htail, divideHumps]

/-- A capital is no small letter and no digit. -/
theorem not_small_of_isUpper {u : Char} (h : u.isUpper = true) :
    (u.isLower || u.isDigit) = false := by
  have hlower : u.isLower = false := by simpa using Char.not_isLower_of_isUpper h
  have hdigit : u.isDigit = false := by
    simp [Char.isUpper, Char.isDigit, UInt32.le_iff_toNat_le] at h ⊢
    omega
  rw [hlower, hdigit, Bool.or_false]

/-- Nothing is put between a capital and a small letter. -/
theorem divideAfter_of_startsSmall {u : Char} {rest : List Char} (h : startsSmall rest = true) :
    divideAfter u rest = divided rest := by
  cases rest with
  | nil => rfl
  | cons l rest =>
    have hl : l.isUpper = false := by simpa using Char.not_isUpper_of_isLower h
    rw [divideAfter, divided_cons]
    simp [dividesBetween, hl]

/-- The two passes together divide a name by the rule. The first pass may have begun in the midst of
a word. -/
theorem divideHumps_divideWords (inWord : Bool) (cs : List Char) :
    divideHumps (divideWords inWord cs) = divided cs := by
  fun_induction divideWords inWord cs with
  | case1 => rfl
  | case2 => rfl
  | case3 inWord a u rest hsmall ih =>
    -- The first pass is inside a word and does not look for a capital behind `a`.
    have ha : a.isLower = true := (Bool.and_eq_true_iff.1 hsmall).2
    have hrule : dividesBetween a u rest = u.isUpper := by simp [dividesBetween, ha]
    rw [divideHumps_cons_divideWords, ih, divided_cons, divided_cons, divideAfter, hrule]
    simp only [ha, Bool.true_or, Bool.true_and]
    split <;> rfl
  | case4 inWord a u rest _ hword ih =>
    -- The first pass divides before `u` and goes on behind it.
    simp only [Bool.and_eq_true] at hword
    obtain ⟨⟨hbreak, hupper⟩, hstarts⟩ := hword
    have hrule : dividesBetween a u rest = true := by
      simp [dividesBetween, hupper, hstarts, hbreak]
    obtain ⟨l, rest', rfl⟩ : ∃ l rest', rest = l :: rest' := by
      cases rest with
      | nil => simp [startsSmall] at hstarts
      | cons l rest' => exact ⟨l, rest', rfl⟩
    have hunderscore : divideHumps (a :: '_' :: u :: divideWords true (l :: rest'))
        = a :: '_' :: divideHumps (u :: divideWords true (l :: rest')) := by
      simp [divideHumps]
    rw [hunderscore, divideHumps_cons_divideWords, not_small_of_isUpper hupper, ih, divided_cons a,
      divideAfter, hrule, divideAfter_of_startsSmall hstarts]
    rfl
  | case5 inWord a u rest _ hword ih =>
    -- The first pass finds no word behind `a`, so that the rule is that of the second.
    have hrule : dividesBetween a u rest = ((a.isLower || a.isDigit) && u.isUpper) := by
      simp only [Bool.and_eq_true, not_and, Bool.not_eq_true] at hword
      unfold dividesBetween
      cases hupper : u.isUpper <;> cases hbreak : a != '\n' <;> simp_all
    rw [divideHumps_cons_divideWords, ih, divided_cons, divided_cons, divideAfter, hrule]
    split <;> rfl

theorem snakeChars_eq (cs : List Char) : snakeChars cs = Unicode.lowerText (divided cs) := by
  rw [snakeChars, divideHumps_divideWords]

/-! ## Names of plain letters -/

/-- Characters with low numbers, which are the plain letters, digits and marks. -/
def Low (cs : List Char) : Prop := ∀ c ∈ cs, c.toNat < 0x80

theorem toLower_of_lt {c : Char} (hc : c.toNat < 0x80) :
    c.toLower.toNat < 0x80 ∧ (c.toLower = '_' ↔ c = '_') := by
  have hlow : ∀ n < 0x80, (Char.ofNat n).toLower.toNat < 0x80
      ∧ ((Char.ofNat n).toLower = '_' ↔ Char.ofNat n = '_') := by decide
  obtain ⟨n, hn, rfl⟩ := Unicode.exists_ofNat_of_lt hc
  exact hlow n hn

/-- Plain letters are put in lower case one by one. -/
theorem lowerText_eq_map {cs : List Char} (h : Low cs) :
    Unicode.lowerText cs = cs.map Char.toLower := by
  have hafter : ∀ before, Unicode.lowerAfter before cs = cs.map Char.toLower := by
    induction cs with
    | nil => exact fun _ => rfl
    | cons c cs ih =>
      intro before
      have hc : c.toNat < 0x80 := h c List.mem_cons_self
      have hsigma : c ≠ 'Σ' := by
        rintro rfl
        exact absurd hc (by decide)
      rw [Unicode.lowerAfter, if_neg hsigma, Unicode.lower_of_lt hc,
        ih fun d hd => h d (List.mem_cons_of_mem _ hd)]
      rfl
  exact hafter []

/-- Nothing but underscores is put into a name. -/
theorem filter_divideAfter (a : Char) (cs : List Char) :
    (divideAfter a cs).filter (· != '_') = cs.filter (· != '_') := by
  induction cs generalizing a with
  | nil => rfl
  | cons u rest ih =>
    rw [divideAfter]
    split <;> simp [List.filter_cons, ih]

theorem filter_divided (cs : List Char) :
    (divided cs).filter (· != '_') = cs.filter (· != '_') := by
  cases cs with
  | nil => rfl
  | cons a rest => rw [divided_cons, List.filter_cons, List.filter_cons, filter_divideAfter]

theorem Low.divided {cs : List Char} (h : Low cs) : Low (divided cs) := by
  intro c hc
  by_cases hunderscore : c = '_'
  · subst hunderscore
    decide
  · have hkept : c ∈ (Naming.divided cs).filter (· != '_') := by simp [hc, hunderscore]
    rw [filter_divided] at hkept
    exact h c (List.mem_filter.1 hkept).1

/-- Without capitals there is nothing to divide. -/
theorem divideAfter_of_no_capitals (a : Char) {cs : List Char}
    (h : ∀ c ∈ cs, c.isUpper = false) : divideAfter a cs = cs := by
  induction cs generalizing a with
  | nil => rfl
  | cons u rest ih =>
    have hu : u.isUpper = false := h u List.mem_cons_self
    rw [divideAfter, ih u fun c hc => h c (List.mem_cons_of_mem _ hc)]
    simp [dividesBetween, hu]

theorem divided_of_no_capitals {cs : List Char} (h : ∀ c ∈ cs, c.isUpper = false) :
    divided cs = cs := by
  cases cs with
  | nil => rfl
  | cons a rest =>
    rw [divided_cons, divideAfter_of_no_capitals a fun c hc => h c (List.mem_cons_of_mem _ hc)]

/-- Plain letters without capitals stay as they are. -/
theorem snakeChars_of_no_capitals {cs : List Char} (hlow : Low cs)
    (h : ∀ c ∈ cs, c.isUpper = false) : snakeChars cs = cs := by
  have hsame : ∀ c ∈ cs, c.toLower = c := fun c hc =>
    Char.toLower_eq_of_not_isUpper (by simp [h c hc])
  rw [snakeChars_eq, divided_of_no_capitals h, lowerText_eq_map hlow, List.map_congr_left hsame,
    List.map_id']

theorem filter_map_toLower {cs : List Char} (h : Low cs) :
    (cs.map Char.toLower).filter (· != '_') = (cs.filter (· != '_')).map Char.toLower := by
  rw [List.filter_map]
  congr 1
  refine List.filter_congr fun c hc => ?_
  have hiff := (toLower_of_lt (h c hc)).2
  simp [bne, hiff]

/-- **One rule for both passes.** Snake case puts an underscore at each position at which the rule
divides the name, and at no other, and takes the lower case of what results. If the name consists of
plain letters, snake case brings no change the second time, it leaves no capital, and apart from the
underscores it is the lower case of the name. -/
theorem snakeCase_eq_divided (name : String) :
    snakeCase name = String.ofList (Unicode.lowerText (divided name.toList))
      ∧ (Low name.toList →
        snakeCase (snakeCase name) = snakeCase name
          ∧ (∀ c ∈ (snakeCase name).toList, c.isUpper = false)
          ∧ (snakeCase name).toList.filter (· != '_')
            = (Unicode.lowerText name.toList).filter (· != '_')) := by
  refine ⟨by rw [snakeCase, snakeChars_eq], fun hlow => ?_⟩
  have hchars : (snakeCase name).toList = (divided name.toList).map Char.toLower := by
    rw [snakeCase, String.toList_ofList, snakeChars_eq, lowerText_eq_map hlow.divided]
  have hcapitals : ∀ c ∈ (snakeCase name).toList, c.isUpper = false := by
    rw [hchars]
    intro c hc
    obtain ⟨d, -, rfl⟩ := List.mem_map.1 hc
    exact Char.isUpper_toLower_eq_false d
  have hlow' : Low (snakeCase name).toList := by
    rw [hchars]
    intro c hc
    obtain ⟨d, hd, rfl⟩ := List.mem_map.1 hc
    exact (toLower_of_lt (hlow.divided d hd)).1
  refine ⟨?_, hcapitals, ?_⟩
  · rw [snakeCase, snakeChars_of_no_capitals hlow' hcapitals, String.ofList_toList]
  · rw [hchars, filter_map_toLower hlow.divided, filter_divided, lowerText_eq_map hlow,
      filter_map_toLower hlow]

/-- Before the server a capital begins a word, and before `Go` stands a digit. -/
theorem snakeCase_eq_divided_server :
    Low "HTTPServer2Go".toList
      ∧ divided "HTTPServer2Go".toList = "HTTP_Server2_Go".toList
      ∧ snakeCase (snakeCase "HTTPServer2Go") = snakeCase "HTTPServer2Go"
      ∧ ∀ c ∈ (snakeCase "HTTPServer2Go").toList, c.isUpper = false := by
  have hlow : Low "HTTPServer2Go".toList := by simp [Low]
  have hdivided : divided "HTTPServer2Go".toList = "HTTP_Server2_Go".toList := by decide
  obtain ⟨hagain, hcapitals, -⟩ := (snakeCase_eq_divided "HTTPServer2Go").2 hlow
  exact ⟨hlow, hdivided, hagain, hcapitals⟩

end Naming
end StructFill
