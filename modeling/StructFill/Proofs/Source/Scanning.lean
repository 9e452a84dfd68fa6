import Mathlib.Data.List.Basic
import StructFill.Source.Grammar

/-! # Tokens of a text that is written

  A text that is put together from spelled tokens is scanned into these tokens
  if each of them fits before what comes after it: a name before a character
  that does not continue it, a mark before one that makes no longer mark.

  **Gaps.** What stands before a token is a gap of blanks and of comments that
  end at a line break. A gap stays one if another is put behind it, so that
  empty lines and comment lines can be passed over one after the other.
-/

namespace StructFill.Source

open Token

/-! ## Words -/

/-- Letters and digits with a letter in front. -/
def IsWord (n : String) : Prop :=
  ∃ c cs, n.toList = c :: cs ∧ isNameStart c = true ∧ cs.all isNamePart = true

theorem isWord_iff {n : String} :
    IsWord n ↔ (n.toList.head?.any isNameStart && n.toList.tail.all isNamePart) = true := by
  rw [Bool.and_eq_true]
  constructor
  · rintro ⟨c, cs, hn, hstart, hparts⟩
    rw [hn]
    exact ⟨hstart, hparts⟩
  · rintro ⟨hstart, hparts⟩
    cases hn : n.toList with
    | nil => simp [hn] at hstart
    | cons c cs =>
      rw [hn] at hstart hparts
      exact ⟨c, cs, hn, hstart, hparts⟩

instance (n : String) : Decidable (IsWord n) := decidable_of_iff _ isWord_iff.symm

/-- The text goes on with a name. -/
def StartsName (cs : List Char) : Prop := ∃ c rest, cs = c :: rest ∧ isNameStart c = true

theorem IsWord.startsName {n : String} (h : IsWord n) (rest : List Char) :
    StartsName (n.toList ++ rest) := by
  obtain ⟨c, cs, hn, hstart, -⟩ := h
  exact ⟨c, cs ++ rest, by rw [hn, List.cons_append], hstart⟩

/-- A character that begins no name is not the one that does. -/
theorem ne_of_isNameStart {c d : Char} (hc : isNameStart c = true) (hd : isNameStart d = false) :
    c ≠ d := by
  rintro rfl
  exact Bool.noConfusion (hc.symm.trans hd)

namespace Token

/-! ## Gaps -/

/-- A comment behind slashes goes on over the text: there is neither a line break nor a null
character in it. -/
def InLine (t : List Char) : Prop := t.all staysInLine = true

instance (t : List Char) : Decidable (InLine t) :=
  inferInstanceAs (Decidable (t.all staysInLine = true))

theorem inLine_append {t t' : List Char} : InLine (t ++ t') ↔ InLine t ∧ InLine t' := by
  simp [InLine, -List.all_eq_true]

/-- Blanks and comments, and whether there is a line break among the blanks. -/
inductive Gap : List Char → Bool → Prop where
  | nil : Gap [] false
  | blank {c g fresh} (hc : isBlank c = true) (h : Gap g fresh) : Gap (c :: g) (c == '\n' || fresh)
  | comment {t g fresh} (ht : InLine t) (h : Gap ('\n' :: g) fresh) :
    Gap ('/' :: '/' :: (t ++ '\n' :: g)) fresh

theorem Gap.append {g g' : List Char} {fresh fresh' : Bool} (h : Gap g fresh)
    (h' : Gap g' fresh') : Gap (g ++ g') (fresh || fresh') := by
  induction h with
  | nil => exact h'
  | blank hc _ ih =>
    rw [Bool.or_assoc]
    exact .blank hc ih
  | comment ht _ ih =>
    rw [List.cons_append, List.cons_append, List.append_assoc, List.cons_append]
    exact .comment ht ih

theorem gap_none : Gap "".toList false := .nil

theorem gap_space : Gap " ".toList false := .blank rfl .nil

theorem gap_tab : Gap "\t".toList false := .blank rfl .nil

theorem gap_break : Gap ['\n'] true := .blank rfl .nil

/-- A comment with the line break at its end. -/
theorem gap_comment {t : List Char} (ht : InLine t) : Gap ('/' :: '/' :: (t ++ ['\n'])) true :=
  .comment ht gap_break

/-- The text does not go on with a blank or a comment. -/
def Solid (cs : List Char) : Prop := ∀ c ∈ cs.head?, isBlank c = false ∧ c ≠ '/'

theorem gap?_of_solid {cs : List Char} (h : Solid cs) (n : Nat) :
    gap? n cs = some ([], false, cs) := by
  cases n with
  | zero => rfl
  | succ n =>
    cases cs with
    | nil => rfl
    | cons c rest =>
      obtain ⟨hblank, hslash⟩ := h c rfl
      unfold gap?
      split
      next heq => exact absurd (List.cons.inj heq).1 hslash
      next heq => exact absurd (List.cons.inj heq).1 hslash
      next heq =>
        obtain ⟨rfl, rfl⟩ := List.cons.inj heq
        simp [hblank]
      next heq => cases heq

/-- A gap is passed over, up to what is solid. -/
theorem gap?_append {g rest : List Char} {fresh : Bool} (h : Gap g fresh) (hrest : Solid rest)
    {n : Nat} (hn : g.length ≤ n) : gap? n (g ++ rest) = some (g, fresh, rest) := by
  induction h generalizing n with
  | nil => exact gap?_of_solid hrest n
  | @blank c g fresh hc _ ih =>
    obtain ⟨m, rfl⟩ : ∃ m, n = m + 1 := ⟨n - 1, by simp at hn; omega⟩
    have hslash : c ≠ '/' := by
      rintro rfl
      exact absurd hc (by decide)
    have hgap : gap? (m + 1) (c :: (g ++ rest))
        = (gap? m (g ++ rest)).map fun x => (c :: x.1, c == '\n' || x.2.1, x.2.2) := by
      rw [gap?]
      · simp [hc]
      · rintro _ rfl
        exact absurd rfl hslash
      · rintro _ rfl
        exact absurd rfl hslash
    rw [List.cons_append, hgap, ih (by simpa using hn)]
    rfl
  | @comment t g fresh ht _ ih =>
    obtain ⟨m, rfl⟩ : ∃ m, n = m + 1 := ⟨n - 1, by simp at hn; omega⟩
    have hpart : ∀ c ∈ t, staysInLine c = true := List.all_eq_true.1 ht
    have htext : '/' :: '/' :: (t ++ '\n' :: g) ++ rest
        = '/' :: '/' :: (t ++ ('\n' :: g ++ rest)) := by simp
    -- The comment is cut at its end, and what follows is the gap behind it.
    have hdrop : (t ++ ('\n' :: g ++ rest)).dropWhile staysInLine = '\n' :: g ++ rest := by
      rw [List.dropWhile_append_of_pos hpart]
      rfl
    have htake : (t ++ ('\n' :: g ++ rest)).takeWhile staysInLine = t := by
      rw [List.takeWhile_append_of_pos hpart]
      simp [staysInLine]
    rw [htext, gap?, hdrop, htake, ih (by simp at hn ⊢; omega)]
    simp

/-! ## Spelled tokens -/

/-- A token of a class and a spelling is read at the front of the text. -/
structure Front (kind : Kind) (spelling : String) (rest : List Char) : Prop where
  reads : front? (spelling.toList ++ rest) = some (kind, spelling.toList, rest)
  solid : Solid (spelling.toList ++ rest)
  ne_nil : spelling.toList ≠ []

theorem isBlank_of_isNameStart {c : Char} (hc : isNameStart c = true) : isBlank c = false := by
  -- Blanks are few, and none of them is a letter.
  have hlow : ∀ n ≤ 32, isNameStart (Char.ofNat n) = false := by decide
  cases hblank : isBlank c with
  | false => rfl
  | true =>
    have hle : c.toNat ≤ 32 := by
      simp only [isBlank, Bool.or_eq_true, beq_iff_eq, Bool.and_eq_true,
        decide_eq_true_eq] at hblank
      rcases hblank with rfl | hblank
      · decide
      · omega
    obtain ⟨n, hn, rfl⟩ := Unicode.exists_ofNat_of_lt (Nat.lt_succ_of_le hle)
    exact Bool.noConfusion (hc.symm.trans (hlow n (Nat.le_of_lt_succ hn)))

theorem front_word {n : String} (hn : IsWord n) {rest : List Char}
    (hrest : ∀ c ∈ rest.head?, isNamePart c = false) : Front .name n rest := by
  obtain ⟨c, cs, hlist, hstart, hparts⟩ := hn
  have hall : ∀ d ∈ cs, isNamePart d = true := List.all_eq_true.1 hparts
  have hend : rest.takeWhile isNamePart = [] ∧ rest.dropWhile isNamePart = rest := by
    cases rest with
    | nil => exact ⟨rfl, rfl⟩
    | cons d ds => simp [hrest d rfl]
  refine ⟨?_, ?_, by simp [hlist]⟩
  · rw [hlist, List.cons_append, front?, if_pos hstart, List.takeWhile_append_of_pos hall,
      List.dropWhile_append_of_pos hall, hend.1, hend.2, List.append_nil]
  · intro d hd
    obtain rfl : c = d := by simpa [hlist] using hd
    exact ⟨isBlank_of_isNameStart hstart, ne_of_isNameStart hstart (by decide)⟩

/-! ### Texts in quotes -/

theorem startsHex_append {n : Nat} {ds : List Char} (hlength : ds.length = n)
    (hall : ds.all isHexDigit = true) (rest : List Char) : startsHex n (ds ++ rest) = true := by
  subst hlength
  simp [startsHex, hall]

/-- A stretch of text in quotes is passed over. -/
def Inside (cs : List Char) : Prop :=
  ∀ rest, quotedRest? (cs ++ rest) = (quotedRest? rest).map fun (t, r) => (cs ++ t, r)

theorem inside_nil : Inside [] := by
  intro rest
  cases h : quotedRest? rest <;> simp [h]

theorem Inside.append {as bs : List Char} (ha : Inside as) (hb : Inside bs) :
    Inside (as ++ bs) := by
  intro rest
  rw [List.append_assoc, ha, hb]
  cases quotedRest? rest <;> simp

theorem inside_singleton {c : Char} (hquote : c ≠ '"') (hbreak : c ≠ '\n') (hslash : c ≠ '\\')
    (hnull : c ≠ null) : Inside [c] := by
  intro rest
  rw [List.singleton_append, quotedRest?]
  · rw [if_neg hnull]
    rfl
  · exact fun h => hquote h
  · exact fun h => hbreak h
  · exact fun h _ => hslash h
  · exact fun _ _ h _ => hslash h

theorem inside_escape {c : Char} (hx : c ≠ 'x') (hu : c ≠ 'u') (hU : c ≠ 'U')
    (hnull : c ≠ null) : Inside ['\\', c] := by
  intro rest
  simp [quotedRest?, hx, hu, hU, hnull]

theorem inside_digits {ds : List Char} (hall : ds.all isHexDigit = true) : Inside ds := by
  induction ds with
  | nil => exact inside_nil
  | cons d ds ih =>
    rw [List.all_cons, Bool.and_eq_true] at hall
    have hne : ∀ c, isHexDigit c = false → d ≠ c := by
      rintro c hc rfl
      exact Bool.noConfusion (hall.1.symm.trans hc)
    exact (inside_singleton (hne _ rfl) (hne _ rfl) (hne _ rfl) (hne _ rfl)).append (ih hall.2)

/-- An escape by number has as many digits as its letter asks for. -/
theorem inside_numbered {c : Char} {width : Nat} {ds : List Char}
    (hc : c = 'x' ∧ width = 2 ∨ c = 'u' ∧ width = 4) (hlength : ds.length = width)
    (hall : ds.all isHexDigit = true) : Inside ('\\' :: c :: ds) := by
  intro rest
  have hstarts := startsHex_append hlength hall rest
  have hdigits := inside_digits hall rest
  have hx : 'x' ≠ null := by decide
  have hu : 'u' ≠ null := by decide
  rcases hc with ⟨rfl, rfl⟩ | ⟨rfl, rfl⟩
  · simp only [List.cons_append, quotedRest?, hstarts, hdigits]
    cases quotedRest? rest <;> simp [hx]
  · simp only [List.cons_append, quotedRest?, hstarts, hdigits]
    cases quotedRest? rest <;> simp [hu]

/-- One of two stretches is passed over if either is. -/
theorem inside_ite {p : Prop} [Decidable p] {as bs : List Char} (ha : Inside as) (hb : Inside bs) :
    Inside (if p then as else bs) := by
  split
  · exact ha
  · exact hb

/-- Each character is written as a stretch that the scan passes over. -/
theorem inside_encodeChar (c : Char) : Inside (Quoted.encodeChar c) := by
  have hhex : ∀ n < 0xa0, (n < 0x80 → (Quoted.hex 2 n).length = 2)
      ∧ (0x80 ≤ n → (Quoted.hex 4 n).length = 4) ∧ (Quoted.hex 2 n).all isHexDigit = true
      ∧ (Quoted.hex 4 n).all isHexDigit = true := by decide +kernel
  by_cases hquote : c = '"'
  · rw [Quoted.encodeChar, if_pos hquote]
    exact inside_escape (by decide) (by decide) (by decide) (by decide)
  by_cases hslash : c = '\\'
  · rw [Quoted.encodeChar, if_neg hquote, if_pos hslash]
    exact inside_escape (by decide) (by decide) (by decide) (by decide)
  by_cases hbreak : c = '\n'
  · rw [Quoted.encodeChar, if_neg hquote, if_neg hslash, if_pos hbreak]
    exact inside_escape (by decide) (by decide) (by decide) (by decide)
  rw [Quoted.encodeChar, if_neg hquote, if_neg hslash, if_neg hbreak]
  -- The other letters that stand for a character.
  iterate 6
    refine inside_ite (inside_escape (by decide) (by decide) (by decide) (by decide)) ?_
  split
  next hlow =>
    obtain ⟨hlength, -, hall, -⟩ := hhex c.toNat (by omega)
    exact inside_numbered (.inl ⟨rfl, rfl⟩) (hlength (by omega)) hall
  next hlow =>
    split
    next hhigh =>
      obtain ⟨-, hlength, -, hall⟩ := hhex c.toNat (by omega)
      exact inside_numbered (.inr ⟨rfl, rfl⟩) (hlength hhigh.1) hall
    next =>
      -- The null character is low, and written by its number.
      refine inside_singleton hquote hbreak hslash ?_
      rintro rfl
      exact hlow (by decide)

theorem inside_flatMap_encodeChar (cs : List Char) : Inside (cs.flatMap Quoted.encodeChar) := by
  induction cs with
  | nil => exact inside_nil
  | cons c cs ih => exact (inside_encodeChar c).append ih

theorem front_quote (s : String) (rest : List Char) : Front .string (Quoted.quote s) rest := by
  have hlist : (Quoted.quote s).toList = '"' :: (s.toList.flatMap Quoted.encodeChar ++ ['"']) := by
    rw [Quoted.quote, String.toList_ofList, Quoted.encode]
  have hrest : quotedRest? (s.toList.flatMap Quoted.encodeChar ++ '"' :: rest)
      = some (s.toList.flatMap Quoted.encodeChar ++ ['"'], rest) := by
    rw [inside_flatMap_encodeChar]
    simp [quotedRest?]
  have hstart : isNameStart '"' = false := by decide
  refine ⟨?_, ?_, by simp [hlist]⟩
  · rw [hlist]
    simp [front?, hstart, hrest]
  · intro c hc
    obtain rfl : '"' = c := by simpa [hlist] using hc
    exact ⟨rfl, by decide⟩

/-! ### Marks -/

/-- The brackets and the marks that separate; nothing makes longer marks of them. -/
def brackets : List String := ["(", ")", "[", "]", "\x7b", "\x7d", ",", ";", ":="]

theorem front_bracket {m : String} (hm : m ∈ brackets) (rest : List Char) :
    Front .mark m rest := by
  simp only [brackets, List.mem_cons, List.not_mem_nil, or_false] at hm
  rcases hm with rfl | rfl | rfl | rfl | rfl | rfl | rfl | rfl | rfl
  all_goals
    refine ⟨rfl, ?_, by decide⟩
    rintro c ⟨⟩
    exact ⟨rfl, by decide⟩

theorem front_equals (rest : List Char) : Front .mark "=" (' ' :: rest) := by
  refine ⟨rfl, ?_, by decide⟩
  rintro c ⟨⟩
  exact ⟨rfl, by decide⟩

/-- The operators that stand in front of a name. -/
theorem front_operator {m : String} (hm : m ∈ ["*", "&", "."]) {rest : List Char}
    (hrest : StartsName rest) : Front .mark m rest := by
  obtain ⟨c, cs, rfl, hc⟩ := hrest
  have hne : ∀ d, isNameStart d = false → (d == c) = false := fun d hd =>
    beq_eq_false_iff_ne.2 (ne_of_isNameStart hc hd).symm
  have hequals := hne '=' (by decide)
  have hand := hne '&' (by decide)
  have hcaret := hne '^' (by decide)
  have hdot := hne '.' (by decide)
  have hdigit : c.isDigit = false := by
    have hdigits : ∀ n, 48 ≤ n → n ≤ 57 → isNameStart (Char.ofNat n) = false := by
      intro n hlow hhigh
      have hall : ∀ k ≤ 9, isNameStart (Char.ofNat (48 + k)) = false := by decide
      have hk := hall (n - 48) (by omega)
      rwa [show 48 + (n - 48) = n by omega] at hk
    cases hd : c.isDigit with
    | false => rfl
    | true =>
      have hbounds : 48 ≤ c.toNat ∧ c.toNat ≤ 57 := by
        simpa [Char.isDigit, UInt32.le_iff_toNat_le] using hd
      have hnot := hdigits c.toNat hbounds.1 hbounds.2
      rw [Char.ofNat_toNat] at hnot
      exact Bool.noConfusion (hc.symm.trans hnot)
  simp only [List.mem_cons, List.not_mem_nil, or_false] at hm
  rcases hm with rfl | rfl | rfl
  all_goals
    refine ⟨?_, ?_, by decide⟩
    · simp [front?, mark?, marks, List.isPrefixOf?, hequals, hand, hcaret, hdot, hdigit]
      decide
    · rintro d ⟨⟩
      exact ⟨rfl, by decide⟩

/-! ## Scanning -/

/-- The text has these tokens. -/
def Scans (cs : List Char) (ts : List Token) : Prop :=
  ∀ n, cs.length + 1 < n → scanWithin? n cs = some ts

/-- The token fits before what comes after it. -/
structure Fits (t : Token) (rest : List Char) : Prop where
  lead : Gap t.lead.toList t.fresh
  front : Front t.kind t.spelling rest

/-- A bracket fits anywhere. -/
theorem fits_bracket {l m : String} {fresh : Bool} (hl : Gap l.toList fresh) (hm : m ∈ brackets)
    (rest : List Char) : Fits ⟨.mark, m, l, fresh⟩ rest :=
  ⟨hl, front_bracket hm rest⟩

theorem Fits.scans {t : Token} {rest : List Char} {ts : List Token} (h : t.Fits rest)
    (hrest : Scans rest ts) :
    Scans (t.lead.toList ++ (t.spelling.toList ++ rest)) (t :: ts) := by
  intro n hn
  obtain ⟨m, rfl⟩ : ∃ m, n = m + 1 := ⟨n - 1, by omega⟩
  simp only [List.length_append] at hn
  have hpositive := List.length_pos_iff.2 h.front.ne_nil
  have hgap := gap?_append h.lead h.front.solid (show t.lead.toList.length ≤ m by omega)
  rw [scanWithin?, hgap]
  obtain ⟨c, cs, hcs⟩ := List.exists_cons_of_ne_nil h.front.ne_nil
  have hfront := h.front.reads
  rw [hcs, List.cons_append] at hfront ⊢
  simp only [Option.bind_eq_bind, Option.bind_some, hfront, hrest m (by omega)]
  rw [← hcs, String.ofList_toList, String.ofList_toList]

/-- The text of tokens in front of another text. -/
def spell : List Token → List Char → List Char
  | [], rest => rest
  | t :: ts, rest => t.lead.toList ++ (t.spelling.toList ++ spell ts rest)

/-- A name ends before a token with a space in front. -/
theorem spell_space_ends {kind : Kind} {spelling : String} {fresh : Bool} {ts : List Token}
    {rest : List Char} :
    ∀ c ∈ (spell (⟨kind, spelling, " ", fresh⟩ :: ts) rest).head?, isNamePart c = false := by
  intro c hc
  obtain rfl : ' ' = c := by simpa [spell] using hc
  decide

/-- Each of the tokens fits before what comes after it. -/
def FitAll : List Token → List Char → Prop
  | [], _ => True
  | t :: ts, rest => t.Fits (spell ts rest) ∧ FitAll ts rest

theorem spell_append (as bs : List Token) (rest : List Char) :
    spell (as ++ bs) rest = spell as (spell bs rest) := by
  induction as with
  | nil => rfl
  | cons a as ih => rw [List.cons_append, spell, spell, ih]

theorem fitAll_append {as bs : List Token} {rest : List Char} :
    FitAll (as ++ bs) rest ↔ FitAll as (spell bs rest) ∧ FitAll bs rest := by
  induction as with
  | nil => exact (true_and _).symm ▸ Iff.rfl
  | cons a as ih => rw [List.cons_append, FitAll, FitAll, ih, spell_append, and_assoc]

theorem FitAll.scans {ts ts' : List Token} {rest : List Char} (h : FitAll ts rest)
    (hrest : Scans rest ts') : Scans (spell ts rest) (ts ++ ts') := by
  induction ts with
  | nil => exact hrest
  | cons t ts ih => exact h.1.scans (ih h.2)

/-- Behind the last token there may be a gap. -/
theorem Gap.scans {g : List Char} {fresh : Bool} (h : Gap g fresh) : Scans g [] := by
  intro n hn
  obtain ⟨m, rfl⟩ : ∃ m, n = m + 1 := ⟨n - 1, by omega⟩
  have hgap := gap?_append h (show Solid [] by simp [Solid]) (show g.length ≤ m by omega)
  rw [List.append_nil] at hgap
  rw [scanWithin?, hgap]
  rfl

theorem Scans.scan? {cs : List Char} {ts : List Token} (h : Scans cs ts)
    (hmark : cs.head? ≠ some '\ufeff') : Token.scan? cs = some ts := by
  unfold Token.scan?
  split
  next rest => exact absurd rfl hmark
  next => exact h _ (by omega)

end Token
end StructFill.Source
