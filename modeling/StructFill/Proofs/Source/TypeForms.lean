import StructFill.Proofs.Emission.Tokens

/-! # Types in source form

  A type is written as it is displayed, and any part of it may stand in
  parentheses. Beside the text of each form stand its tokens, which fit before
  what does not continue a word, and the rules of the grammar read the tokens
  as what the text stands for: the parentheses leave no trace.

  **Commas.** Names and parameters are separated by commas. The tokens of such
  a list are put together from those of its elements.
-/

namespace StructFill.Source

namespace Token

/-! ## Words, blanks and marks -/

/-- The text does not go on with a letter or a digit. -/
def EndsWord (cs : List Char) : Prop := ∀ c ∈ cs.head?, isNamePart c = false

theorem endsWord_cons {c : Char} (hc : isNamePart c = false) (cs : List Char) :
    EndsWord (c :: cs) := by
  intro d hd
  obtain rfl : c = d := by simpa using hd
  exact hc

/-- Blanks within a line. -/
def areBlanks (cs : List Char) : Bool := cs.all fun c => c == ' ' || c == '\t'

theorem gap_of_blanks {cs : List Char} (h : areBlanks cs = true) : Gap cs false := by
  induction cs with
  | nil => exact .nil
  | cons c cs ih =>
    simp only [areBlanks, List.all_cons, Bool.and_eq_true, Bool.or_eq_true, beq_iff_eq] at h
    rcases h with ⟨rfl | rfl, hcs⟩
    · exact .blank rfl (ih hcs)
    · exact .blank rfl (ih hcs)

/-- At least one blank. -/
def IsPad (s : String) : Prop := s.toList ≠ [] ∧ areBlanks s.toList = true

instance (s : String) : Decidable (IsPad s) := inferInstanceAs (Decidable (_ ∧ _))

theorem IsPad.gap {s : String} (h : IsPad s) : Gap s.toList false := gap_of_blanks h.2

/-- The text goes on with a blank or a line break. -/
def EndsLine (cs : List Char) : Prop := ∃ c rest, cs = c :: rest ∧ c ∈ [' ', '\t', '\n']

theorem EndsLine.endsWord {cs : List Char} (h : EndsLine cs) : EndsWord cs := by
  have hall : ([' ', '\t', '\n'].all fun c => !isNamePart c) = true := by decide
  obtain ⟨c, rest, rfl, hc⟩ := h
  exact endsWord_cons (by simpa using List.all_eq_true.1 hall c hc) rest

theorem IsPad.endsLine {s : String} (h : IsPad s) (rest : List Char) :
    EndsLine (s.toList ++ rest) := by
  obtain ⟨c, cs, hcs⟩ := List.exists_cons_of_ne_nil h.1
  have hblank := h.2
  rw [hcs, areBlanks, List.all_cons, Bool.and_eq_true] at hblank
  refine ⟨c, cs ++ rest, by rw [hcs, List.cons_append], ?_⟩
  rcases Bool.or_eq_true_iff.1 hblank.1 with hc | hc
  all_goals
    rw [beq_iff_eq.1 hc]
    decide

theorem IsPad.endsWord {s : String} (h : IsPad s) (rest : List Char) :
    EndsWord (s.toList ++ rest) := (h.endsLine rest).endsWord

/-- A mark that can only be lengthened by an equals sign. -/
theorem front_lengthened {m : String} (hm : m ∈ ["*", "="]) {rest : List Char}
    (hrest : ∀ c ∈ rest.head?, c ≠ '=') : Front .mark m rest := by
  simp only [List.mem_cons, List.not_mem_nil, or_false] at hm
  cases rest with
  | nil =>
    rcases hm with rfl | rfl
    all_goals
      refine ⟨rfl, ?_, by decide⟩
      rintro c ⟨⟩
      exact ⟨rfl, by decide⟩
  | cons d cs =>
    have hequals : ('=' == d) = false := beq_eq_false_iff_ne.2 (hrest d rfl).symm
    rcases hm with rfl | rfl
    all_goals
      refine ⟨?_, ?_, by decide⟩
      · simp [front?, mark?, marks, List.isPrefixOf?, hequals]
        decide
      · rintro c ⟨⟩
        exact ⟨rfl, by decide⟩

/-- A dot before a space. -/
theorem front_dot (rest : List Char) : Front .mark "." (' ' :: rest) := by
  refine ⟨rfl, ?_, by decide⟩
  rintro c ⟨⟩
  exact ⟨rfl, by decide⟩

/-! ## Texts in backquotes -/

/-- A text as a literal in backquotes. -/
def rawLiteral (s : String) : String :=
  String.ofList (Char.ofNat 0x60 :: (s.toList ++ [Char.ofNat 0x60]))

theorem toList_rawLiteral (s : String) :
    (rawLiteral s).toList = Char.ofNat 0x60 :: (s.toList ++ [Char.ofNat 0x60]) :=
  String.toList_ofList

/-- The text can stand in backquotes: there is neither a backquote nor a null character in it. -/
def IsRaw (s : String) : Prop := Char.ofNat 0x60 ∉ s.toList ∧ null ∉ s.toList

instance (s : String) : Decidable (IsRaw s) :=
  inferInstanceAs (Decidable (Char.ofNat 0x60 ∉ s.toList ∧ null ∉ s.toList))

theorem rawRest?_append {cs : List Char} (h : Char.ofNat 0x60 ∉ cs) (hnull : null ∉ cs)
    (rest : List Char) :
    rawRest? (cs ++ Char.ofNat 0x60 :: rest) = some (cs ++ [Char.ofNat 0x60], rest) := by
  induction cs with
  | nil => rfl
  | cons c cs ih =>
    rw [List.mem_cons, not_or] at h hnull
    rw [List.cons_append, rawRest?, if_neg (Ne.symm h.1), if_neg (Ne.symm hnull.1), ih h.2 hnull.2]
    rfl

theorem front_raw {s : String} (h : IsRaw s) (rest : List Char) :
    Front .string (rawLiteral s) rest := by
  have hrest := rawRest?_append h.1 h.2 rest
  have hstart : isNameStart (Char.ofNat 0x60) = false := by decide
  refine ⟨?_, ?_, by simp [toList_rawLiteral]⟩
  · rw [toList_rawLiteral]
    simp only [List.cons_append, List.append_assoc, List.nil_append, front?, hstart, hrest]
    rfl
  · intro c hc
    rw [toList_rawLiteral] at hc
    obtain rfl : Char.ofNat 0x60 = c := by simpa using hc
    exact ⟨rfl, by decide⟩

end Token

/-- A literal in backquotes stands for the text between them. -/
theorem Grammar.literalValue_raw (s : String) :
    Grammar.literalValue (Token.rawLiteral s) = s := by
  rw [Grammar.literalValue, Token.toList_rawLiteral]
  simp

namespace Written

open Token (Gap FitAll EndsWord endsWord_cons gap_none spell)
open Grammar (Rules endsType)
open Parse

/-! ## Types -/

/-- A type in source form. -/
inductive Ty where
  | name (n : String)
  | qualified (q n : String)
  | pointer (t : Ty)
  | map (key value : Ty)
  | openInterface
  /-- A type in parentheses. -/
  | parens (t : Ty)

namespace Ty

/-- The type without its parentheses. -/
def type : Ty → TypeExpr
  | .name n => .name n
  | .qualified q n => .qualified q n
  | .pointer t => .pointer t.type
  | .map key value => .map key.type value.type
  | .openInterface => .interface true
  | .parens t => t.type

/-- The type as it is displayed: what stands in parentheses is a text. -/
def displayed : Ty → TypeExpr
  | .name n => .name n
  | .qualified q n => .qualified q n
  | .pointer t => .pointer t.displayed
  | .map key value => .map key.displayed value.displayed
  | .openInterface => .interface true
  | .parens t => .other ("(" ++ t.displayed.text ++ ")")

def text (t : Ty) : String := t.displayed.text

/-- No part stands in parentheses. -/
def IsBare : Ty → Prop
  | .pointer t => t.IsBare
  | .map key value => key.IsBare ∧ value.IsBare
  | .parens _ => False
  | _ => True

/-- Without parentheses the text is the display of the type. -/
theorem text_of_isBare {t : Ty} (h : t.IsBare) : t.text = t.type.text := by
  have hdisplayed : t.displayed = t.type := by
    induction t with
    | name | qualified | openInterface => rfl
    | pointer t ih => rw [displayed, type, ih h]
    | map key value ihkey ihvalue => rw [displayed, type, ihkey h.1, ihvalue h.2]
    | parens => exact h.elim
  rw [text, hdisplayed]

/-- The names can be used. -/
def Legible : Ty → Prop
  | .name n => IsName n
  | .qualified q n => IsName q ∧ IsName n
  | .pointer t => t.Legible
  | .map key value => key.Legible ∧ value.Legible
  | .openInterface => True
  | .parens t => t.Legible

instance decidableLegible : (t : Ty) → Decidable t.Legible
  | .name n => inferInstanceAs (Decidable (IsName n))
  | .qualified q n => inferInstanceAs (Decidable (IsName q ∧ IsName n))
  | .pointer t => decidableLegible t
  | .map key value => @instDecidableAnd _ _ (decidableLegible key) (decidableLegible value)
  | .openInterface => .isTrue trivial
  | .parens t => decidableLegible t

/-- The tokens of a type; the first one has the lead `l`. -/
def tokens (l : String) (f : Bool) : Ty → List Token
  | .name n => [⟨.name, n, l, f⟩]
  | .qualified q n => [⟨.name, q, l, f⟩, ⟨.mark, ".", "", false⟩, ⟨.name, n, "", false⟩]
  | .pointer t => ⟨.mark, "*", l, f⟩ :: t.tokens "" false
  | .map key value =>
    ⟨.name, "map", l, f⟩ :: ⟨.mark, "[", "", false⟩
      :: (key.tokens "" false ++ ⟨.mark, "]", "", false⟩ :: value.tokens "" false)
  | .openInterface =>
    [⟨.name, "interface", l, f⟩, ⟨.mark, "\x7b", "", false⟩, ⟨.mark, "\x7d", "", false⟩]
  | .parens t => ⟨.mark, "(", l, f⟩ :: (t.tokens "" false ++ [⟨.mark, ")", "", false⟩])

variable {t : Ty} {l : String} {f : Bool}

theorem spell_tokens (t : Ty) (l : String) (f : Bool) (rest : List Char) :
    spell (t.tokens l f) rest = l.toList ++ (t.text.toList ++ rest) := by
  induction t generalizing l f rest with
  | name | qualified | openInterface =>
    simp [tokens, spell, text, displayed, TypeExpr.text]
  | pointer t ih | parens t ih =>
    simp [tokens, spell, Token.spell_append, ih, text, displayed, TypeExpr.text]
  | map key value ihkey ihvalue =>
    simp [tokens, spell, Token.spell_append, ihkey, ihvalue, text, displayed, TypeExpr.text]

/-- No type begins with an equals sign. -/
theorem Legible.head_ne (h : t.Legible) (rest : List Char) :
    ∀ c ∈ (t.text.toList ++ rest).head?, c ≠ '=' := by
  have hstart : ∀ {n : String} {cs : List Char}, IsName n →
      ∀ c ∈ (n.toList ++ cs).head?, c ≠ '=' := by
    intro n cs hn c hc
    obtain ⟨d, ds, hlist, hd⟩ := hn.1.startsName cs
    rw [hlist] at hc
    obtain rfl : d = c := by simpa using hc
    exact ne_of_isNameStart hd (by decide)
  intro c hc
  cases t with
  | name n => exact hstart h c hc
  | qualified q n =>
    simp only [text, displayed, TypeExpr.text, String.toList_append, List.append_assoc] at hc
    exact hstart h.1 c hc
  | pointer t | map key value | openInterface | parens t =>
    simp only [text, displayed, TypeExpr.text, String.toList_append, List.append_assoc] at hc
    obtain rfl := Option.some.inj hc
    decide

theorem Legible.fitAll (h : t.Legible) (hl : Gap l.toList f) {rest : List Char}
    (hrest : EndsWord rest) : FitAll (t.tokens l f) rest := by
  induction t generalizing l f rest with
  | name n => exact ⟨⟨hl, Token.front_word h.1 hrest⟩, trivial⟩
  | qualified q n =>
    refine ⟨⟨hl, Token.front_word h.1.1 (endsWord_cons (by decide) _)⟩,
      ⟨.nil, Token.front_operator (by simp) ?_⟩, ⟨.nil, Token.front_word h.2.1 hrest⟩, trivial⟩
    exact h.2.1.startsName rest
  | pointer t ih =>
    refine ⟨⟨hl, Token.front_lengthened (by simp) ?_⟩, ih h gap_none hrest⟩
    rw [spell_tokens]
    exact Legible.head_ne (t := t) h rest
  | map key value ihkey ihvalue =>
    have hmap : IsWord "map" := by decide
    have hbracket : ∀ {m : String} {cs : List Char}, m ∈ Token.brackets →
        Token.Fits ⟨.mark, m, "", false⟩ cs := fun hm => Token.fits_bracket gap_none hm _
    exact ⟨⟨hl, Token.front_word hmap (endsWord_cons (by decide) _)⟩, hbracket (by decide),
      Token.fitAll_append.2 ⟨ihkey h.1 gap_none (endsWord_cons (by decide) _),
        hbracket (by decide), ihvalue h.2 gap_none hrest⟩⟩
  | openInterface =>
    have hinterface : IsWord "interface" := by decide
    exact ⟨⟨hl, Token.front_word hinterface (endsWord_cons (by decide) _)⟩,
      Token.fits_bracket gap_none (by decide) _, Token.fits_bracket gap_none (by decide) _, trivial⟩
  | parens t ih =>
    exact ⟨Token.fits_bracket hl (by decide) _, Token.fitAll_append.2
      ⟨ih h gap_none (endsWord_cons (by decide) _),
        Token.fits_bracket gap_none (by decide) _, trivial⟩⟩

/-- **Types are read.** Each nesting takes a token, so the number of tokens is a depth at which
the type is read, without its parentheses. -/
theorem Legible.reads (h : t.Legible) {n : Nat} (hn : (t.tokens l f).length ≤ n) {tail : Bool}
    {rest : List Token} (hrest : endsType tail rest = true) :
    (Rules.upTo n).type tail (t.tokens l f ++ rest) = some (t.type, rest) := by
  induction t generalizing l f n tail rest with
  | name s =>
    obtain ⟨m, rfl⟩ : ∃ m, n = m + 1 := ⟨n - 1, by simp [tokens] at hn; omega⟩
    exact Grammar.type_name (h.not_mem typeWords_subset) hrest
  | qualified q s =>
    obtain ⟨m, rfl⟩ : ∃ m, n = m + 1 := ⟨n - 1, by simp [tokens] at hn; omega⟩
    exact Grammar.type_qualified (h.1.not_mem typeWords_subset) hrest
  | pointer t ih =>
    simp only [tokens, List.length_cons] at hn
    obtain ⟨m, rfl⟩ : ∃ m, n = m + 1 := ⟨n - 1, by omega⟩
    exact Grammar.type_pointer (ih h (by omega) hrest)
  -- Only the value stands at the end of the type, so only it inherits what may follow.
  | map key value ihkey ihvalue =>
    simp only [tokens, List.length_cons, List.length_append] at hn
    obtain ⟨m, rfl⟩ : ∃ m, n = m + 1 := ⟨n - 1, by omega⟩
    have hkey : (Rules.upTo m).type false
        (key.tokens "" false ++ ⟨.mark, "]", "", false⟩ :: (value.tokens "" false ++ rest))
          = some (key.type, ⟨.mark, "]", "", false⟩ :: (value.tokens "" false ++ rest)) :=
      ihkey h.1 (by omega) (by simp [endsType])
    have hvalue : (Rules.upTo m).type tail (value.tokens "" false ++ rest)
        = some (value.type, rest) := ihvalue h.2 (by omega) hrest
    rw [tokens, List.cons_append, List.cons_append, List.append_assoc, List.cons_append]
    exact Grammar.type_map hkey hvalue
  | openInterface =>
    obtain ⟨m, rfl⟩ : ∃ m, n = m + 1 := ⟨n - 1, by simp [tokens] at hn; omega⟩
    exact Grammar.type_openInterface
  | parens t ih =>
    simp only [tokens, List.length_cons, List.length_append] at hn
    obtain ⟨m, rfl⟩ : ∃ m, n = m + 1 := ⟨n - 1, by omega⟩
    have hinner : (Rules.upTo m).type false (t.tokens "" false ++ ⟨.mark, ")", "", false⟩ :: rest)
        = some (t.type, ⟨.mark, ")", "", false⟩ :: rest) := ih h (by omega) (by simp [endsType])
    rw [tokens, List.cons_append, List.append_assoc, List.singleton_append]
    change Grammar.type (Rules.upTo m) tail _ = _
    simp [Grammar.type, hinner, type]

end Ty

/-! ## Texts and tokens -/

/-- Behind any lead, and before what does not continue a word, the text has the tokens. -/
structure Lexes (s : String) (tokens : String → Bool → List Token) : Prop where
  text : ∀ l f rest, spell (tokens l f) rest = l.toList ++ (s.toList ++ rest)
  fitAll : ∀ l f, Gap l.toList f → ∀ rest, EndsWord rest → FitAll (tokens l f) rest

theorem Ty.Legible.lexes {t : Ty} (h : t.Legible) : Lexes t.text (fun l f => t.tokens l f) :=
  ⟨Ty.spell_tokens t, fun _ _ hl _ hrest => h.fitAll hl hrest⟩

/-! ## Commas -/

section commas

variable {α : Type}

/-- Texts with commas between them. -/
def separated : List String → String
  | [] => ""
  | [s] => s
  | s :: s' :: ss => s ++ ", " ++ separated (s' :: ss)

/-- The tokens of elements with commas between them. -/
def commaTokens (tokens : String → Bool → α → List Token) : String → Bool → List α → List Token
  | _, _, [] => []
  | l, f, [a] => tokens l f a
  | l, f, a :: b :: as =>
    tokens l f a ++ ⟨.mark, ",", "", false⟩ :: commaTokens tokens " " false (b :: as)

/-- The tokens behind the first element. -/
def moreTokens (tokens : String → Bool → α → List Token) : List α → List Token
  | [] => []
  | a :: as => ⟨.mark, ",", "", false⟩ :: commaTokens tokens " " false (a :: as)

variable {tokens : String → Bool → α → List Token} {text : α → String}

theorem commaTokens_cons (l : String) (f : Bool) (a : α) (as : List α) :
    commaTokens tokens l f (a :: as) = tokens l f a ++ moreTokens tokens as := by
  cases as with
  | nil => rw [commaTokens, moreTokens, List.append_nil]
  | cons b bs => rw [commaTokens, moreTokens]

theorem spell_commaTokens (h : ∀ a l f rest, spell (tokens l f a) rest
    = l.toList ++ ((text a).toList ++ rest)) (a : α) (as : List α) (l : String) (f : Bool)
    (rest : List Char) : spell (commaTokens tokens l f (a :: as)) rest
      = l.toList ++ ((separated ((a :: as).map text)).toList ++ rest) := by
  induction as generalizing a l f with
  | nil => simp [commaTokens, separated, h]
  | cons b bs ih =>
    rw [commaTokens, Token.spell_append, h, spell, ih]
    simp [separated]

theorem fitAll_commaTokens {as : List α} (h : ∀ a ∈ as, Lexes (text a) fun l f => tokens l f a)
    {l : String} {f : Bool} (hl : Gap l.toList f) {rest : List Char} (hrest : EndsWord rest) :
    FitAll (commaTokens tokens l f as) rest := by
  induction as generalizing l f with
  | nil => trivial
  | cons a as ih =>
    have ha := h a List.mem_cons_self
    cases as with
    | nil => exact ha.fitAll l f hl rest hrest
    | cons b bs =>
      refine Token.fitAll_append.2 ⟨ha.fitAll l f hl _ (endsWord_cons (by decide) _),
        Token.fits_bracket gap_none (by decide) _, ?_⟩
      exact ih (fun b hb => h b (List.mem_cons_of_mem _ hb)) Token.gap_space

end commas

/-! ## Names -/

/-- The token of a name. -/
def nameToken (l : String) (f : Bool) (n : String) : List Token := [⟨.name, n, l, f⟩]

theorem lexes_name {n : String} (h : IsWord n) : Lexes n fun l f => nameToken l f n :=
  ⟨fun l f rest => by simp [nameToken, spell],
    fun _ _ hl _ hrest => ⟨⟨hl, Token.front_word h hrest⟩, trivial⟩⟩

/-- The tokens of names with commas between them. -/
def namesTokens (l : String) (f : Bool) (names : List String) : List Token :=
  commaTokens nameToken l f names

theorem namesTokens_cons (l : String) (f : Bool) (n : String) (ns : List String) :
    namesTokens l f (n :: ns) = ⟨.name, n, l, f⟩ :: moreTokens nameToken ns :=
  commaTokens_cons l f n ns

theorem spell_namesTokens (l : String) (f : Bool) (n : String) (ns : List String)
    (rest : List Char) : spell (namesTokens l f (n :: ns)) rest
      = l.toList ++ ((separated (n :: ns)).toList ++ rest) := by
  have hspell : spell (commaTokens nameToken l f (n :: ns)) rest
      = l.toList ++ ((separated ((n :: ns).map id)).toList ++ rest) :=
    spell_commaTokens (fun n l f rest => by simp [nameToken, spell]) n ns l f rest
  rwa [List.map_id] at hspell

theorem fitAll_namesTokens {names : List String} (h : ∀ n ∈ names, IsWord n) {l : String}
    {f : Bool} (hl : Gap l.toList f) {rest : List Char} (hrest : EndsWord rest) :
    FitAll (namesTokens l f names) rest :=
  fitAll_commaTokens (fun n hn => lexes_name (h n hn)) hl hrest

/-- Each name takes a token. -/
theorem length_lt_namesTokens (l : String) (f : Bool) (n : String) (ns : List String) :
    ns.length < (namesTokens l f (n :: ns)).length := by
  induction ns generalizing l f n with
  | nil => simp [namesTokens, commaTokens, nameToken]
  | cons n' ns ih =>
    have hmore := ih " " false n'
    simp only [namesTokens, commaTokens, nameToken, List.length_append, List.length_cons]
      at hmore ⊢
    omega

theorem nameRunWithin_names {words : List String} {tail : Bool} {n : String} {ns : List String}
    (h : ∀ m ∈ n :: ns, m ∉ words) (l : String) (f : Bool) {rest : List Token}
    (hrest : continues tail "," rest = some (false, rest)) {k : Nat} (hk : ns.length < k) :
    nameRunWithin words tail k (namesTokens l f (n :: ns) ++ rest) = some (n :: ns, rest) := by
  induction ns generalizing n l f k with
  | nil =>
    obtain ⟨m, rfl⟩ : ∃ m, k = m + 1 := ⟨k - 1, by omega⟩
    simp [-continues_apply, namesTokens, commaTokens, nameToken, nameRunWithin,
      h n List.mem_cons_self, hrest]
  | cons n' ns ih =>
    rw [List.length_cons] at hk
    obtain ⟨m, rfl⟩ : ∃ m, k = m + 1 := ⟨k - 1, by omega⟩
    have hmore := ih (n := n') (fun m hm => h m (List.mem_cons_of_mem _ hm)) " " false (k := m)
      (by omega)
    rw [namesTokens] at hmore
    simp only [↓bind_apply, namesTokens, commaTokens, nameToken, List.cons_append, List.nil_append,
      nameRunWithin, identExcept_cons, h n List.mem_cons_self, not_false_eq_true, resume_some,
      continues_apply, List.head?_cons, Option.all_some, Bool.and_false, Bool.not_false,
      Option.any_some, isMark_mark, BEq.rfl, Bool.and_self, if_true]
    -- The comma goes on with the next name, so the first way to read it is taken.
    refine orElse_of_eq_some ?_
    simp [hmore]

/-- Names with commas between them are read up to what no comma continues. -/
theorem nameRun_names {words : List String} {tail : Bool} {n : String} {ns : List String}
    (h : ∀ m ∈ n :: ns, m ∉ words) (l : String) (f : Bool) {rest : List Token}
    (hrest : continues tail "," rest = some (false, rest)) :
    nameRun words tail (namesTokens l f (n :: ns) ++ rest) = some (n :: ns, rest) := by
  refine nameRunWithin_names h l f hrest ?_
  have hlength := length_lt_namesTokens l f n ns
  rw [List.length_append]
  omega

end Written
end StructFill.Source
