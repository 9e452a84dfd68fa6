import StructFill.Proofs.Source.TypeForms

/-! # Signatures in source form

  Parameters are written in groups: names with one type, or a type alone. A
  function is its name with its parameters and results, and a body of which
  nothing is kept.

  **Types without names.** The types of parameters may be names, and then they
  can also begin a group of names with one type. The rule tries the group
  first. It gets stuck at a comma, at a closing parenthesis or at a dot, where
  no type begins, and falls back on the type alone.
-/

namespace StructFill.Source

/-- A named type begins with a name. -/
theorem Grammar.namedType_of_kind {r : Grammar.Rules} {tail : Bool} {t : Token}
    (h : t.kind ≠ .name) (rest : List Token) : Grammar.namedType r tail (t :: rest) = none := by
  have hident : Parse.ident (t :: rest) = none := by simp [Parse.ident, h]
  simp [Grammar.namedType, Parse.spanned, Parse.resume, hident]

/-- A type begins with few marks. -/
theorem Grammar.type_mark {r : Grammar.Rules} {tail f : Bool} {m l : String} {rest : List Token}
    (hm : m ∉ ["(", "*", "[", "<-", "~"]) :
    Grammar.type r tail (⟨.mark, m, l, f⟩ :: rest) = none := by
  simp only [List.mem_cons, List.not_mem_nil, or_false, not_or] at hm
  obtain ⟨hparen, hstar, hbracket, harrow, htilde⟩ := hm
  simp [Grammar.type, Grammar.namedType_of_kind, hparen, hstar, hbracket, harrow, htilde]

/-- A parser that fails leaves the choice to the next one. -/
theorem Parse.orElse_of_eq_none {α : Type} {p q : Parse α} {ts : List Token} (h : p ts = none) :
    (p <|> q) ts = q ts := by
  change (p ts).orElse _ = _
  rw [h]
  rfl

namespace Written

open Token (Gap FitAll EndsWord endsWord_cons gap_none spell)
open Grammar (Rules endsType)
open Parse

/-! ## Parameters -/

/-- Parameters with one type; without names, the type alone. -/
structure Group where
  names : List String
  type : Ty

namespace Group

/-- One parameter for each name, or one without a name. -/
def params (g : Group) : List Param :=
  match g.names with
  | [] => [⟨none, g.type.type⟩]
  | names => names.map fun n => ⟨some n, g.type.type⟩

def text (g : Group) : String :=
  match g.names with
  | [] => g.type.text
  | names => separated names ++ " " ++ g.type.text

def tokens (l : String) (f : Bool) (g : Group) : List Token :=
  match g.names with
  | [] => g.type.tokens l f
  | names => namesTokens l f names ++ g.type.tokens " " false

def Legible (g : Group) : Prop := (∀ n ∈ g.names, IsName n) ∧ g.type.Legible

instance (g : Group) : Decidable g.Legible := inferInstanceAs (Decidable (_ ∧ _))

theorem spell_tokens (g : Group) (l : String) (f : Bool) (rest : List Char) :
    spell (g.tokens l f) rest = l.toList ++ (g.text.toList ++ rest) := by
  obtain ⟨names, t⟩ := g
  cases names with
  | nil => exact Ty.spell_tokens t l f rest
  | cons n ns =>
    simp [tokens, text, Token.spell_append, spell_namesTokens, Ty.spell_tokens]

theorem Legible.lexes {g : Group} (h : g.Legible) : Lexes g.text fun l f => g.tokens l f := by
  refine ⟨spell_tokens g, fun l f hl rest hrest => ?_⟩
  obtain ⟨names, t⟩ := g
  cases names with
  | nil => exact h.2.fitAll hl hrest
  | cons n ns =>
    have hends : EndsWord (spell (t.tokens " " false) rest) := by
      rw [Ty.spell_tokens]
      exact endsWord_cons (by decide) _
    exact Token.fitAll_append.2
      ⟨fitAll_namesTokens (fun m hm => (h.1 m hm).1) hl hends, h.2.fitAll Token.gap_space hrest⟩

end Group

/-- All groups have names, or none has. -/
structure LegibleParams (gs : List Group) : Prop where
  each : ∀ g ∈ gs, g.Legible
  agree : (∀ g ∈ gs, g.names ≠ []) ∨ ∀ g ∈ gs, g.names = []

theorem legibleParams_iff {gs : List Group} : LegibleParams gs ↔
    (∀ g ∈ gs, g.Legible) ∧ ((∀ g ∈ gs, g.names ≠ []) ∨ ∀ g ∈ gs, g.names = []) :=
  ⟨fun h => ⟨h.each, h.agree⟩, fun h => ⟨h.1, h.2⟩⟩

instance (gs : List Group) : Decidable (LegibleParams gs) :=
  decidable_of_iff _ legibleParams_iff.symm

def paramsText (gs : List Group) : String := "(" ++ separated (gs.map Group.text) ++ ")"

def paramsTokens (l : String) (f : Bool) (gs : List Group) : List Token :=
  ⟨.mark, "(", l, f⟩ :: (commaTokens Group.tokens "" false gs ++ [⟨.mark, ")", "", false⟩])

@[simp] theorem head?_paramsTokens (l : String) (f : Bool) (gs : List Group) :
    (paramsTokens l f gs).head? = some ⟨.mark, "(", l, f⟩ := by
  rw [paramsTokens, List.head?_cons]

theorem spell_paramsTokens (gs : List Group) (l : String) (f : Bool) (rest : List Char) :
    spell (paramsTokens l f gs) rest = l.toList ++ ((paramsText gs).toList ++ rest) := by
  cases gs with
  | nil => simp [paramsTokens, paramsText, commaTokens, separated, spell]
  | cons g gs =>
    simp [paramsTokens, paramsText, spell, Token.spell_append,
      spell_commaTokens Group.spell_tokens]

theorem lexes_params {gs : List Group} (h : LegibleParams gs) :
    Lexes (paramsText gs) fun l f => paramsTokens l f gs := by
  refine ⟨spell_paramsTokens gs, fun l f hl rest _ => ?_⟩
  have hgroups : FitAll (commaTokens Group.tokens "" false gs)
      (spell [⟨.mark, ")", "", false⟩] rest) :=
    fitAll_commaTokens (fun g hg => (h.each g hg).lexes) gap_none
      (endsWord_cons (by decide) _)
  exact ⟨Token.fits_bracket hl (by decide) _,
    Token.fitAll_append.2 ⟨hgroups, Token.fits_bracket gap_none (by decide) _, trivial⟩⟩

/-! ### Types without names -/

/-- A comma, a closing parenthesis or a dot comes next. -/
def Stuck (ts : List Token) : Prop :=
  ∃ m ∈ [",", ")", "."], ∃ l f rest, ts = ⟨.mark, m, l, f⟩ :: rest

/-- No type begins there. -/
theorem Stuck.type {ts : List Token} (h : Stuck ts) (n : Nat) (tail : Bool) :
    (Rules.upTo n).type tail ts = none := by
  obtain ⟨m, hm, l, f, rest, rfl⟩ := h
  have hnone : ∀ m ∈ [",", ")", "."], m ∉ ["(", "*", "[", "<-", "~"] := by decide
  cases n with
  | zero => rfl
  | succ n => exact Grammar.type_mark (hnone m hm)

theorem stuck_moreTokens (gs : List Group) (l : String) (f : Bool) (rest : List Token) :
    Stuck (moreTokens Group.tokens gs ++ ⟨.mark, ")", l, f⟩ :: rest) := by
  cases gs with
  | nil => exact ⟨")", by simp, l, f, rest, rfl⟩
  | cons g gs => exact ⟨",", by simp, "", false, _, rfl⟩

/-- A name that no comma follows is taken alone. -/
theorem nameRunWithin_cons {words : List String} {n l : String} {f : Bool} {ts : List Token}
    (hn : n ∉ words) (k : Nat) : nameRunWithin words false (k + 1) (⟨.name, n, l, f⟩ :: ts)
      = if ts.head?.any (isMark ",") then
          ((do mark ","
               let as ← nameRunWithin words false k
               pure (n :: as)) <|> pure [n]) ts
        else some ([n], ts) := by
  cases hcomma : ts.head?.any (isMark ",") <;> simp [nameRunWithin, hn, hcomma]

/-- Names are taken from types without names up to where no type begins. -/
theorem stuck_of_nameRunWithin {gs : List Group} (hne : gs ≠ []) (h : ∀ g ∈ gs, g.Legible)
    (hnames : ∀ g ∈ gs, g.names = []) {l l' : String} {f f' : Bool} {rest rest' : List Token}
    {k : Nat} {names : List String}
    (hrun : nameRunWithin Grammar.typeWords false k
      (commaTokens Group.tokens l f gs ++ ⟨.mark, ")", l', f'⟩ :: rest) = some (names, rest')) :
    Stuck rest' := by
  induction gs generalizing l f k names rest' with
  | nil => exact absurd rfl hne
  | cons g gs ih =>
    cases k with
    | zero => exact absurd (show none = some (names, rest') from hrun) (by simp)
    | succ k =>
      obtain ⟨gnames, t⟩ := g
      obtain rfl : gnames = [] := hnames _ List.mem_cons_self
      have ht : t.Legible := (h _ List.mem_cons_self).2
      rw [commaTokens_cons, List.append_assoc, Group.tokens] at hrun
      -- Only a name alone lets the run go on. A qualified name ends it at the dot, and no run of
      -- names begins with any other type.
      cases t with
      | name n =>
        rw [Ty.tokens, List.singleton_append,
          nameRunWithin_cons (ht.not_mem typeWords_subset)] at hrun
        cases gs with
        | nil =>
          obtain ⟨-, rfl⟩ : [n] = names ∧ _ = rest' := by simpa [moreTokens] using hrun
          exact stuck_moreTokens [] l' f' rest
        | cons g gs =>
          simp only [moreTokens, List.cons_append, List.head?_cons, Option.any_some, isMark_mark,
            beq_self_eq_true, if_true] at hrun
          cases hmore : nameRunWithin Grammar.typeWords false k
              (commaTokens Group.tokens " " false (g :: gs) ++ ⟨.mark, ")", l', f'⟩ :: rest) with
          -- The run gives the comma back if no name follows it, so it stops in front of the comma.
          | none =>
            rw [orElse_of_eq_none (by simp [hmore, resume])] at hrun
            obtain ⟨-, rfl⟩ : [n] = names ∧ _ = rest' := by simpa using hrun
            exact stuck_moreTokens (g :: gs) l' f' rest
          | some x =>
            obtain ⟨as, rest''⟩ := x
            rw [orElse_of_eq_some (x := (n :: as, rest'')) (by simp [hmore])] at hrun
            obtain ⟨-, rfl⟩ : n :: as = names ∧ rest'' = rest' := by simpa using hrun
            exact ih (by simp) (fun g hg => h g (List.mem_cons_of_mem _ hg))
              (fun g hg => hnames g (List.mem_cons_of_mem _ hg)) hmore
      | qualified q n =>
        simp only [Ty.tokens, List.cons_append, List.nil_append] at hrun
        rw [nameRunWithin_cons (ht.1.not_mem typeWords_subset)] at hrun
        obtain ⟨-, rfl⟩ : [q] = names ∧ _ = rest' := by simpa using hrun
        exact ⟨".", by simp, _, _, _, rfl⟩
      | pointer t | map key value | openInterface | parens t =>
        simp [Ty.tokens, nameRunWithin, identExcept, Grammar.typeWords, resume] at hrun

/-- A type begins with no mark but a star or a parenthesis. -/
theorem Ty.isMark_head (t : Ty) (l : String) (f : Bool) (rest : List Token) {m : String}
    (hm : m ∉ ["*", "("]) : (t.tokens l f ++ rest).head?.any (isMark m) = false := by
  simp only [List.mem_cons, List.not_mem_nil, or_false, not_or] at hm
  cases t <;> simp [Ty.tokens, Ne.symm hm.1, Ne.symm hm.2]

theorem Group.isMark_head (g : Group) (l : String) (f : Bool) (rest : List Token) {m : String}
    (hm : m ∉ ["*", "("]) : (g.tokens l f ++ rest).head?.any (isMark m) = false := by
  obtain ⟨names, t⟩ := g
  match names with
  | [] => exact t.isMark_head l f rest hm
  | [n] | n :: n' :: ns => simp [tokens, namesTokens, commaTokens, nameToken]

theorem Stuck.isMark {ts : List Token} (h : Stuck ts) {m : String} (hm : m ∉ [",", ")", "."]) :
    ts.head?.any (Parse.isMark m) = false := by
  obtain ⟨m', hm', l, f, rest, rfl⟩ := h
  have hne : m' ≠ m := by
    rintro rfl
    exact hm hm'
  simpa using hne

variable {n : Nat} {l l' : String} {f f' : Bool} {rest : List Token}

theorem endsType_moreTokens (gs : List Group) :
    endsType false (moreTokens Group.tokens gs ++ ⟨.mark, ")", l', f'⟩ :: rest) = true := by
  cases gs <;> simp [moreTokens, endsType]

/-- A parameter list is no place for a type alone if the names in front have a type. -/
theorem param_of_names {r : Rules} {ts ts' : List Token} {names : List String} {t : TypeExpr}
    (hdots : ts.head?.any (isMark "...") = false)
    (hrun : nameRun Grammar.typeWords false ts = some (names, ts'))
    (hdots' : ts'.head?.any (isMark "...") = false) (htype : r.type false ts' = some (t, rest)) :
    Grammar.param r ts = some (names.map fun n => ⟨some n, t⟩, rest) := by
  rw [Grammar.param]
  simp only [↓bind_apply, takeMark_apply, take?_apply, hdots, Bool.false_eq_true, if_false,
    resume_some]
  refine orElse_of_eq_some ?_
  simp [hrun, hdots', htype]

/-- A type is read alone if no type is behind the names that can be taken. -/
theorem param_of_stuck {r : Rules} {ts : List Token} {t : TypeExpr}
    (hdots : ts.head?.any (isMark "...") = false)
    (hrun : ∀ names ts', nameRun Grammar.typeWords false ts = some (names, ts') →
      ts'.head?.any (isMark "...") = false ∧ r.type false ts' = none)
    (htype : r.type false ts = some (t, rest)) :
    Grammar.param r ts = some ([⟨none, t⟩], rest) := by
  rw [Grammar.param]
  simp only [↓bind_apply, takeMark_apply, take?_apply, hdots, Bool.false_eq_true, if_false,
    resume_some]
  refine (orElse_of_eq_none ?_).trans ?_
  · cases hnames : nameRun Grammar.typeWords false ts with
    | none => simp [hnames, resume]
    | some x =>
      obtain ⟨hdots', hnone⟩ := hrun x.1 x.2 hnames
      simp [hnames, resume, hdots', hnone]
  · simp [htype]

/-- **Groups are read**, those without names where no group behind them has names. -/
theorem Group.Legible.reads {g : Group} (h : g.Legible) {gs : List Group}
    (hgs : g.names = [] → ∀ g' ∈ gs, g'.Legible ∧ g'.names = [])
    (hn : (g.tokens l f).length ≤ n) :
    Grammar.param (Rules.upTo n)
        (g.tokens l f ++ (moreTokens Group.tokens gs ++ ⟨.mark, ")", l', f'⟩ :: rest))
      = some (g.params, moreTokens Group.tokens gs ++ ⟨.mark, ")", l', f'⟩ :: rest) := by
  have hends : endsType false (moreTokens Group.tokens gs ++ ⟨.mark, ")", l', f'⟩ :: rest) = true :=
    endsType_moreTokens gs
  obtain ⟨names, t⟩ := g
  cases names with
  | nil =>
    refine param_of_stuck (t.isMark_head l f _ (by decide)) (fun names ts' hrun => ?_)
      (h.2.reads hn hends)
    -- The names that can be taken are those of the group and of the groups behind it.
    have hall : ∀ g' ∈ ⟨[], t⟩ :: gs, g'.Legible ∧ g'.names = [] :=
      List.forall_mem_cons.2 ⟨⟨h, rfl⟩, hgs rfl⟩
    rw [← List.append_assoc, ← commaTokens_cons] at hrun
    have hstuck : Stuck ts' := stuck_of_nameRunWithin (List.cons_ne_nil _ _)
      (fun g' hg' => (hall g' hg').1) (fun g' hg' => (hall g' hg').2) hrun
    exact ⟨hstuck.isMark (by decide), hstuck.type n false⟩
  | cons s ss =>
    simp only [tokens, List.length_append] at hn
    have htype : (Rules.upTo n).type false (t.tokens " " false ++ _) = some (t.type, _) :=
      Ty.Legible.reads (t := t) h.2 (by omega) hends
    rw [tokens, List.append_assoc]
    refine param_of_names ?_ (nameRun_names (fun m hm => (h.1 m hm).not_mem typeWords_subset) l f ?_)
      (t.isMark_head " " false _ (by decide)) htype
    swap
    · rw [continues_apply, t.isMark_head " " false _ (by decide), Bool.and_false]
    cases ss <;> simp [namesTokens, commaTokens, nameToken]

theorem commaList_groups {gs : List Group} (h : ∀ g ∈ gs, g.Legible)
    (hagree : (∀ g ∈ gs, g.names ≠ []) ∨ ∀ g ∈ gs, g.names = [])
    (hn : (commaTokens Group.tokens l f gs).length ≤ n) :
    CommaList (Grammar.param (Rules.upTo n)) ")"
      (commaTokens Group.tokens l f gs ++ ⟨.mark, ")", l', f'⟩ :: rest) (gs.map Group.params)
      rest := by
  induction gs generalizing l f with
  | nil => exact .done
  | cons g gs ih =>
    have htail : ∀ {P : Group → Prop}, (∀ g' ∈ g :: gs, P g') → ∀ g' ∈ gs, P g' :=
      fun hall g' hg' => hall g' (List.mem_cons_of_mem _ hg')
    -- Parameters are all named or all unnamed. Otherwise a type that stands alone would be read as
    -- one more name of the group behind it.
    have hunnamed : g.names = [] → ∀ g' ∈ gs, g'.Legible ∧ g'.names = [] := by
      intro hg g' hg'
      rcases hagree with hnamed | hunnamed
      · exact absurd hg (hnamed g List.mem_cons_self)
      · exact ⟨htail h g' hg', htail hunnamed g' hg'⟩
    rw [commaTokens_cons, List.length_append] at hn
    have hread : Grammar.param (Rules.upTo n)
        (g.tokens l f ++ (moreTokens Group.tokens gs ++ ⟨.mark, ")", l', f'⟩ :: rest))
          = some (g.params, moreTokens Group.tokens gs ++ ⟨.mark, ")", l', f'⟩ :: rest) :=
      (h g List.mem_cons_self).reads hunnamed (by omega)
    have hopen := g.isMark_head l f
      (moreTokens Group.tokens gs ++ ⟨.mark, ")", l', f'⟩ :: rest) (m := ")") (by decide)
    rw [commaTokens_cons, List.append_assoc, List.map_cons]
    cases gs with
    | nil => exact .last hopen hread
    | cons g' gs =>
      rw [moreTokens, List.length_cons] at hn
      rw [moreTokens, List.cons_append] at hread
      have hrest := ih (htail h) (hagree.imp htail htail) (l := " ") (f := false) (by omega)
      refine .more hopen hread ?_ hrest
      simp only [moreTokens, List.length_append, List.length_cons]
      omega

/-- **Parameters are read**, one for each name of a group. -/
theorem LegibleParams.reads {gs : List Group} (h : LegibleParams gs)
    (hn : (paramsTokens l f gs).length ≤ n) (rest : List Token) :
    Grammar.params (Rules.upTo n) (paramsTokens l f gs ++ rest)
      = some (gs.flatMap Group.params, rest) := by
  simp only [paramsTokens, List.length_cons, List.length_append] at hn
  have hlist : CommaList (Grammar.param (Rules.upTo n)) ")"
      (commaTokens Group.tokens "" false gs ++ ⟨.mark, ")", "", false⟩ :: rest)
      (gs.map Group.params) rest := commaList_groups h.each h.agree (by omega)
  rw [paramsTokens, List.cons_append, List.append_assoc, List.singleton_append,
    Grammar.params_of_commaList hlist, List.flatMap_def]

/-! ## Results -/

/-- Results in source form: none, one type, or groups in parentheses. -/
inductive Results where
  | none
  | single (t : Ty)
  | list (gs : List Group)

namespace Results

def params : Results → List Param
  | .none => []
  | .single t => [⟨Option.none, t.type⟩]
  | .list gs => gs.flatMap Group.params

def text : Results → String
  | .none => ""
  | .single t => " " ++ t.text
  | .list gs => " " ++ paramsText gs

def tokens : Results → List Token
  | .none => []
  | .single t => t.tokens " " false
  | .list gs => paramsTokens " " false gs

def Legible : Results → Prop
  | .none => True
  | .single t => t.Legible
  | .list gs => LegibleParams gs

instance : (r : Results) → Decidable r.Legible
  | .none => .isTrue trivial
  | .single t => inferInstanceAs (Decidable t.Legible)
  | .list gs => inferInstanceAs (Decidable (LegibleParams gs))

theorem spell_tokens (r : Results) (rest : List Char) :
    spell r.tokens rest = r.text.toList ++ rest := by
  cases r <;> simp [tokens, text, spell, Ty.spell_tokens, spell_paramsTokens]

theorem endsWord (r : Results) {rest : List Char} (hrest : EndsWord rest) :
    EndsWord (r.text.toList ++ rest) := by
  cases r with
  | none => simpa [text] using hrest
  | single | list =>
    simp only [text, String.toList_append, List.append_assoc]
    exact endsWord_cons (by decide) _

theorem Legible.fitAll {r : Results} (h : r.Legible) {rest : List Char} (hrest : EndsWord rest) :
    FitAll r.tokens rest := by
  cases r with
  | none => trivial
  | single t => exact Ty.Legible.fitAll (t := t) h Token.gap_space hrest
  | list gs => exact (lexes_params h).fitAll " " false Token.gap_space rest hrest

end Results

/-- A signature ends at a line break or before a body. -/
def EndsSignature (rest : List Token) : Prop :=
  rest.head?.all (·.fresh) = true ∨ ∃ l ts, rest = ⟨.mark, "\x7b", l, false⟩ :: ts

theorem endsType_of_fresh (h : rest.head?.all (·.fresh) = true) : endsType true rest = true := by
  simp [endsType, h]

theorem EndsSignature.endsType (h : EndsSignature rest) : endsType true rest = true := by
  rcases h with h | ⟨l, ts, rfl⟩
  · exact endsType_of_fresh h
  · simp [Grammar.endsType]

/-- No result is written before what ends a signature. -/
theorem results_none {r : Rules} (h : EndsSignature rest) :
    Grammar.results r true rest = some ([], rest) := by
  rcases h with h | ⟨l, ts, rfl⟩
  · simp [Grammar.results, h]
  · simp [Grammar.results, Grammar.beginsType]

/-- One result is a type that does not begin with a parenthesis. -/
theorem results_single {r : Rules} {t : Token} {ts : List Token} {type : TypeExpr}
    (hfresh : t.fresh = false) (hparen : isMark "(" t = false)
    (hbegins : Grammar.beginsType t = true)
    (htype : r.type true (t :: ts) = some (type, rest)) :
    Grammar.results r true (t :: ts) = some ([⟨none, type⟩], rest) := by
  simp [Grammar.results, hfresh, hparen, hbegins, htype]

/-- **Results are read.** One type in parentheses is a list of one. -/
theorem Results.Legible.reads {r : Results} (h : r.Legible) (hn : r.tokens.length ≤ n)
    (hrest : EndsSignature rest) :
    Grammar.results (Rules.upTo n) true (r.tokens ++ rest) = some (r.params, rest) := by
  cases r with
  | none => exact results_none hrest
  | list gs =>
    have hparams : LegibleParams gs := h
    have hread := hparams.reads hn rest
    rw [Results.tokens, paramsTokens, List.cons_append, Grammar.results_eq_params]
    exact hread
  | single t =>
    have htype := Ty.Legible.reads (t := t) h hn hrest.endsType
    cases t with
    | parens t =>
      have hlegible : LegibleParams [⟨[], t⟩] :=
        ⟨List.forall_mem_singleton.2 ⟨List.forall_mem_nil _, h⟩,
          .inr (List.forall_mem_singleton.2 rfl)⟩
      have hread := hlegible.reads (l := " ") (f := false) hn rest
      rw [Results.tokens, Ty.tokens, List.cons_append, Grammar.results_eq_params]
      exact hread
    | name | qualified | pointer | map | openInterface =>
      exact results_single rfl (by simp) (by simp [Grammar.beginsType]) htype

/-! ## Functions -/

/-- A function in source form. The body is given by its tokens behind the opening brace. -/
structure Function where
  name : String
  params : List Group
  results : Results
  body : Option (List Token)

/-- The text of tokens of which nothing is kept. -/
def skippedText (ts : List Token) : String := String.ofList (spell ts [])

theorem spell_eq_append (ts : List Token) (rest : List Char) :
    spell ts rest = (skippedText ts).toList ++ rest := by
  rw [skippedText, String.toList_ofList]
  induction ts with
  | nil => rfl
  | cons t ts ih => rw [spell, spell, ih, List.append_assoc, List.append_assoc]

/-- The tokens are the statements of a block and its closing brace. -/
structure IsBody (ts : List Token) : Prop where
  fitAll : ∀ rest, FitAll ts rest
  reads : ∀ n, ts.length ≤ n → ∀ rest, Grammar.block (Rules.upTo n)
    (⟨.mark, "\x7b", " ", false⟩ :: (ts ++ rest)) = some ((), rest)

def bodyTokens : Option (List Token) → List Token
  | none => []
  | some ts => ⟨.mark, "\x7b", " ", false⟩ :: ts

namespace Function

variable {fn : Function}

def decl (fn : Function) : FuncDecl :=
  ⟨fn.name, fn.params.flatMap Group.params, fn.results.params⟩

/-- The text from the name on. -/
def text (fn : Function) : String :=
  fn.name ++ paramsText fn.params ++ fn.results.text ++ skippedText (bodyTokens fn.body)

/-- The tokens from the name on. -/
def tokens (fn : Function) : List Token :=
  ⟨.name, fn.name, " ", false⟩
    :: (paramsTokens "" false fn.params ++ (fn.results.tokens ++ bodyTokens fn.body))

structure Legible (fn : Function) : Prop where
  name : IsName fn.name
  params : LegibleParams fn.params
  results : fn.results.Legible
  body : ∀ ts ∈ fn.body, IsBody ts

theorem spell_tokens (fn : Function) (rest : List Char) :
    spell fn.tokens rest = ' ' :: (fn.text.toList ++ rest) := by
  have hbody := spell_eq_append (bodyTokens fn.body) rest
  simp [tokens, text, spell, Token.spell_append, spell_paramsTokens, Results.spell_tokens, hbody]

theorem Legible.fitAll (h : fn.Legible) {rest : List Char} (hrest : EndsWord rest) :
    FitAll fn.tokens rest := by
  have hbody : EndsWord (spell (bodyTokens fn.body) rest)
      ∧ FitAll (bodyTokens fn.body) rest := by
    cases hfn : fn.body with
    | none => exact ⟨hrest, trivial⟩
    | some ts =>
      exact ⟨endsWord_cons (by decide) _,
        Token.fits_bracket Token.gap_space (by decide) _, (h.body ts hfn).fitAll _⟩
  have hresults := h.results.fitAll hbody.1
  have hparams := (lexes_params h.params).fitAll "" false gap_none
    (spell (fn.results.tokens ++ bodyTokens fn.body) rest) (by
      rw [Token.spell_append, Results.spell_tokens]
      exact fn.results.endsWord hbody.1)
  exact ⟨⟨Token.gap_space, Token.front_word h.name.1 (endsWord_cons (by decide) _)⟩,
    Token.fitAll_append.2 ⟨hparams, Token.fitAll_append.2 ⟨hresults, hbody.2⟩⟩⟩

/-- What is behind the parameters, up to a line break. -/
theorem Legible.reads_results (h : fn.Legible)
    (hn : (fn.results.tokens ++ bodyTokens fn.body).length ≤ n)
    (hrest : rest.head?.all (·.fresh) = true) :
    Grammar.results (Rules.upTo n) true (fn.results.tokens ++ (bodyTokens fn.body ++ rest))
        = some (fn.results.params, bodyTokens fn.body ++ rest)
      ∧ Grammar.functionBody (Rules.upTo n) (bodyTokens fn.body ++ rest) = some ((), rest) := by
  rw [List.length_append] at hn
  cases hfn : fn.body with
  | none =>
    refine ⟨h.results.reads (by omega) (.inl hrest), ?_⟩
    simp [Grammar.functionBody, bodyTokens, hrest]
  | some ts =>
    rw [hfn, bodyTokens, List.length_cons] at hn
    refine ⟨h.results.reads (by omega) (.inr ⟨_, _, rfl⟩), ?_⟩
    have hblock := (h.body ts hfn).reads n (by omega) rest
    simp [Grammar.functionBody, bodyTokens, hblock]

/-- **Functions are read as what they declare**, whatever is in the body. -/
theorem Legible.reads (h : fn.Legible) (hn : fn.tokens.length ≤ n)
    (hrest : rest.head?.all (·.fresh) = true) :
    Grammar.function (Rules.upTo n) (⟨.name, "func", l, f⟩ :: (fn.tokens ++ rest))
      = some (.function fn.decl, rest) := by
  simp only [tokens, List.length_cons, List.length_append] at hn
  obtain ⟨hresults, hbody⟩ := h.reads_results (n := n)
    (by rw [List.length_append]; omega) hrest
  have hparams := h.params.reads (l := "") (f := false) (n := n) (by omega)
    (fn.results.tokens ++ (bodyTokens fn.body ++ rest))
  simp [Grammar.function, tokens, decl, hparams, hresults, hbody]

/-- Nothing is kept of a function with a receiver. -/
theorem Legible.reads_method (h : fn.Legible) {receiver : List Group}
    (hreceiver : LegibleParams receiver)
    (hn : (paramsTokens " " false receiver ++ fn.tokens).length ≤ n)
    (hrest : rest.head?.all (·.fresh) = true) :
    Grammar.function (Rules.upTo n)
      (⟨.name, "func", l, f⟩ :: (paramsTokens " " false receiver ++ (fn.tokens ++ rest)))
      = some (.skipped, rest) := by
  simp only [tokens, List.length_cons, List.length_append] at hn
  obtain ⟨hresults, hbody⟩ := h.reads_results (n := n)
    (by rw [List.length_append]; omega) hrest
  have hparams := h.params.reads (l := "") (f := false) (n := n) (by omega)
    (fn.results.tokens ++ (bodyTokens fn.body ++ rest))
  have hfirst := hreceiver.reads (l := " ") (f := false) (n := n) (by omega) (fn.tokens ++ rest)
  rw [tokens] at hfirst
  simp only [List.cons_append, List.append_assoc] at hfirst
  simp [Grammar.function, tokens, hfirst, hparams, hresults, hbody]

end Function
end Written
end StructFill.Source
