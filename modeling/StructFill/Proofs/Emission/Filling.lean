import StructFill.Proofs.Emission.Tokens

/-! # The lines that fill fields are statements

  Each section of a function is read as statements: one for a field that is
  assigned directly, one conditional with its steps for a field that is
  assigned under a guard, and none for a field that is left to be filled by
  hand, whose line is a comment.

  A bucket is written as it is, so a field of any strategy may stand in any
  section. The names in a strategy decide whether its lines can be read; its
  kind does not.
-/

namespace StructFill.Emission

open Source
open Source.Token (Gap FitAll Scans spell)
open Source.Grammar (Rules Place Stops NoMark noMark_mark)
open Typing (Expr Step Statement)

/-! ## Steps -/

/-- The tokens of a step whose first token has the lead `l`. -/
inductive SpellsStep : Step → (String → List Token) → Prop where
  | store {field e ts} (hfield : IsWord field) (he : Spells e " " ts) :
    SpellsStep (.store field e) fun l => ⟨.name, "obj", l, true⟩ :: ⟨.mark, ".", "", false⟩
      :: ⟨.name, field, "", false⟩ :: ⟨.mark, "=", " ", false⟩ :: ts
  | define {x e ts} (hx : IsName x) (he : Spells e " " ts) :
    SpellsStep (.define x e) fun l => ⟨.name, x, l, true⟩ :: ⟨.mark, ":=", " ", false⟩ :: ts

/-- A function that allocates is called on nothing but a name in the value of the step. -/
def StepAllocatesTypes : Step → Prop
  | .store _ e | .define _ e => AllocatesTypes e

theorem isName_obj : IsName "obj" := by decide

theorem isName_tmp : IsName "tmp" := by decide

theorem isName_val : IsName "val" := by decide

theorem isName_ok : IsName "ok" := by decide

theorem isName_err : IsName "err" := by decide

namespace SpellsStep

variable {step : Step} {tokens : String → List Token}

theorem isLine (h : SpellsStep step tokens) : IsLine step.text tokens := by
  cases h with
  | @store field e ts hfield he =>
    refine ⟨fun l rest => ?_, fun l hl rest => ?_⟩
    · simp [Token.spell, Step.text, he.spell]
    · refine ⟨⟨hl, Token.front_word isName_obj.1 ?_⟩,
        ⟨.nil, Token.front_operator (by simp) (hfield.startsName _)⟩,
        ⟨.nil, Token.front_word hfield ?_⟩, ⟨Token.gap_space, ?_⟩,
        he.fitAll Token.gap_space ?_⟩
      · rintro c ⟨⟩
        decide
      · rintro c ⟨⟩
        decide
      · rw [he.spell]
        exact Token.front_equals _
      · rintro c ⟨⟩
        decide
  | @define x e ts hx he =>
    refine ⟨fun l rest => ?_, fun l hl rest => ?_⟩
    · simp [Token.spell, Step.text, he.spell]
    · refine ⟨⟨hl, Token.front_word hx.1 ?_⟩,
        Token.fits_bracket Token.gap_space (by decide) _,
        he.fitAll Token.gap_space ?_⟩
      · rintro c ⟨⟩
        decide
      · rintro c ⟨⟩
        decide

/-- A statement that stores or defines is accepted. -/
theorem isStatement (h : SpellsStep step tokens) (htypes : StepAllocatesTypes step) (l : String) :
    IsStatement (tokens l) := by
  cases h with
  | @store field e ts hfield he =>
    refine ⟨by simp [Grammar.endsStatements], rfl, fun n hn rest hrest => ?_⟩
    simp only [List.length_cons] at hn
    obtain ⟨s, hs, hvalue⟩ := he.expression htypes (show ts.length ≤ n by omega)
      (show Spells.EndsValue .statement rest from .inl ⟨rfl, hrest⟩)
    have hend : Spells.EndsValue .statement (⟨.mark, "=", " ", false⟩ :: (ts ++ rest)) :=
      .inr (noMark_mark (by decide))
    have hfield : Grammar.expression (Rules.upTo n) .statement
        (⟨.name, "obj", l, true⟩ :: ⟨.mark, ".", "", false⟩ :: ⟨.name, field, "", false⟩
          :: ⟨.mark, "=", " ", false⟩ :: (ts ++ rest))
        = some (_, ⟨.mark, "=", " ", false⟩ :: (ts ++ rest)) :=
      Grammar.expression_of_unary
        ((Grammar.unary_eq_primary (.inl rfl)).trans
          (Grammar.primary_name (by decide)
            (.selector (Grammar.Shape.value_ofName _) (.stop (hend.operand _)))))
        hend.expression
    exact Grammar.statement_simple (by decide) (noMark_mark (by decide))
      (Grammar.simple_assign
        (Grammar.expressions_single hfield rfl (.inr (noMark_mark (by decide))))
        (Grammar.expressions_single hvalue hs (.inl ⟨rfl, hrest⟩)))
  | @define x e ts hx he =>
    -- A line that begins with one of these two names would end the statements of a branch.
    have hcase : x ≠ "case" ∧ x ≠ "default" := by
      constructor <;>
      · rintro rfl
        exact hx.2 (by decide)
    refine ⟨by simp [Grammar.endsStatements, hcase], rfl, fun n hn rest hrest => ?_⟩
    simp only [List.length_cons] at hn
    obtain ⟨s, hs, hvalue⟩ := he.expression htypes (show ts.length ≤ n by omega)
      (show Spells.EndsValue .statement rest from .inl ⟨rfl, hrest⟩)
    have hname := Spells.expression_name (l := l) (f := true) (r := Rules.upTo n) hx
      (show Spells.EndsValue .statement (⟨.mark, ":=", " ", false⟩ :: (ts ++ rest)) from
        .inr (noMark_mark (by decide)))
    exact Grammar.statement_simple (hx.not_mem statementWords_subset) (noMark_mark (by decide))
      (Grammar.simple_define
        (Grammar.expressions_single hname (Grammar.Shape.value_ofName x)
          (.inr (noMark_mark (by decide))))
        (Grammar.expressions_single hvalue hs (.inl ⟨rfl, hrest⟩)))

/-- The indented line of a step is read as a statement. -/
theorem linesRead (h : SpellsStep step tokens) (htypes : StepAllocatesTypes step)
    {indent : String} (hindent : Gap indent.toList false) :
    LinesRead AreStatements [indent ++ step.text] :=
  .line (h.isLine.indent hindent) fun _ => (h.isStatement htypes _).areStatements

end SpellsStep

/-- The lines of steps, one after the other. -/
theorem linesRead_steps {indent : String} (hindent : Gap indent.toList false) {steps : List Step}
    (h : ∀ step ∈ steps, (∃ tokens, SpellsStep step tokens) ∧ StepAllocatesTypes step) :
    LinesRead AreStatements (steps.map fun step => indent ++ step.text) := by
  induction steps with
  | nil => exact .nil .nil
  | cons step steps ih =>
    obtain ⟨⟨tokens, htokens⟩, htypes⟩ := h step List.mem_cons_self
    have hrest := ih fun step hstep => h step (List.mem_cons_of_mem _ hstep)
    rw [List.map_cons, ← List.singleton_append]
    exact (htokens.linesRead htypes hindent).append hrest fun _ _ => AreStatements.append

/-! ## Blocks -/

/-- A block of statements is read up to its closing brace. -/
theorem AreStatements.statements {ts : List Token} (h : AreStatements ts) {n : Nat}
    (hn : ts.length ≤ n) (l : String) (rest : List Token) :
    Grammar.Statements (Rules.upTo (n + 1)) (ts ++ ⟨.mark, "\x7d", l, true⟩ :: rest)
      (⟨.mark, "\x7d", l, true⟩ :: rest) := by
  induction h with
  | nil => exact .done
  | @cons ts ts' hfirst hs ih =>
    simp only [List.length_append] at hn
    have hfresh : (ts' ++ ⟨.mark, "\x7d", l, true⟩ :: rest).head?.all (·.fresh) = true :=
      hs.fresh rfl
    have hread := hfirst.reads n (by omega) _ hfresh
    obtain ⟨t, us, rfl⟩ := hfirst.exists_cons
    rw [List.append_assoc]
    exact .more hfirst.isOpen hread hfresh
      (by simp only [List.length_append, List.length_cons]; omega) (ih (by omega))

/-- The line of a closing brace. -/
theorem isLine_brace : IsLine "\x7d" fun l => [⟨.mark, "\x7d", l, true⟩] where
  text l rest := by simp [Token.spell]
  fitAll l hl rest := ⟨Token.fits_bracket hl (by decide) _, trivial⟩

/-! ## Guards -/

/-- The tokens of the first line of a guard. -/
def guardTokens (map key l : String) : List Token :=
  [⟨.name, "if", l, true⟩, ⟨.name, "tmp", " ", false⟩, ⟨.mark, ",", "", false⟩,
    ⟨.name, "ok", " ", false⟩, ⟨.mark, ":=", " ", false⟩, ⟨.name, map, " ", false⟩,
    ⟨.mark, "[", "", false⟩, ⟨.string, Quoted.quote key, "", false⟩, ⟨.mark, "]", "", false⟩,
    ⟨.mark, ";", "", false⟩, ⟨.name, "ok", " ", false⟩, ⟨.mark, "\x7b", " ", false⟩]

theorem isLine_guard {map key : String} (hmap : IsName map) :
    IsLine ("if tmp, ok := " ++ (Expr.element map key).text ++ "; ok \x7b")
      (guardTokens map key) := by
  have hif : IsWord "if" := by decide
  refine ⟨fun l rest => by simp [guardTokens, Token.spell, Expr.text], fun l hl rest => ?_⟩
  refine ⟨⟨hl, Token.front_word hif ?_⟩, ⟨Token.gap_space, Token.front_word isName_tmp.1 ?_⟩,
    Token.fits_bracket Token.gap_none (by decide) _,
    ⟨Token.gap_space, Token.front_word isName_ok.1 ?_⟩,
    Token.fits_bracket Token.gap_space (by decide) _,
    ⟨Token.gap_space, Token.front_word hmap.1 ?_⟩, Token.fits_bracket Token.gap_none (by decide) _,
    ⟨.nil, Token.front_quote _ _⟩, Token.fits_bracket Token.gap_none (by decide) _,
    Token.fits_bracket Token.gap_none (by decide) _,
    ⟨Token.gap_space, Token.front_word isName_ok.1 ?_⟩,
    Token.fits_bracket Token.gap_space (by decide) _, trivial⟩
  all_goals
    rintro c ⟨⟩
    decide

/-- A guard is a conditional with the steps in its block. -/
theorem isStatement_guard {map key l l' : String} {body : List Token} (hmap : IsName map)
    (hbody : AreStatements body) :
    IsStatement (guardTokens map key l ++ body ++ [⟨.mark, "\x7d", l', true⟩]) := by
  refine ⟨by simp [guardTokens, Grammar.endsStatements], rfl, fun n hn rest hrest => ?_⟩
  simp only [guardTokens, List.length_append, List.length_cons, List.length_nil] at hn
  obtain ⟨m, rfl⟩ : ∃ m, n = m + 2 := ⟨n - 2, by omega⟩
  have hspells : Spells (.element map key) " " _ := .element hmap
  obtain ⟨s, hs, helement⟩ := hspells.expression trivial (show 4 ≤ m + 2 by omega)
    (show Spells.EndsValue .header (⟨.mark, ";", "", false⟩ :: ⟨.name, "ok", " ", false⟩
        :: ⟨.mark, "\x7b", " ", false⟩ :: (body ++ ⟨.mark, "\x7d", l', true⟩ :: rest))
      from .inr (noMark_mark (by decide)))
  have htmp : ∀ ts, Grammar.expression (Rules.upTo (m + 2)) .header
      (⟨.name, "tmp", " ", false⟩ :: ⟨.mark, ",", "", false⟩ :: ts)
      = some (.ofName "tmp", ⟨.mark, ",", "", false⟩ :: ts) := fun ts =>
    Spells.expression_name isName_tmp (.inr (noMark_mark (by decide)))
  have hok : ∀ ts, (Rules.upTo (m + 2)).expression .header
      (⟨.name, "ok", " ", false⟩ :: ⟨.mark, ":=", " ", false⟩ :: ts)
      = some (.ofName "ok", ⟨.mark, ":=", " ", false⟩ :: ts) := fun ts =>
    Spells.expression_name isName_ok (.inr (noMark_mark (by decide)))
  have hfirst := Grammar.simple_define
    (Grammar.expressions_pair (htmp _) (Grammar.Shape.value_ofName _) (hok _)
      (Grammar.Shape.value_ofName _) (.inr (noMark_mark (by decide))))
    (Grammar.expressions_single helement hs (.inr (noMark_mark (by decide))))
  -- The brace behind a name in front of a block belongs to the block.
  have hcondition : (Rules.upTo (m + 2)).expression .header
      (⟨.name, "ok", " ", false⟩ :: ⟨.mark, "\x7b", " ", false⟩
        :: (body ++ ⟨.mark, "\x7d", l', true⟩ :: rest))
      = some (.ofName "ok", ⟨.mark, "\x7b", " ", false⟩
        :: (body ++ ⟨.mark, "\x7d", l', true⟩ :: rest)) :=
    Grammar.expression_of_unary
      ((Grammar.unary_eq_primary (.inl rfl)).trans
        (Grammar.primary_name (by decide)
          (.stop (.inr ⟨noMark_mark (by decide), fun _ _ => ⟨rfl, rfl⟩⟩))))
      (.inr (noMark_mark (by decide)))
  have hread := Grammar.statement_conditional (l := l) (f := true) hfirst hcondition
    (Grammar.Shape.value_ofName _)
    (Grammar.block_of_statements (hbody.statements (show body.length ≤ m + 1 by omega) l' rest))
    hrest
  simpa [guardTokens] using hread

/-- The first line of a guard. -/
theorem linesRead_guardLine {map key : String} (hmap : IsName map) :
    LinesRead (fun ts => ∃ l, ts = guardTokens map key l)
      ["\tif tmp, ok := " ++ (Expr.element map key).text ++ "; ok \x7b"] := by
  have htext : "\t" ++ ("if tmp, ok := " ++ (Expr.element map key).text ++ "; ok \x7b")
      = "\tif tmp, ok := " ++ (Expr.element map key).text ++ "; ok \x7b" := by
    rw [← String.append_assoc, ← String.append_assoc]
    rfl
  exact htext ▸ .line ((isLine_guard hmap).indent Token.gap_tab) fun l => ⟨_, rfl⟩

/-- The last line of a guard. -/
theorem linesRead_guardEnd :
    LinesRead (fun ts => ∃ l, ts = [⟨.mark, "\x7d", l, true⟩]) ["\t\x7d"] :=
  .line (isLine_brace.indent Token.gap_tab) fun _ => ⟨_, rfl⟩

/-- A guard is read as its steps are: with a property that their tokens have inside a block. -/
theorem linesRead_block {P Q : List Token → Prop} {map key : String} {steps : List Step}
    (hmap : IsName map) (hsteps : LinesRead P (steps.map fun step => "\t\t" ++ step.text))
    (hblock : ∀ l body l', P body →
      Q (guardTokens map key l ++ body ++ [⟨.mark, "\x7d", l', true⟩])) :
    LinesRead Q (Statement.guarded map key steps).lines := by
  have hopen : LinesRead (fun ts => ∃ l body, P body ∧ ts = guardTokens map key l ++ body) _ :=
    (linesRead_guardLine hmap).append hsteps (by
      rintro as bs ⟨l, rfl⟩ hbs
      exact ⟨l, bs, hbs, rfl⟩)
  refine hopen.append linesRead_guardEnd ?_
  rintro as bs ⟨l, body, hbody, rfl⟩ ⟨l', rfl⟩
  exact hblock l body l' hbody

/-- A guard is read as a statement if its steps are. -/
theorem linesRead_guard {map key : String} {steps : List Step} (hmap : IsName map)
    (h : ∀ step ∈ steps, (∃ tokens, SpellsStep step tokens) ∧ StepAllocatesTypes step) :
    LinesRead AreStatements (Statement.guarded map key steps).lines :=
  linesRead_block hmap
    (linesRead_steps (show Gap "\t\t".toList false from Token.gap_tab.append Token.gap_tab) h)
    fun _ _ _ hbody => (isStatement_guard hmap hbody).areStatements

/-- The steps that store a value can be read if the value can. -/
theorem exists_spellsStep_storing {field : String} {isPointer : Bool} {e : Expr} {ts : List Token}
    (hfield : IsWord field) (he : Spells e " " ts) :
    ∀ step ∈ Typing.storing field isPointer e, ∃ tokens, SpellsStep step tokens := by
  unfold Typing.storing
  cases isPointer with
  | false =>
    rintro step (_ | ⟨_, ⟨⟩⟩)
    exact ⟨_, .store hfield he⟩
  | true =>
    rintro step (_ | ⟨_, _ | ⟨_, ⟨⟩⟩⟩)
    · exact ⟨_, .define isName_val he⟩
    · exact ⟨_, .store hfield (.address isName_val)⟩

theorem stepAllocatesTypes_storing {field : String} {isPointer : Bool} {e : Expr}
    (he : AllocatesTypes e) :
    ∀ step ∈ Typing.storing field isPointer e, StepAllocatesTypes step := by
  unfold Typing.storing
  cases isPointer with
  | false =>
    rintro step (_ | ⟨_, ⟨⟩⟩)
    exact he
  | true =>
    rintro step (_ | ⟨_, _ | ⟨_, ⟨⟩⟩⟩)
    · exact he
    · trivial

/-! ## Fields -/

/-- The text of a name, or of a name behind a qualifier. -/
def IsReference (text : String) : Prop := ∃ t, WellNamed t ∧ t.text = text

theorem IsReference.name {n : String} (h : IsName n) : IsReference n := ⟨.name n, .name h, rfl⟩

theorem IsReference.qualified {q n text : String} (hq : IsName q) (hn : IsName n)
    (htext : q ++ "." ++ n = text) : IsReference text :=
  ⟨.qualified q n, .qualified hq hn, htext⟩

/-- The names of types and helpers in a strategy can be read, and its reason stays in its
comment. -/
def Legible : Strategy → Prop
  | .direct c => ∀ helper ∈ c, IsReference helper
  | .enumeration cast c _ => IsReference cast ∧ IsReference c
  | .assign c => IsReference c
  | .unsupported reason => Token.InLine reason.toList

theorem Legible.conversion {s : Strategy} (h : Legible s) {helper : String}
    (hs : s.conversion? = some helper) : IsReference helper := by
  cases s with
  | direct c => exact h helper hs
  | enumeration cast c i =>
    obtain rfl := Option.some.inj hs
    exact h.2
  | assign c =>
    obtain rfl := Option.some.inj hs
    exact h
  | unsupported reason => cases hs

variable {source : String} {f : FilledField}

/-- A field that is assigned directly takes one statement. What stands in the parentheses of its
helper is no type. -/
theorem linesRead_directLines (hsource : IsName source) (hname : IsWord f.name)
    (h : Legible f.strategy) (hhelper : ∀ c ∈ f.strategy.conversion?, c ∉ Grammar.allocators) :
    LinesRead AreStatements (directLines source f) := by
  have hstore : ∀ {e}, (∃ ts, Spells e " " ts) → AllocatesTypes e →
      LinesRead AreStatements ["\t" ++ (Step.store f.name e).text] := by
    rintro e ⟨ts, he⟩ htypes
    exact (SpellsStep.store hname he).linesRead htypes Token.gap_tab
  have helement : ∀ l, ∃ ts, Spells (.element source f.key) l ts := fun l => ⟨_, .element hsource⟩
  unfold directLines
  cases hconversion : f.strategy.conversion? with
  | none =>
    have hread := hstore (helement " ") trivial
    simpa [Step.text, Expr.text, lookup, ← String.append_assoc] using hread
  | some helper =>
    obtain ⟨t, ht, rfl⟩ := h.conversion hconversion
    obtain ⟨ts, hts⟩ := helement ""
    have hread := hstore ⟨_, .call ht hts⟩ ⟨fun hc => absurd hc (hhelper _ hconversion), trivial⟩
    simpa [Step.text, Expr.text, lookup, ← String.append_assoc] using hread

/-- The value that a guard converts can be read. The helper is called on a name; a cast is not. -/
theorem exists_spells_guardedValue (h : Legible f.strategy)
    (hcast : ∀ cast c i, f.strategy = .enumeration cast c i → cast ∉ Grammar.allocators)
    {v : String} (hv : guardedValue? f = some v) :
    ∃ e : Expr, e.text = v ∧ AllocatesTypes e ∧ ∀ l, ∃ ts, Spells e l ts := by
  unfold guardedValue? at hv
  cases hs : f.strategy with
  | direct _ | unsupported _ => simp [hs] at hv
  | enumeration cast c i =>
    rw [hs] at h hv
    obtain ⟨⟨t, ht, rfl⟩, u, hu, rfl⟩ := h
    obtain rfl := Option.some.inj hv
    refine ⟨.call t.text (.call u.text (.var "tmp")), ?_,
      ⟨fun hc => absurd hc (hcast _ _ _ hs), fun _ => ⟨_, rfl⟩, trivial⟩,
      fun l => ⟨_, .call ht (.call hu (.var isName_tmp))⟩⟩
    simp [Expr.text, String.append_assoc]
  | assign c =>
    rw [hs] at h hv
    obtain ⟨t, ht, rfl⟩ := h
    obtain rfl := Option.some.inj hv
    refine ⟨.call t.text (.var "tmp"), ?_, ⟨fun _ => ⟨_, rfl⟩, trivial⟩,
      fun l => ⟨_, .call ht (.var isName_tmp)⟩⟩
    simp [Expr.text, String.append_assoc]

/-- A field that is assigned under a guard takes one conditional. Where nothing is converted,
the value in the map is stored, or its address. -/
theorem linesRead_guardedLines (hsource : IsName source) (hname : IsWord f.name)
    (h : Legible f.strategy)
    (hcast : ∀ cast c i, f.strategy = .enumeration cast c i → cast ∉ Grammar.allocators) :
    LinesRead AreStatements (guardedLines source f) := by
  cases hv : guardedValue? f with
  | some v =>
    obtain ⟨e, rfl, htypes, he⟩ := exists_spells_guardedValue h hcast hv
    obtain ⟨ts, hts⟩ := he " "
    rw [← Typing.lines_guarded hv]
    exact linesRead_guard hsource fun step hstep =>
      ⟨exists_spellsStep_storing hname hts step hstep, stepAllocatesTypes_storing htypes step hstep⟩
  -- Without a conversion there is no value to define, so the element or its address is stored
  -- directly.
  | none =>
    have hguard : ∀ {e}, (∃ ts, Spells e " " ts) → AllocatesTypes e → LinesRead AreStatements
        (Statement.guarded source f.key [.store f.name e]).lines := by
      rintro e ⟨ts, he⟩ htypes
      refine linesRead_guard hsource ?_
      rintro step (_ | ⟨_, ⟨⟩⟩)
      exact ⟨⟨_, .store hname he⟩, htypes⟩
    have hvalue : (Step.store f.name (.var "tmp")).text = "obj." ++ f.name ++ " = tmp" := by
      simp [Step.text, Expr.text, String.append_assoc]
    have haddress : (Step.store f.name (.address "tmp")).text = "obj." ++ f.name ++ " = &tmp" := by
      simp [Step.text, Expr.text, String.append_assoc]
    unfold guardedLines
    rw [hv]
    cases f.isPointer with
    | false =>
      have hread := hguard ⟨_, .var isName_tmp⟩ trivial
      simpa [Statement.lines, hvalue, Expr.text, lookup, ← String.append_assoc] using hread
    | true =>
      have hread := hguard ⟨_, .address isName_tmp⟩ trivial
      simpa [Statement.lines, haddress, Expr.text, lookup, ← String.append_assoc] using hread

/-- A field that is left to be filled by hand is a comment. -/
theorem linesRead_placeholder {P : List Token → Prop} (hnil : P [])
    (hname : Token.InLine f.name.toList) (h : Legible f.strategy) :
    LinesRead P (placeholderLines f) := by
  have hcomment : ∀ t : String, Token.InLine t.toList → LinesRead P ["\t//" ++ t] :=
    fun t ht => .gap (gap_indented ht) hnil
  unfold placeholderLines
  split
  next reason hs =>
    rw [hs] at h
    have hread := hcomment (" obj." ++ f.name ++ " = ? // " ++ reason) (by
      have hreason : Token.InLine reason.toList := h
      simp only [String.toList_append, Token.inLine_append]
      exact ⟨⟨⟨by decide, hname⟩, by decide⟩, hreason⟩)
    simpa [← String.append_assoc] using hread
  next =>
    have hread := hcomment (" obj." ++ f.name ++ " = ?") (by
      simp only [String.toList_append, Token.inLine_append]
      exact ⟨⟨by decide, hname⟩, by decide⟩)
    simpa [← String.append_assoc] using hread

/-! ## Sections -/

/-- The title of a section is a comment, so a section is read as what its fields are read as, one
after the other. -/
theorem linesRead_section_of {β : Type} {P : List β → List Token → Prop} (hnil : P [] [])
    (happend : ∀ {as bs ts ts'}, P as ts → P bs ts' → P (as ++ bs) (ts ++ ts'))
    (title : String) (htitle : Token.InLine title.toList) {fields : List FilledField}
    {write : FilledField → List String} {read : FilledField → List β}
    (h : ∀ f ∈ fields, LinesRead (P (read f)) (write f)) :
    LinesRead (P (fields.flatMap read)) (section? title fields write) := by
  have hfields : LinesRead (P (fields.flatMap read)) (fields.flatMap write) := by
    induction fields with
    | nil => exact .nil hnil
    | cons f fields ih =>
      rw [List.flatMap_cons, List.flatMap_cons]
      exact (h f List.mem_cons_self).append
        (ih fun f hf => h f (List.mem_cons_of_mem _ hf)) fun _ _ => happend
  have hcomment : LinesRead (P []) ["\t// " ++ title] := by
    have hread : LinesRead (P []) ["\t//" ++ (" " ++ title)] :=
      .gap (gap_indented (by
        rw [String.toList_append, Token.inLine_append]
        exact ⟨by decide, htitle⟩)) hnil
    simpa [← String.append_assoc] using hread
  have hempty : LinesRead (P []) [""] := .gap gap_empty hnil
  unfold section?
  split
  next hfields =>
    rw [hfields]
    exact .nil hnil
  next =>
    have htop : LinesRead (P []) (["", "\t// " ++ title]) :=
      hempty.append hcomment fun _ _ => happend
    exact htop.append hfields fun _ _ => happend

/-- A section is read as statements if its fields are. -/
theorem linesRead_section (title : String) (htitle : Token.InLine title.toList)
    {fields : List FilledField} {write : FilledField → List String}
    (h : ∀ f ∈ fields, LinesRead AreStatements (write f)) :
    LinesRead AreStatements (section? title fields write) := by
  -- What the statements do is not kept.
  let read : FilledField → List Unit := fun _ => []
  let P : List Unit → List Token → Prop := fun _ => AreStatements
  have hread : LinesRead (P (fields.flatMap read)) (section? title fields write) :=
    linesRead_section_of .nil AreStatements.append title htitle h
  exact hread

end StructFill.Emission
