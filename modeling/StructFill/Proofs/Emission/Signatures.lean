import StructFill.Proofs.Emission.Filling

/-! # Functions that are written

  A function is its signature, the statements of its body and a closing brace.
  The body begins with the literal of the output type and ends with a return;
  what is between them are the sections of fields.

  **Names of types.** The output type stands in front of braces. So the name
  in front of it must not be one that can only be a value.
-/

namespace StructFill.Emission

open Source
open Source.Token (Gap FitAll Scans spell)
open Source.Grammar (Rules Place Stops NoMark noMark_mark)
open Source.Parse (CommaList)

/-! ## Body -/

/-- The tokens of the statement that makes the result. -/
def resultTokens (out : TypeExpr) (l : String) : List Token :=
  ⟨.name, "obj", l, true⟩ :: ⟨.mark, "=", " ", false⟩ :: ⟨.mark, "&", " ", false⟩
    :: (nameTokens "" out ++ [⟨.mark, "\x7b", "", false⟩, ⟨.mark, "\x7d", "", false⟩])

theorem isLine_result {out : TypeExpr} (h : WellNamed out) :
    IsLine ("obj = &" ++ out.text ++ "\x7b\x7d") (resultTokens out) := by
  refine ⟨fun l rest => ?_, fun l hl rest => ?_⟩
  · simp [resultTokens, Token.spell, Token.spell_append, h.spell]
  have hbraces : FitAll [⟨.mark, "\x7b", "", false⟩, ⟨.mark, "\x7d", "", false⟩] ('\n' :: rest) :=
    ⟨Token.fits_bracket Token.gap_none (by decide) _,
      Token.fits_bracket Token.gap_none (by decide) _, trivial⟩
  refine ⟨⟨hl, Token.front_word isName_obj.1 ?_⟩,
    ⟨Token.gap_space, Token.front_equals _⟩, ⟨Token.gap_space, Token.front_operator (by simp) ?_⟩,
    Token.fitAll_append.2 ⟨h.fitAll .nil ?_, hbraces⟩⟩
  · rintro c ⟨⟩
    decide
  · rw [Token.spell_append, h.spell]
    exact h.startsName
  · rintro c ⟨⟩
    decide

/-- The result is made by a statement, unless the name of its type can only be a value. -/
theorem isStatement_result {out : TypeExpr} (h : WellNamed out) (hhead : out.head ∉ valueNames)
    (l : String) : IsStatement (resultTokens out l) := by
  refine ⟨by simp [resultTokens, Grammar.endsStatements], rfl, fun n hn rest hrest => ?_⟩
  simp only [resultTokens, List.length_cons] at hn
  obtain ⟨m, rfl⟩ : ∃ m, n = m + 1 := ⟨n - 1, by omega⟩
  have hobj := Spells.expression_name (l := l) (f := true) (r := Rules.upTo (m + 1)) isName_obj
    (show Spells.EndsValue .statement (⟨.mark, "=", " ", false⟩ :: ⟨.mark, "&", " ", false⟩
        :: (nameTokens "" out ++ ⟨.mark, "\x7b", "", false⟩ :: ⟨.mark, "\x7d", "", false⟩ :: rest))
      from .inr (noMark_mark (by decide)))
  have hliteral : (Rules.upTo (m + 1)).unary .statement
      (nameTokens "" out ++ ⟨.mark, "\x7b", "", false⟩ :: ⟨.mark, "\x7d", "", false⟩ :: rest)
      = some (.ofValue, rest) :=
    h.unary_braces hhead rfl ⟨rfl, hrest⟩
  have haddress := Grammar.expression_of_unary
    (Grammar.unary_address (l := " ") (f := false) hliteral rfl) (.inl ⟨rfl, hrest⟩)
  have hread := Grammar.statement_simple (by decide) (noMark_mark (by decide))
    (Grammar.simple_assign
      (Grammar.expressions_single hobj rfl (.inr (noMark_mark (by decide))))
      (Grammar.expressions_single haddress rfl (.inl ⟨rfl, hrest⟩)))
  simpa [resultTokens] using hread

/-- The tokens of the return. -/
def returnTokens (l : String) : List Token :=
  [⟨.name, "return", l, true⟩, ⟨.name, "obj", " ", false⟩, ⟨.mark, ",", "", false⟩,
    ⟨.name, "err", " ", false⟩]

theorem isLine_return : IsLine "return obj, err" returnTokens := by
  have hreturn : IsWord "return" := by decide
  refine ⟨fun l rest => by simp [returnTokens, Token.spell], fun l hl rest => ?_⟩
  refine ⟨⟨hl, Token.front_word hreturn ?_⟩, ⟨Token.gap_space, Token.front_word isName_obj.1 ?_⟩,
    Token.fits_bracket Token.gap_none (by decide) _,
    ⟨Token.gap_space, Token.front_word isName_err.1 ?_⟩, trivial⟩
  all_goals
    rintro c ⟨⟩
    decide

theorem isStatement_return (l : String) : IsStatement (returnTokens l) := by
  refine ⟨by simp [returnTokens, Grammar.endsStatements], rfl, fun n hn rest hrest => ?_⟩
  simp only [returnTokens, List.length_cons] at hn
  obtain ⟨m, rfl⟩ : ∃ m, n = m + 1 := ⟨n - 1, by omega⟩
  have hobj : (Rules.upTo (m + 1)).expression .statement
      (⟨.name, "obj", " ", false⟩ :: ⟨.mark, ",", "", false⟩ :: ⟨.name, "err", " ", false⟩ :: rest)
      = some (.ofName "obj", ⟨.mark, ",", "", false⟩ :: ⟨.name, "err", " ", false⟩ :: rest) :=
    Spells.expression_name isName_obj (.inr (noMark_mark (by decide)))
  have herr : (Rules.upTo (m + 1)).expression .statement (⟨.name, "err", " ", false⟩ :: rest)
      = some (.ofName "err", rest) :=
    Spells.expression_name isName_err (.inl ⟨rfl, hrest⟩)
  simp only [returnTokens, List.cons_append, List.nil_append]
  exact Grammar.statement_return (by simp [Grammar.endsStatements]) rfl (by simp [NoMark]) hobj rfl
    herr rfl (by simp) hrest

/-! ## Signatures -/

/-- The type of the values in a map: a name or the empty interface. -/
inductive IsMapValue : TypeExpr → Prop where
  | name {n} (hn : IsName n) : IsMapValue (.name n)
  | openInterface : IsMapValue (.interface true)

/-- The tokens of the type of the values in a map. -/
def mapValueTokens : TypeExpr → List Token
  | .name n => [⟨.name, n, "", false⟩]
  | _ => [⟨.name, "interface", "", false⟩, ⟨.mark, "\x7b", "", false⟩, ⟨.mark, "\x7d", "", false⟩]

namespace IsMapValue

variable {value : TypeExpr}

theorem spell (h : IsMapValue value) (rest : List Char) :
    Token.spell (mapValueTokens value) rest = value.text.toList ++ rest := by
  cases h <;> simp [mapValueTokens, Token.spell, TypeExpr.text]

theorem startsName (h : IsMapValue value) (rest : List Char) :
    StartsName (value.text.toList ++ rest) := by
  cases h with
  | name hn => exact hn.1.startsName _
  | openInterface => exact ⟨'i', _, rfl, by decide⟩

theorem fitAll (h : IsMapValue value) {rest : List Char}
    (hrest : ∀ c ∈ rest.head?, Token.isNamePart c = false) :
    FitAll (mapValueTokens value) rest := by
  cases h with
  | name hn => exact ⟨⟨.nil, Token.front_word hn.1 hrest⟩, trivial⟩
  | openInterface =>
    have hinterface : IsWord "interface" := by decide
    refine ⟨⟨.nil, Token.front_word hinterface ?_⟩,
      Token.fits_bracket Token.gap_none (by decide) _,
      Token.fits_bracket Token.gap_none (by decide) _, trivial⟩
    rintro c ⟨⟩
    decide

theorem type {r : Rules} {ts : List Token} (h : IsMapValue value)
    (hend : Grammar.endsType false ts = true) :
    Grammar.type r false (mapValueTokens value ++ ts) = some (value, ts) := by
  cases h with
  | name hn => exact Grammar.type_name (hn.not_mem typeWords_subset) hend
  | openInterface => exact Grammar.type_openInterface

end IsMapValue

/-- The names and types of a function that is written. -/
structure Prototype where
  name : String
  param : String
  key : String
  value : TypeExpr
  out : TypeExpr

namespace Prototype

/-- The signature can be read. -/
structure Legible (s : Prototype) : Prop where
  name : IsName s.name
  param : IsName s.param
  key : IsName s.key
  value : IsMapValue s.value
  out : WellNamed s.out

/-- What is declared: one parameter for the map, and the result with its error. -/
def decl (s : Prototype) : FuncDecl :=
  ⟨s.name, [⟨some s.param, .map (.name s.key) s.value⟩],
    [⟨some "obj", .pointer s.out⟩, ⟨some "err", .name "error"⟩]⟩

def text (s : Prototype) : String :=
  "func " ++ s.name ++ "(" ++ s.param ++ " " ++ (TypeExpr.map (.name s.key) s.value).text
    ++ ") (obj *" ++ s.out.text ++ ", err error) \x7b"

/-- The tokens of the parameter and behind it. -/
def paramTokens (s : Prototype) : List Token :=
  ⟨.name, s.param, "", false⟩ :: ⟨.name, "map", " ", false⟩ :: ⟨.mark, "[", "", false⟩
    :: ⟨.name, s.key, "", false⟩ :: ⟨.mark, "]", "", false⟩
    :: (mapValueTokens s.value ++ [⟨.mark, ")", "", false⟩])

/-- The tokens of the results and behind them. -/
def resultsTokens (s : Prototype) : List Token :=
  ⟨.name, "obj", "", false⟩ :: ⟨.mark, "*", " ", false⟩ :: (nameTokens "" s.out
    ++ [⟨.mark, ",", "", false⟩, ⟨.name, "err", " ", false⟩, ⟨.name, "error", " ", false⟩,
      ⟨.mark, ")", "", false⟩])

def tokens (s : Prototype) (l : String) : List Token :=
  ⟨.name, "func", l, true⟩ :: ⟨.name, s.name, " ", false⟩ :: ⟨.mark, "(", "", false⟩
    :: (s.paramTokens ++ ⟨.mark, "(", " ", false⟩
      :: (s.resultsTokens ++ [⟨.mark, "\x7b", " ", false⟩]))

variable {s : Prototype}

namespace Legible

theorem isLine (h : s.Legible) : IsLine s.text s.tokens := by
  have hfunc : IsWord "func" := by decide
  have hmap : IsWord "map" := by decide
  have herror : IsWord "error" := by decide
  refine ⟨fun l rest => ?_, fun l hl rest => ?_⟩
  · simp [tokens, paramTokens, resultsTokens, text, Token.spell, Token.spell_append, h.value.spell,
      h.out.spell, TypeExpr.text]
  -- What ends a name is a blank or a bracket. Only the star has a name directly behind it, the
  -- beginning of the output type.
  have hopen : ∀ cs, Token.Fits ⟨.mark, "\x7b", " ", false⟩ cs :=
    Token.fits_bracket Token.gap_space (by decide)
  have hparen : ∀ cs, Token.Fits ⟨.mark, "(", " ", false⟩ cs :=
    Token.fits_bracket Token.gap_space (by decide)
  have hparam : ∀ cs, FitAll s.paramTokens cs := by
    intro cs
    refine ⟨⟨.nil, Token.front_word h.param.1 ?_⟩, ⟨Token.gap_space, Token.front_word hmap ?_⟩,
      Token.fits_bracket Token.gap_none (by decide) _, ⟨.nil, Token.front_word h.key.1 ?_⟩,
      Token.fits_bracket Token.gap_none (by decide) _,
      Token.fitAll_append.2
        ⟨h.value.fitAll ?_, Token.fits_bracket Token.gap_none (by decide) _, trivial⟩⟩
    all_goals
      rintro c ⟨⟩
      decide
  have hresults : ∀ cs, FitAll s.resultsTokens cs := by
    intro cs
    refine ⟨⟨.nil, Token.front_word isName_obj.1 ?_⟩,
      ⟨Token.gap_space, Token.front_operator (by simp) ?_⟩,
      Token.fitAll_append.2 ⟨h.out.fitAll .nil ?_, Token.fits_bracket Token.gap_none (by decide) _,
        ⟨Token.gap_space, Token.front_word isName_err.1 ?_⟩,
        ⟨Token.gap_space, Token.front_word herror ?_⟩,
        Token.fits_bracket Token.gap_none (by decide) _, trivial⟩⟩
    · rintro c ⟨⟩
      decide
    · rw [Token.spell_append, h.out.spell]
      exact h.out.startsName
    all_goals
      rintro c ⟨⟩
      decide
  refine ⟨⟨hl, Token.front_word hfunc ?_⟩, ⟨Token.gap_space, Token.front_word h.name.1 ?_⟩,
    Token.fits_bracket Token.gap_none (by decide) _,
    Token.fitAll_append.2
      ⟨hparam _, hparen _, Token.fitAll_append.2 ⟨hresults _, hopen _, trivial⟩⟩⟩
  · exact Token.spell_space_ends
  · rintro c ⟨⟩
    decide

/-- The parameter is the map. -/
theorem params (h : s.Legible) (m : Nat) (l : String) (f : Bool) (rest : List Token) :
    Grammar.params (Rules.upTo (m + 2)) (⟨.mark, "(", l, f⟩ :: (s.paramTokens ++ rest))
      = some ([⟨some s.param, .map (.name s.key) s.value⟩], rest) := by
  have hkey : (Rules.upTo (m + 1)).type false (⟨.name, s.key, "", false⟩
      :: ⟨.mark, "]", "", false⟩ :: (mapValueTokens s.value ++ ⟨.mark, ")", "", false⟩ :: rest))
      = some (.name s.key, ⟨.mark, "]", "", false⟩
        :: (mapValueTokens s.value ++ ⟨.mark, ")", "", false⟩ :: rest)) :=
    Grammar.type_name (h.key.not_mem typeWords_subset) (by simp [Grammar.endsType])
  have hvalue : (Rules.upTo (m + 1)).type false
      (mapValueTokens s.value ++ ⟨.mark, ")", "", false⟩ :: rest)
      = some (s.value, ⟨.mark, ")", "", false⟩ :: rest) :=
    h.value.type (by simp [Grammar.endsType])
  have htype : (Rules.upTo (m + 2)).type false (⟨.name, "map", " ", false⟩
      :: ⟨.mark, "[", "", false⟩ :: ⟨.name, s.key, "", false⟩ :: ⟨.mark, "]", "", false⟩
        :: (mapValueTokens s.value ++ ⟨.mark, ")", "", false⟩ :: rest))
      = some (.map (.name s.key) s.value, ⟨.mark, ")", "", false⟩ :: rest) :=
    Grammar.type_map hkey hvalue
  have hparam := Grammar.param_named (l := "") (f := false) (h.param.not_mem typeWords_subset)
    (by simp) (by simp) htype
  simpa [paramTokens] using Grammar.params_of_commaList (.last (by simp) hparam)

/-- The results are the output and the error. -/
theorem results (h : s.Legible) (m : Nat) (l : String) (rest : List Token) :
    Grammar.results (Rules.upTo (m + 2)) true
      (⟨.mark, "(", l, false⟩ :: (s.resultsTokens ++ rest))
      = some ([⟨some "obj", .pointer s.out⟩, ⟨some "err", .name "error"⟩], rest) := by
  have hout : (Rules.upTo (m + 1)).type false (nameTokens "" s.out
      ++ ⟨.mark, ",", "", false⟩ :: ⟨.name, "err", " ", false⟩ :: ⟨.name, "error", " ", false⟩
        :: ⟨.mark, ")", "", false⟩ :: rest)
      = some (s.out, ⟨.mark, ",", "", false⟩ :: ⟨.name, "err", " ", false⟩
        :: ⟨.name, "error", " ", false⟩ :: ⟨.mark, ")", "", false⟩ :: rest) :=
    h.out.type (by simp [Grammar.endsType])
  have hpointer : (Rules.upTo (m + 2)).type false (⟨.mark, "*", " ", false⟩ :: (nameTokens "" s.out
      ++ ⟨.mark, ",", "", false⟩ :: ⟨.name, "err", " ", false⟩ :: ⟨.name, "error", " ", false⟩
        :: ⟨.mark, ")", "", false⟩ :: rest))
      = some (.pointer s.out, ⟨.mark, ",", "", false⟩ :: ⟨.name, "err", " ", false⟩
        :: ⟨.name, "error", " ", false⟩ :: ⟨.mark, ")", "", false⟩ :: rest) :=
    Grammar.type_pointer hout
  have herror : (Rules.upTo (m + 2)).type false
      (⟨.name, "error", " ", false⟩ :: ⟨.mark, ")", "", false⟩ :: rest)
      = some (.name "error", ⟨.mark, ")", "", false⟩ :: rest) :=
    Grammar.type_name (by decide) (by simp [Grammar.endsType])
  have hobj := Grammar.param_named (n := "obj") (l := "") (f := false) (by decide) (by simp)
    (by simp) hpointer
  have herr := Grammar.param_named (n := "err") (l := " ") (f := false) (by decide) (by simp)
    (by simp) herror
  rw [Grammar.results_eq_params]
  simpa [resultsTokens] using
    Grammar.params_of_commaList (.more (by simp) hobj (by simp; omega) (.last (by simp) herr))

/-- **A function is read as what it declares**, whatever statements are in its body. -/
theorem function (h : s.Legible) {m : Nat} {body : List Token} (hbody : AreStatements body)
    (hm : body.length ≤ m + 1) (l l' : String) (rest : List Token) :
    Grammar.function (Rules.upTo (m + 2))
      (s.tokens l ++ (body ++ ⟨.mark, "\x7d", l', true⟩ :: rest))
      = some (.function s.decl, rest) := by
  have hblock := Grammar.block_of_statements (l := " ") (f := false)
    (hbody.statements hm l' rest)
  have hparams := h.params m "" false
    (⟨.mark, "(", " ", false⟩ :: (s.resultsTokens
      ++ ⟨.mark, "\x7b", " ", false⟩ :: (body ++ ⟨.mark, "\x7d", l', true⟩ :: rest)))
  have hresults := h.results m " "
    (⟨.mark, "\x7b", " ", false⟩ :: (body ++ ⟨.mark, "\x7d", l', true⟩ :: rest))
  simp [Grammar.function, Grammar.functionBody, tokens, decl, hparams, hresults, hblock]

end Legible

end Prototype

end StructFill.Emission
