import StructFill.Proofs.Emission.Imports
import StructFill.Proofs.Emission.Soundness
import StructFill.Proofs.Source.Expressions
import StructFill.Proofs.Source.Scanning

/-! # The tokens of what is written

  Every line that is emitted in a function is blank, a comment, or the text of
  a few tokens. The tokens of the values, of the statements that store them and
  of the guards around these are written down here, and the grammar accepts
  each statement.

  **Lines.** What a line contributes depends on the lines before it only in the
  lead of its first token, into which blank lines and comments go. `LinesRead`
  says that lines are read as tokens with a property, whatever follows; it is
  shown line by line and put together by `LinesRead.append`.
-/

namespace StructFill

open Source (Token IsWord TypeExpr)
open Source.Token (Gap FitAll Scans spell)

namespace Source

/-! ## Names -/

/-- A name that a source can use: a word that is no keyword. -/
def IsName (n : String) : Prop := IsWord n ∧ n ∉ Typing.keywords

instance (n : String) : Decidable (IsName n) := inferInstanceAs (Decidable (_ ∧ _))

theorem IsName.not_mem {n : String} (h : IsName n) {words : List String}
    (hwords : words ⊆ Typing.keywords) : n ∉ words :=
  fun hn => h.2 (hwords hn)

theorem typeWords_subset : Grammar.typeWords ⊆ Typing.keywords := by decide

theorem statementWords_subset : Grammar.statementWords ⊆ Typing.keywords := by decide

/-- A name, or a name behind a qualifier. -/
inductive WellNamed : TypeExpr → Prop where
  | name {n} (hn : IsName n) : WellNamed (.name n)
  | qualified {q n} (hq : IsName q) (hn : IsName n) : WellNamed (.qualified q n)

/-- The tokens of a name, or of a name behind a qualifier. -/
def nameTokens (l : String) : TypeExpr → List Token
  | .name n => [⟨.name, n, l, false⟩]
  | .qualified q n => [⟨.name, q, l, false⟩, ⟨.mark, ".", "", false⟩, ⟨.name, n, "", false⟩]
  | _ => []

namespace WellNamed

variable {t : TypeExpr} {l : String} {rest : List Char}

theorem spell (h : WellNamed t) : Token.spell (nameTokens l t) rest
    = l.toList ++ (t.text.toList ++ rest) := by
  cases h <;> simp [nameTokens, Token.spell, TypeExpr.text]

theorem startsName (h : WellNamed t) : StartsName (t.text.toList ++ rest) := by
  cases h with
  | name hn => exact hn.1.startsName _
  | qualified hq _ =>
    have hstart := hq.1.startsName
    simp only [TypeExpr.text, String.toList_append, List.append_assoc]
    exact hstart _

theorem fitAll (h : WellNamed t) (hl : Gap l.toList false)
    (hrest : ∀ c ∈ rest.head?, Token.isNamePart c = false) : FitAll (nameTokens l t) rest := by
  cases h with
  | name hn => exact ⟨⟨hl, Token.front_word hn.1 hrest⟩, trivial⟩
  | qualified hq hn =>
    refine ⟨⟨hl, Token.front_word hq.1 ?_⟩, ⟨.nil, Token.front_operator (by simp) ?_⟩,
      ⟨.nil, Token.front_word hn.1 hrest⟩, trivial⟩
    · rintro c ⟨⟩
      decide
    · exact hn.1.startsName rest

/-- The tokens of a name are read as a type. -/
theorem type {ts : List Token} {tail : Bool} {r : Grammar.Rules} (h : WellNamed t)
    (hend : Grammar.endsType tail ts = true) :
    Grammar.type r tail (nameTokens l t ++ ts) = some (t, ts) := by
  cases h with
  | name hn => exact Grammar.type_name (hn.not_mem typeWords_subset) hend
  | qualified hq _ => exact Grammar.type_qualified (hq.not_mem typeWords_subset) hend

/-- Whatever can be written behind a value can be written behind a name. Only the name of a
function that allocates is read as one. -/
theorem unary {ts rest : List Token} {s : Grammar.Shape} {r : Grammar.Rules}
    {place : Grammar.Place} (h : WellNamed t)
    (hbehind : ∀ s', s'.value = true → (s'.allocator = true → t.text ∈ Grammar.allocators) →
      Grammar.Postfixes r place s' ts s rest) :
    Grammar.unary r place (nameTokens l t ++ ts) = some (s, rest) := by
  cases h with
  | name hn =>
    exact (Grammar.unary_eq_primary (.inl rfl)).trans
      (Grammar.primary_name (hn.not_mem typeWords_subset)
        (hbehind _ (Grammar.Shape.value_ofName _) Grammar.Shape.mem_allocators))
  | qualified hq _ =>
    exact (Grammar.unary_eq_primary (.inl rfl)).trans
      (Grammar.primary_name (hq.not_mem typeWords_subset)
        (.selector (Grammar.Shape.value_ofName _) (hbehind _ rfl Bool.noConfusion)))

end WellNamed

/-- The names that can only be values. -/
def valueNames : List String := ["nil", "true", "false", "iota", "new", "make"]

/-- The name in front. -/
def TypeExpr.head : TypeExpr → String
  | .name n => n
  | .qualified q _ => q
  | _ => ""

/-- Behind the name of a type there may be braces, unless the name in front can only be a
value. -/
theorem WellNamed.unary_braces {t : TypeExpr} {l l' l'' : String} {f' : Bool} {rest : List Token}
    {r : Grammar.Rules} {place : Grammar.Place} (h : WellNamed t) (hhead : t.head ∉ valueNames)
    (hplace : place.braces = true) (hrest : Grammar.Stops place rest) :
    Grammar.unary r place (nameTokens l t ++ ⟨.mark, "\x7b", l', false⟩
      :: ⟨.mark, "\x7d", l'', f'⟩ :: rest) = some (.ofValue, rest) := by
  have hshape : Grammar.Shape.ofName t.head = ⟨true, true, true, true, true, false, false⟩ := by
    simp only [valueNames, List.mem_cons, List.not_mem_nil, or_false, not_or] at hhead
    simp [Grammar.Shape.ofName, hhead]
  cases h with
  | @name n hn =>
    refine (Grammar.unary_eq_primary (.inl rfl)).trans
      (Grammar.primary_name (hn.not_mem typeWords_subset) ?_)
    rw [show Grammar.Shape.ofName n = _ from hshape]
    exact .literal rfl hplace (.stop (.inl hrest))
  | @qualified q _ hq _ =>
    refine (Grammar.unary_eq_primary (.inl rfl)).trans
      (Grammar.primary_name (hq.not_mem typeWords_subset) ?_)
    rw [show Grammar.Shape.ofName q = _ from hshape]
    exact .selector rfl (.literal rfl hplace (.stop (.inl hrest)))

end Source

namespace Emission

open Source
open Source.Quoted (quote)
open Source.Grammar (Rules Place Stops NoMark noMark_mark)
open Typing (Expr Step)

/-! ## Values -/

/-- The tokens of an expression whose first token has the lead `l`. -/
inductive Spells : Expr → String → List Token → Prop where
  | var {x l} (hx : IsName x) : Spells (.var x) l [⟨.name, x, l, false⟩]
  | element {map key l} (hmap : IsName map) :
    Spells (.element map key) l [⟨.name, map, l, false⟩, ⟨.mark, "[", "", false⟩,
      ⟨.string, quote key, "", false⟩, ⟨.mark, "]", "", false⟩]
  | call {t e l ts} (ht : WellNamed t) (he : Spells e "" ts) :
    Spells (.call t.text e) l
      (nameTokens l t ++ ⟨.mark, "(", "", false⟩ :: (ts ++ [⟨.mark, ")", "", false⟩]))
  | address {x l} (hx : IsName x) :
    Spells (.address x) l [⟨.mark, "&", l, false⟩, ⟨.name, x, "", false⟩]

/-- A function that allocates is called on nothing but a name, which is read as a type. -/
def AllocatesTypes : Expr → Prop
  | .call f e => (f ∈ Grammar.allocators → ∃ x, e = .var x) ∧ AllocatesTypes e
  | _ => True

namespace Spells

variable {e : Expr} {l : String} {ts : List Token}

theorem spell (h : Spells e l ts) (rest : List Char) :
    Token.spell ts rest = l.toList ++ (e.text.toList ++ rest) := by
  induction h generalizing rest with
  | var _ | element _ | address _ => simp [Token.spell, Expr.text]
  | call ht _ ih =>
    rw [Token.spell_append, ht.spell, Token.spell, Token.spell_append, ih]
    simp [Token.spell, Expr.text]

/-- The tokens fit before anything that does not continue a name. -/
theorem fitAll (h : Spells e l ts) (hl : Gap l.toList false) {rest : List Char}
    (hrest : ∀ c ∈ rest.head?, Token.isNamePart c = false) : FitAll ts rest := by
  induction h generalizing rest with
  | var hx => exact ⟨⟨hl, Token.front_word hx.1 hrest⟩, trivial⟩
  | element hmap =>
    refine ⟨⟨hl, Token.front_word hmap.1 ?_⟩, Token.fits_bracket Token.gap_none (by decide) _,
      ⟨.nil, Token.front_quote _ _⟩, Token.fits_bracket Token.gap_none (by decide) _, trivial⟩
    rintro c ⟨⟩
    decide
  | @call t e l ts ht he ih =>
    have hclose : FitAll [⟨.mark, ")", "", false⟩] rest :=
      ⟨Token.fits_bracket Token.gap_none (by decide) _, trivial⟩
    have hargument : FitAll ts (Token.spell [⟨.mark, ")", "", false⟩] rest) := ih .nil (by
      rintro c ⟨⟩
      decide)
    refine Token.fitAll_append.2 ⟨ht.fitAll hl ?_,
      Token.fits_bracket Token.gap_none (by decide) _,
      Token.fitAll_append.2 ⟨hargument, hclose⟩⟩
    rintro c ⟨⟩
    decide
  | address hx =>
    exact ⟨⟨hl, Token.front_operator (by simp) (hx.1.startsName rest)⟩,
      ⟨.nil, Token.front_word hx.1 hrest⟩, trivial⟩

/-- The only mark that an expression can begin with is that of an address. -/
theorem noMark (h : Spells e l ts) {ms : List String} (hms : "&" ∉ ms) (rest : List Token) :
    NoMark ms (ts ++ rest) := by
  intro m hm
  have hne : ("&" == m) = false := by
    rw [beq_eq_false_iff_ne]
    rintro rfl
    exact hms hm
  cases h with
  | var _ | element _ => simp
  | call ht _ => cases ht <;> simp [nameTokens]
  | address _ => simpa using hne

/-- The tokens do not continue a value. -/
def EndsValue (place : Place) (rest : List Token) : Prop :=
  Stops place rest ∨ NoMark ([".", "[", "(", "\x7b"] ++ Grammar.binaryMarks) rest

theorem EndsValue.operand {place : Place} {rest : List Token} (h : EndsValue place rest)
    (s : Grammar.Shape) : Grammar.EndsOperand place s rest := by
  rcases h with h | h
  · exact .inl h
  · refine .inr ⟨fun m hm => h m ?_, fun hbraces => ?_⟩
    · simp only [List.mem_cons, List.not_mem_nil, or_false] at hm
      rcases hm with rfl | rfl | rfl <;> simp
    · exact Bool.noConfusion ((h "\x7b" (by simp)).symm.trans hbraces)

theorem EndsValue.expression {place : Place} {rest : List Token} (h : EndsValue place rest) :
    Grammar.EndsExpression place rest :=
  h.imp id fun h m hm => h m (List.mem_append_right _ hm)

/-- A name that is alone before a mark, or at the end of a statement, is a value. -/
theorem expression_name {x l : String} {f : Bool} {rest : List Token} {r : Rules} {place : Place}
    (hx : IsName x) (hrest : EndsValue place rest) :
    Grammar.expression r place (⟨.name, x, l, f⟩ :: rest) = some (.ofName x, rest) :=
  Grammar.expression_of_unary
    ((Grammar.unary_eq_primary (.inl rfl)).trans
      (Grammar.primary_name (hx.not_mem typeWords_subset) (.stop (hrest.operand _))))
    hrest.expression

/-- **Values are read.** Each nesting takes a token, so the number of tokens is a depth at which
the expression is accepted. -/
theorem expression (h : Spells e l ts) (htypes : AllocatesTypes e) {n : Nat} (hn : ts.length ≤ n)
    {place : Place} {rest : List Token} (hrest : EndsValue place rest) :
    ∃ s, s.value = true
      ∧ Grammar.expression (Rules.upTo n) place (ts ++ rest) = some (s, rest) := by
  -- The place changes on the way in: what stands in brackets is read as such, whatever the place of
  -- the whole.
  induction h generalizing n place rest with
  | @var x l hx =>
    exact ⟨_, Grammar.Shape.value_ofName x, expression_name hx hrest⟩
  | @element map key l hmap =>
    obtain ⟨m, rfl⟩ : ∃ m, n = m + 1 := ⟨n - 1, by simp at hn; omega⟩
    have hclose : EndsValue .bracketed (⟨.mark, "]", "", false⟩ :: rest) :=
      .inr (noMark_mark (by decide))
    have hindex : (Rules.upTo (m + 1)).expression .bracketed
        (⟨.string, quote key, "", false⟩ :: ⟨.mark, "]", "", false⟩ :: rest)
          = some (.ofValue, ⟨.mark, "]", "", false⟩ :: rest) :=
      Grammar.expression_of_unary
        ((Grammar.unary_eq_primary (.inr rfl)).trans
          (Grammar.primary_string (.stop (hclose.operand _)))) hclose.expression
    refine ⟨_, rfl, Grammar.expression_of_unary
      ((Grammar.unary_eq_primary (.inl rfl)).trans
        (Grammar.primary_name (hmap.not_mem typeWords_subset)
          (.index (Grammar.Shape.value_ofName map) ?_ hindex rfl ?_
            (.stop (hrest.operand _))))) hrest.expression⟩
    · simp [NoMark]
    · exact Nat.lt_succ_of_lt (Nat.lt_succ_self _)
  | @call t e l ts ht he ih =>
    simp only [List.length_append, List.length_cons] at hn
    obtain ⟨m, rfl⟩ : ∃ m, n = m + 1 := ⟨n - 1, by omega⟩
    have hclose : EndsValue .bracketed (⟨.mark, ")", "", false⟩ :: rest) :=
      .inr (noMark_mark (by decide))
    obtain ⟨s, hs, hargument⟩ := ih htypes.2 (show ts.length ≤ m by omega) hclose
    have hlength : rest.length < (ts ++ ⟨.mark, ")", "", false⟩ :: rest).length := by
      simp only [List.length_append, List.length_cons]
      omega
    refine ⟨.ofValue, rfl, Grammar.expression_of_unary ?_ hrest.expression⟩
    rw [List.append_assoc, List.cons_append, List.append_assoc]
    refine ht.unary fun s' hs' hname => ?_
    cases hcall : s'.allocator with
    | false =>
      exact .call hs' hcall (he.noMark (by simp) _) hargument hs hlength (.stop (hrest.operand _))
    | true =>
      -- The argument is a name, so it is a type.
      obtain ⟨x, rfl⟩ := htypes.1 (hname hcall)
      cases he with
      | var hx =>
        have htype : Grammar.type (Rules.upTo m) false
            (⟨.name, x, "", false⟩ :: ⟨.mark, ")", "", false⟩ :: rest)
              = some (.name x, ⟨.mark, ")", "", false⟩ :: rest) :=
          Grammar.type_name (hx.not_mem typeWords_subset) rfl
        exact .allocation hs' hcall (by simp [NoMark]) htype hlength (.stop (hrest.operand _))
  | @address x l hx =>
    obtain ⟨m, rfl⟩ : ∃ m, n = m + 1 := ⟨n - 1, by simp at hn; omega⟩
    have hunary : (Rules.upTo (m + 1)).unary place (⟨.name, x, "", false⟩ :: rest)
        = some (.ofName x, rest) :=
      (Grammar.unary_eq_primary (.inl rfl)).trans
        (Grammar.primary_name (hx.not_mem typeWords_subset)
          (.stop (hrest.operand _)))
    exact ⟨.ofValue, rfl, Grammar.expression_of_unary
      (Grammar.unary_address hunary (Grammar.Shape.value_ofName x))
      hrest.expression⟩

end Spells

/-! ## Lines -/

/-- The line has the tokens `tokens l`, where the first one has the lead `l` and what is in front
of it on the line. -/
structure IsLine (line : String) (tokens : String → List Token) : Prop where
  text : ∀ l rest, Token.spell (tokens l) rest = l.toList ++ (line.toList ++ rest)
  fitAll : ∀ l, Gap l.toList true → ∀ rest, FitAll (tokens l) ('\n' :: rest)

/-- A line can be indented. -/
theorem IsLine.indent {line indent : String} {tokens : String → List Token}
    (h : IsLine line tokens) (hindent : Gap indent.toList false) :
    IsLine (indent ++ line) (fun l => tokens (l ++ indent)) where
  text l rest := by
    rw [h.text]
    simp
  fitAll l hl rest := by
    refine h.fitAll _ ?_ rest
    rw [String.toList_append]
    exact hl.append hindent

/-- Behind any gap with a line break, the text has the tokens `tokens l`, where `l` is the
gap. -/
def Behind (cs : List Char) (tokens : String → List Token) : Prop :=
  ∀ l : String, Gap l.toList true → Scans (l.toList ++ cs) (tokens l)

/-- The lines are read as tokens with a property, whatever follows. What follows may get a lead
from them. -/
def LinesRead (P : List Token → Prop) (ls : List String) : Prop :=
  ∀ cs tokens, Behind cs tokens →
    ∃ (front : String → List Token) (lead : String → String),
      Behind ((unlines ls).toList ++ cs) (fun l => front l ++ tokens (lead l)) ∧ ∀ l, P (front l)

namespace LinesRead

variable {P Q : List Token → Prop} {ls ls' : List String}

theorem nil (h : P []) : LinesRead P [] := fun _ _ hcs =>
  ⟨fun _ => [], id, hcs, fun _ => h⟩

theorem append {R : List Token → Prop} (h : LinesRead P ls) (h' : LinesRead Q ls')
    (hR : ∀ as bs, P as → Q bs → R (as ++ bs)) : LinesRead R (ls ++ ls') := by
  intro cs tokens hcs
  obtain ⟨front', lead', hbehind', hQ⟩ := h' cs tokens hcs
  obtain ⟨front, lead, hbehind, hP⟩ := h _ _ hbehind'
  refine ⟨fun l => front l ++ front' (lead l), fun l => lead' (lead l), ?_,
    fun l => hR _ _ (hP l) (hQ _)⟩
  have htext : (unlines (ls ++ ls')).toList ++ cs
      = (unlines ls).toList ++ ((unlines ls').toList ++ cs) := by
    simp [toList_unlines]
  rw [htext]
  simpa only [List.append_assoc] using hbehind

/-- A line that is all gap goes into the lead of what follows. -/
theorem gap {line : String} (hline : Gap (line.toList ++ ['\n']) true) (h : P []) :
    LinesRead P [line] := by
  intro cs tokens hcs
  refine ⟨fun _ => [], fun l => l ++ line ++ "\n", ?_, fun _ => h⟩
  intro l hl
  have hlead : Gap (l ++ line ++ "\n").toList true := by
    simpa using hl.append hline
  simpa [toList_unlines] using hcs _ hlead

theorem line {line : String} {tokens : String → List Token} (hline : IsLine line tokens)
    (h : ∀ l, P (tokens l)) : LinesRead P [line] := by
  intro cs tokens' hcs
  refine ⟨tokens, fun _ => "\n", ?_, h⟩
  intro l hl
  have hscans := (hline.fitAll l hl cs).scans (hcs "\n" Token.gap_break)
  rw [hline.text] at hscans
  simpa [toList_unlines] using hscans

end LinesRead

theorem gap_empty : Gap ("".toList ++ ['\n']) true := Token.gap_break

/-- A comment that is indented is all gap. -/
theorem gap_indented {t : String} (ht : Token.InLine t.toList) :
    Gap (("\t//" ++ t).toList ++ ['\n']) true := by
  have hcomment := Token.gap_tab.append (Token.gap_comment ht)
  simpa using hcomment

/-! ## Statements -/

/-- A statement on lines of its own. -/
structure IsStatement (ts : List Token) : Prop where
  isOpen : Grammar.endsStatements ts = false
  fresh : ts.head?.all (·.fresh) = true
  reads : ∀ n, ts.length ≤ n → ∀ rest : List Token, rest.head?.all (·.fresh) = true →
    Grammar.statement (Rules.upTo n) (ts ++ rest) = some (.skipped, rest)

theorem IsStatement.exists_cons {ts : List Token} (h : IsStatement ts) : ∃ t us, ts = t :: us := by
  cases ts with
  | nil => exact absurd h.isOpen (by simp [Grammar.endsStatements])
  | cons t us => exact ⟨t, us, rfl⟩

/-- Statements one after the other. -/
inductive AreStatements : List Token → Prop where
  | nil : AreStatements []
  | cons {ts ts'} (h : IsStatement ts) (hs : AreStatements ts') : AreStatements (ts ++ ts')

theorem IsStatement.areStatements {ts : List Token} (h : IsStatement ts) : AreStatements ts := by
  simpa using AreStatements.cons h .nil

theorem AreStatements.append {ts ts' : List Token} (h : AreStatements ts)
    (h' : AreStatements ts') : AreStatements (ts ++ ts') := by
  induction h with
  | nil => exact h'
  | cons hfirst _ ih =>
    rw [List.append_assoc]
    exact .cons hfirst ih

/-- The first token of statements, or of what is behind them, stands on a new line. -/
theorem AreStatements.fresh {ts rest : List Token} (h : AreStatements ts)
    (hrest : rest.head?.all (·.fresh) = true) : (ts ++ rest).head?.all (·.fresh) = true := by
  cases h with
  | nil => exact hrest
  | @cons ts ts' hfirst _ =>
    obtain ⟨t, us, rfl⟩ := hfirst.exists_cons
    simpa using hfirst.fresh

end Emission
end StructFill
