import StructFill.Proofs.Source.Parsing

/-! # Expressions and statements on known tokens

  The rules of statements keep nothing of what they read, so all that matters
  is that they accept it, and where they stop.

  **Shapes.** Whether braces or brackets continue an expression depends on what
  the expression can be so far. The lemmas carry the shape along. What is
  written behind an operand is a chain of links, and each link has one case in
  the relation `Postfixes`.
-/

namespace StructFill.Source.Grammar

open Parse

/-! ## Operands and what is behind them -/

/-- Every name can be a value. -/
theorem Shape.value_ofName (n : String) : (Shape.ofName n).value = true := by
  unfold Shape.ofName
  split
  · rfl
  · split <;> rfl

/-- The functions that take a type as their first argument. -/
def allocators : List String := ["new", "make"]

/-- Only these names are read as such functions. -/
theorem Shape.mem_allocators {n : String} (h : (Shape.ofName n).allocator = true) :
    n ∈ allocators := by
  unfold Shape.ofName at h
  split at h
  · cases h
  · split at h
    next hn => simpa [allocators] using hn
    next => cases h

/-- No mark of the list comes next. -/
def NoMark (ms : List String) (ts : List Token) : Prop := ∀ m ∈ ms, ts.head?.any (isMark m) = false

theorem noMark_mark {ms : List String} {m l : String} {f : Bool} {ts : List Token} (hm : m ∉ ms) :
    NoMark ms (⟨.mark, m, l, f⟩ :: ts) := by
  intro m' hm'
  have hne : m ≠ m' := by
    rintro rfl
    exact hm hm'
  simpa using hne

/-- A line break ends the construct. -/
def Stops (place : Place) (rest : List Token) : Prop :=
  place.tail = true ∧ rest.head?.all (·.fresh) = true

/-- The tokens do not continue an operand of the shape: braces may follow one only before a
block. -/
def EndsOperand (place : Place) (s : Shape) (rest : List Token) : Prop :=
  Stops place rest ∨ NoMark [".", "[", "("] rest
    ∧ (rest.head?.any (isMark "\x7b") = true → s.literal = true →
      place.braces = false ∧ s.named = true)

/-- What is behind an operand of a shape, up to the tokens that do not continue it. -/
inductive Postfixes (r : Rules) (place : Place) : Shape → List Token → Shape → List Token → Prop
    where
  | stop {s rest} (h : EndsOperand place s rest) : Postfixes r place s rest s rest
  | selector {s n l l' f' ts s' rest} (hvalue : s.value = true)
    (h : Postfixes r place s.selected ts s' rest) :
    Postfixes r place s (⟨.mark, ".", l, false⟩ :: ⟨.name, n, l', f'⟩ :: ts) s' rest
  /-- An index that is no type. -/
  | index {s e l l' f' ts ts' s' rest} (hvalue : s.value = true) (hcolon : NoMark [":"] ts)
    (hindex : r.expression .bracketed ts = some (e, ⟨.mark, "]", l', f'⟩ :: ts'))
    (htype : e.type = false) (hlength : ts'.length < ts.length)
    (h : Postfixes r place .ofValue ts' s' rest) :
    Postfixes r place s (⟨.mark, "[", l, false⟩ :: ts) s' rest
  /-- A call with one argument. -/
  | call {s e l l' f' ts ts' s' rest} (hvalue : s.value = true) (hcall : s.allocator = false)
    (hclose : NoMark [")"] ts)
    (hargument : r.expression .bracketed ts = some (e, ⟨.mark, ")", l', f'⟩ :: ts'))
    (hvalue' : e.value = true) (hlength : ts'.length < ts.length)
    (h : Postfixes r place .ofValue ts' s' rest) :
    Postfixes r place s (⟨.mark, "(", l, false⟩ :: ts) s' rest
  /-- An allocation for a type, without a size. -/
  | allocation {s t l l' f' ts ts' s' rest} (hvalue : s.value = true) (hcall : s.allocator = true)
    (hclose : NoMark [")"] ts)
    (htype : r.type false ts = some (t, ⟨.mark, ")", l', f'⟩ :: ts'))
    (hlength : ts'.length < ts.length) (h : Postfixes r place .ofValue ts' s' rest) :
    Postfixes r place s (⟨.mark, "(", l, false⟩ :: ts) s' rest
  /-- Empty braces. -/
  | literal {s l l' f' ts s' rest} (hliteral : s.literal = true) (hbraces : place.braces = true)
    (h : Postfixes r place .ofValue ts s' rest) :
    Postfixes r place s (⟨.mark, "\x7b", l, false⟩ :: ⟨.mark, "\x7d", l', f'⟩ :: ts) s' rest

variable {r : Rules} {place : Place} {s s' : Shape} {n l l' : String} {f f' : Bool}
  {ts ts' rest : List Token}

theorem arguments_single {e : Shape} (hclose : NoMark [")"] ts)
    (h : r.expression .bracketed ts = some (e, ⟨.mark, ")", l', f'⟩ :: rest))
    (hvalue : e.value = true) :
    arguments r (⟨.mark, "(", l, f⟩ :: ts) = some ((), rest) := by
  have hlist : CommaList (do
      innerValue r
      discard (takeMark "...")) ")" ts [()] rest := by
    refine .last (hclose _ (by simp)) (l := l') (f := f') ?_
    simp [innerValue, h, hvalue]
  simp [arguments, hlist.apply (by decide)]

theorem allocation_single {t : TypeExpr} (hclose : NoMark [")"] ts)
    (h : r.type false ts = some (t, ⟨.mark, ")", l', f'⟩ :: rest)) :
    allocation r (⟨.mark, "(", l, f⟩ :: ts) = some ((), rest) := by
  have hopen := hclose ")" (by simp)
  simp [allocation, hopen, h]

theorem brackets_single {e : Shape} (hcolon : NoMark [":"] ts)
    (h : r.expression .bracketed ts = some (e, ⟨.mark, "]", l', f'⟩ :: rest))
    (htype : e.type = false) :
    brackets r s (⟨.mark, "[", l, f⟩ :: ts) = some (.ofValue, rest) := by
  have hnot := hcolon ":" (by simp)
  simp [brackets, hnot, h, htype]

theorem literal_empty :
    literal r (⟨.mark, "\x7b", l, f⟩ :: ⟨.mark, "\x7d", l', f'⟩ :: rest) = some ((), rest) := by
  have hlist : commaList (do
      literalElement r
      if ← takeMark ":" then literalElement r else pure ()) "\x7d"
        (⟨.mark, "\x7d", l', f'⟩ :: rest) = some ([], rest) := CommaList.done.apply (by decide)
  simp [literal, hlist]

theorem Postfixes.within (h : Postfixes r place s ts s' rest) {k : Nat} (hk : ts.length < k) :
    postfixesWithin r place k s ts = some (s', rest) := by
  -- Each link takes a token, so the rounds do not run out.
  induction h generalizing k with
  | @stop s rest h =>
    obtain ⟨m, rfl⟩ : ∃ m, k = m + 1 := ⟨k - 1, by omega⟩
    by_cases hstops : Stops place rest
    · simp [postfixesWithin, hstops.1, hstops.2]
    · obtain ⟨hnone, hbraces⟩ := h.resolve_left hstops
      have hdot := hnone "." (by simp)
      have hbracket := hnone "[" (by simp)
      have hparen := hnone "(" (by simp)
      have hliteral : ¬ ((rest.head?.any (isMark "\x7b") = true ∧ s.literal = true)
          ∧ (place.braces = true ∨ s.named = false)) := by
        rintro ⟨⟨hmark, hs⟩, hplace⟩
        simp [hbraces hmark hs] at hplace
      rw [Stops] at hstops
      simp [postfixesWithin, hstops, hdot, hbracket, hparen, hliteral]
  | selector hvalue _ ih =>
    obtain ⟨m, rfl⟩ : ∃ m, k = m + 1 := ⟨k - 1, by omega⟩
    simp at hk
    simp [postfixesWithin, Grammar.selector, hvalue, ih (show _ < m by omega)]
  | index hvalue hcolon hindex htype hlength _ ih =>
    obtain ⟨m, rfl⟩ : ∃ m, k = m + 1 := ⟨k - 1, by omega⟩
    simp at hk
    simp [postfixesWithin, hvalue, brackets_single hcolon hindex htype,
      ih (show _ < m by omega)]
  | call hvalue hcall hclose hargument hvalue' hlength _ ih =>
    obtain ⟨m, rfl⟩ : ∃ m, k = m + 1 := ⟨k - 1, by omega⟩
    simp at hk
    simp [postfixesWithin, hvalue, hcall, arguments_single hclose hargument hvalue',
      ih (show _ < m by omega)]
  | allocation hvalue hcall hclose htype hlength _ ih =>
    obtain ⟨m, rfl⟩ : ∃ m, k = m + 1 := ⟨k - 1, by omega⟩
    simp at hk
    simp [postfixesWithin, hvalue, hcall, allocation_single hclose htype,
      ih (show _ < m by omega)]
  | literal hliteral hbraces _ ih =>
    obtain ⟨m, rfl⟩ : ∃ m, k = m + 1 := ⟨k - 1, by omega⟩
    simp at hk
    simp [postfixesWithin, hliteral, hbraces, literal_empty, ih (show _ < m by omega)]

theorem Postfixes.apply (h : Postfixes r place s ts s' rest) :
    rounds (fun k => postfixesWithin r place k s) ts = some (s', rest) :=
  h.within (Nat.lt_succ_self _)

/-- A name with whatever is written behind it. -/
theorem primary_name (hn : n ∉ typeWords) (h : Postfixes r place (Shape.ofName n) ts s rest) :
    primary r place (⟨.name, n, l, f⟩ :: ts) = some (s, rest) := by
  simp only [typeWords, List.mem_cons, List.not_mem_nil, or_false, not_or] at hn
  obtain ⟨hstruct, hinterface, hmap, hchan, hfunc⟩ := hn
  simp [primary, operand, hstruct, hinterface, hmap, hchan, hfunc, h.apply]

/-- A text in quotes. -/
theorem primary_string {q : String} (h : Postfixes r place .ofValue ts s rest) :
    primary r place (⟨.string, q, l, f⟩ :: ts) = some (s, rest) := by
  simp [primary, operand, h.apply]

/-! ## Operators -/

/-- What begins with a name or a text in quotes has no operator in front. -/
theorem unary_eq_primary {t : Token} (ht : t.kind = .name ∨ t.kind = .string) :
    unary r place (t :: ts) = primary r place (t :: ts) := by
  obtain ⟨kind, spelling, lead, fresh⟩ := t
  rcases ht with rfl | rfl <;> simp [unary, takeOneMark]

/-- The address of a value. -/
theorem unary_address (h : r.unary place ts = some (s, rest)) (hvalue : s.value = true) :
    unary r place (⟨.mark, "&", l, f⟩ :: ts) = some (.ofValue, rest) := by
  simp [unary, takeOneMark, unaryMarks, h, hvalue]

/-- The tokens do not continue an expression with an operator. -/
def EndsExpression (place : Place) (rest : List Token) : Prop :=
  Stops place rest ∨ NoMark binaryMarks rest

theorem expression_of_unary (h : unary r place ts = some (s, rest))
    (hend : EndsExpression place rest) : expression r place ts = some (s, rest) := by
  have hstop : operationsWithin r place (rest.length + 1) s rest = some (s, rest) := by
    by_cases hstops : Stops place rest
    · simp [operationsWithin, hstops.1, hstops.2]
    · have hnone := hend.resolve_left hstops
      have hoperator : rest.head?.any
          (fun t => t.kind == .mark && decide (t.spelling ∈ binaryMarks)) = false := by
        cases rest with
        | nil => rfl
        | cons t rest =>
          cases hkind : t.kind == .mark with
          | false => simp [hkind]
          | true =>
            have hmem : t.spelling ∉ binaryMarks := fun hmem => by
              simpa [isMark, hkind] using hnone t.spelling hmem
            simp [hmem]
      rw [Stops] at hstops
      simp [operationsWithin, hstops, hoperator]
  simp [expression, h, rounds_apply, hstop]

/-! ## Simple statements -/

/-- No comma follows where a list of values stops. -/
theorem continues_of_stops (h : Stops place rest ∨ NoMark [","] rest) :
    continues place.tail "," rest = some (false, rest) := by
  rcases h with ⟨htail, hfresh⟩ | hnone
  · simp [htail, hfresh]
  · simp [hnone "," (by simp)]

theorem expressions_single (h : expression r place ts = some (s, rest)) (hvalue : s.value = true)
    (hcomma : Stops place rest ∨ NoMark [","] rest) :
    expressions r place ts = some (some s, rest) := by
  have hcontinues := continues_of_stops hcomma
  simp [-continues_apply, expressions, h, hvalue, hcontinues]

/-- Two values with a comma between them. -/
theorem expressions_pair {s₂ : Shape}
    (h : expression r place ts = some (s, ⟨.mark, ",", l, false⟩ :: ts')) (hvalue : s.value = true)
    (h₂ : r.expression place ts' = some (s₂, rest)) (hvalue₂ : s₂.value = true)
    (hcomma : Stops place rest ∨ NoMark [","] rest) :
    expressions r place ts = some (Option.none, rest) := by
  have hcontinues := continues_of_stops hcomma
  have hvalues : values r place ts' = some ((), rest) := by
    simp [-continues_apply, values, commaSeparated, rounds_apply, commaSeparatedWithin, h₂,
      hvalue₂, hcontinues]
  simp [expressions, h, hvalue, hvalues]

theorem simple_assign {x y : Option Shape}
    (hleft : expressions r place ts = some (x, ⟨.mark, "=", l, false⟩ :: ts'))
    (hright : expressions r place ts' = some (y, rest)) :
    simple r place false ts = some (.assign, rest) := by
  simp [simple, hleft, hright, assignMarks]

theorem simple_define {x y : Option Shape}
    (hleft : expressions r place ts = some (x, ⟨.mark, ":=", l, false⟩ :: ts'))
    (hright : expressions r place ts' = some (y, rest)) :
    simple r place false ts = some (.define (y.any (·.guard)), rest) := by
  simp [simple, hleft, hright]

/-! ## Statements -/

/-- The words that begin a statement of a kind of its own. -/
def statementWords : List String :=
  ["type", "const", "var", "if", "for", "switch", "select", "return", "go", "defer",
   "fallthrough", "break", "continue", "goto"]

/-- A statement that begins with a name of no other meaning is a simple one. -/
theorem statement_simple {x : Simple} (hn : n ∉ statementWords) (hcolon : NoMark [":"] ts)
    (h : simple r .statement false (⟨.name, n, l, f⟩ :: ts) = some (x, rest)) :
    statement r (⟨.name, n, l, f⟩ :: ts) = some (.skipped, rest) := by
  simp only [statementWords, List.mem_cons, List.not_mem_nil, or_false, not_or] at hn
  obtain ⟨htype, hconst, hvar, hif, hfor, hswitch, hselect, hreturn, hgo, hdefer, hfallthrough,
    hbreak, hcontinue, hgoto⟩ := hn
  have hlabel : atLabel (⟨.name, n, l, f⟩ :: ts) = some (false, ⟨.name, n, l, f⟩ :: ts) := by
    cases ts with
    | nil => rfl
    | cons t ts =>
      have ht : isMark ":" t = false := by simpa using hcolon ":" (by simp)
      simp [atLabel, ht]
  simp [statement, takeOneWord, htype, hconst, hvar, hif, hfor, hswitch, hselect, hreturn, hgo,
    hdefer, hfallthrough, hbreak, hcontinue, hgoto, hlabel, h]

/-- A closing brace or a clause ends a list of statements. -/
def endsStatements (ts : List Token) : Bool :=
  ts.head?.all fun t => isMark "\x7d" t || isWord "case" t || isWord "default" t

theorem atListEnd_apply (ts : List Token) : atListEnd ts = some (endsStatements ts, ts) := by
  cases ts <;> simp [atListEnd, endsStatements]

/-- Statements that line breaks end, up to a closing brace. -/
inductive Statements (r : Rules) : List Token → List Token → Prop where
  | done {l : String} {f : Bool} {rest : List Token} :
    Statements r (⟨.mark, "\x7d", l, f⟩ :: rest) (⟨.mark, "\x7d", l, f⟩ :: rest)
  | more {ts ts' rest : List Token} {i : Item} (hopen : endsStatements ts = false)
    (h : r.statement ts = some (i, ts'))
    (hfresh : ts'.head?.all (·.fresh) = true) (hlength : ts'.length < ts.length)
    (hrest : Statements r ts' rest) : Statements r ts rest

theorem Statements.within (h : Statements r ts rest) {k : Nat} (hk : ts.length < k) :
    statementsWithin r k ts = some ((), rest) := by
  induction h generalizing k with
  | done =>
    obtain ⟨m, rfl⟩ : ∃ m, k = m + 1 := ⟨k - 1, by omega⟩
    simp [statementsWithin, atListEnd_apply, endsStatements]
  | @more ts ts' rest i hopen h hfresh hlength hrest ih =>
    obtain ⟨m, rfl⟩ : ∃ m, k = m + 1 := ⟨k - 1, by omega⟩
    have hagain := ih (show ts'.length < m by omega)
    cases hend : endsStatements ts' with
    | false =>
      simp [statementsWithin, atListEnd_apply, hopen, h, hend, terminator_of_fresh hfresh, hagain]
    | true =>
      -- The closing brace comes next, and there are no more statements.
      cases hrest with
      | done => simp [statementsWithin, atListEnd_apply, hopen, h, hend]
      | more hopen' _ _ _ _ => exact Bool.noConfusion (hopen'.symm.trans hend)

theorem block_of_statements
    (h : Statements r ts (⟨.mark, "\x7d", l', f'⟩ :: rest)) :
    block r (⟨.mark, "\x7b", l, f⟩ :: ts) = some ((), rest) := by
  have hstatements : statements r ts = some ((), ⟨.mark, "\x7d", l', f'⟩ :: rest) :=
    h.within (Nat.lt_succ_self _)
  simp [block, hstatements]

/-- A conditional with a statement in front of its condition, and without an alternative. -/
theorem statement_conditional {x : Simple} {ts₁ ts₂ : List Token}
    (hfirst : simple r .header false ts = some (x, ⟨.mark, ";", l', f'⟩ :: ts₁))
    (hcondition : r.expression .header ts₁ = some (s, ts₂)) (hvalue : s.value = true)
    (hblock : block r ts₂ = some ((), rest)) (hrest : rest.head?.all (·.fresh) = true) :
    statement r (⟨.name, "if", l, f⟩ :: ts) = some (.skipped, rest) := by
  have hconditional : conditional r (⟨.name, "if", l, f⟩ :: ts) = some ((), rest) := by
    simp [conditional, condition, hfirst, hcondition, hvalue, hblock, hrest]
  simp [statement, hconditional]

/-- A return with two values. -/
theorem statement_return {s₂ : Shape} (hopen : endsStatements ts = false)
    (hfresh : ts.head?.all (·.fresh) = false) (hsemicolon : NoMark [";"] ts)
    (h : r.expression .statement ts = some (s, ⟨.mark, ",", l', false⟩ :: ts'))
    (hvalue : s.value = true) (h₂ : r.expression .statement ts' = some (s₂, rest))
    (hvalue₂ : s₂.value = true) (hlength : ts'.length < ts.length)
    (hrest : rest.head?.all (·.fresh) = true) :
    statement r (⟨.name, "return", l, f⟩ :: ts) = some (.skipped, rest) := by
  have hvalues : values r .statement ts = some ((), rest) := by
    obtain ⟨m, hm⟩ : ∃ m, ts.length = m + 1 := ⟨ts.length - 1, by omega⟩
    have htail : Place.statement.tail = true := rfl
    simp [values, commaSeparated, rounds_apply, hm, commaSeparatedWithin, h, hvalue, h₂, hvalue₂,
      htail, hrest]
  simp [statement, atListEnd_apply, hfresh, hopen, hsemicolon ";" (by simp), hvalues]

end StructFill.Source.Grammar
