import StructFill.Source.Grammar

/-! # What parsers do on known tokens

  A parser is a function on lists of tokens. Each combinator has an equation
  for what it does on a list whose first token is known; with these equations a
  rule of the grammar is followed token by token.

  **What follows.** A rule has to know where to stop. Each lemma on a rule is
  about the tokens that it takes and any tokens behind them, as long as the
  first of these does not continue what was read.
-/

namespace StructFill.Source.Parse

variable {α β : Type}

/-! ## Classes of tokens -/

section classes

variable (s n l : String) (f : Bool)

@[simp] theorem isMark_mark : isMark s ⟨.mark, n, l, f⟩ = (n == s) := by simp [isMark]

@[simp] theorem isMark_name : isMark s ⟨.name, n, l, f⟩ = false := by simp [isMark]

@[simp] theorem isMark_string : isMark s ⟨.string, n, l, f⟩ = false := by simp [isMark]

@[simp] theorem isWord_name : isWord s ⟨.name, n, l, f⟩ = (n == s) := by simp [isWord]

@[simp] theorem isWord_mark : isWord s ⟨.mark, n, l, f⟩ = false := by simp [isWord]

@[simp] theorem isWord_string : isWord s ⟨.string, n, l, f⟩ = false := by simp [isWord]

end classes

/-! ## Sequences -/

/-- Goes on where a parser has stopped, with its result. -/
def resume (x : Option (α × List Token)) (k : α → Parse β) : Option (β × List Token) :=
  match x with
  | none => none
  | some (a, ts) => k a ts

/-- Only the outcome of the first parser is worked out before its result is used. -/
@[congr] theorem resume_congr {x x' : Option (α × List Token)} (h : x = x') (k : α → Parse β) :
    resume x k = resume x' k := by rw [h]

@[simp] theorem resume_some (a : α) (ts : List Token) (k : α → Parse β) :
    resume (some (a, ts)) k = k a ts := by rw [resume]

@[simp ↓] theorem bind_apply (p : Parse α) (k : α → Parse β) (ts : List Token) :
    (p >>= k) ts = resume (p ts) k := by
  change (p ts).bind _ = _
  cases p ts <;> rfl

@[simp] theorem pure_apply (a : α) (ts : List Token) : (pure a : Parse α) ts = some (a, ts) := by
  cases ts <;> rfl

@[simp] theorem map_apply (g : α → β) (p : Parse α) (ts : List Token) :
    (g <$> p) ts = (p ts).map fun x => (g x.1, x.2) := by
  change (p ts).bind _ = _
  cases p ts <;> rfl

@[simp] theorem discard_apply (p : Parse α) (ts : List Token) :
    (discard p : Parse Unit) ts = (p ts).map fun x => ((), x.2) := by
  change (p ts).bind _ = _
  cases p ts <;> rfl

theorem orElse_of_eq_some {p q : Parse α} {ts : List Token} {x : α × List Token}
    (h : p ts = some x) : (p <|> q) ts = some x := by
  change (p ts).orElse _ = _
  rw [h]
  rfl

/-! ## Single tokens -/

section tokens

variable (p : Token → Bool) (s n l : String) (f : Bool) (t : Token) (ts : List Token)

@[simp] theorem peek_apply : peek ts = some (ts.head?, ts) := by cases ts <;> rfl

@[simp] theorem next_cons : next (t :: ts) = some (t, ts) := by rw [next]

@[simp] theorem at?_apply : at? p ts = some (ts.head?.any p, ts) := by cases ts <;> rfl

@[simp] theorem atMark_apply : atMark s ts = some (ts.head?.any (isMark s), ts) := at?_apply _ ts

@[simp] theorem atWord_apply : atWord s ts = some (ts.head?.any (isWord s), ts) := at?_apply _ ts

@[simp] theorem take?_apply :
    take? p ts = some (ts.head?.any p, if ts.head?.any p then ts.tail else ts) := by
  cases ts with
  | nil => rfl
  | cons t ts =>
    rw [take?, List.head?_cons, Option.any_some, List.tail_cons]
    cases p t <;> rfl

@[simp] theorem takeMark_apply : takeMark s ts = take? (isMark s) ts := by rw [takeMark]

@[simp] theorem takeWord_apply : takeWord s ts = take? (isWord s) ts := by rw [takeWord]

@[simp] theorem expect_cons : expect p (t :: ts) = if p t then some (t, ts) else none := by
  rw [expect]

@[simp] theorem mark_cons : mark s (⟨.mark, s, l, f⟩ :: ts) = some ((), ts) := by
  simp [mark]

@[simp] theorem word_cons : word s (⟨.name, s, l, f⟩ :: ts) = some ((), ts) := by
  simp [word]

@[simp] theorem ident_cons : ident (⟨.name, n, l, f⟩ :: ts) = some (n, ts) := by
  simp [ident]

@[simp] theorem identExcept_cons {words : List String} (hn : n ∉ words) :
    identExcept words (⟨.name, n, l, f⟩ :: ts) = some (n, ts) := by
  simp [identExcept, hn]

@[simp] theorem quoted_cons : quoted (⟨.string, s, l, f⟩ :: ts) = some (s, ts) := by
  simp [quoted]

@[simp] theorem require_true : require true ts = some ((), ts) := by
  rw [require, if_pos rfl, pure_apply]

@[simp] theorem atBreak_apply : atBreak ts = some (ts.head?.all (·.fresh), ts) := by
  cases ts <;> rfl

@[simp] theorem stops_apply (tail : Bool) :
    stops tail ts = some (tail && ts.head?.all (·.fresh), ts) := by
  cases tail <;> simp [stops]

@[simp] theorem continues_apply (tail : Bool) :
    continues tail s ts
      = some (!(tail && ts.head?.all (·.fresh)) && ts.head?.any (isMark s), ts) := by
  rw [continues, bind_apply, stops_apply, resume_some]
  cases tail && ts.head?.all (·.fresh) <;> simp

end tokens

/-- A line break, or the end of the text, ends what a terminator may follow. -/
theorem terminator_of_fresh {ts : List Token} (h : ts.head?.all (·.fresh) = true) :
    terminator ts = some ((), ts) := by
  simp [terminator, h]

theorem spanned_eq_some {p : Parse α} {a : α} {ts rest : List Token} (h : p ts = some (a, rest)) :
    spanned p ts = some ((a, Token.sourceText (ts.take (ts.length - rest.length))), rest) := by
  rw [spanned, h]
  rfl

theorem rounds_apply (loop : Nat → Parse α) (ts : List Token) :
    rounds loop ts = loop (ts.length + 1) ts := by rw [rounds]

/-! ## Lists -/

section lists

variable {p : Parse α} {close : String}

/-- The tokens up to a closing mark and behind it are elements with commas between them. -/
inductive CommaList (p : Parse α) (close : String) : List Token → List α → List Token → Prop where
  | done {l f rest} : CommaList p close (⟨.mark, close, l, f⟩ :: rest) [] rest
  | last {ts a l f rest} (hopen : ts.head?.any (isMark close) = false)
    (h : p ts = some (a, ⟨.mark, close, l, f⟩ :: rest)) : CommaList p close ts [a] rest
  | more {ts a l f ts' as rest} (hopen : ts.head?.any (isMark close) = false)
    (h : p ts = some (a, ⟨.mark, ",", l, f⟩ :: ts')) (hlength : ts'.length < ts.length)
    (hrest : CommaList p close ts' as rest) : CommaList p close ts (a :: as) rest

theorem CommaList.within {ts rest : List Token} {as : List α} (h : CommaList p close ts as rest)
    (hclose : close ≠ ",") {n : Nat} (hn : ts.length < n) :
    commaListWithin p close n ts = some (as, rest) := by
  -- Each element takes a token, so the rounds do not run out.
  induction h generalizing n with
  | done =>
    obtain ⟨m, rfl⟩ : ∃ m, n = m + 1 := ⟨n - 1, by omega⟩
    simp [commaListWithin]
  | last hopen h =>
    obtain ⟨m, rfl⟩ : ∃ m, n = m + 1 := ⟨n - 1, by omega⟩
    simp [commaListWithin, hopen, h, hclose]
  | more hopen h hlength _ ih =>
    obtain ⟨m, rfl⟩ : ∃ m, n = m + 1 := ⟨n - 1, by omega⟩
    simp [commaListWithin, hopen, h, ih (show _ < m by omega)]

theorem CommaList.apply {ts rest : List Token} {as : List α} (h : CommaList p close ts as rest)
    (hclose : close ≠ ",") : commaList p close ts = some (as, rest) :=
  h.within hclose (Nat.lt_succ_self _)

/-- The tokens up to a closing mark and behind it are elements that line breaks end. -/
inductive Lines (p : Parse α) (close : String) : List Token → List α → List Token → Prop where
  | done {l f rest} : Lines p close (⟨.mark, close, l, f⟩ :: rest) [] rest
  | more {ts a ts' as rest} (hopen : ts.head?.any (isMark close) = false)
    (h : p ts = some (a, ts')) (hfresh : ts'.head?.all (·.fresh) = true)
    (hlength : ts'.length < ts.length) (hrest : Lines p close ts' as rest) :
    Lines p close ts (a :: as) rest

theorem Lines.within {ts rest : List Token} {as : List α} (h : Lines p close ts as rest) {n : Nat}
    (hn : ts.length < n) : linesWithin p close n ts = some (as, rest) := by
  induction h generalizing n with
  | done =>
    obtain ⟨m, rfl⟩ : ∃ m, n = m + 1 := ⟨n - 1, by omega⟩
    simp [linesWithin]
  | @more ts a ts' as rest hopen h hfresh hlength hrest ih =>
    obtain ⟨m, rfl⟩ : ∃ m, n = m + 1 := ⟨n - 1, by omega⟩
    have hagain := ih (show ts'.length < m by omega)
    cases hmark : ts'.head?.any (isMark close) with
    | false => simp [linesWithin, hopen, h, hmark, terminator_of_fresh hfresh, hagain]
    | true =>
      -- The closing mark comes next, and there are no more elements.
      cases hrest with
      | done => simp [linesWithin, hopen, h]
      | more hopen' _ _ _ _ => exact Bool.noConfusion (hopen'.symm.trans hmark)

theorem Lines.apply {ts rest : List Token} {as : List α} (h : Lines p close ts as rest) :
    lines p close ts = some (as, rest) :=
  h.within (Nat.lt_succ_self _)

end lists

theorem nameRun_single {words : List String} {n l : String} {f tail : Bool} {ts : List Token}
    (hn : n ∉ words) (hcomma : ts.head?.any (isMark ",") = false) :
    nameRun words tail (⟨.name, n, l, f⟩ :: ts) = some ([n], ts) := by
  change nameRunWithin words tail (_ + 1) _ = _
  simp [nameRunWithin, hn, hcomma]

end Parse

namespace Grammar

open Parse

variable {r : Rules} {tail f : Bool} {n l : String} {rest : List Token}

/-! ## Types -/

/-- Behind a named type the tokens do not continue it. -/
def endsType (tail : Bool) (rest : List Token) : Bool :=
  (tail && rest.head?.all (·.fresh)) || !rest.head?.any fun t => isMark "." t || isMark "[" t

theorem continues_of_endsType (h : endsType tail rest = true) {s : String} (hs : s ∈ [".", "["]) :
    continues tail s rest = some (false, rest) := by
  rw [continues_apply]
  cases rest with
  | nil => simp
  | cons t ts =>
    simp only [endsType, List.head?_cons, Option.all_some, Option.any_some, Bool.or_eq_true,
      Bool.not_eq_true', Bool.or_eq_false_iff] at h
    simp only [List.mem_cons, List.not_mem_nil, or_false] at hs
    rcases hs with rfl | rfl <;> rcases h with h | ⟨hdot, hbracket⟩ <;> simp [*]

/-- A name that no word of the grammar takes begins a named type. -/
theorem type_eq_namedType (hn : n ∉ typeWords) :
    Grammar.type r tail (⟨.name, n, l, f⟩ :: rest)
      = namedType r tail (⟨.name, n, l, f⟩ :: rest) := by
  simp only [typeWords, List.mem_cons, List.not_mem_nil, or_false, not_or] at hn
  obtain ⟨hstruct, hinterface, hmap, hchan, hfunc⟩ := hn
  rw [Grammar.type]
  simp [hstruct, hinterface, hmap, hchan, hfunc]

theorem type_name (hn : n ∉ typeWords) (h : endsType tail rest = true) :
    Grammar.type r tail (⟨.name, n, l, f⟩ :: rest) = some (.name n, rest) := by
  have hdot := continues_of_endsType h (s := ".") (by simp)
  have hbracket := continues_of_endsType h (s := "[") (by simp)
  rw [type_eq_namedType hn, namedType, bind_apply,
    @spanned_eq_some _ _ (some (.name n)) _ rest (by simp [-continues_apply, hdot, hbracket])]
  simp

theorem type_qualified {q l' l'' : String} {f' : Bool} (hq : q ∉ typeWords)
    (h : endsType tail rest = true) :
    Grammar.type r tail (⟨.name, q, l, f⟩ :: ⟨.mark, ".", l', false⟩ :: ⟨.name, n, l'', f'⟩ :: rest)
      = some (.qualified q n, rest) := by
  have hbracket := continues_of_endsType h (s := "[") (by simp)
  have hdot : continues tail "." (⟨.mark, ".", l', false⟩ :: ⟨.name, n, l'', f'⟩ :: rest)
      = some (true, ⟨.mark, ".", l', false⟩ :: ⟨.name, n, l'', f'⟩ :: rest) := by
    simp
  rw [type_eq_namedType hq, namedType, bind_apply,
    @spanned_eq_some _ _ (some (.qualified q n)) _ rest
      (by simp [-continues_apply, hdot, hbracket])]
  simp

theorem type_pointer {t : TypeExpr} {ts : List Token} (h : r.type tail ts = some (t, rest)) :
    Grammar.type r tail (⟨.mark, "*", l, f⟩ :: ts) = some (.pointer t, rest) := by
  rw [Grammar.type]
  simp [h]

theorem type_map {k v : TypeExpr} {l' l'' : String} {f' f'' : Bool} {ts ts' : List Token}
    (hkey : r.type false ts = some (k, ⟨.mark, "]", l'', f''⟩ :: ts'))
    (hvalue : r.type tail ts' = some (v, rest)) :
    Grammar.type r tail (⟨.name, "map", l, f⟩ :: ⟨.mark, "[", l', f'⟩ :: ts)
      = some (.map k v, rest) := by
  rw [Grammar.type]
  simp [mapType, hkey, hvalue]

theorem type_openInterface {l' l'' : String} {f' f'' : Bool} :
    Grammar.type r tail (⟨.name, "interface", l, f⟩ :: ⟨.mark, "\x7b", l', f'⟩
      :: ⟨.mark, "\x7d", l'', f''⟩ :: rest) = some (.interface true, rest) := by
  have hlines : lines (interfaceElement r) "\x7d" (⟨.mark, "\x7d", l'', f''⟩ :: rest)
      = some ([], rest) := Lines.done.apply
  rw [Grammar.type]
  simp [interfaceType, hlines]

/-! ## Signatures -/

theorem param_named {t : TypeExpr} {ts : List Token} (hn : n ∉ typeWords)
    (hcomma : ts.head?.any (isMark ",") = false) (hdots : ts.head?.any (isMark "...") = false)
    (h : r.type false ts = some (t, rest)) :
    param r (⟨.name, n, l, f⟩ :: ts) = some ([⟨some n, t⟩], rest) := by
  rw [param]
  simp only [↓bind_apply, takeMark_apply, take?_apply, List.head?_cons, Option.any_some,
    isMark_name, Bool.false_eq_true, if_false, resume_some]
  refine orElse_of_eq_some ?_
  simp [nameRun_single hn hcomma, hdots, h]

theorem params_of_commaList {ts : List Token} {groups : List (List Param)}
    (h : CommaList (param r) ")" ts groups rest) :
    params r (⟨.mark, "(", l, f⟩ :: ts) = some (groups.flatten, rest) := by
  simp [params, h.apply (by decide)]

/-- Results in parentheses have the form of parameters. -/
theorem results_eq_params {ts : List Token} :
    results r tail (⟨.mark, "(", l, false⟩ :: ts) = params r (⟨.mark, "(", l, false⟩ :: ts) := by
  rw [results]
  simp

end Grammar
end StructFill.Source
