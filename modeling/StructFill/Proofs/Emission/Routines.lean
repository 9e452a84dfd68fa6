import StructFill.Proofs.Emission.Reading
import StructFill.Proofs.Source.Literal

/-! # Functions that are read with their bodies

  A reader of declarations skips the body of a function. Here the body is read
  as well, as the list of what it does. Only the forms that are written are
  known to the reader: the result is made, fields are stored, with or without a
  guard, and the result is returned.

  **Conversions.** `kinds.Kind(x)` is written like the call of a helper, and
  nothing but the declarations of a package tells the two apart. Both are read
  as calls.

  **Keys.** The key of an element is the value of its literal by the rules of
  the compiler, so that any key comes back.
-/

namespace StructFill.Execution

open Source
open Source.Parse
open Source.Grammar (Rules NoMark noMark_mark)
open Source.Token (Gap)
open Typing (Expr Step Statement keywords)
open Emission

/-! ## The reader -/

/-- What a body does in one place. -/
inductive Action where
  /-- The result is a new struct of a type. -/
  | create (type : String)
  | fill (statement : Statement)
  /-- The result is returned with its error. -/
  | finish

/-- A function with its body. -/
structure Routine where
  decl : FuncDecl
  actions : List Action

/-- A name, or a name behind a qualifier. -/
def reference : Parse String := do
  let x ← identExcept keywords
  if ← continues true "." then
    mark "."
    let n ← identExcept keywords
    pure (x ++ "." ++ n)
  else pure x

/-- The value of a literal. -/
def literal : Parse String := do
  let q ← quoted
  match Literal.leading? q.toList with
  | some (v, []) => pure (String.ofList v)
  | _ => failure

/-- A value in which calls are nested up to a depth. -/
def valueWithin : Nat → Parse Expr
  | 0 => failure
  | n + 1 => do
    if ← takeMark "&" then
      let x ← identExcept keywords
      pure (.address x)
    else
      let x ← reference
      if ← continues true "(" then
        mark "("
        let e ← valueWithin n
        mark ")"
        pure (.call x e)
      else if ← continues true "[" then
        mark "["
        let k ← literal
        mark "]"
        pure (.element x k)
      else pure (.var x)

def value : Parse Expr := rounds valueWithin

/-- A step, behind the name in front. -/
def stepOf (x : String) : Parse Step := do
  if ← takeMark "." then
    require (x == "obj")
    let field ← ident
    mark "="
    let e ← value
    pure (.store field e)
  else
    mark ":="
    let e ← value
    pure (.define x e)

def step : Parse Step := do
  let x ← identExcept keywords
  stepOf x

/-- A guard, behind its first word. -/
def guarded : Parse Statement := do
  word "tmp"
  mark ","
  word "ok"
  mark ":="
  let map ← identExcept keywords
  mark "["
  let k ← literal
  mark "]"
  mark ";"
  word "ok"
  mark "\x7b"
  let steps ← lines step "\x7d"
  pure (.guarded map k steps)

def action : Parse Action := do
  if ← takeWord "if" then
    let s ← guarded
    pure (.fill s)
  else if ← takeWord "return" then
    word "obj"
    mark ","
    word "err"
    pure .finish
  else
    let x ← identExcept keywords
    if ← takeMark "=" then
      require (x == "obj")
      mark "&"
      let type ← reference
      mark "\x7b"
      mark "\x7d"
      pure (.create type)
    else
      let s ← stepOf x
      pure (.fill (.plain s))

/-- A function in which types and values are nested up to the depth of the rules. -/
def routineUpTo (r : Rules) : Parse Routine := do
  word "func"
  let name ← ident
  let params ← Grammar.params r
  let results ← Grammar.results r true
  mark "\x7b"
  let actions ← lines action "\x7d"
  pure ⟨⟨name, params, results⟩, actions⟩

/-- The function that a text is. -/
def read? (text : String) : Option Routine := do
  let ts ← Token.scan? text.toList
  let (f, rest) ← routineUpTo (Rules.upTo (ts.length + 1)) ts
  if rest = [] then some f else none

/-! ## Values -/

/-- The tokens do not continue a value: a line break ends it, and so does a mark that is none of
those behind a value. -/
def Ends (rest : List Token) : Prop :=
  rest.head?.all (·.fresh) = true ∨ NoMark [".", "(", "["] rest

theorem Ends.continues {rest : List Token} (h : Ends rest) {m : String}
    (hm : m ∈ [".", "(", "["]) : continues true m rest = some (false, rest) := by
  rw [continues_apply]
  rcases h with h | h
  · simp [h]
  · simp [h m hm]

theorem reference_nameTokens {t : TypeExpr} (h : WellNamed t) {l : String} (rest : List Token)
    (hrest : continues true "." rest = some (false, rest)) :
    reference (nameTokens l t ++ rest) = some (t.text, rest) := by
  cases h with
  | name hn => simp [reference, nameTokens, hn.2, hrest, TypeExpr.text, -continues_apply]
  | qualified hq hn => simp [reference, nameTokens, hq.2, hn.2, TypeExpr.text]

theorem literal_quote (k l : String) (f : Bool) (rest : List Token) :
    literal (⟨.string, Quoted.quote k, l, f⟩ :: rest) = some (k, rest) := by
  have hread := Literal.leading?_encode k.toList []
  rw [List.append_nil] at hread
  simp [literal, Quoted.quote, hread]

theorem valueWithin_of_reference {n : Nat} {t : TypeExpr} (h : WellNamed t) {l : String}
    (rest : List Token) (hdot : continues true "." rest = some (false, rest)) :
    valueWithin (n + 1) (nameTokens l t ++ rest) =
      (do if ← continues true "(" then
            mark "("
            let e ← valueWithin n
            mark ")"
            pure (.call t.text e)
          else if ← continues true "[" then
            mark "["
            let k ← literal
            mark "]"
            pure (.element t.text k)
          else pure (.var t.text) : Parse Expr) rest := by
  have hread := reference_nameTokens h (l := l) rest hdot
  have hname : (nameTokens l t ++ rest).head?.any (isMark "&") = false := by
    cases h <;> simp [nameTokens]
  rw [valueWithin]
  simp [hname, hread, -continues_apply, -List.head?_append]

/-- **Values are read back.** Each call takes a token of its own, so the number of tokens is a
depth that is enough. -/
theorem valueWithin_spells {e : Expr} {l : String} {ts : List Token} (h : Spells e l ts) {n : Nat}
    (hn : ts.length < n) (rest : List Token) (hrest : Ends rest) :
    valueWithin n (ts ++ rest) = some (e, rest) := by
  induction h generalizing n rest with
  | @var x l hx =>
    obtain ⟨m, rfl⟩ : ∃ m, n = m + 1 := ⟨n - 1, by omega⟩
    have hread := valueWithin_of_reference (n := m) (l := l) (.name hx) rest
      (hrest.continues (by simp))
    rw [nameTokens] at hread
    rw [hread]
    simp [-continues_apply, hrest.continues, TypeExpr.text]
  | @element map key l hmap =>
    obtain ⟨m, rfl⟩ : ∃ m, n = m + 1 := ⟨n - 1, by omega⟩
    have hread := valueWithin_of_reference (n := m) (l := l) (.name hmap)
      (⟨.mark, "[", "", false⟩ :: ⟨.string, Quoted.quote key, "", false⟩
        :: ⟨.mark, "]", "", false⟩ :: rest) (by simp)
    rw [nameTokens] at hread
    refine hread.trans ?_
    simp [literal_quote, TypeExpr.text]
  -- The parentheses are tokens too, so one level less is still more than the argument has tokens.
  | @call t e l ts ht he ih =>
    obtain ⟨m, rfl⟩ : ∃ m, n = m + 1 := ⟨n - 1, by omega⟩
    simp only [List.length_append, List.length_cons] at hn
    have hread := valueWithin_of_reference (n := m) (l := l) ht
      (⟨.mark, "(", "", false⟩ :: (ts ++ ⟨.mark, ")", "", false⟩ :: rest)) (by simp)
    have hargument := ih (show ts.length < m by omega)
      (⟨.mark, ")", "", false⟩ :: rest) (.inr (noMark_mark (by decide)))
    rw [List.append_assoc, List.cons_append, List.append_assoc, List.singleton_append, hread]
    simp [hargument]
  | @address x l hx =>
    obtain ⟨m, rfl⟩ : ∃ m, n = m + 1 := ⟨n - 1, by omega⟩
    simp [valueWithin, hx.2]

theorem value_spells {e : Expr} {l : String} {ts : List Token} (h : Spells e l ts)
    (rest : List Token) (hrest : Ends rest) : value (ts ++ rest) = some (e, rest) := by
  apply valueWithin_spells h _ rest hrest
  rw [List.length_append]
  omega

/-! ## What is on lines of its own -/

section reading

variable {α : Type} {p : Parse α}

/-- The tokens begin on a new line, and they are read up to the next one. -/
structure Reads (p : Parse α) (a : α) (ts : List Token) : Prop where
  begins : ∃ t us, ts = t :: us ∧ t.fresh = true ∧ isMark "\x7d" t = false
  reads : ∀ rest : List Token, rest.head?.all (·.fresh) = true → p (ts ++ rest) = some (a, rest)

/-- One after the other. -/
inductive ReadsAll (p : Parse α) : List α → List Token → Prop where
  | nil : ReadsAll p [] []
  | cons {a as ts ts'} (h : Reads p a ts) (hs : ReadsAll p as ts') :
    ReadsAll p (a :: as) (ts ++ ts')

theorem Reads.all {a : α} {ts : List Token} (h : Reads p a ts) : ReadsAll p [a] ts := by
  simpa using ReadsAll.cons h .nil

namespace ReadsAll

variable {as bs : List α} {ts ts' : List Token}

theorem append (h : ReadsAll p as ts) (h' : ReadsAll p bs ts') :
    ReadsAll p (as ++ bs) (ts ++ ts') := by
  induction h with
  | nil => exact h'
  | cons hfirst _ ih =>
    rw [List.cons_append, List.append_assoc]
    exact .cons hfirst ih

/-- They are read up to a closing brace on a new line. -/
theorem lines (h : ReadsAll p as ts) (l : String) (rest : List Token) :
    (ts ++ ⟨.mark, "\x7d", l, true⟩ :: rest).head?.all (·.fresh) = true
      ∧ Lines p "\x7d" (ts ++ ⟨.mark, "\x7d", l, true⟩ :: rest) as rest := by
  induction h with
  | nil => exact ⟨rfl, .done⟩
  | @cons a as ts ts' hfirst _ ih =>
    obtain ⟨hfresh, hlines⟩ := ih
    have hread := hfirst.reads _ hfresh
    obtain ⟨t, us, rfl, ht, hopen⟩ := hfirst.begins
    rw [List.append_assoc]
    refine ⟨by simpa using ht, .more (by simpa using hopen) hread hfresh ?_ hlines⟩
    simp only [List.length_append, List.length_cons]
    omega

end ReadsAll

end reading

/-! ## Steps -/

/-- The tokens of a step are a name, a mark that is no assignment, and what a step goes on with. -/
theorem stepOf_spells {s : Step} {tokens : String → List Token} (h : SpellsStep s tokens)
    (l : String) : ∃ x m l' ts, tokens l = ⟨.name, x, l, true⟩ :: ⟨.mark, m, l', false⟩ :: ts
      ∧ x ∉ keywords ∧ m ≠ "="
      ∧ ∀ rest : List Token, rest.head?.all (·.fresh) = true →
        stepOf x (⟨.mark, m, l', false⟩ :: (ts ++ rest)) = some (s, rest) := by
  cases h with
  | @store field e ts hfield he =>
    refine ⟨_, _, _, _, rfl, isName_obj.2, by decide, fun rest hrest => ?_⟩
    have hvalue := value_spells he rest (.inl hrest)
    simp [stepOf, hvalue]
  | @define x e ts hx he =>
    refine ⟨_, _, _, _, rfl, hx.2, by decide, fun rest hrest => ?_⟩
    have hvalue := value_spells he rest (.inl hrest)
    simp [stepOf, hvalue]

theorem reads_step {s : Step} {tokens : String → List Token} (h : SpellsStep s tokens)
    (l : String) : Reads step s (tokens l) := by
  obtain ⟨x, m, l', ts, htokens, hx, -, hread⟩ := stepOf_spells h l
  rw [htokens]
  refine ⟨⟨_, _, rfl, rfl, by simp⟩, fun rest hrest => ?_⟩
  simp [step, hx, hread rest hrest]

theorem linesRead_steps {indent : String} (hindent : Gap indent.toList false) {steps : List Step}
    (h : ∀ s ∈ steps, ∃ tokens, SpellsStep s tokens) :
    LinesRead (ReadsAll step steps) (steps.map fun s => indent ++ s.text) := by
  induction steps with
  | nil => exact .nil .nil
  | cons s steps ih =>
    obtain ⟨tokens, htokens⟩ := h s List.mem_cons_self
    have hfirst : LinesRead (ReadsAll step [s]) [indent ++ s.text] :=
      .line (htokens.isLine.indent hindent) fun l => (reads_step htokens _).all
    rw [List.map_cons, ← List.singleton_append]
    exact hfirst.append (ih fun s hs => h s (List.mem_cons_of_mem _ hs))
      fun _ _ => ReadsAll.append

/-! ## Actions -/

theorem reads_create {out : TypeExpr} (h : WellNamed out) (l : String) :
    Reads action (.create out.text) (resultTokens out l) := by
  refine ⟨⟨_, _, rfl, rfl, by simp⟩, fun rest _ => ?_⟩
  have hread := reference_nameTokens h (l := "")
    (⟨.mark, "\x7b", "", false⟩ :: ⟨.mark, "\x7d", "", false⟩ :: rest) (by simp)
  simp [action, resultTokens, isName_obj.2, hread]

theorem reads_plain {s : Step} {tokens : String → List Token} (h : SpellsStep s tokens)
    (l : String) : Reads action (.fill (.plain s)) (tokens l) := by
  obtain ⟨x, m, l', ts, htokens, hx, hm, hread⟩ := stepOf_spells h l
  have hword : x ≠ "if" ∧ x ≠ "return" := by
    constructor
    all_goals
      rintro rfl
      exact hx (by decide)
  rw [htokens]
  refine ⟨⟨_, _, rfl, rfl, by simp⟩, fun rest hrest => ?_⟩
  simp [action, hx, hm, hword, hread rest hrest]

theorem reads_finish (l : String) : Reads action .finish (returnTokens l) := by
  refine ⟨⟨_, _, rfl, rfl, by simp⟩, fun rest _ => ?_⟩
  simp [action, returnTokens]

/-- A guard is read with the steps in its block. -/
theorem reads_guarded {map key l l' : String} {steps : List Step} {body : List Token}
    (hmap : IsName map) (hbody : ReadsAll step steps body) :
    Reads action (.fill (.guarded map key steps))
      (guardTokens map key l ++ body ++ [⟨.mark, "\x7d", l', true⟩]) := by
  refine ⟨⟨_, _, rfl, rfl, by simp⟩, fun rest _ => ?_⟩
  have hlines := (hbody.lines l' rest).2.apply
  simp [action, guarded, guardTokens, hmap.2, literal_quote, hlines]

/-- A plain statement is read if its step is. -/
theorem linesRead_plain {s : Step} (h : ∃ tokens, SpellsStep s tokens) :
    LinesRead (ReadsAll action [.fill (.plain s)]) (Statement.plain s).lines := by
  obtain ⟨tokens, htokens⟩ := h
  exact .line (htokens.isLine.indent Token.gap_tab) fun _ => (reads_plain htokens _).all

/-- A guard is read if its steps are. -/
theorem linesRead_guarded {map key : String} {steps : List Step} (hmap : IsName map)
    (h : ∀ s ∈ steps, ∃ tokens, SpellsStep s tokens) :
    LinesRead (ReadsAll action [.fill (.guarded map key steps)])
      (Statement.guarded map key steps).lines := by
  have hsteps : LinesRead (ReadsAll step steps) (steps.map fun s => "\t\t" ++ s.text) :=
    linesRead_steps (show Gap "\t\t".toList false from Token.gap_tab.append Token.gap_tab) h
  exact linesRead_block hmap hsteps fun l body l' hbody => (reads_guarded hmap hbody).all

/-! ## Fields -/

/-- What the value of a field is put through, from the outside in. -/
def calls : Strategy → List String
  | .direct c => c.toList
  | .enumeration cast c _ => [cast, c]
  | .assign c => [c]
  | .unsupported _ => []

/-- A value that is put through calls. -/
def applied (cs : List String) (e : Expr) : Expr := cs.foldr .call e

/-- The statement that fills a field, if there is one. -/
def filling? (source : String) (f : FilledField) : Option Statement :=
  match f.strategy.slot with
  | .direct =>
    some (.plain (.store f.name (applied (calls f.strategy) (.element source f.key))))
  | .enumeration | .assign =>
    some (.guarded source f.key
      (Typing.storing f.name f.isPointer (applied (calls f.strategy) (.var "tmp"))))
  | .unsupported => none

/-- What is done for a field. -/
def fillings (source : String) (f : FilledField) : List Action :=
  ((filling? source f).map .fill).toList

section fields

variable {source : String} {f : FilledField}

theorem isReference_of_mem_calls {s : Strategy} (h : Legible s) : ∀ c ∈ calls s, IsReference c := by
  intro c hc
  cases s with
  | direct helper => exact h c (by simpa [calls] using hc)
  | enumeration cast helper i =>
    simp only [calls, List.mem_cons, List.not_mem_nil, or_false] at hc
    rcases hc with rfl | rfl
    · exact h.1
    · exact h.2
  | assign helper =>
    obtain rfl := List.mem_singleton.1 hc
    exact h
  | unsupported reason => simp [calls] at hc

theorem exists_spells_applied {cs : List String} (hcs : ∀ c ∈ cs, IsReference c) {e : Expr}
    (he : ∀ l, ∃ ts, Spells e l ts) (l : String) : ∃ ts, Spells (applied cs e) l ts := by
  induction cs generalizing l with
  | nil => exact he l
  | cons c cs ih =>
    obtain ⟨t, ht, rfl⟩ := hcs c List.mem_cons_self
    obtain ⟨ts, hts⟩ := ih (fun c hc => hcs c (List.mem_cons_of_mem _ hc)) ""
    exact ⟨_, .call ht hts⟩

theorem directLines_eq (h : f.strategy.slot = .direct) :
    directLines source f
      = (Statement.plain
          (.store f.name (applied (calls f.strategy) (.element source f.key)))).lines := by
  cases hs : f.strategy with
  | direct c =>
    cases c <;>
    simp [directLines, hs, Strategy.conversion?, calls, applied, Statement.lines, Step.text,
      Expr.text, Emission.lookup, ← String.append_assoc]
  | enumeration | assign | unsupported => simp [hs, Strategy.slot] at h

theorem guardedLines_eq (h : f.strategy.slot = .enumeration ∨ f.strategy.slot = .assign) :
    guardedLines source f
      = (Statement.guarded source f.key (Typing.storing f.name f.isPointer
          (applied (calls f.strategy) (.var "tmp")))).lines := by
  refine (Typing.lines_guarded ?_).symm
  cases hs : f.strategy with
  | enumeration cast c i =>
    simp [guardedValue?, hs, calls, applied, Expr.text, String.append_assoc]
  | assign c => simp [guardedValue?, hs, calls, applied, Expr.text, String.append_assoc]
  | direct | unsupported => simp [hs, Strategy.slot] at h

variable (hsource : IsName source) (hname : IsWord f.name) (h : Legible f.strategy)

include hsource hname h in
theorem linesRead_direct (hslot : f.strategy.slot = .direct) :
    LinesRead (ReadsAll action (fillings source f)) (directLines source f) := by
  have helement : ∀ l, ∃ ts, Spells (.element source f.key) l ts := fun l => ⟨_, .element hsource⟩
  obtain ⟨ts, hts⟩ := exists_spells_applied (isReference_of_mem_calls h) helement " "
  rw [directLines_eq hslot, fillings, filling?, hslot]
  exact linesRead_plain ⟨_, .store hname hts⟩

include hsource hname h in
theorem linesRead_guardedField
    (hslot : f.strategy.slot = .enumeration ∨ f.strategy.slot = .assign) :
    LinesRead (ReadsAll action (fillings source f)) (guardedLines source f) := by
  obtain ⟨ts, hts⟩ := exists_spells_applied (isReference_of_mem_calls h)
    (fun l => ⟨_, .var isName_tmp⟩) " "
  have hfilling : fillings source f = [.fill (.guarded source f.key
      (Typing.storing f.name f.isPointer (applied (calls f.strategy) (.var "tmp"))))] := by
    rcases hslot with hslot | hslot <;> rw [fillings, filling?, hslot] <;> rfl
  rw [guardedLines_eq hslot, hfilling]
  exact linesRead_guarded hsource (exists_spellsStep_storing hname hts)

end fields

/-! ## Functions -/

/-- Each field stands in the list of its strategy. -/
def Sorted (b : Buckets) : Prop := ∀ k, ∀ f ∈ b.entries k, f.strategy.slot = k

/-- A field that is assigned stands in the list of its strategy. -/
theorem Sorted.mem_entries {b : Buckets} (h : Sorted b) {f : FilledField} (hf : f ∈ b.assigned) :
    f.strategy.slot ≠ .unsupported ∧ f ∈ b.entries f.strategy.slot := by
  obtain ⟨k, hk, hentry⟩ := Buckets.mem_assigned_iff.1 hf
  rw [h k f hentry]
  exact ⟨hk, hentry⟩

/-- What the body of a function does: the result is made, the fields are filled list by list, and
the result is returned. -/
def actions (p : Plan) : List Action :=
  .create p.outputType
    :: (p.buckets.assigned.flatMap (fillings p.paramName) ++ [.finish])

section functions

variable {p : Plan} {s : Prototype}

/-- The sections are read as what fills their fields; the last one has nothing to be read. -/
theorem linesRead_sections (h : p.Declares s) (hsorted : Sorted p.buckets) :
    LinesRead (ReadsAll action (p.buckets.assigned.flatMap (fillings p.paramName)))
      (section? "assigned directly" p.buckets.direct (directLines p.paramName)
        ++ section? "enum types" p.buckets.enumerations (guardedLines p.paramName)
        ++ section? "pointer types" p.buckets.assign (guardedLines p.paramName)
        ++ section? "complete by hand" p.buckets.unsupported placeholderLines) := by
  have hparam : IsName p.paramName := h.paramName ▸ h.legible.param
  have hfield : ∀ k ≠ Slot.unsupported, ∀ f ∈ p.buckets.entries k,
      IsWord f.name ∧ Legible f.strategy := fun k hk f hf =>
    h.assigned f (Buckets.mem_assigned_iff.2 ⟨k, hk, hf⟩)
  have hfieldDirect := hfield .direct (by decide)
  have hfieldEnumeration := hfield .enumeration (by decide)
  have hfieldAssign := hfield .assign (by decide)
  have hdirect := linesRead_section_of (P := ReadsAll action) .nil ReadsAll.append
    "assigned directly" (by decide) fun f hf =>
      linesRead_direct hparam (hfieldDirect f hf).1 (hfieldDirect f hf).2 (hsorted .direct f hf)
  have henumerations := linesRead_section_of (P := ReadsAll action) .nil ReadsAll.append
    "enum types" (by decide) fun f hf =>
      linesRead_guardedField hparam (hfieldEnumeration f hf).1 (hfieldEnumeration f hf).2
        (.inl (hsorted .enumeration f hf))
  have hassign := linesRead_section_of (P := ReadsAll action) .nil ReadsAll.append
    "pointer types" (by decide) fun f hf =>
      linesRead_guardedField hparam (hfieldAssign f hf).1 (hfieldAssign f hf).2
        (.inr (hsorted .assign f hf))
  have hunsupported : LinesRead (ReadsAll action (p.buckets.unsupported.flatMap fun _ => []))
      (section? "complete by hand" p.buckets.unsupported placeholderLines) :=
    linesRead_section_of .nil ReadsAll.append _ (by decide) fun f hf =>
      linesRead_placeholder .nil (h.unsupported f hf).1 (h.unsupported f hf).2
  -- Placeholders are comments, so the fourth section is read as nothing.
  have hnone : p.buckets.unsupported.flatMap (fun _ => ([] : List Action)) = [] := by simp
  have hall := ((hdirect.append henumerations fun _ _ => ReadsAll.append).append hassign
    fun _ _ => ReadsAll.append).append hunsupported fun _ _ => ReadsAll.append
  rw [hnone, List.append_nil] at hall
  rw [Buckets.assigned, List.flatMap_append, List.flatMap_append]
  exact hall

/-- The text of a function is read as its signature and its body. -/
theorem routineUpTo_function (h : s.Legible) {as : List Action} {body : List Token}
    (hbody : ReadsAll action as body) {n : Nat} (hn : 2 ≤ n) (l l' : String) :
    routineUpTo (Rules.upTo n) (s.tokens l ++ body ++ [⟨.mark, "\x7d", l', true⟩])
      = some (⟨s.decl, as⟩, []) := by
  obtain ⟨m, rfl⟩ : ∃ m, n = m + 2 := ⟨n - 2, by omega⟩
  have hlines := (hbody.lines l' []).2.apply
  have hparams := h.params m "" false (⟨.mark, "(", " ", false⟩ :: (s.resultsTokens
      ++ ⟨.mark, "\x7b", " ", false⟩ :: (body ++ [⟨.mark, "\x7d", l', true⟩])))
  have hresults := h.results m " "
    (⟨.mark, "\x7b", " ", false⟩ :: (body ++ [⟨.mark, "\x7d", l', true⟩]))
  simp [routineUpTo, Prototype.tokens, Prototype.decl, hparams, hresults, hlines]

/-- Behind an empty line, lines that are read have tokens. -/
theorem scan?_of_linesRead {P : List Token → Prop} {ls : List String} (h : LinesRead P ls) :
    ∃ ts, P ts ∧ Token.scan? (unlines ([""] ++ ls)).toList = some ts := by
  -- Behind the last line is nothing.
  obtain ⟨front, lead, hbehind, hP⟩ := h [] (fun _ => []) fun l hl => by
    rw [List.append_nil]
    exact hl.scans
  have hscans := hbehind "\n" Token.gap_break
  simp only [List.append_nil] at hscans
  have htext : (unlines ([""] ++ ls)).toList = "\n".toList ++ (unlines ls).toList := by
    simp [toList_unlines]
  rw [htext]
  exact ⟨front "\n", hP _, hscans.scan? (by simp)⟩

/-- **A function that is written is read with its body.** -/
theorem read?_function (h : p.Declares s) (hsorted : Sorted p.buckets) :
    read? (function p) = some ⟨s.decl, actions p⟩ := by
  have hsignature : LinesRead (fun ts => ∃ l, ts = s.tokens l) [s.text] :=
    .line h.legible.isLine fun l => ⟨l, rfl⟩
  have hcreate : LinesRead (ReadsAll action [.create p.outputType])
      ["\t" ++ ("obj = &" ++ s.out.text ++ "\x7b\x7d")] :=
    .line ((isLine_result h.legible.out).indent Token.gap_tab) fun l => by
      rw [h.outputType]
      exact (reads_create h.legible.out _).all
  have hfinish : LinesRead (ReadsAll action [.finish]) ["\t" ++ "return obj, err"] :=
    .line (isLine_return.indent Token.gap_tab) fun l => (reads_finish _).all
  have hblank : LinesRead (ReadsAll action []) [""] := .gap gap_empty .nil
  have hclose : LinesRead (fun ts => ∃ l, ts = [⟨.mark, "\x7d", l, true⟩]) ["\x7d"] :=
    .line isLine_brace fun l => ⟨l, rfl⟩
  -- Put together as the function is: the creation, the sections, an empty line and the return make
  -- the body, the signature goes in front of it and the brace behind.
  have hbody := ((hcreate.append (linesRead_sections h hsorted) fun _ _ => ReadsAll.append).append
    hblank fun _ _ => ReadsAll.append).append hfinish fun _ _ => ReadsAll.append
  have hopen : LinesRead (fun ts => ∃ l body, ReadsAll action (actions p) body
      ∧ ts = s.tokens l ++ body) _ :=
    hsignature.append hbody (by
      rintro as bs ⟨l, rfl⟩ hbs
      exact ⟨l, bs, by simpa [actions] using hbs, rfl⟩)
  have hfunction : LinesRead (fun ts => ∃ l l' body, ReadsAll action (actions p) body
      ∧ ts = s.tokens l ++ body ++ [⟨.mark, "\x7d", l', true⟩]) _ :=
    hopen.append hclose (by
      rintro as bs ⟨l, body, hbody, rfl⟩ ⟨l', rfl⟩
      exact ⟨l, l', body, hbody, rfl⟩)
  obtain ⟨ts, ⟨l, l', body, hbody, rfl⟩, hscan⟩ := scan?_of_linesRead hfunction
  have hdepth : 2 ≤ (s.tokens l ++ body ++ [(⟨.mark, "\x7d", l', true⟩ : Token)]).length + 1 := by
    simp only [List.length_append, List.length_singleton]
    omega
  rw [function, h.toFollows.functionLines_eq, read?, hscan]
  simp only [Option.bind_eq_bind, Option.bind_some,
    routineUpTo_function h.legible hbody hdepth l l', if_true]

end functions

end StructFill.Execution
