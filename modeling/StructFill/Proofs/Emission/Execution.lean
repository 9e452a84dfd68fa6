import Mathlib.Data.List.Nodup
import StructFill.Proofs.Emission.Routines

/-! # What a written function leaves in its result

  A function that was written is read again and executed, and the result that
  it returns is compared with the buckets that it was made from.

  **Execution.** Values are taken from any type, and helpers and conversions
  are any functions on them. Variables are found from the inside out. A guard
  that is not passed leaves the result alone, but its steps have to make sense
  all the same, since names are resolved before anything is executed.

  A variable is never changed once it has a value. So the address of a variable
  is kept as the value that it leads to.

  Whether a value has the type of the field that gets it is not looked at here.
-/

namespace StructFill.Execution

open Source
open Typing (Expr Step Statement front varsAround)
open Emission

/-! ## Execution -/

variable {α : Type}

/-- What a function finds when it is executed. -/
structure World (α : Type) where
  /-- The values of the map by their keys. -/
  entries : String → Option α
  /-- The value of a key that the map does not have. -/
  zero : α
  /-- What helpers and conversions do, by their names. -/
  call : String → α → α

/-- The element of the map for a key. -/
def World.element (w : World α) (key : String) : α := (w.entries key).getD w.zero

/-- What a field of the result holds. -/
inductive Content (α : Type) where
  | zero
  | value (a : α)
  | pointer (a : α)
deriving DecidableEq

/-- A value, or the address of it. -/
def Content.of (isPointer : Bool) (a : α) : Content α := if isPointer then .pointer a else .value a

/-- The fields of a struct. -/
abbrev Object (α : Type) := String → Content α

inductive Variable (α : Type) where
  | result
  | error
  | map
  | flag
  | value (a : α)

/-- The variables with what they are, the innermost first. -/
abbrev Scope (α : Type) := List (String × Variable α)

/-- A name stands for something that is no variable. -/
def leaves (Γ : Scope α) (x : String) : Bool := x != "_" && (Γ.lookup x).isNone

/-- The value behind a call of `f`. -/
def called? (w : World α) (f : String) : Content α → Option (Content α)
  | .value a => some (.value (w.call f a))
  | _ => none

def eval? (w : World α) (Γ : Scope α) : Expr → Option (Content α)
  | .var x =>
    match Γ.lookup x with
    | some (.value a) => some (.value a)
    | _ => none
  | .element map key =>
    match Γ.lookup map with
    | some .map => some (.value (w.element key))
    | _ => none
  | .call f e => if leaves Γ (front f) then (eval? w Γ e).bind (called? w f) else none
  | .convert t e => if leaves Γ t.head then (eval? w Γ e).bind (called? w t.text) else none
  | .address x =>
    match Γ.lookup x with
    | some (.value a) => some (.pointer a)
    | _ => none

section execution

variable (fields : List String) (w : World α)

/-- The result after steps have been taken. -/
def take? : Scope α → List Step → Object α → Option (Object α)
  | _, [], obj => some obj
  | Γ, .store field e :: rest, obj =>
    match Γ.lookup "obj", eval? w Γ e with
    | some .result, some c =>
      if field ∈ fields ∧ field ≠ "_" then take? Γ rest (Function.update obj field c) else none
    | _, _ => none
  | Γ, .define x e :: rest, obj =>
    match eval? w Γ e with
    | some (.value a) => take? ((x, .value a) :: Γ) rest obj
    | _ => none

/-- The variables inside a guard. -/
def guardScope (Γ : Scope α) (a : α) : Scope α := ("tmp", .value a) :: ("ok", .flag) :: Γ

/-- The result after a statement. The steps of a guard that is not passed are taken with the zero
value and given up. -/
def perform? (Γ : Scope α) : Statement → Object α → Option (Object α)
  | .plain s, obj => take? fields w Γ [s] obj
  | .guarded map key steps, obj =>
    match Γ.lookup map, w.entries key with
    | some .map, some a => take? fields w (guardScope Γ a) steps obj
    | some .map, none => (take? fields w (guardScope Γ w.zero) steps obj).map fun _ => obj
    | _, _ => none

/-- The result that is returned. There is none before one is made. -/
def run? (Γ : Scope α) : Option (Object α) → List Action → Option (Object α)
  | _, .create type :: rest =>
    match Γ.lookup "obj" with
    | some .result => if leaves Γ (front type) then run? Γ (some fun _ => .zero) rest else none
    | _ => none
  | some obj, .fill s :: rest =>
    match perform? fields w Γ s obj with
    | some obj' => run? Γ (some obj') rest
    | none => none
  | some obj, [.finish] =>
    match Γ.lookup "obj", Γ.lookup "err" with
    | some .result, some .error => some obj
    | _, _ => none
  | _, _ => none

/-- The variables that a signature declares: its results, and its parameter unless that is blank. -/
def scope? (d : FuncDecl) : Option (Scope α) :=
  match d.params, d.results with
  | [⟨some x, .map _ _⟩], [⟨some o, .pointer _⟩, ⟨some e, _⟩] =>
    if o = e ∨ x = o ∨ x = e then none
    else some ([(o, .result), (e, .error)] ++ if x = "_" then [] else [(x, .map)])
  | _, _ => none

/-- The result of the function that a text is. -/
def execute? (text : String) : Option (Object α) := do
  let f ← read? text
  let Γ ← scope? f.decl
  run? fields w Γ none f.actions

end execution

/-! ## What is expected -/

/-- A value that is put through calls, the last one first. -/
def World.through (w : World α) (cs : List String) (a : α) : α := cs.foldr w.call a

/-- What a field is filled with, if it is filled. -/
def filled? (w : World α) (f : FilledField) : Option (Content α) :=
  match f.strategy.slot with
  | .direct => some (.value (w.through (calls f.strategy) (w.element f.key)))
  | .enumeration | .assign =>
    (w.entries f.key).map fun a => .of f.isPointer (w.through (calls f.strategy) a)
  | .unsupported => none

/-- What a field holds in the end. -/
def filled (w : World α) (f : FilledField) : Content α := (filled? w f).getD .zero

/-- The result with one more field filled. -/
def put (w : World α) (obj : Object α) (f : FilledField) : Object α :=
  match filled? w f with
  | some c => Function.update obj f.name c
  | none => obj

/-- The parameter can be used, and no variable takes a name that is needed for a field. -/
def Clear (source : String) (f : FilledField) : Prop :=
  source ≠ "_" ∧ ∀ c ∈ calls f.strategy, front c ∉ "_" :: varsAround source f.strategy.slot

instance (source : String) (f : FilledField) : Decidable (Clear source f) :=
  inferInstanceAs (Decidable (_ ∧ _))

/-- No variable of a function takes a name that its body needs. -/
def Unobstructed (p : Plan) : Prop :=
  p.paramName ∉ ["obj", "err"] ∧ front p.outputType ∉ "_" :: varsAround p.paramName .direct
    ∧ ∀ f ∈ p.buckets.assigned, Clear p.paramName f

instance (p : Plan) : Decidable (Unobstructed p) := inferInstanceAs (Decidable (_ ∧ _))

/-! ## Names -/

theorem leaves_cons {Γ : Scope α} {x y : String} {v : Variable α} :
    leaves ((y, v) :: Γ) x = true ↔ x ≠ y ∧ leaves Γ x = true := by
  by_cases hxy : x = y
  · simp [leaves, hxy]
  · have hfalse : (x == y) = false := beq_eq_false_iff_ne.2 hxy
    simp [leaves, List.lookup_cons, hfalse, hxy]

/-- The variables of a function that is written. -/
def functionScope (source : String) : Scope α :=
  [("obj", .result), ("err", .error)] ++ if source = "_" then [] else [(source, .map)]

section scopes

variable {source x : String}

theorem leaves_functionScope :
    leaves (functionScope source : Scope α) x = true ↔ x ∉ "_" :: varsAround source .direct := by
  by_cases hblank : source = "_"
  · have hnil : leaves ([] : Scope α) x = true ↔ x ≠ "_" := by simp [leaves]
    simp only [functionScope, hblank, if_true, List.append_nil, leaves_cons, hnil, varsAround,
      List.mem_cons, List.not_mem_nil, or_false, not_or]
    tauto
  · have hnil : leaves ([] : Scope α) x = true ↔ x ≠ "_" := by simp [leaves]
    simp only [functionScope, hblank, if_false, List.cons_append, List.nil_append, leaves_cons,
      hnil, varsAround, List.mem_cons, List.not_mem_nil, or_false, not_or]
    tauto

theorem leaves_guardScope {a : α} {k : Slot} (hk : k ≠ .direct) :
    leaves (guardScope (functionScope source) a) x = true ↔ x ∉ "_" :: varsAround source k := by
  have hvars : varsAround source k = "tmp" :: "ok" :: varsAround source .direct := by
    cases k with
    | direct => exact absurd rfl hk
    | enumeration | assign | unsupported => rfl
  simp only [guardScope, leaves_cons, leaves_functionScope, hvars, List.mem_cons, not_or]
  tauto

theorem lookup_source (hsource : source ∉ ["obj", "err"]) :
    (functionScope source : Scope α).lookup source = if source = "_" then none else some .map := by
  simp only [List.mem_cons, List.not_mem_nil, or_false, not_or] at hsource
  have hobj : (source == "obj") = false := beq_eq_false_iff_ne.2 hsource.1
  have herr : (source == "err") = false := beq_eq_false_iff_ne.2 hsource.2
  by_cases hblank : source = "_"
  · simp [functionScope, hblank]
  · simp [functionScope, hblank, List.lookup_cons, hobj, herr]

/-- The scope that the signature declares. -/
theorem scope?_decl {s : Prototype} :
    (scope? s.decl : Option (Scope α))
      = if s.param ∈ ["obj", "err"] then none else some (functionScope s.param) := by
  by_cases hparam : s.param = "obj" ∨ s.param = "err"
  · simp [scope?, Prototype.decl, hparam]
  · simp [scope?, Prototype.decl, hparam, functionScope]

end scopes

/-! ## Fields -/

section fields

variable {fields : List String} {w : World α} {Γ : Scope α} {source : String} {f : FilledField}

/-- A value that is put through calls, if all of their names can be used. -/
theorem eval?_applied {e : Expr} {a : α} (he : eval? w Γ e = some (.value a)) (cs : List String) :
    eval? w Γ (applied cs e)
      = if ∀ c ∈ cs, leaves Γ (front c) = true then some (.value (w.through cs a)) else none := by
  induction cs with
  | nil => simpa [applied, World.through] using he
  | cons c cs ih =>
    have happlied : applied (c :: cs) e = .call c (applied cs e) := rfl
    rw [happlied, eval?, ih]
    simp only [List.forall_mem_cons]
    by_cases hc : leaves Γ (front c) = true
    · by_cases hcs : ∀ c ∈ cs, leaves Γ (front c) = true
      · rw [if_pos hc, if_pos hcs, if_pos ⟨hc, hcs⟩]
        rfl
      · rw [if_pos hc, if_neg hcs, if_neg fun hall => hcs hall.2]
        rfl
    · rw [if_neg hc, if_neg fun hall => hc hall.1]

/-- A value that there is not is not put through calls. -/
theorem eval?_applied_none {e : Expr} (he : eval? w Γ e = none) (cs : List String) :
    eval? w Γ (applied cs e) = none := by
  induction cs with
  | nil => exact he
  | cons c cs ih =>
    have happlied : applied (c :: cs) e = .call c (applied cs e) := rfl
    rw [happlied, eval?, ih, Option.bind_none, ite_self]

/-- A value is stored as it is, or through a variable of its own. -/
theorem take?_storing {field : String} (hfield : field ∈ fields ∧ field ≠ "_")
    (hobj : Γ.lookup "obj" = some .result) (isPointer : Bool) (e : Expr) (obj : Object α)
    {x : Option α} (he : eval? w Γ e = x.map .value) :
    take? fields w Γ (Typing.storing field isPointer e) obj
      = x.map fun a => Function.update obj field (.of isPointer a) := by
  have hval : ∀ a : α, (("val", Variable.value a) :: Γ : Scope α).lookup "obj" = some .result :=
    fun _ => hobj
  cases isPointer with
  | false => cases x <;> simp_all [Typing.storing, take?, Content.of]
  | true => cases x <;> simp_all [Typing.storing, take?, eval?, Content.of]

/-- The value of a field that is assigned in any case. -/
theorem eval?_direct (hsource : source ∉ ["obj", "err"]) (hslot : f.strategy.slot = .direct) :
    eval? w (functionScope source) (applied (calls f.strategy) (.element source f.key))
      = (if Clear source f then some (w.through (calls f.strategy) (w.element f.key)) else none).map
          .value := by
  have hlookup := lookup_source (α := α) hsource
  by_cases hblank : source = "_"
  · have hnone : eval? w (functionScope source) (.element source f.key) = none := by
      rw [eval?, hlookup, if_pos hblank]
    rw [eval?_applied_none hnone, if_neg fun hclear => hclear.1 hblank]
    rfl
  · have helement : eval? w (functionScope source) (.element source f.key)
        = some (.value (w.element f.key)) := by
      rw [eval?, hlookup, if_neg hblank]
    have hiff : (∀ c ∈ calls f.strategy, leaves (functionScope source : Scope α) (front c) = true)
        ↔ Clear source f := by
      simp only [leaves_functionScope, Clear, hslot]
      exact (and_iff_right hblank).symm
    rw [eval?_applied helement, if_congr hiff rfl rfl]
    split <;> rfl

/-- The value of a field that is assigned under a guard. -/
theorem eval?_guarded (hblank : source ≠ "_") (hslot : f.strategy.slot ≠ .direct) (a : α) :
    eval? w (guardScope (functionScope source) a) (applied (calls f.strategy) (.var "tmp"))
      = (if Clear source f then some (w.through (calls f.strategy) a) else none).map .value := by
  have htmp : eval? w (guardScope (functionScope source) a) (.var "tmp") = some (.value a) := rfl
  have hiff : (∀ c ∈ calls f.strategy,
      leaves (guardScope (functionScope source) a) (front c) = true) ↔ Clear source f := by
    simp only [leaves_guardScope hslot, Clear]
    exact (and_iff_right hblank).symm
  rw [eval?_applied htmp, if_congr hiff rfl rfl]
  split <;> rfl

/-- A guard fills a field if the map has its key. -/
theorem perform?_guarded (hsource : source ∉ ["obj", "err"])
    (hfield : f.name ∈ fields ∧ f.name ≠ "_")
    (hslot : f.strategy.slot = .enumeration ∨ f.strategy.slot = .assign) (obj : Object α) :
    perform? fields w (functionScope source) (.guarded source f.key (Typing.storing f.name
        f.isPointer (applied (calls f.strategy) (.var "tmp")))) obj
      = if Clear source f then some (put w obj f) else none := by
  have hlookup := lookup_source (α := α) hsource
  have hne : f.strategy.slot ≠ .direct := by
    intro hdirect
    simp [hdirect] at hslot
  by_cases hblank : source = "_"
  · rw [perform?, hlookup, if_pos hblank, if_neg fun hclear => hclear.1 hblank]
  · have hfilled : filled? w f
        = (w.entries f.key).map fun a => .of f.isPointer (w.through (calls f.strategy) a) := by
      unfold filled?
      rcases hslot with hslot | hslot <;> rw [hslot]
    have htake : ∀ a, take? fields w (guardScope (functionScope source) a) (Typing.storing f.name
        f.isPointer (applied (calls f.strategy) (.var "tmp"))) obj = _ := fun a =>
      take?_storing hfield rfl f.isPointer _ obj (eval?_guarded hblank hne a)
    rw [perform?, hlookup, if_neg hblank, put, hfilled]
    -- A body that is not run must make sense too, so both cases come to the same condition.
    cases w.entries f.key with
    | some a =>
      show take? .. = _
      rw [htake]
      split <;> rfl
    | none =>
      show (take? ..).map _ = _
      rw [htake]
      split <;> rfl

/-- **One field.** The statement for a field fills it and leaves the others alone, if no variable
takes a name that it needs; else it makes no sense. -/
theorem perform?_filling {st : Statement} (hst : filling? source f = some st)
    (hsource : source ∉ ["obj", "err"]) (hfield : f.name ∈ fields ∧ f.name ≠ "_")
    (obj : Object α) :
    perform? fields w (functionScope source) st obj
      = if Clear source f then some (put w obj f) else none := by
  unfold filling? at hst
  cases hslot : f.strategy.slot with
  | direct =>
    rw [hslot] at hst
    obtain rfl := Option.some.inj hst
    have htake := take?_storing hfield rfl false _ obj (eval?_direct (w := w) hsource hslot)
    rw [perform?]
    refine htake.trans ?_
    rw [put, filled?, hslot]
    split <;> rfl
  | enumeration =>
    rw [hslot] at hst
    obtain rfl := Option.some.inj hst
    exact perform?_guarded hsource hfield (.inl hslot) obj
  | assign =>
    rw [hslot] at hst
    obtain rfl := Option.some.inj hst
    exact perform?_guarded hsource hfield (.inr hslot) obj
  | unsupported =>
    rw [hslot] at hst
    cases hst

/-! ## Lists of fields -/

theorem fillings_eq (source : String) (hslot : f.strategy.slot ≠ .unsupported) :
    ∃ st, filling? source f = some st ∧ fillings source f = [.fill st] := by
  unfold fillings filling?
  cases hs : f.strategy.slot with
  | direct | enumeration | assign => exact ⟨_, rfl, rfl⟩
  | unsupported => exact absurd hs hslot

/-- **Field by field.** Fields are filled one after the other, if none of them is obstructed. -/
theorem run?_fillings (hsource : source ∉ ["obj", "err"]) {fs : List FilledField}
    (hfs : ∀ f ∈ fs, f.strategy.slot ≠ .unsupported ∧ f.name ∈ fields ∧ f.name ≠ "_")
    (obj : Object α) (rest : List Action) :
    run? fields w (functionScope source) (some obj) (fs.flatMap (fillings source) ++ rest)
      = if ∀ f ∈ fs, Clear source f then
          run? fields w (functionScope source) (some (fs.foldl (put w) obj)) rest
        else none := by
  -- By induction on the fields, with the object that has been filled so far.
  induction fs generalizing obj with
  | nil => simp
  | cons f fs ih =>
    obtain ⟨hslot, hfield⟩ := hfs f List.mem_cons_self
    obtain ⟨st, hst, hfillings⟩ := fillings_eq source hslot
    rw [List.flatMap_cons, hfillings, List.singleton_append, List.cons_append, run?,
      perform?_filling hst hsource hfield]
    simp only [List.forall_mem_cons]
    by_cases hclear : Clear source f
    · rw [if_pos hclear]
      have hrest := ih (fun f hf => hfs f (List.mem_cons_of_mem _ hf)) (put w obj f)
      simp only [and_iff_right hclear]
      exact hrest
    · rw [if_neg hclear, if_neg fun hall => hclear hall.1]

/-- A field that is filled holds its value in the end, and one that is not is as it was. -/
theorem foldl_put {fs : List FilledField} (hnames : (fs.map (·.name)).Nodup) (obj : Object α) :
    (∀ f ∈ fs, fs.foldl (put w) obj f.name = (filled? w f).getD (obj f.name))
      ∧ ∀ n, n ∉ fs.map (·.name) → fs.foldl (put w) obj n = obj n := by
  induction fs generalizing obj with
  | nil => simp
  | cons f fs ih =>
    rw [List.map_cons, List.nodup_cons] at hnames
    obtain ⟨hfirst, hrest⟩ := ih hnames.2 (put w obj f)
    have hother : ∀ n, n ≠ f.name → put w obj f n = obj n := by
      intro n hn
      unfold put
      cases filled? w f with
      | some c => exact Function.update_of_ne hn ..
      | none => rfl
    have hself : put w obj f f.name = (filled? w f).getD (obj f.name) := by
      unfold put
      cases filled? w f with
      | some c => exact Function.update_self ..
      | none => rfl
    refine ⟨List.forall_mem_cons.2 ⟨?_, ?_⟩, ?_⟩
    · exact (hrest f.name hnames.1).trans hself
    · intro g hg
      have hne : g.name ≠ f.name := fun hname => hnames.1 (hname ▸ List.mem_map_of_mem hg)
      rw [List.foldl_cons, hfirst g hg, hother _ hne]
    · intro n hn
      rw [List.map_cons, List.mem_cons, not_or] at hn
      rw [List.foldl_cons, hrest n hn.2, hother n hn.1]

end fields

/-! ## Functions -/

/-- **A function that is written is executed.** If no variable takes a name that the body needs,
all fields are filled; else the function makes no sense. -/
theorem execute?_function {fields : List String} (w : World α) {p : Plan} {s : Prototype}
    (h : p.Declares s) (hsorted : Sorted p.buckets)
    (hfields : ∀ f ∈ p.buckets.assigned, f.name ∈ fields ∧ f.name ≠ "_") :
    execute? fields w (function p)
      = if Unobstructed p then some (p.buckets.assigned.foldl (put w) fun _ => .zero)
        else none := by
  have hassigned : ∀ f ∈ p.buckets.assigned,
      f.strategy.slot ≠ .unsupported ∧ f.name ∈ fields ∧ f.name ≠ "_" := fun f hf =>
    ⟨(hsorted.mem_entries hf).1, hfields f hf⟩
  rw [execute?, read?_function h hsorted]
  simp only [Option.bind_eq_bind, Option.bind_some, scope?_decl, ← h.paramName]
  -- The three conditions of `Unobstructed`, in the order in which the execution meets them.
  by_cases hsource : p.paramName ∈ ["obj", "err"]
  · rw [if_pos hsource, if_neg fun hclear => hclear.1 hsource]
    rfl
  rw [if_neg hsource, Option.bind_some, actions, run?]
  show (if leaves (functionScope p.paramName) (front p.outputType) = true then _ else none) = _
  by_cases hout : front p.outputType ∉ "_" :: varsAround p.paramName .direct
  · rw [if_pos (leaves_functionScope.2 hout), run?_fillings hsource hassigned]
    by_cases hall : ∀ f ∈ p.buckets.assigned, Clear p.paramName f
    · rw [if_pos hall, if_pos ⟨hsource, hout, hall⟩]
      rfl
    · rw [if_neg hall, if_neg fun hclear => hall hclear.2.2]
  · rw [if_neg fun hleaves => hout (leaves_functionScope.1 hleaves),
      if_neg fun hclear => hout hclear.2.1]

end StructFill.Execution
