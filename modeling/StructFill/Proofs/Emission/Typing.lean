import StructFill.Config
import StructFill.Proofs.Classification.Domain

/-! # Types of what is written

  The lines that fill a field are text. This module reads them as statements,
  gives types to the statements, and compares the type of the value that is
  stored with the type that the field is declared with.

  **Types.** A name stands for the declaration in its package, or else it is
  predeclared. A qualified name stands for a declaration of the package that
  its qualifier leads to.

  **Scopes.** Variables are found from the inside out: those of a guard before
  those of the function. The name of a type or of a helper is only that while
  no variable has taken it. So a statement stores a value of the right type
  exactly if its names are out of the way of the variables around it.

  Only values have types here. Whether a package may use the names of another
  one, and whether a field can be selected at all, are other questions.
-/

namespace StructFill.Typing

open Source (Field TypeExpr TypeBody)
open Session (Run)
open Classification

/-! ## Types -/

/-- The types of the generated text, as far as values are filled in. -/
inductive Ty where
  | predeclared (name : String)
  /-- The declaration of a name in a package. -/
  | declared (owner : Package) (name : String)
  | pointer (target : Ty)
  | map (key value : Ty)

/-- What a name without a qualifier stands for in a package. -/
def ofName (o : Package) (n : String) : Ty :=
  if (o.findType? n).isSome then .declared o n else .predeclared n

/-- The type that is written in the package `unit`, if it is built from names and pointers. -/
def ofType? (w : Surroundings) (s : Session) (unit : Package) : TypeExpr → Option Ty
  | .name n => some (ofName unit n)
  | .qualified q n =>
    match (Session.openImport w unit q).answer s with
    | .ok (some o) => some (.declared o n)
    | _ => none
  | .pointer t => (ofType? w s unit t).map .pointer
  | _ => none

/-- The declaration of `n` in the package `o` is directly over the type `u`. -/
def DeclaredOver (o : Package) (n : String) (u : Ty) : Prop :=
  ∃ d base, o.findType? n = some d ∧ d.body = .named (.name base) ∧ u = ofName o base

/-- No declaration of the package takes the name of a primitive. -/
def KeepsPrimitives (o : Package) : Prop := ∀ n ∈ Source.primitives, o.findType? n = none

instance (o : Package) : Decidable (KeepsPrimitives o) :=
  inferInstanceAs (Decidable (∀ n ∈ Source.primitives, o.findType? n = none))

/-! ## Statements -/

/-- How the generated file names a declared type: by the import of its package, or without one
in the directory of the declaration. -/
structure TypeName where
  origin? : Option PackageImport
  name : String

/-- The identifier at the front of a text: what stands before the first dot. -/
def front (text : String) : String := String.ofList (text.toList.takeWhile (· ≠ '.'))

namespace TypeName

def text (t : TypeName) : String :=
  match t.origin? with
  | some i => i.name ++ "." ++ t.name
  | none => t.name

/-- The identifier at the front, which a variable may take. -/
def head (t : TypeName) : String :=
  match t.origin? with
  | some i => i.name
  | none => t.name

/-- In a file of the package `p`, the name is one of the package `o`. -/
def IsOf (t : TypeName) (p o : Package) : Prop :=
  match t.origin? with
  | some i => i.path = o.importPath
  | none => o.dir.same p.dir = true

end TypeName

inductive Expr where
  | var (x : String)
  /-- The value of a key in a map. -/
  | element (map key : String)
  /-- The call of a conversion helper. -/
  | call (helper : String) (e : Expr)
  /-- The conversion to a declared type. -/
  | convert (t : TypeName) (e : Expr)
  | address (x : String)

def Expr.text : Expr → String
  | .var x => x
  | .element map key => map ++ "[" ++ Source.Quoted.quote key ++ "]"
  | .call helper e => helper ++ "(" ++ e.text ++ ")"
  | .convert t e => t.text ++ "(" ++ e.text ++ ")"
  | .address x => "&" ++ x

inductive Step where
  /-- Stores a value into a field of the result. -/
  | store (field : String) (e : Expr)
  /-- Declares a variable with a value. -/
  | define (x : String) (e : Expr)

def Step.text : Step → String
  | .store field e => "obj." ++ field ++ " = " ++ e.text
  | .define x e => x ++ " := " ++ e.text

inductive Statement where
  | plain (step : Step)
  /-- Steps that are taken when the map has the key; `tmp` is its value. -/
  | guarded (map key : String) (steps : List Step)

def Statement.lines : Statement → List String
  | .plain step => ["\t" ++ step.text]
  | .guarded map key steps =>
    ["\tif tmp, ok := " ++ (Expr.element map key).text ++ "; ok \x7b"]
      ++ steps.map (fun step => "\t\t" ++ step.text) ++ ["\t\x7d"]

/-- The steps that store a value, or its address. -/
def storing (field : String) (isPointer : Bool) (e : Expr) : List Step :=
  if isPointer then [.define "val" e, .store field (.address "val")] else [.store field e]

/-- The statement that fills a field from the map `source`, if it is one that is filled. -/
def statement? (source : String) (f : FilledField) : Option Statement :=
  match f.strategy with
  | .direct none => some (.plain (.store f.name (.element source f.key)))
  | .direct (some c) => some (.plain (.store f.name (.call c (.element source f.key))))
  | .enumeration _ c i =>
    some (.guarded source f.key (storing f.name f.isPointer
      (.convert ⟨i, f.descriptor.name⟩ (.call c (.var "tmp")))))
  | .assign c =>
    some (.guarded source f.key (storing f.name f.isPointer (.call c (.var "tmp"))))
  | .unsupported _ => none

/-- The lines that are emitted for a field of a list. -/
def emitted (source : String) : Slot → FilledField → List String
  | .direct => Emission.directLines source
  | .enumeration | .assign => Emission.guardedLines source
  | .unsupported => Emission.placeholderLines

/-! ## Typing -/

/-- Words that are no names. -/
def keywords : List String :=
  ["break", "case", "chan", "const", "continue", "default", "defer", "else", "fallthrough", "for",
   "func", "go", "goto", "if", "import", "interface", "map", "package", "range", "return",
   "select", "struct", "switch", "type", "var"]

/-- A parameter of this name can be read: it is an identifier, but neither blank nor a keyword
nor the name of a result. -/
def Readable (x : String) : Prop :=
  Config.isIdentifier x = true ∧ x ∉ "_" :: "obj" :: "err" :: keywords

instance (x : String) : Decidable (Readable x) := inferInstanceAs (Decidable (_ ∧ _))

/-- The variables with their types, the innermost first. -/
abbrev Scope := List (String × Ty)

/-- The variables of a generated function: its results, and its parameter if it can be read. -/
def functionScope (p : Package) (struct : OutputStruct) (map : MapParam) (source : String) :
    Scope :=
  [("obj", .pointer (.declared struct.owner struct.name)), ("err", .predeclared "error")]
    ++ if Readable source then [(source, .map (ofName p map.keyType) (ofName p map.valueType))]
      else []

/-- The variables inside a guard, where the map has values of the type `v`. -/
def guardScope (Γ : Scope) (v : Ty) : Scope := ("tmp", v) :: ("ok", .predeclared "bool") :: Γ

/-- The expression has a type in a file of the package `p`, where the helpers return what
`returns` says. Helpers take any value. -/
inductive HasType (p : Package) (returns : String → Option Ty) (Γ : Scope) : Expr → Ty → Prop where
  | var {x t} (hx : Γ.lookup x = some t) : HasType p returns Γ (.var x) t
  | element {map key v} (hmap : Γ.lookup map = some (.map (.predeclared "string") v)) :
    HasType p returns Γ (.element map key) v
  | call {helper e u t} (he : HasType p returns Γ e u) (hfree : Γ.lookup (front helper) = none)
    (hreturns : returns helper = some t) : HasType p returns Γ (.call helper e) t
  | convert {name e u o} (he : HasType p returns Γ e u) (hfree : Γ.lookup name.head = none)
    (hname : name.IsOf p o) (hover : DeclaredOver o name.name u) :
    HasType p returns Γ (.convert name e) (.declared o name.name)
  | address {x t} (hx : Γ.lookup x = some t) : HasType p returns Γ (.address x) (.pointer t)

/-- The steps store a value of a type into a field of the result. -/
inductive StepsStore (p : Package) (returns : String → Option Ty) :
    Scope → List Step → String → Ty → Prop where
  | store {Γ field e t r} (hobj : Γ.lookup "obj" = some (.pointer r))
    (he : HasType p returns Γ e t) : StepsStore p returns Γ [.store field e] field t
  | define {Γ x e u rest field t} (he : HasType p returns Γ e u)
    (hrest : StepsStore p returns ((x, u) :: Γ) rest field t) :
    StepsStore p returns Γ (.define x e :: rest) field t

/-- The statement stores a value of a type into a field of the result. -/
inductive Stores (p : Package) (returns : String → Option Ty) (Γ : Scope) :
    Statement → String → Ty → Prop where
  | plain {step field t} (h : StepsStore p returns Γ [step] field t) :
    Stores p returns Γ (.plain step) field t
  | guarded {map key v steps field t} (hmap : HasType p returns Γ (.element map key) v)
    (h : StepsStore p returns (guardScope Γ v) steps field t) :
    Stores p returns Γ (.guarded map key steps) field t

/-- In a file of the package `p` the two are one type: they differ at most in packages that the
file names alike. -/
inductive SameType (p : Package) : Ty → Ty → Prop where
  | refl (t : Ty) : SameType p t t
  | declared {name : TypeName} {o o' : Package} (h : name.IsOf p o) (h' : name.IsOf p o') :
    SameType p (.declared o name.name) (.declared o' name.name)
  | pointer {t t' : Ty} (h : SameType p t t') : SameType p (.pointer t) (.pointer t')

/-! ## Names and variables -/

/-- The names of types and helpers in the value of a field. -/
def names (f : FilledField) : List String :=
  match f.strategy with
  | .direct c => (c.map front).toList
  | .enumeration _ c i => [TypeName.head ⟨i, f.descriptor.name⟩, front c]
  | .assign c => [front c]
  | .unsupported _ => []

/-- The variables around the value of a field of a list. -/
def varsAround (source : String) : Slot → List String
  | .direct => ["obj", "err", source]
  | _ => ["tmp", "ok", "obj", "err", source]

/-- No variable takes a name that the statement for a field needs. -/
structure Unshadowed (source : String) (f : FilledField) : Prop where
  readable : Readable source
  free : ∀ x ∈ names f, x ∉ varsAround source f.strategy.slot

variable {p : Package} {returns : String → Option Ty} {Γ : Scope} {struct : OutputStruct}
  {map : MapParam} {source : String}

theorem lookup_obj_functionScope :
    (functionScope p struct map source).lookup "obj"
      = some (.pointer (.declared struct.owner struct.name)) := rfl

/-- The parameter is found in the function exactly if it can be read. -/
theorem lookup_source_functionScope {t : Ty} :
    (functionScope p struct map source).lookup source = some (.map (.predeclared "string") t) ↔
      Readable source ∧ Ty.map (ofName p map.keyType) (ofName p map.valueType)
        = .map (.predeclared "string") t := by
  by_cases hobj : source = "obj"
  · subst hobj
    rw [lookup_obj_functionScope]
    simp [Readable]
  by_cases herr : source = "err"
  · subst herr
    simp [functionScope, List.lookup_cons, Readable]
  -- The results come first, so only a parameter with a name of its own is reached.
  have hobj' : (source == "obj") = false := by simpa using hobj
  have herr' : (source == "err") = false := by simpa using herr
  by_cases hreadable : Readable source
  · simp [functionScope, List.lookup_cons, hobj', herr', hreadable]
  · simp [functionScope, List.lookup_cons, hobj', herr', hreadable]

theorem lookup_functionScope_eq_none {x : String} (hreadable : Readable source) :
    (functionScope p struct map source).lookup x = none ↔ x ∉ varsAround source .direct := by
  simp [functionScope, hreadable, varsAround, List.lookup_eq_none_iff]

theorem lookup_guardScope_eq_none {x : String} {v : Ty} (hreadable : Readable source) {k : Slot}
    (hk : k ≠ .direct) :
    (guardScope (functionScope p struct map source) v).lookup x = none ↔
      x ∉ varsAround source k := by
  cases k with
  | direct => exact absurd rfl hk
  | enumeration | assign | unsupported =>
    simp [guardScope, functionScope, hreadable, varsAround, List.lookup_eq_none_iff]

/-! ## What is stored -/

theorem hasType_element {key : String} {v : Ty}
    (hkey : ofName p map.keyType = .predeclared "string") :
    HasType p returns (functionScope p struct map source) (.element source key) v ↔
      Readable source ∧ v = ofName p map.valueType := by
  constructor
  · rintro ⟨⟩
    rename_i hmap
    obtain ⟨hreadable, heq⟩ := lookup_source_functionScope.1 hmap
    exact ⟨hreadable, (Ty.map.inj heq).2.symm⟩
  · rintro ⟨hreadable, rfl⟩
    exact .element (lookup_source_functionScope.2 ⟨hreadable, by rw [hkey]⟩)

/-- An expression has one type only. -/
theorem HasType.unique {e : Expr} {t t' : Ty} (h : HasType p returns Γ e t)
    (h' : HasType p returns Γ e t') : SameType p t t' := by
  cases h with
  | var hx =>
    cases h' with
    | var hx' =>
      obtain rfl := Option.some.inj (hx.symm.trans hx')
      exact .refl _
  | element hmap =>
    cases h' with
    | element hmap' =>
      obtain ⟨-, rfl⟩ := Ty.map.inj (Option.some.inj (hmap.symm.trans hmap'))
      exact .refl _
  | call _ _ hreturns =>
    cases h' with
    | call _ _ hreturns' =>
      obtain rfl := Option.some.inj (hreturns.symm.trans hreturns')
      exact .refl _
  -- The name may stand for types of several packages that the file names alike. That is why types
  -- are the same only up to `SameType`.
  | convert _ _ hname _ =>
    cases h' with
    | convert _ _ hname' _ => exact .declared hname hname'
  | address hx =>
    cases h' with
    | address hx' =>
      obtain rfl := Option.some.inj (hx.symm.trans hx')
      exact .refl _

theorem stores_plain {r t : Ty} {field : String} {e : Expr}
    (hobj : Γ.lookup "obj" = some (.pointer r)) :
    Stores p returns Γ (.plain (.store field e)) field t ↔ HasType p returns Γ e t := by
  constructor
  · intro h
    cases h with
    | plain h =>
      cases h with
      | store _ he => exact he
  · exact fun he => .plain (.store hobj he)

/-- Under a guard a value is stored as it is, and for a pointer through a variable of its own. -/
theorem stores_guarded {r t : Ty} {field key : String} {isPointer : Bool} {e : Expr}
    (hobj : Γ.lookup "obj" = some (.pointer r)) :
    Stores p returns Γ (.guarded source key (storing field isPointer e)) field t ↔
      ∃ v u, HasType p returns Γ (.element source key) v
        ∧ HasType p returns (guardScope Γ v) e u ∧ t = if isPointer then .pointer u else u := by
  cases isPointer with
  | false =>
    constructor
    · intro h
      cases h with
      | guarded hmap h =>
        cases h with
        | store _ he => exact ⟨_, _, hmap, he, rfl⟩
    · rintro ⟨v, u, hmap, he, rfl⟩
      exact .guarded hmap (.store hobj he)
  | true =>
    constructor
    · intro h
      cases h with
      | guarded hmap h =>
        cases h with
        | define he h =>
          cases h with
          | store _ haddress =>
            cases haddress with
            | address hx =>
              -- the innermost variable is the one that was just declared
              obtain rfl := Option.some.inj hx
              exact ⟨_, _, hmap, he, rfl⟩
    · rintro ⟨v, u, hmap, he, rfl⟩
      exact .guarded hmap (.define he (.store hobj (.address rfl)))

end StructFill.Typing
