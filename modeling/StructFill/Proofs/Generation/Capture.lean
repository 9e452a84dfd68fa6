import StructFill.Proofs.Emission.Results
import StructFill.Proofs.Generation.Usage

/-! # Names that variables take away

  A generated body names packages, types and helpers, and it has variables of its
  own: the parameter, the two results, and inside a guard the value of the map
  with a flag. A name that a variable has taken is no longer what it was meant to
  be.

  The body is read as what it does, and each of its names is compared with the
  variables that are in force where it stands. The names come from four places:
  the configuration, the result type as it is written, the imports of the package,
  and what other packages call themselves and their types. None of these is
  compared with the variables, so that each of them can be taken away; `Capture`
  lists the ways.
-/

namespace StructFill

open Session (Run)

/-! ## Names in a body -/

namespace Typing

/-- The names of packages, types and helpers in a value. -/
def Expr.heads : Expr → List String
  | .var _ | .element .. | .address _ => []
  | .call helper e => front helper :: e.heads
  | .convert t e => t.head :: e.heads

/-- No name in the steps is that of a variable. What a step declares is a variable behind it. -/
def StepsFree : List String → List Step → Prop
  | _, [] => True
  | vars, .store _ e :: rest => (∀ x ∈ e.heads, x ∉ vars) ∧ StepsFree vars rest
  | vars, .define x e :: rest => (∀ y ∈ e.heads, y ∉ vars) ∧ StepsFree (x :: vars) rest

/-- No name in the statement is that of a variable. A guard has two variables of its own. -/
def StatementFree (vars : List String) : Statement → Prop
  | .plain step => StepsFree vars [step]
  | .guarded _ _ steps => StepsFree ("tmp" :: "ok" :: vars) steps

theorem stepsFree_storing {vars : List String} {field : String} {isPointer : Bool} {e : Expr} :
    StepsFree vars (storing field isPointer e) ↔ ∀ x ∈ e.heads, x ∉ vars := by
  unfold storing
  cases isPointer with
  | false => simp [StepsFree]
  | true =>
    -- The variable that holds the value is in force only where its address is taken.
    simp [StepsFree, Expr.heads]

end Typing

namespace Execution

open Typing (front varsAround StatementFree StepsFree Statement Step Expr)
open Emission (Plan)

/-- No name in the action is that of a variable. -/
def ActionFree (vars : List String) : Action → Prop
  | .create type => front type ∉ vars
  | .fill st => StatementFree vars st
  | .finish => True

/-- The names that the body of a function binds, and those of its results. -/
def boundNames : List String := ["obj", "err", "tmp", "ok", "val"]

/-- A function whose parameter is a name of its own, and in whose body no package, type or helper
has the name of a variable that is in force. -/
structure CaptureFree (p : Plan) : Prop where
  identifier : Source.IsIdentifier p.paramName
  apart : p.paramName ∉ boundNames
  body : ∀ a ∈ actions p, ActionFree ["obj", "err", p.paramName] a

theorem heads_applied (cs : List String) (e : Expr) :
    (applied cs e).heads = cs.map front ++ e.heads := by
  induction cs with
  | nil => rfl
  | cons c cs ih =>
    show front c :: (applied cs e).heads = _
    rw [ih]
    rfl

/-- What is done for a field is free of variables if the calls in its value are. -/
theorem actionFree_fillings {source : String} {f : FilledField}
    (hslot : f.strategy.slot ≠ .unsupported) :
    (∀ a ∈ fillings source f, ActionFree ["obj", "err", source] a)
      ↔ ∀ x ∈ calls f.strategy, front x ∉ varsAround source f.strategy.slot := by
  obtain ⟨st, hst, hfillings⟩ := fillings_eq source hslot
  have hone : (∀ a ∈ fillings source f, ActionFree ["obj", "err", source] a)
      ↔ StatementFree ["obj", "err", source] st := by
    rw [hfillings]
    exact List.forall_mem_singleton
  rw [hone]
  unfold filling? at hst
  -- Where a value is stored at once the variables are those of the function, and behind a guard
  -- those of the guard too.
  cases hs : f.strategy.slot with
  | direct =>
    rw [hs] at hst
    obtain rfl := Option.some.inj hst
    show (∀ x ∈ (applied _ _).heads, x ∉ _) ∧ True ↔ _
    simp [heads_applied, Expr.heads, varsAround]
  | enumeration | assign =>
    rw [hs] at hst
    obtain rfl := Option.some.inj hst
    show StepsFree _ (Typing.storing _ _ _) ↔ _
    simp [Typing.stepsFree_storing, heads_applied, Expr.heads, varsAround]
  | unsupported => exact absurd hs hslot

/-- The body of a function is free of variables if its result type is, and the calls for each field
that is filled. -/
theorem actionFree_actions {p : Plan} (hsorted : Sorted p.buckets) :
    (∀ a ∈ actions p, ActionFree ["obj", "err", p.paramName] a)
      ↔ front p.outputType ∉ ["obj", "err", p.paramName]
        ∧ ∀ f ∈ p.buckets.assigned, ∀ x ∈ calls f.strategy,
          front x ∉ varsAround p.paramName f.strategy.slot := by
  have hfields : (∀ a ∈ p.buckets.assigned.flatMap (fillings p.paramName),
        ActionFree ["obj", "err", p.paramName] a)
      ↔ ∀ f ∈ p.buckets.assigned, ∀ x ∈ calls f.strategy,
        front x ∉ varsAround p.paramName f.strategy.slot := by
    simp only [List.mem_flatMap]
    constructor
    · intro h f hf
      have hslot := (hsorted.mem_entries hf).1
      exact (actionFree_fillings hslot).1 fun a ha => h a ⟨f, hf, ha⟩
    · intro h a ⟨f, hf, ha⟩
      have hslot := (hsorted.mem_entries hf).1
      exact (actionFree_fillings hslot).2 (h f hf) a ha
  rw [actions, List.forall_mem_cons, List.forall_mem_append, hfields, List.forall_mem_singleton]
  simp [ActionFree]

/-! ## The lines of a body -/

/-- The lines of an action. -/
def Action.lines : Action → List String
  | .create type => ["\tobj = &" ++ type ++ "\x7b\x7d"]
  | .fill st => st.lines
  | .finish => ["\treturn obj, err"]

/-- A line that is neither empty nor a comment. -/
def isCode (l : String) : Bool := !l.toList.isEmpty && !"\t//".toList.isPrefixOf l.toList

/-- What a line begins with tells whether it is code. -/
theorem isCode_append {a : String} (ha : 3 ≤ a.toList.length) (b : String) :
    isCode (a ++ b) = isCode a := by
  obtain ⟨x, y, z, rest, hchars⟩ : ∃ x y z rest, a.toList = x :: y :: z :: rest := by
    match hlist : a.toList with
    | [] | [_] | [_, _] => simp [hlist] at ha
    | x :: y :: z :: rest => exact ⟨x, y, z, rest, rfl⟩
  simp [isCode, hchars, String.toList_append, List.isPrefixOf]

/-- A statement that stores a value has lines of code only. -/
theorem isCode_plain {field : String} {e : Expr} :
    ∀ l ∈ (Statement.plain (.store field e)).lines, isCode l = true := by
  intro l hl
  obtain rfl := List.mem_singleton.1 hl
  have htext : "\t" ++ (Step.store field e).text = "\tobj." ++ (field ++ " = " ++ e.text) := by
    simp [Step.text, ← String.append_assoc]
  rw [htext, isCode_append (by decide)]
  decide

/-- And so has one that stores it under a guard. -/
theorem isCode_guarded {map key field : String} {isPointer : Bool} {e : Expr} :
    ∀ l ∈ (Statement.guarded map key (Typing.storing field isPointer e)).lines,
      isCode l = true := by
  have hopen : ∀ rest, isCode ("\tif tmp, ok := " ++ rest) = true := fun rest =>
    (isCode_append (by decide) rest).trans (by decide)
  have hstore : ∀ e' : Expr, isCode ("\t\t" ++ (Step.store field e').text) = true := by
    intro e'
    have htext : "\t\t" ++ (Step.store field e').text
        = "\t\tobj." ++ (field ++ " = " ++ e'.text) := by
      simp [Step.text, ← String.append_assoc]
    rw [htext, isCode_append (by decide)]
    decide
  have hdefine : isCode ("\t\t" ++ (Step.define "val" e).text) = true := by
    have htext : "\t\t" ++ (Step.define "val" e).text = "\t\tval := " ++ e.text := by
      simp [Step.text, ← String.append_assoc]
    rw [htext, isCode_append (by decide)]
    decide
  have hclose : isCode "\t\x7d" = true := by decide
  intro l hl
  simp only [Statement.lines, String.append_assoc] at hl
  cases isPointer with
  | false =>
    simp only [Typing.storing, List.map_cons, List.map_nil, List.mem_append, List.mem_singleton,
      Bool.false_eq_true, if_false] at hl
    rcases hl with (rfl | rfl) | rfl
    · exact hopen _
    · exact hstore _
    · exact hclose
  | true =>
    simp only [Typing.storing, List.map_cons, List.map_nil, List.mem_append, List.mem_cons,
      List.not_mem_nil, or_false, if_true] at hl
    rcases hl with (rfl | rfl | rfl) | rfl
    · exact hopen _
    · exact hdefine
    · exact hstore _
    · exact hclose

/-- In the lines of a section what is code is what is done for its fields. -/
theorem filter_isCode_section (source title : String) (fields : List FilledField)
    (write : FilledField → List String)
    (h : ∀ f ∈ fields, (write f).filter isCode = (fillings source f).flatMap Action.lines) :
    (Emission.section? title fields write).filter isCode
      = (fields.flatMap (fillings source)).flatMap Action.lines := by
  have htitle : isCode ("\t// " ++ title) = false :=
    (isCode_append (by decide) title).trans (by decide)
  have hempty : isCode "" = false := by decide
  unfold Emission.section?
  split
  next hnil => simp [hnil]
  next =>
    rw [List.filter_append, List.filter_cons_of_neg (by simp [hempty]),
      List.filter_cons_of_neg (by simp [htitle]), List.filter_nil, List.nil_append,
      List.filter_flatMap, List.flatMap_assoc]
    exact List.flatMap_congr h

variable {source : String} {f : FilledField}

theorem filter_isCode_direct (h : f.strategy.slot = .direct) :
    (Emission.directLines source f).filter isCode = (fillings source f).flatMap Action.lines := by
  rw [directLines_eq h, List.filter_eq_self.2 isCode_plain]
  unfold fillings filling?
  rw [h]
  simp [Action.lines]

theorem filter_isCode_guarded (h : f.strategy.slot = .enumeration ∨ f.strategy.slot = .assign) :
    (Emission.guardedLines source f).filter isCode = (fillings source f).flatMap Action.lines := by
  rw [guardedLines_eq h, List.filter_eq_self.2 isCode_guarded]
  unfold fillings filling?
  rcases h with h | h <;> rw [h] <;> simp [Action.lines]

theorem filter_isCode_placeholder (h : f.strategy.slot = .unsupported) :
    (Emission.placeholderLines f).filter isCode = (fillings source f).flatMap Action.lines := by
  have hcomment : ∀ rest, isCode ("\t// obj." ++ rest) = false := fun rest =>
    (isCode_append (by decide) rest).trans (by decide)
  unfold fillings filling?
  rw [h]
  unfold Emission.placeholderLines
  split <;> simp [String.append_assoc, hcomment]

/-- The line that opens a function. -/
def signatureLine (p : Plan) : String :=
  "func " ++ p.name ++ "(" ++ p.paramName ++ " " ++ p.paramType ++ ") (obj *" ++ p.outputType
    ++ ", err error) \x7b"

/-- **The code of a function.** Apart from empty lines and comments, a function consists of its
signature, the lines of what its body does, and a closing brace. -/
theorem filter_isCode_functionLines {p : Plan} (hsorted : Sorted p.buckets) :
    (Emission.functionLines p).filter isCode
      = [signatureLine p] ++ (actions p).flatMap Action.lines ++ ["\x7d"] := by
  have hdirect := filter_isCode_section p.paramName "assigned directly" p.buckets.direct
    (Emission.directLines p.paramName) fun f hf => filter_isCode_direct (hsorted .direct f hf)
  have henumerations := filter_isCode_section p.paramName "enum types" p.buckets.enumerations
    (Emission.guardedLines p.paramName) fun f hf => filter_isCode_guarded (.inl (hsorted .enumeration f hf))
  have hassign := filter_isCode_section p.paramName "pointer types" p.buckets.assign
    (Emission.guardedLines p.paramName) fun f hf => filter_isCode_guarded (.inr (hsorted .assign f hf))
  have hunsupported := filter_isCode_section p.paramName "complete by hand" p.buckets.unsupported
    Emission.placeholderLines fun f hf => filter_isCode_placeholder (hsorted .unsupported f hf)
  -- Placeholders are comments: they are no code, and they fill nothing.
  have hnone : p.buckets.unsupported.flatMap (fillings p.paramName) = [] := by
    rw [List.flatMap_eq_nil_iff]
    intro f hf
    simp [fillings, filling?, hsorted .unsupported f hf]
  have hopen : ["", signatureLine p, "\tobj = &" ++ p.outputType ++ "\x7b\x7d"].filter isCode
      = [signatureLine p] ++ (Action.create p.outputType).lines := by
    have hsignature : isCode (signatureLine p) = true := by
      simp only [signatureLine, String.append_assoc]
      exact (isCode_append (by decide) _).trans (by decide)
    have hcreate : isCode ("\tobj = &" ++ p.outputType ++ "\x7b\x7d") = true := by
      rw [String.append_assoc]
      exact (isCode_append (by decide) _).trans (by decide)
    have hempty : isCode "" = false := by decide
    simp [hempty, hsignature, hcreate, Action.lines]
  have hclose : ["", "\treturn obj, err", "\x7d"].filter isCode
      = Action.finish.lines ++ ["\x7d"] := by
    decide
  have hlines : Emission.functionLines p
      = ["", signatureLine p, "\tobj = &" ++ p.outputType ++ "\x7b\x7d"]
        ++ Emission.section? "assigned directly" p.buckets.direct
          (Emission.directLines p.paramName)
        ++ Emission.section? "enum types" p.buckets.enumerations
          (Emission.guardedLines p.paramName)
        ++ Emission.section? "pointer types" p.buckets.assign (Emission.guardedLines p.paramName)
        ++ Emission.section? "complete by hand" p.buckets.unsupported Emission.placeholderLines
        ++ ["", "\treturn obj, err", "\x7d"] := rfl
  rw [hlines]
  simp only [List.filter_append, hopen, hdirect, henumerations, hassign, hunsupported, hnone,
    hclose]
  simp [actions, Buckets.assigned]

end Execution

/-- A configuration is not valid unless the name of the parameter looks like an identifier. -/
theorem Config.isIdentifier_paramName {c : Config} (h : c.Valid) :
    isIdentifier c.paramName = true := by
  unfold Valid problem? at h
  by_contra hparam
  have hfalse : isIdentifier c.paramName = false := by simpa using hparam
  rw [hfalse] at h
  split at h
  · cases h
  split at h
  · cases h
  · cases h

namespace Generation

open Execution (CaptureFree boundNames calls Sorted)
open Source (IsIdentifier)
open Source.Token (isNameStart isNamePart)
open Typing (front varsAround keywords)

variable {w : Surroundings} {c : Config} {p : Package} {s : Session} {output : Output}
  {struct : OutputStruct} {map : MapParam} {b : Buckets}

/-! ## Where the names come from -/

/-- The plan of a function that is written. -/
def planOf (c : Config) (d : Source.FuncDecl) (map : MapParam) (output : Output) (b : Buckets) :
    Emission.Plan :=
  ⟨c.generatedStart ++ d.name, c.paramName, map.typeText, output.qualifiedName, b⟩

/-- A name that a configuration may have, but that is none for the language. -/
inductive WideName (n : String) : Prop where
  | first {x cs} (hn : n.toList = x :: cs) (hwide : Unicode.isAlphabetic x = true)
    (hnot : isNameStart x = false)
  | later {x} (hx : x ∈ n.toList) (hwide : Unicode.isAlphanumeric x = true)
    (hnot : isNamePart x = false)

/-- A configured identifier is one of the language, unless it is reserved or has characters of the
wider classes. -/
theorem isIdentifier_iff {n : String} (h : Config.isIdentifier n = true) :
    IsIdentifier n ↔ ¬ WideName n ∧ n ∉ "_" :: keywords := by
  refine and_congr_left fun _ => ?_
  constructor
  · intro ⟨x, cs, hn, hstart, hparts⟩ hwide
    rw [List.all_eq_true] at hparts
    cases hwide with
    | first hn' _ hnot =>
      obtain ⟨rfl, -⟩ := List.cons.inj (hn.symm.trans hn')
      simp [hstart] at hnot
    | later hy _ hnot =>
      rw [hn] at hy
      rcases List.mem_cons.1 hy with rfl | hy
      · simp [isNamePart, hstart] at hnot
      · simp [hparts _ hy] at hnot
  · intro hnot
    unfold Config.isIdentifier at h
    cases hn : n.toList with
    | nil => simp [hn] at h
    | cons x cs =>
      simp only [hn, Bool.and_eq_true, Bool.or_eq_true, beq_iff_eq, List.all_eq_true] at h
      obtain ⟨hfirst, hrest⟩ := h
      refine ⟨x, cs, rfl, ?_, ?_⟩
      -- The configuration accepts a wider class of characters, and one that is only in the wider
      -- class is a way for the name to be wide.
      · by_contra hstart
        have hfalse : isNameStart x = false := by simpa using hstart
        rcases hfirst with rfl | hwide
        · exact hstart (by decide)
        · exact hnot (.first hn hwide hfalse)
      · rw [List.all_eq_true]
        intro y hy
        by_contra hpart
        have hfalse : isNamePart y = false := by simpa using hpart
        have hmem : y ∈ n.toList := by
          rw [hn]
          exact List.mem_cons_of_mem _ hy
        rcases hrest y hy with rfl | hwide
        · exact hpart (by decide)
        · exact hnot (.later hmem hwide hfalse)

/-- A type that a field is cast to is declared in the package `o`. -/
structure CastsTo (w : Surroundings) (s : Session) (struct : OutputStruct) (b : Buckets)
    (e : FilledField) (o : Package) : Prop where
  field : e ∈ b.enumerations
  owner : (Enumeration.owner w e.descriptor struct.owner).answer s = .ok (some o)

/-- The ways in which a variable of a function takes a name away. -/
inductive Capture (w : Surroundings) (c : Config) (p : Package) (s : Session) (output : Output)
    (struct : OutputStruct) (b : Buckets) : Prop where
  /-- The parameter is blank or a word of the language. -/
  | reserved (hname : c.paramName ∈ "_" :: keywords)
  /-- The parameter has a character that counts as alphabetic or numeric without being a letter or a
  digit. -/
  | wide (hname : WideName c.paramName)
  /-- The parameter is called like something that the body binds. -/
  | bound (hname : c.paramName ∈ boundNames)
  /-- The result type, or its qualifier, is called like the parameter or a result. -/
  | output (hname : front output.qualifiedName ∈ ["obj", "err", c.paramName])
  /-- The helper for a primitive, or its package, is called like a variable. -/
  | helper {e n} (he : e ∈ b.assigned) (hprimitive : Source.isPrimitive n = true)
    (hcalls : e.strategy.conversion? = some (Naming.conversion c.conversionStart n))
    (hname : front (Naming.conversion c.conversionStart n) ∈ varsAround c.paramName e.strategy.slot)
  /-- A type of the own directory is called like a variable. -/
  | own {e o} (hcasts : CastsTo w s struct b e o) (hsame : o.dir.same p.dir = true)
    (hname : front e.descriptor.name ∈ varsAround c.paramName .enumeration)
  /-- The sources import the package of a cast under the name of a variable. -/
  | imported {e o q} (hcasts : CastsTo w s struct b e o) (hother : o.dir.same p.dir = false)
    (hcalled : p.qualifierFor? o.importPath = some q)
    (hname : front q ∈ varsAround c.paramName .enumeration)
  /-- The sources do not import the package of a cast, and it calls itself like a variable. -/
  | declared {e o} (hcasts : CastsTo w s struct b e o) (hother : o.dir.same p.dir = false)
    (hcalled : p.qualifierFor? o.importPath = none)
    (hname : front o.name ∈ varsAround c.paramName .enumeration)

/-- In front of a qualified name stands the qualifier. -/
theorem front_qualified (q n : String) : front (q ++ "." ++ n) = front q := by
  unfold front
  have hdot : ".".toList = ['.'] := rfl
  rw [String.toList_append, String.toList_append, hdot, List.append_assoc, List.takeWhile_append]
  split
  next h =>
    have hall : q.toList.takeWhile (fun x => decide (x ≠ '.')) = q.toList :=
      (List.takeWhile_prefix _).eq_of_length h
    rw [hall]
    simp
  next => rfl

/-- A cast is called like a variable in one of three ways. -/
theorem front_castName {vars : List String} {n : String} {o : Package} :
    front (Classification.castName n o p).1 ∈ vars
      ↔ (o.dir.same p.dir = true ∧ front n ∈ vars)
        ∨ (o.dir.same p.dir = false ∧ ∃ q, p.qualifierFor? o.importPath = some q ∧ front q ∈ vars)
        ∨ (o.dir.same p.dir = false ∧ p.qualifierFor? o.importPath = none ∧ front o.name ∈ vars) := by
  unfold Classification.castName
  cases hsame : o.dir.same p.dir with
  | true => simp
  | false =>
    simp only [Bool.false_eq_true, if_false, front_qualified]
    cases hcalled : p.qualifierFor? o.importPath <;> simp

/-- The calls for a field are its cast, if there is one, and its helper. -/
theorem mem_calls {strategy : Strategy} {x : String} :
    x ∈ calls strategy ↔ (∃ conversion i, strategy = .enumeration x conversion i)
      ∨ strategy.conversion? = some x := by
  cases strategy with
  | direct helper => simp [calls, Strategy.conversion?]
  | enumeration cast helper i => simp [calls, Strategy.conversion?, eq_comm]
  | assign helper => simp [calls, Strategy.conversion?, eq_comm]
  | unsupported reason => simp [calls, Strategy.conversion?]

theorem sorted_of_classify {style : Naming.Style}
    (h : (Classification.classify w style struct map p).answer s = .ok b) : Sorted b := by
  obtain ⟨placed, -, -, hpartition⟩ := Classification.classify_partition h
  exact .of_partition hpartition

section

variable (h : (Classification.classify w ⟨c.conversionStart, c.tagKey⟩ struct map p).answer s
  = .ok b)
include h

/-- The calls for a field that is cast to a type: the type is called as it is spelled for the
package of the function. -/
theorem castsTo_of_mem {e : FilledField} (he : e ∈ b.enumerations) :
    ∃ o conversion, CastsTo w s struct b e o ∧ e.strategy
      = .enumeration (Classification.castName e.descriptor.name o p).1 conversion
        (Classification.castName e.descriptor.name o p).2 := by
  obtain ⟨o, base, howner, hstrategy⟩ := Classification.cast_of_classify h he
  exact ⟨o, _, ⟨he, howner⟩, hstrategy⟩

/-- A call for a field that has the name of a variable has it in one of the ways that are listed. -/
theorem capture_of_call {e : FilledField} (he : e ∈ b.assigned) {x : String}
    (hx : x ∈ calls e.strategy) (hname : front x ∈ varsAround c.paramName e.strategy.slot) :
    Capture w c p s output struct b := by
  rcases mem_calls.1 hx with ⟨conversion, i, hstrategy⟩ | hcalls
  · -- Of the lists that are assigned, only one has casts.
    have hslot : e.strategy.slot = .enumeration := by rw [hstrategy]; rfl
    have hmem : e ∈ b.enumerations := by
      have hentry := ((sorted_of_classify h).mem_entries he).2
      rwa [hslot] at hentry
    obtain ⟨o, conversion', hcasts, hspelled⟩ := castsTo_of_mem h hmem
    obtain ⟨rfl, -, -⟩ := Strategy.enumeration.inj (hstrategy.symm.trans hspelled)
    rw [hslot] at hname
    rcases front_castName.1 hname with
      ⟨hsame, hname⟩ | ⟨hother, q, hcalled, hname⟩ | ⟨hother, hcalled, hname⟩
    · exact .own hcasts hsame hname
    · exact .imported hcasts hother hcalled hname
    · exact .declared hcasts hother hcalled hname
  · obtain ⟨n, hprimitive, rfl⟩ := Classification.conversion_of_classify h he hcalls
    exact .helper he hprimitive hcalls hname

/-- A cast whose name is taken is a call whose name is taken. -/
theorem call_of_castsTo {e : FilledField} {o : Package} (hcasts : CastsTo w s struct b e o)
    (hname : front (Classification.castName e.descriptor.name o p).1
      ∈ varsAround c.paramName .enumeration) :
    ∃ e ∈ b.assigned, ∃ x ∈ calls e.strategy,
      front x ∈ varsAround c.paramName e.strategy.slot := by
  obtain ⟨o', conversion, hcasts', hstrategy⟩ := castsTo_of_mem h hcasts.field
  obtain rfl : o = o' := Option.some.inj (Except.ok.inj (hcasts.owner.symm.trans hcasts'.owner))
  have hslot : e.strategy.slot = .enumeration := by rw [hstrategy]; rfl
  refine ⟨e, ?_, _, mem_calls.2 (.inl ⟨conversion, _, hstrategy⟩), by rwa [hslot]⟩
  simp [Buckets.assigned, hcasts.field]

/-- **Ways of capture.** A function is free of captures exactly if none of the ways is open. The
configuration has been checked, so that the parameter looks like an identifier. -/
theorem captureFree_iff (hvalid : c.Valid) (d : Source.FuncDecl) :
    CaptureFree (planOf c d map output b) ↔ ¬ Capture w c p s output struct b := by
  have hparam := Config.isIdentifier_paramName hvalid
  have hbody : (∀ a ∈ Execution.actions (planOf c d map output b),
        Execution.ActionFree ["obj", "err", c.paramName] a)
      ↔ front output.qualifiedName ∉ ["obj", "err", c.paramName]
        ∧ ∀ e ∈ b.assigned, ∀ x ∈ calls e.strategy,
          front x ∉ varsAround c.paramName e.strategy.slot :=
    Execution.actionFree_actions (p := planOf c d map output b) (sorted_of_classify h)
  -- A cast is a call of an entry, but its name is known before the fields are sorted. Hence the
  -- ways by a cast are told from the declaration of the type, and `call_of_castsTo` leads from
  -- there to the entry.
  constructor
  · intro hfree hcapture
    obtain ⟨houtput, hcalls⟩ := hbody.1 hfree.body
    have hcasts : ∀ e o, CastsTo w s struct b e o →
        front (Classification.castName e.descriptor.name o p).1
          ∉ varsAround c.paramName .enumeration := by
      intro e o hcasts hname
      obtain ⟨e', he', x, hx, htaken⟩ := call_of_castsTo h hcasts hname
      exact hcalls e' he' x hx htaken
    cases hcapture with
    | reserved hname => exact hfree.identifier.2 hname
    | wide hname => exact ((isIdentifier_iff hparam).1 hfree.identifier).1 hname
    | bound hname => exact hfree.apart hname
    | output hname => exact houtput hname
    | helper he hprimitive hconversion hname =>
      exact hcalls _ he _ (mem_calls.2 (.inr hconversion)) hname
    | own hto hsame hname => exact hcasts _ _ hto (front_castName.2 (.inl ⟨hsame, hname⟩))
    | imported hto hother hcalled hname =>
      exact hcasts _ _ hto (front_castName.2 (.inr (.inl ⟨hother, _, hcalled, hname⟩)))
    | declared hto hother hcalled hname =>
      exact hcasts _ _ hto (front_castName.2 (.inr (.inr ⟨hother, hcalled, hname⟩)))
  · intro hnone
    refine ⟨(isIdentifier_iff hparam).2 ⟨?_, ?_⟩, ?_, hbody.2 ⟨?_, ?_⟩⟩
    · intro hname
      exact hnone (.wide hname)
    · intro hname
      exact hnone (.reserved hname)
    · intro hname
      exact hnone (.bound hname)
    · intro hname
      exact hnone (.output hname)
    · intro e he x hx hname
      exact hnone (capture_of_call h he hx hname)

end

/-- **Captures.** In a run that succeeds with a configuration that was checked, each function that is
written consists of what its body does, and it is free of captures exactly if no variable takes a
name away in one of the ways that are listed. -/
theorem generate_captures (hvalid : c.Valid) {input : Path} {g : Generated}
    (h : (generate w c input).answer s = .ok g) :
    ∃ p told, (Session.openFile w input).answer s = .ok p
      ∧ told.map Prod.fst = Signature.candidates p c.functionStart
      ∧ AllMeet w c p s told ∧ Ledger c told g
      ∧ ∀ d map output struct b, (d, .written map output struct b) ∈ told →
        (Fate.written map output struct b).function? c d.name
            = some (c.generatedStart ++ d.name,
              Emission.unlines (Emission.functionLines (planOf c d map output b)))
        ∧ (Emission.functionLines (planOf c d map output b)).filter Execution.isCode
          = [Execution.signatureLine (planOf c d map output b)]
            ++ (Execution.actions (planOf c d map output b)).flatMap Execution.Action.lines
            ++ ["\x7d"]
        ∧ (CaptureFree (planOf c d map output b) ↔ ¬ Capture w c p s output struct b) := by
  obtain ⟨p, told, hp, hdecls, hmeets, hledger⟩ := ledger_of_generate h
  refine ⟨p, told, hp, hdecls, hmeets, hledger, ?_⟩
  intro d map output struct b hd
  have hfate := hmeets _ hd
  cases hfate with
  | written hshape hlocate hclassify =>
    have hsorted : Sorted (planOf c d map output b).buckets := sorted_of_classify hclassify
    exact ⟨rfl, Execution.filter_isCode_functionLines hsorted, captureFree_iff hclassify hvalid d⟩

end Generation

/-! ## Names that are taken, and names that are not -/

namespace Sample

def tmpSourceLines : List String :=
  ["package gen", "type tmp int64", "type Book struct \x7b Kind tmp `json:\"kind\"` \x7d",
    "func MapToBook(m map[string]any) *Book \x7b return nil \x7d"]

/-- The type of the only field is called like the variable of a guard. -/
def tmpModule : Surroundings := moduleOf [(["m", "gen", "gen.go"], tmpSourceLines)]

def tmpFields : List Source.Field := [⟨"Kind", .name "tmp", ⟨[("json", "kind")]⟩, false⟩]

def tmpGen : Package := Package.ofFiles "gen" "/m/gen" ⟨"/m/gen"⟩
  [(⟨"/m/gen/gen.go"⟩, ⟨"gen", [],
    [⟨"tmp", .named (.name "int64"), false⟩, ⟨"Book", .struct tmpFields, false⟩], [mapToKind]⟩)]

def tmpFate : Generation.Fate :=
  .written ⟨"string", "any", true⟩ ⟨none, "Book", true⟩ ⟨tmpGen, "Book", tmpFields⟩
    ⟨[], [clashingField], [], [], []⟩

/-- The file that is generated. -/
def tmpFile : Generated := Generation.result {} tmpGen [(mapToKind, tmpFate)]

theorem openFile_tmp :
    (Session.openFile tmpModule ⟨"/m/gen/gen.go"⟩).answer .fresh = .ok tmpGen := by
  decide +kernel

theorem meets_tmp : Generation.AllMeet tmpModule {} tmpGen .fresh [(mapToKind, tmpFate)] := by
  intro df hdf
  obtain rfl := List.mem_singleton.1 hdf
  exact .written rfl rfl (by decide)

theorem generate_tmp :
    (Generation.generate tmpModule {} ⟨"/m/gen/gen.go"⟩).answer .fresh = .ok tmpFile :=
  Generation.generate_of_meets openFile_tmp rfl meets_tmp

/-- The parameter is called by a word that is no name. -/
def wordConfig : Config := { paramName := "func" }

def wordFile : Generated := Generation.result wordConfig kindGen [(mapToKind, kindFate)]

theorem meets_word :
    Generation.AllMeet kindModule wordConfig kindGen .fresh [(mapToKind, kindFate)] := by
  intro df hdf
  obtain rfl := List.mem_singleton.1 hdf
  exact .written rfl rfl (by decide)

theorem generate_word :
    (Generation.generate kindModule wordConfig ⟨"/m/gen/gen.go"⟩).answer .fresh = .ok wordFile :=
  Generation.generate_of_meets openFile_kind rfl meets_word

end Sample

namespace Generation

open Execution (CaptureFree)

theorem captureFree_kind : CaptureFree
    (planOf {} Sample.mapToKind ⟨"string", "any", true⟩ ⟨none, "Book", true⟩ Sample.kindBuckets) := by
  have hclassify : (Classification.classify Sample.kindModule ⟨"cast.To", "json"⟩
      ⟨Sample.kindGen, "Book", Sample.modelFields⟩ ⟨"string", "any", true⟩ Sample.kindGen).answer
        .fresh = .ok Sample.kindBuckets := by
    decide
  refine ⟨by decide, by decide, ?_⟩
  exact (Execution.actionFree_actions (sorted_of_classify hclassify)).2 (by decide)

/-- None of the ways is open for a type with a name of its own. -/
theorem generate_captures_kind :
    ({} : Config).Valid
      ∧ (generate Sample.kindModule {} ⟨"/m/gen/gen.go"⟩).answer .fresh = .ok Sample.kindFile
      ∧ CaptureFree (planOf {} Sample.mapToKind ⟨"string", "any", true⟩ ⟨none, "Book", true⟩
          Sample.kindBuckets)
      ∧ ¬ Capture Sample.kindModule {} Sample.kindGen .fresh ⟨none, "Book", true⟩
        ⟨Sample.kindGen, "Book", Sample.modelFields⟩ Sample.kindBuckets := by
  obtain ⟨p, told, hp, hdecls, hmeets, -, hall⟩ :=
    generate_captures Config.valid_default Sample.generate_kind
  obtain rfl : Sample.kindGen = p := Except.ok.inj (Sample.openFile_kind.symm.trans hp)
  obtain rfl : told = [(Sample.mapToKind, Sample.kindFate)] :=
    hmeets.unique Sample.meets_kind hdecls
  exact ⟨Config.valid_default, Sample.generate_kind, captureFree_kind,
    (hall _ _ _ _ _ (List.mem_singleton.2 rfl)).2.2.1 captureFree_kind⟩

/-- A function whose cast names the type `tmp`, which is a variable by then, and one whose parameter
is the word `func`. Both configurations have been checked. -/
theorem not_captureFree :
    ({} : Config).Valid
      ∧ (generate Sample.tmpModule {} ⟨"/m/gen/gen.go"⟩).answer .fresh = .ok Sample.tmpFile
      ∧ AllMeet Sample.tmpModule {} Sample.tmpGen .fresh [(Sample.mapToKind, Sample.tmpFate)]
      ∧ ¬ CaptureFree (planOf {} Sample.mapToKind ⟨"string", "any", true⟩ ⟨none, "Book", true⟩
        ⟨[], [Sample.clashingField], [], [], []⟩)
      ∧ Sample.wordConfig.Valid
      ∧ (generate Sample.kindModule Sample.wordConfig ⟨"/m/gen/gen.go"⟩).answer .fresh
        = .ok Sample.wordFile
      ∧ AllMeet Sample.kindModule Sample.wordConfig Sample.kindGen .fresh
        [(Sample.mapToKind, Sample.kindFate)]
      ∧ ¬ CaptureFree (planOf Sample.wordConfig Sample.mapToKind ⟨"string", "any", true⟩
        ⟨none, "Book", true⟩ Sample.kindBuckets) := by
  refine ⟨Config.valid_default, Sample.generate_tmp, Sample.meets_tmp, ?_, by decide,
    Sample.generate_word, Sample.meets_word, ?_⟩
  · intro hfree
    -- The guard has two variables, and the name of the cast is that of the first one.
    have hfill := hfree.body _ (List.mem_cons_of_mem _ List.mem_cons_self)
    exact hfill.1 "tmp" (by decide) List.mem_cons_self
  · intro hfree
    exact hfree.identifier.2 (by decide)

end Generation
end StructFill
