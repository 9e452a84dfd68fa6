import StructFill.Proofs.Emission.Typing

/-! # What is stored has the declared type

  Four places have a say in the line that fills a field: the descriptor of its
  type, the look-up of the declaration, the spelling of a cast, and the choice
  between the kinds of lines. They agree: each line that is written for a field
  stores a value of the type with which the field is declared, as long as no
  variable around the line takes a name that it needs.

  The exception is real. The lines are written for any names, and a type that
  is called `tmp` is a variable inside its own guard.
-/

namespace StructFill

open Source (Field TypeExpr)
open Session (Run)

namespace Enumeration

theorem ofName_eq_found {o owner : Package} {n base : String}
    (h : ofName o n = .found owner base) :
    owner = o ∧ Source.isPrimitive base = true
      ∧ ∃ d, o.findType? n = some d ∧ d.body = .named (.name base) := by
  unfold ofName at h
  cases hd : o.findType? n with
  | none => simp [hd] at h
  | some d =>
    obtain ⟨m, body, isAlias⟩ := d
    rw [hd] at h
    rcases body with fields | (n' | inner | ⟨q, n'⟩ | ⟨key, value⟩ | empty | text)
    case named.name =>
      by_cases hprimitive : Source.isPrimitive n' = true
      · obtain ⟨rfl, rfl⟩ : o = owner ∧ n' = base := by simpa [ofBody, hprimitive] using h
        exact ⟨rfl, hprimitive, _, rfl, rfl⟩
      · by_cases hany : n' = "any" <;> simp [ofBody, hprimitive, hany, isPrimitive_any] at h
    all_goals simp [ofBody] at h

end Enumeration

namespace Typing

open Classification

variable {w : Surroundings} {style : Naming.Style} {struct : OutputStruct} {map : MapParam}
  {p : Package} {s : Session} {returns : String → Option Ty} {source : String} {f : Field}
  {e : FilledField}

/-! ## Strategies -/

theorem primitive_eq_keep {isPointer : Bool} {n : String} {strategy : Strategy}
    (h : primitive style map isPointer n = .keep strategy) (hslot : strategy.slot ≠ .unsupported) :
    (isPointer = true ∧ strategy = .assign (Naming.conversion style.conversionStart n))
      ∨ (isPointer = false ∧ strategy = .direct (some (Naming.conversion style.conversionStart n)))
      ∨ (isPointer = false ∧ strategy = .direct none ∧ map.valueIsOpen = false
        ∧ n = map.valueType) := by
  unfold primitive at h
  by_cases hp : isPointer = true
  · simp [hp] at h
    exact .inl ⟨hp, h.symm⟩
  by_cases ho : map.valueIsOpen = true
  · simp [hp, ho] at h
    exact .inr (.inl ⟨by simpa using hp, h.symm⟩)
  by_cases hn : n = map.valueType
  · simp [hp, ho, hn] at h
    exact .inr (.inr ⟨by simpa using hp, h.symm, by simpa using ho, hn⟩)
  · simp [hp, ho, hn, unsupported] at h
    subst h
    exact absurd rfl hslot

theorem named_eq_keep {d : Descriptor} {enumeration : Enumeration} {strategy : Strategy}
    (h : named style d p enumeration = .keep strategy) (hslot : strategy.slot ≠ .unsupported) :
    ∃ o base, enumeration = .found o base ∧ strategy = .enumeration (castName d.name o p).1
      (Naming.conversion style.conversionStart base) (castName d.name o p).2 := by
  cases enumeration with
  | found o base => exact ⟨o, base, rfl, (Verdict.keep.inj h).symm⟩
  | unavailable _ | chained _ =>
    obtain rfl : Strategy.unsupported _ = strategy := Verdict.keep.inj h
    exact absurd rfl hslot
  | undeclared | other _ => simp [named] at h

/-- A cast is spelled as the name of the type that is declared in `o`. -/
theorem castName_fst (n : String) (o p : Package) :
    (castName n o p).1 = TypeName.text ⟨(castName n o p).2, n⟩ := by
  by_cases h : o.dir.same p.dir = true <;> simp [castName, h, TypeName.text]

theorem isOf_castName (n : String) (o p : Package) :
    TypeName.IsOf ⟨(castName n o p).2, n⟩ p o := by
  by_cases h : o.dir.same p.dir = true <;> simp [castName, h, TypeName.IsOf]

theorem text_call_tmp (c : String) : (Expr.call c (.var "tmp")).text = c ++ "(tmp)" := by
  simp [Expr.text, String.append_assoc]

theorem text_store_val (field : String) :
    (Step.store field (.address "val")).text = "obj." ++ field ++ " = &val" := by
  simp [Step.text, Expr.text, String.append_assoc]

/-- The lines of a guard are those of the statement that stores the value written in them. -/
theorem lines_guarded {v : Expr} (hvalue : Emission.guardedValue? e = some v.text) :
    (Statement.guarded source e.key (storing e.name e.isPointer v)).lines
      = Emission.guardedLines source e := by
  rw [Emission.guardedLines, hvalue]
  cases e.isPointer with
  | false => simp [Statement.lines, storing, Step.text, Expr.text, Emission.lookup,
      ← String.append_assoc]
  | true =>
    have hlines : (Statement.guarded source e.key (storing e.name true v)).lines =
        ["\tif tmp, ok := " ++ (Expr.element source e.key).text ++ "; ok \x7b",
          "\t\t" ++ ("val" ++ " := " ++ v.text),
          "\t\t" ++ (Step.store e.name (.address "val")).text, "\t\x7d"] := rfl
    rw [hlines, text_store_val]
    simp [Expr.text, Emission.lookup, ← String.append_assoc]

/-- The lines that are emitted for a field are those of its statement. -/
theorem lines_statement? {st : Statement}
    (hcast : ∀ cast c i, e.strategy = .enumeration cast c i →
      cast = TypeName.text ⟨i, e.descriptor.name⟩)
    (hst : statement? source e = some st) : st.lines = emitted source e.strategy.slot e := by
  unfold statement? at hst
  cases hs : e.strategy with
  | unsupported _ => simp [hs] at hst
  | direct c =>
    rw [hs] at hst
    cases c <;>
    · obtain rfl := Option.some.inj hst
      simp [Statement.lines, Step.text, Expr.text, emitted, Strategy.slot, Emission.directLines,
        hs, Strategy.conversion?, Emission.lookup, ← String.append_assoc]
  | enumeration cast c i =>
    rw [hs] at hst
    obtain rfl := Option.some.inj hst
    refine lines_guarded ?_
    rw [Emission.guardedValue?, hs, hcast _ _ _ hs, Expr.text, text_call_tmp]
    simp [String.append_assoc]
  | assign c =>
    rw [hs] at hst
    obtain rfl := Option.some.inj hst
    refine lines_guarded ?_
    rw [Emission.guardedValue?, hs, text_call_tmp]

/-! ## What the statements store -/

section statements

variable {c : String} {t t' u : Ty} {st : Statement}

/-- A statement that stores anything at all has no variable in its way. -/
theorem unshadowed_of_stores (hkey : ofName p map.keyType = .predeclared "string")
    (hst : statement? source e = some st)
    (h : Stores p returns (functionScope p struct map source) st e.name t) :
    Unshadowed source e := by
  unfold statement? at hst
  cases hs : e.strategy with
  | unsupported _ => simp [hs] at hst
  | direct c =>
    rw [hs] at hst
    cases c with
    | none =>
      obtain rfl := Option.some.inj hst
      rw [stores_plain lookup_obj_functionScope, hasType_element hkey] at h
      exact ⟨h.1, by simp [names, hs]⟩
    | some c =>
      obtain rfl := Option.some.inj hst
      rw [stores_plain lookup_obj_functionScope] at h
      cases h with
      | call helement hhelper _ =>
        have hreadable := ((hasType_element hkey).1 helement).1
        rw [lookup_functionScope_eq_none hreadable] at hhelper
        exact ⟨hreadable, by simpa [names, hs, Strategy.slot] using hhelper⟩
  -- Behind a guard the element and the helper are looked up in the scope of the guard, where `tmp`
  -- is declared too.
  | enumeration cast c i =>
    rw [hs] at hst
    obtain rfl := Option.some.inj hst
    rw [stores_guarded lookup_obj_functionScope] at h
    obtain ⟨v, u, helement, hvalue, -⟩ := h
    have hreadable := ((hasType_element hkey).1 helement).1
    cases hvalue with
    | convert hcall hhead _ _ =>
      cases hcall with
      | call _ hhelper _ =>
        rw [lookup_guardScope_eq_none hreadable (k := .enumeration) (by simp)] at hhead hhelper
        refine ⟨hreadable, ?_⟩
        simpa [names, hs, Strategy.slot] using And.intro hhead hhelper
  | assign c =>
    rw [hs] at hst
    obtain rfl := Option.some.inj hst
    rw [stores_guarded lookup_obj_functionScope] at h
    obtain ⟨v, u, helement, hvalue, -⟩ := h
    have hreadable := ((hasType_element hkey).1 helement).1
    cases hvalue with
    | call _ hhelper _ =>
      rw [lookup_guardScope_eq_none hreadable (k := .assign) (by simp)] at hhelper
      exact ⟨hreadable, by simpa [names, hs, Strategy.slot] using hhelper⟩

/-- The statement for a field stores values of one type only. -/
theorem stores_unique (hkey : ofName p map.keyType = .predeclared "string")
    (hst : statement? source e = some st)
    (h : Stores p returns (functionScope p struct map source) st e.name t)
    (h' : Stores p returns (functionScope p struct map source) st e.name t') :
    SameType p t t' := by
  unfold statement? at hst
  -- Under a guard the values have the type that the map has for them, and are typed once there.
  have hguarded : ∀ {v : Expr},
      Stores p returns (functionScope p struct map source)
        (.guarded source e.key (storing e.name e.isPointer v)) e.name t →
      Stores p returns (functionScope p struct map source)
        (.guarded source e.key (storing e.name e.isPointer v)) e.name t' → SameType p t t' := by
    intro v h h'
    rw [stores_guarded lookup_obj_functionScope] at h h'
    obtain ⟨_, u, helement, hu, rfl⟩ := h
    obtain ⟨_, u', helement', hu', rfl⟩ := h'
    obtain ⟨-, rfl⟩ := (hasType_element hkey).1 helement
    obtain ⟨-, rfl⟩ := (hasType_element hkey).1 helement'
    cases e.isPointer with
    | false => exact hu.unique hu'
    | true => exact .pointer (hu.unique hu')
  cases hs : e.strategy with
  | unsupported _ => simp [hs] at hst
  | direct c =>
    rw [hs] at hst
    cases c <;>
    · obtain rfl := Option.some.inj hst
      rw [stores_plain lookup_obj_functionScope] at h h'
      exact h.unique h'
  | enumeration cast c i =>
    rw [hs] at hst
    obtain rfl := Option.some.inj hst
    exact hguarded h h'
  | assign c =>
    rw [hs] at hst
    obtain rfl := Option.some.inj hst
    exact hguarded h h'

/-- A statement that stores values of the type `t` while nothing is in its way stores them exactly
then, and stores no others. -/
theorem stores_exactly (hkey : ofName p map.keyType = .predeclared "string")
    (hst : statement? source e = some st)
    (h : Unshadowed source e →
      Stores p returns (functionScope p struct map source) st e.name t) :
    (Stores p returns (functionScope p struct map source) st e.name t ↔ Unshadowed source e)
      ∧ ∀ t', Stores p returns (functionScope p struct map source) st e.name t' →
        SameType p t t' := by
  refine ⟨⟨unshadowed_of_stores hkey hst, h⟩, ?_⟩
  intro t' h'
  exact stores_unique hkey hst (h (unshadowed_of_stores hkey hst h')) h'

/-- A value of the map, as it is. -/
theorem stores_index (hkey : ofName p map.keyType = .predeclared "string")
    (h : Unshadowed source e) :
    Stores p returns (functionScope p struct map source)
      (.plain (.store e.name (.element source e.key))) e.name (ofName p map.valueType) := by
  rw [stores_plain lookup_obj_functionScope, hasType_element hkey]
  exact ⟨h.readable, rfl⟩

/-- A converted value of the map. -/
theorem stores_direct (hkey : ofName p map.keyType = .predeclared "string")
    (hreturns : returns c = some u) (hstrategy : e.strategy = .direct (some c))
    (h : Unshadowed source e) :
    Stores p returns (functionScope p struct map source)
      (.plain (.store e.name (.call c (.element source e.key)))) e.name u := by
  have hfree := h.free
  simp only [names, hstrategy, Strategy.slot, Option.map_some, Option.toList_some,
    List.mem_singleton, forall_eq] at hfree
  rw [stores_plain lookup_obj_functionScope]
  refine .call ((hasType_element hkey).2 ⟨h.readable, rfl⟩) ?_ hreturns
  exact (lookup_functionScope_eq_none h.readable).2 hfree

/-- What a guard stores has the type of its value, or is the address of such a value. -/
theorem stores_guarded_functionScope (hkey : ofName p map.keyType = .predeclared "string")
    {v : Expr} {isPointer : Bool} (hreadable : Readable source)
    (hv : HasType p returns
      (guardScope (functionScope p struct map source) (ofName p map.valueType)) v t) :
    Stores p returns (functionScope p struct map source)
      (.guarded source e.key (storing e.name isPointer v)) e.name
      (if isPointer then .pointer t else t) := by
  rw [stores_guarded lookup_obj_functionScope]
  exact ⟨_, t, (hasType_element hkey).2 ⟨hreadable, rfl⟩, hv, rfl⟩

/-- The value of a guard, converted. -/
theorem stores_assign (hkey : ofName p map.keyType = .predeclared "string")
    (hreturns : returns c = some u) (hstrategy : e.strategy = .assign c)
    (h : Unshadowed source e) :
    Stores p returns (functionScope p struct map source)
      (.guarded source e.key (storing e.name e.isPointer (.call c (.var "tmp")))) e.name
      (if e.isPointer then .pointer u else u) := by
  have hfree := h.free
  simp only [names, hstrategy, Strategy.slot, List.mem_singleton, forall_eq] at hfree
  refine stores_guarded_functionScope hkey h.readable (.call (.var rfl) ?_ hreturns)
  exact (lookup_guardScope_eq_none h.readable (by simp)).2 hfree

/-- The value of a guard, converted to the type over which the named type is declared, and then
to the named type. -/
theorem stores_enumeration (hkey : ofName p map.keyType = .predeclared "string")
    (hreturns : returns c = some u) {cast : String} {i : Option PackageImport} {o : Package}
    (hname : TypeName.IsOf ⟨i, e.descriptor.name⟩ p o)
    (hover : DeclaredOver o e.descriptor.name u) (hstrategy : e.strategy = .enumeration cast c i)
    (h : Unshadowed source e) :
    Stores p returns (functionScope p struct map source)
      (.guarded source e.key (storing e.name e.isPointer
        (.convert ⟨i, e.descriptor.name⟩ (.call c (.var "tmp"))))) e.name
      (if e.isPointer then .pointer (.declared o e.descriptor.name)
        else .declared o e.descriptor.name) := by
  have hfree := h.free
  simp only [names, hstrategy, Strategy.slot, List.mem_cons, List.not_mem_nil, or_false,
    forall_eq_or_imp, forall_eq] at hfree
  obtain ⟨hhead, hhelper⟩ := hfree
  have hlookup : ∀ {x}, x ∉ varsAround source .enumeration →
      (guardScope (functionScope p struct map source) (ofName p map.valueType)).lookup x = none :=
    fun hx => (lookup_guardScope_eq_none h.readable (by simp)).2 hx
  refine stores_guarded_functionScope hkey h.readable ?_
  exact .convert (.call (.var rfl) (hlookup hhelper) hreturns) (hlookup hhead) hname hover

end statements

/-! ## Fields -/

/-- The line for a field does what the declaration of the field asks for. -/
structure Sound (w : Surroundings) (s : Session) (p : Package) (returns : String → Option Ty)
    (struct : OutputStruct) (map : MapParam) (source : String) (f : Field) (e : FilledField) :
    Prop where
  /-- A field that is filled has a name of its own, and a type that is a name, or a pointer to
  one. -/
  named : f.embedded = false ∧ f.type.pointee.isReference = true
  /-- The emitted lines are a statement. It stores a value of the declared type exactly if no
  variable is in its way, and never a value of any other type. -/
  stores : ∃ t st, ofType? w s struct.owner f.type = some t ∧ statement? source e = some st
    ∧ st.lines = emitted source e.strategy.slot e
    ∧ (Stores p returns (functionScope p struct map source) st f.name t ↔ Unshadowed source e)
    ∧ ∀ t', Stores p returns (functionScope p struct map source) st f.name t' → SameType p t t'
  /-- For a pointer that is the address of a variable that the statement declares. -/
  pointer : f.type.isPointer = true → ∃ v, statement? source e =
    some (.guarded source e.key [.define "val" v, .store f.name (.address "val")])
  /-- A named type is the declaration that the look-up of the descriptor leads to. -/
  enumeration : e.strategy.slot = .enumeration → ∃ o,
    (Enumeration.owner w e.descriptor struct.owner).answer s = .ok (some o)
      ∧ ofType? w s struct.owner f.type.pointee = some (.declared o e.descriptor.name)
  /-- A value is taken as it is only if the map has values of the very type. -/
  index : e.strategy = .direct none → ∃ n, f.type = .name n ∧ Source.isPrimitive n = true
    ∧ map.valueType = n ∧ map.valueIsOpen = false

theorem ofType?_of_pointee {unit : Package} {t : TypeExpr} {u : Ty}
    (h : ofType? w s unit t.pointee = some u) :
    ofType? w s unit t = some (if t.isPointer then .pointer u else u) := by
  cases t with
  | pointer inner =>
    simp only [TypeExpr.pointee] at h
    simp [ofType?, h, TypeExpr.isPointer]
  | _ => simpa [TypeExpr.pointee, TypeExpr.isPointer] using h

theorem ofName_of_primitive {o : Package} {n : String} (ho : KeepsPrimitives o)
    (hn : Source.isPrimitive n = true) : ofName o n = .predeclared n := by
  simp [ofName, ho n (by simpa [Source.isPrimitive] using hn)]

theorem eq_name_of_pointee {t : TypeExpr} {n : String} (h : t.pointee = .name n)
    (hpointer : t.isPointer = false) : t = .name n := by
  cases t with
  | pointer inner => simp [TypeExpr.isPointer] at hpointer
  | _ => exact h

section fields

variable (hkey : map.keyType = "string")
  (hreturns : ∀ n, Source.isPrimitive n = true →
    returns (Naming.conversion style.conversionStart n) = some (.predeclared n))
  (hp : KeepsPrimitives p)

include hkey hp in
theorem ofName_keyType : ofName p map.keyType = .predeclared "string" := by
  rw [hkey]
  exact ofName_of_primitive hp (by decide)

include hkey hreturns hp in
/-- A primitive field gets the value itself, the converted value, or the address of it. -/
theorem sound_of_primitive {v : Verdict} {n : String} (howner : KeepsPrimitives struct.owner)
    (hdescribes : Describes style struct.owner (f, v) e)
    (hassigned : e.strategy.slot ≠ .unsupported)
    (hembedded : f.embedded = false) (ht : f.type.pointee = .name n)
    (hprimitive : Source.isPrimitive n = true) (hv : v = primitive style map f.type.isPointer n) :
    Sound w s p returns struct map source f e := by
  have hname : e.name = f.name := hdescribes.name
  have hpointer : e.isPointer = f.type.isPointer := hdescribes.isPointer
  have hstring := ofName_keyType hkey hp
  have hconversion := hreturns n hprimitive
  have hnamed : f.embedded = false ∧ f.type.pointee.isReference = true :=
    ⟨hembedded, by rw [ht]; rfl⟩
  have htype : ofType? w s struct.owner f.type
      = some (if e.isPointer then .pointer (.predeclared n) else .predeclared n) := by
    rw [hpointer]
    exact ofType?_of_pointee (by rw [ht, ofType?, ofName_of_primitive howner hprimitive])
  have hkeep : primitive style map f.type.isPointer n = .keep e.strategy :=
    hv.symm.trans hdescribes.verdict
  rcases primitive_eq_keep hkeep hassigned with ⟨hisPointer, hs⟩ | ⟨hisPointer, hs⟩ |
    ⟨hisPointer, hs, hopen, rfl⟩
  · -- A pointer is filled under a guard, whatever the map says of its values.
    have hst : statement? source e = some (.guarded source e.key (storing e.name e.isPointer
        (.call (Naming.conversion style.conversionStart n) (.var "tmp")))) := by
      rw [statement?, hs]
    refine ⟨hnamed, ⟨_, _, htype, hst, lines_statement? (by simp [hs]) hst, ?_⟩, fun _ => ?_,
      by simp [hs, Strategy.slot], by simp [hs]⟩
    · rw [← hname]
      exact stores_exactly hstring hst (stores_assign hstring hconversion hs)
    · rw [hst, hpointer, hisPointer, hname]
      exact ⟨_, rfl⟩
  · -- Values of unknown types are converted.
    have hst : statement? source e = some (.plain (.store e.name
        (.call (Naming.conversion style.conversionStart n) (.element source e.key)))) := by
      rw [statement?, hs]
    refine ⟨hnamed, ⟨_, _, htype, hst, lines_statement? (by simp [hs]) hst, ?_⟩, ?_,
      by simp [hs, Strategy.slot], by simp [hs]⟩
    · rw [← hname, hpointer, hisPointer]
      exact stores_exactly hstring hst (stores_direct hstring hconversion hs)
    · simp [hisPointer]
  · -- Values of the same type are taken as they are.
    have hst : statement? source e = some (.plain (.store e.name (.element source e.key))) := by
      rw [statement?, hs]
    refine ⟨hnamed, ⟨_, _, htype, hst, lines_statement? (by simp [hs]) hst, ?_⟩, ?_,
      by simp [hs, Strategy.slot], fun _ => ⟨_, eq_name_of_pointee ht hisPointer, hprimitive, rfl,
        hopen⟩⟩
    · rw [← hname, hpointer, hisPointer, ← ofName_of_primitive hp hprimitive]
      exact stores_exactly hstring hst (stores_index hstring)
    · simp [hisPointer]

theorem isReference_of_refers {unit o : Package} {t : TypeExpr} {n : String}
    (h : Refers w s unit t o n) : t.isReference = true := by
  cases h <;> rfl

/-- A type that refers to a declaration is the declared type. -/
theorem ofType?_of_refers {unit o : Package} {t : TypeExpr} {n : String} {u : Ty}
    (h : Refers w s unit t o n) (hover : DeclaredOver o n u) :
    ofType? w s unit t = some (.declared o n) := by
  obtain ⟨d, base, hd, -, -⟩ := hover
  cases h with
  | name _ _ => simp [ofType?, ofName, hd]
  | qualified hopen => simp [ofType?, hopen]

/-- The look-up of the descriptor leads to the declaration that the type refers to. -/
theorem owner_of_refers {unit o : Package} {t : TypeExpr} {n : String}
    (h : Refers w s unit t.pointee o n) :
    (Enumeration.owner w (Descriptor.ofType unit.name t) unit).answer s = .ok (some o)
      ∧ (Descriptor.ofType unit.name t).name = n := by
  generalize ht : t.pointee = pointee at h
  cases h with
  | name hprimitive hany =>
    rw [Descriptor.ofType_of_pointee_name ht, Descriptor.ofName, if_neg (by simp [hprimitive]),
      if_neg hany]
    exact ⟨rfl, rfl⟩
  | qualified hopen =>
    rw [Descriptor.ofType_of_pointee_qualified ht]
    exact ⟨hopen, rfl⟩

/-- A field of a named type is cast: the look-up of its type has found a declaration over a
primitive, and the cast is spelled for the package of the declaration. -/
theorem cast_of_readOff {v : Verdict} (hdescribes : Describes style struct.owner (f, v) e)
    (hassigned : e.strategy.slot ≠ .unsupported)
    (hread : ReadOff w style p s struct.owner f.type.pointee v) :
    ∃ o base, Refers w s struct.owner f.type.pointee o e.descriptor.name
      ∧ (Enumeration.owner w e.descriptor struct.owner).answer s = .ok (some o)
      ∧ Source.isPrimitive base = true
      ∧ (∃ d, o.findType? e.descriptor.name = some d ∧ d.body = .named (.name base))
      ∧ e.strategy = .enumeration (castName e.descriptor.name o p).1
        (Naming.conversion style.conversionStart base) (castName e.descriptor.name o p).2 := by
  have hkeep : v = .keep e.strategy := hdescribes.verdict
  subst hkeep
  rcases hread with ⟨o, n, hrefers, -, d, rfl, hnamed⟩ | ⟨-, hslot⟩
  · obtain ⟨o', base, hfound, hs⟩ := named_eq_keep hnamed.symm hassigned
    obtain ⟨rfl, hprimitive, hdeclared⟩ := Enumeration.ofName_eq_found hfound
    obtain ⟨hlookup, hn⟩ := owner_of_refers hrefers
    rw [← hdescribes.descriptor] at hlookup hn
    rw [← hn] at hrefers hdeclared hs
    exact ⟨o', base, hrefers, hlookup, hprimitive, hdeclared, hs⟩
  · exact absurd (Option.some.inj hslot) hassigned

include hkey hreturns hp in
/-- A field of a named type gets the converted value, cast to the named type, or the address of
it. -/
theorem sound_of_readOff {v : Verdict} (howner : KeepsPrimitives struct.owner)
    (himported : ∀ q o, (Session.openImport w struct.owner q).answer s = .ok (some o) →
      KeepsPrimitives o)
    (hdescribes : Describes style struct.owner (f, v) e)
    (hassigned : e.strategy.slot ≠ .unsupported)
    (hembedded : f.embedded = false) (hread : ReadOff w style p s struct.owner f.type.pointee v) :
    Sound w s p returns struct map source f e := by
  have hname : e.name = f.name := hdescribes.name
  have hpointer : e.isPointer = f.type.isPointer := hdescribes.isPointer
  obtain ⟨o, base, hrefers, hlookup, hprimitive, ⟨decl, hdecl, hbody⟩, hs⟩ :=
    cast_of_readOff hdescribes hassigned hread
  -- The declaration stands in the package of the struct or in one that it imports.
  have ho : KeepsPrimitives o := by
    generalize f.type.pointee = pointee at hrefers
    cases hrefers with
    | name _ _ => exact howner
    | qualified hopen => exact himported _ _ hopen
  have hover : DeclaredOver o e.descriptor.name (.predeclared base) :=
    ⟨decl, base, hdecl, hbody, (ofName_of_primitive ho hprimitive).symm⟩
  have htype : ofType? w s struct.owner f.type.pointee = some (.declared o e.descriptor.name) :=
    ofType?_of_refers hrefers hover
  have hst : statement? source e = some (.guarded source e.key (storing e.name e.isPointer
      (.convert ⟨(castName e.descriptor.name o p).2, e.descriptor.name⟩
        (.call (Naming.conversion style.conversionStart base) (.var "tmp"))))) := by
    rw [statement?, hs]
  have hcast : ∀ cast c i, e.strategy = .enumeration cast c i →
      cast = TypeName.text ⟨i, e.descriptor.name⟩ := by
    intro cast c i hi
    obtain ⟨rfl, -, rfl⟩ := Strategy.enumeration.inj (hs.symm.trans hi)
    exact castName_fst ..
  refine ⟨⟨hembedded, isReference_of_refers hrefers⟩,
    ⟨_, _, ofType?_of_pointee htype, hst, lines_statement? hcast hst, ?_⟩, fun h => ?_,
    fun _ => ⟨o, hlookup, htype⟩, by simp [hs]⟩
  · rw [← hname, ← hpointer]
    have hstring := ofName_keyType hkey hp
    exact stores_exactly hstring hst
      (stores_enumeration hstring (hreturns base hprimitive) (isOf_castName ..) hover hs)
  · rw [hst, hpointer, h, hname]
    exact ⟨_, rfl⟩

include hkey hreturns hp in
theorem sound_of_fieldVerdict {v : Verdict} (howner : KeepsPrimitives struct.owner)
    (himported : ∀ q o, (Session.openImport w struct.owner q).answer s = .ok (some o) →
      KeepsPrimitives o)
    (hv : (fieldVerdict w style struct map p f).answer s = .ok v)
    (hdescribes : Describes style struct.owner (f, v) e)
    (hassigned : e.strategy.slot ≠ .unsupported) :
    Sound w s p returns struct map source f e := by
  rcases fieldVerdict_cases hv with ⟨-, hslot⟩ | ⟨hembedded, n, ht, hprimitive, hbasic⟩ |
    ⟨hembedded, -, hread⟩
  · have hkeep : v = .keep e.strategy := hdescribes.verdict
    subst hkeep
    exact absurd (Option.some.inj hslot) hassigned
  · exact sound_of_primitive hkey hreturns hp howner hdescribes hassigned hembedded ht hprimitive
      hbasic
  · exact sound_of_readOff hkey hreturns hp howner himported hdescribes hassigned hembedded hread

end fields

end Typing

namespace Sample

open Typing

/-- Helpers that return the primitives they are called for. -/
def returns (helper : String) : Option Ty :=
  (Source.primitives.find? fun n => Naming.conversion style.conversionStart n == helper).map
    .predeclared

theorem returns_conversion (n : String) (hn : Source.isPrimitive n = true) :
    returns (Naming.conversion style.conversionStart n) = some (.predeclared n) := by
  have hfind : ∀ n ∈ Source.primitives, (Source.primitives.find? fun m =>
      Naming.conversion style.conversionStart m
        == Naming.conversion style.conversionStart n) = some n := by
    decide
  rw [returns, hfind n (by simpa [Source.isPrimitive] using hn)]
  rfl

/-- One import of the package cannot be read, so a name leads to the other or to nothing. -/
theorem openImport_package {q : String} {o : Package}
    (h : (Session.openImport surroundings package q).answer session = .ok (some o)) :
    o = kinds := by
  by_cases hbroken : q = "broken"
  · subst hbroken
    cases h
  by_cases hkinds : q = "kinds"
  · subst hkinds
    have hopen : (Session.openImport surroundings package "kinds").answer session
        = .ok (some kinds) := rfl
    exact (Option.some.inj (Except.ok.inj (hopen.symm.trans h))).symm
  have hnone : package.importPathOf? q = none := by
    simp [Package.importPathOf?, package, Table.get?, List.lookup_eq_none_iff, hbroken, hkinds]
  rw [Session.openImport, hnone] at h
  -- neither declared name is the one that is asked for, so both imports are passed over
  change (Session.probe surroundings q ["m/broken", "m/kinds"]).answer session = _ at h
  rw [Session.probe, if_neg (fun hdefault => hbroken (hdefault.symm.trans rfl))] at h
  change (Session.probe surroundings q ["m/kinds"]).answer session = _ at h
  rw [Session.probe, if_neg (fun hdefault => hkinds (hdefault.symm.trans rfl))] at h
  change (if kinds.name = q then pure (some kinds) else pure none :
    Run (Option Package)).answer session = _ at h
  rw [if_neg (fun hname => hkinds (hname.symm.trans rfl))] at h
  cases h

/-- A package with a type that is called like the variable of a guard. -/
def clash : Package :=
  { Package.bare "gen" "/gen" ⟨"/gen"⟩ with
    types := [⟨"tmp", .named (.name "int64"), false⟩]
    typeIndex := [("tmp", 0)] }

def clashing : OutputStruct :=
  ⟨clash, "Book", [⟨"Kind", .name "tmp", ⟨[("json", "kind")]⟩, false⟩]⟩

def clashingField : FilledField :=
  ⟨"Kind", "kind", "tmp", ⟨.struct, .local "gen", "tmp"⟩, false, false,
    .enumeration "tmp" "cast.ToInt64" none⟩

end Sample

namespace Typing

open Classification

variable {w : Surroundings} {style : Naming.Style} {struct : OutputStruct} {map : MapParam}
  {p : Package} {s : Session} {returns : String → Option Ty} {source : String}

/-- **The values that are stored.** If the helpers return the primitives that they are called
for, and primitives are not declared anew, then the line for each field that is assigned stores a
value of the type with which the field is declared, exactly if no variable takes a name that the
line needs. -/
theorem classify_stores {b : Buckets} (hkey : map.keyType = "string")
    (hreturns : ∀ n, Source.isPrimitive n = true →
      returns (Naming.conversion style.conversionStart n) = some (.predeclared n))
    (hp : KeepsPrimitives p) (howner : KeepsPrimitives struct.owner)
    (himported : ∀ q o, (Session.openImport w struct.owner q).answer s = .ok (some o) →
      KeepsPrimitives o)
    (h : (classify w style struct map p).answer s = .ok b) :
    ∃ slot : Fin struct.fields.length → Option Slot,
      ∀ k, List.Forall₂ (fun i e => Carries style k (struct.fields.get i) e
          ∧ (k ≠ .unsupported → Sound w s p returns struct map source (struct.fields.get i) e))
        (positions slot (some k)) (b.entries k) := by
  obtain ⟨placed, hfields, hjudged, hpartition⟩ := classify_partition h
  refine ⟨slotAt hfields, ?_⟩
  intro k
  refine (hpartition.describes_positions hfields k).imp ?_
  rintro i e ⟨hslot, he⟩
  have hcarries := carries_of_describes hfields hslot he
  refine ⟨hcarries, ?_⟩
  intro hk
  -- What an entry says goes back to the verdict on its field, and the typing is a matter of that.
  have hverdict := hjudged _ (placedAt_mem hfields i)
  rw [← fst_placedAt hfields i]
  exact sound_of_fieldVerdict hkey hreturns hp howner himported hverdict he
    (hcarries.slot ▸ hk)

theorem classify_stores_book :
    (classify Sample.surroundings Sample.style Sample.book Sample.openMap Sample.package).answer
        Sample.session = .ok Sample.buckets
      ∧ ∃ slot : Fin Sample.book.fields.length → Option Slot,
        ∀ k, List.Forall₂ (fun i e => Carries Sample.style k (Sample.book.fields.get i) e
            ∧ (k ≠ .unsupported → Sound Sample.surroundings Sample.session Sample.package
              Sample.returns Sample.book Sample.openMap "src" (Sample.book.fields.get i) e))
          (positions slot (some k)) (Sample.buckets.entries k) := by
  refine ⟨Sample.classify_book, ?_⟩
  have hpackage : KeepsPrimitives Sample.package := by decide
  have hkinds : KeepsPrimitives Sample.kinds := by decide
  refine classify_stores rfl Sample.returns_conversion hpackage hpackage (fun q o hopen => ?_)
    Sample.classify_book
  rw [Sample.openImport_package hopen]
  exact hkinds

/-- The variable of the guard takes the name of the type: the line stores no value at all, let
alone one of the declared type. -/
theorem not_stores_tmp :
    KeepsPrimitives Sample.clash
      ∧ (∀ q, (Session.openImport Sample.surroundings Sample.clash q).answer .fresh = .ok none)
      ∧ (classify Sample.surroundings Sample.style Sample.clashing Sample.openMap
          Sample.clash).answer .fresh = .ok ⟨[], [Sample.clashingField], [], [], []⟩
      ∧ ofType? Sample.surroundings .fresh Sample.clash (.name "tmp")
        = some (.declared Sample.clash "tmp")
      ∧ ∃ st, statement? "src" Sample.clashingField = some st
        ∧ st.lines = ["\tif tmp, ok := src[\"kind\"]; ok \x7b",
          "\t\tobj.Kind = tmp(cast.ToInt64(tmp))", "\t\x7d"]
        ∧ ∀ t, ¬ Stores Sample.clash Sample.returns
          (functionScope Sample.clash Sample.clashing Sample.openMap "src") st "Kind" t := by
  have hclash : KeepsPrimitives Sample.clash := by decide
  refine ⟨hclash, fun _ => rfl, rfl, rfl, _, rfl, by decide, ?_⟩
  intro t hstores
  -- The cast needs the name that the guard has just given to a value.
  have hunshadowed : Unshadowed "src" Sample.clashingField :=
    unshadowed_of_stores (ofName_keyType rfl hclash) rfl hstores
  exact hunshadowed.free "tmp" (by decide) (by decide)

end Typing
end StructFill
