import StructFill.Proofs.Classification.Partition

/-! # Which fields are filled

  Whether a field is assigned, dropped or left to be filled by hand depends on
  its type without the outermost pointer.

  * A **primitive** is assigned when the field is a pointer, or when the map
    says nothing about its values, or when it is the type of these values.
  * A **reference** to a declaration is assigned when the declaration is
    directly over a primitive, and dropped when there is no such declaration
    or when it is over something that is not referred to by name.
  * **Everything else** is left to be filled by hand: chains of declarations,
    packages that are not imported or cannot be read, and shapes without a
    name.
-/

namespace StructFill

open Source (Field TypeExpr TypeBody)
open Session (Run)

/-! ## Declarations -/

/-- The type is written as a name, with or without a package. -/
def Source.TypeExpr.isReference : TypeExpr → Bool
  | .name _ | .qualified .. => true
  | _ => false

namespace Enumeration

/-- The first declaration of `n` in the package `o` is directly over a primitive. -/
def DeclaresEnumeration (o : Package) (n : String) : Prop :=
  ∃ d base, o.findType? n = some d ∧ d.body = .named (.name base)
    ∧ Source.isPrimitive base = true

/-- The package `o` does not declare `n`, or its first declaration of `n` is a struct, or it is
over the empty interface by its name, or over a type that is no reference at all. -/
def DeclaresOther (o : Package) (n : String) : Prop :=
  o.findType? n = none ∨ ∃ d, o.findType? n = some d
    ∧ ((∃ fields, d.body = .struct fields)
      ∨ ∃ t, d.body = .named t ∧ (t = .name "any" ∨ t.isReference = false))

/-- The list for a field whose type turns out to be one of these. -/
def slot? : Enumeration → Option Slot
  | .found .. => some .enumeration
  | .unavailable _ | .chained _ => some .unsupported
  | .undeclared | .other _ => none

theorem isPrimitive_any : Source.isPrimitive "any" = false := by decide

theorem slot?_ofBody_eq_enumeration_iff (o : Package) (body : TypeBody) :
    (ofBody o body).slot? = some .enumeration ↔
      ∃ base, body = .named (.name base) ∧ Source.isPrimitive base = true := by
  rcases body with fields | (n | inner | ⟨q, n⟩ | ⟨key, value⟩ | empty | text)
  case named.name =>
    by_cases hprimitive : Source.isPrimitive n = true
    · simp [ofBody, slot?, hprimitive]
    · by_cases hany : n = "any" <;> simp [ofBody, slot?, hprimitive, hany, isPrimitive_any]
  all_goals simp [ofBody, slot?]

theorem slot?_ofBody_eq_none_iff (o : Package) (body : TypeBody) :
    (ofBody o body).slot? = none ↔ (∃ fields, body = .struct fields)
      ∨ ∃ t, body = .named t ∧ (t = .name "any" ∨ t.isReference = false) := by
  rcases body with fields | (n | inner | ⟨q, n⟩ | ⟨key, value⟩ | empty | text)
  case named.name =>
    by_cases hprimitive : Source.isPrimitive n = true
    · have hany : n ≠ "any" := by
        rintro rfl
        exact absurd hprimitive (by simp [isPrimitive_any])
      simp [ofBody, slot?, hprimitive, hany, TypeExpr.isReference]
    · by_cases hany : n = "any" <;>
        simp [ofBody, slot?, hprimitive, hany, isPrimitive_any, TypeExpr.isReference]
  all_goals simp [ofBody, slot?, TypeExpr.isReference]

theorem slot?_ofName_eq_enumeration_iff (o : Package) (n : String) :
    (ofName o n).slot? = some .enumeration ↔ DeclaresEnumeration o n := by
  unfold ofName DeclaresEnumeration
  cases o.findType? n with
  | none => simp [slot?]
  | some d => simp [slot?_ofBody_eq_enumeration_iff]

theorem slot?_ofName_eq_none_iff (o : Package) (n : String) :
    (ofName o n).slot? = none ↔ DeclaresOther o n := by
  unfold ofName DeclaresOther
  cases o.findType? n with
  | none => simp [slot?]
  | some d => simp [slot?_ofBody_eq_none_iff]

/-- A field of a declared type is never assigned directly or through a pointer alone. -/
theorem slot?_cases (e : Enumeration) :
    e.slot? = some .enumeration ∨ e.slot? = none ∨ e.slot? = some .unsupported := by
  cases e <;> simp [slot?]

/-- The look-up of a type: its declaration is read when its package can be opened; in all other
cases that do not end the run it stays unknown. -/
theorem resolve_eq_ok {w : Surroundings} {s : Session} {d : Descriptor} {p : Package}
    {e : Enumeration} (h : (resolve w d p).answer s = .ok e) :
    (∃ o, (owner w d p).answer s = .ok (some o) ∧ e = ofName o d.name)
      ∨ ((∀ o, (owner w d p).answer s ≠ .ok (some o)) ∧ e.slot? = some .unsupported) := by
  rw [resolve, Run.answer_bind, Run.answer_outcome] at h
  rcases howner : (owner w d p).answer s with err | _ | o
  · rw [howner] at h
    change (if err.isFatal then throw err else pure (unavailable err.message) :
      Run Enumeration).answer _ = _ at h
    split at h
    · simp at h
    · obtain rfl : unavailable err.message = e := by simpa using h
      exact .inr ⟨by simp, rfl⟩
  · rw [howner] at h
    obtain rfl : unavailable _ = e := Except.ok.inj h
    exact .inr ⟨by simp, rfl⟩
  · rw [howner] at h
    obtain rfl : ofName o d.name = e := Except.ok.inj h
    exact .inl ⟨o, rfl, rfl⟩

end Enumeration

/-! ## Descriptors -/

namespace Descriptor

theorem ofType_of_pointee_name {package n : String} {t : TypeExpr} (h : t.pointee = .name n) :
    ofType package t = ofName package n := by
  cases t with
  | pointer inner =>
    obtain rfl : inner = .name n := h
    rfl
  | name m =>
    obtain rfl : m = n := TypeExpr.name.inj h
    rfl
  | _ => simp [TypeExpr.pointee] at h

theorem ofType_of_pointee_qualified {package q n : String} {t : TypeExpr}
    (h : t.pointee = .qualified q n) : ofType package t = ⟨.struct, .imported q, n⟩ := by
  cases t with
  | pointer inner =>
    obtain rfl : inner = .qualified q n := h
    rfl
  | qualified q' m =>
    obtain ⟨rfl, rfl⟩ := TypeExpr.qualified.inj h
    rfl
  | _ => simp [TypeExpr.pointee] at h

/-- Without a name there is neither a primitive nor a declaration to look up. -/
theorem kind_ofType_of_not_reference (package : String) {t : TypeExpr}
    (h : t.pointee.isReference = false) :
    (ofType package t).kind ≠ .base ∧ (ofType package t).kind ≠ .struct := by
  cases t with
  | pointer inner => cases inner <;> simp_all [ofType, TypeExpr.pointee, TypeExpr.isReference]
  | _ => simp_all [ofType, TypeExpr.pointee, TypeExpr.isReference]

end Descriptor

/-! ## Fields -/

namespace Classification

open Enumeration (DeclaresEnumeration DeclaresOther)

/-- Seen from the package `unit`, a type refers to the name `n` of the package `o`. -/
inductive Refers (w : Surroundings) (s : Session) (unit : Package) :
    TypeExpr → Package → String → Prop where
  | name {n : String} (hprimitive : Source.isPrimitive n = false) (hany : n ≠ "any") :
    Refers w s unit (.name n) unit n
  | qualified {q n : String} {o : Package}
    (hopen : (Session.openImport w unit q).answer s = .ok (some o)) :
    Refers w s unit (.qualified q n) o n

/-- The type is a primitive, or a pointer to one, that the map's values can be made into. -/
def TakesValue (map : MapParam) (t : TypeExpr) : Prop :=
  ∃ n, t.pointee = .name n ∧ Source.isPrimitive n = true
    ∧ (t.isPointer = true ∨ map.valueIsOpen = true ∨ n = map.valueType)

/-- The field is one that is assigned. -/
def Fills (w : Surroundings) (s : Session) (unit : Package) (map : MapParam) (f : Field) : Prop :=
  f.embedded = false ∧ (TakesValue map f.type
    ∨ ∃ o n, Refers w s unit f.type.pointee o n ∧ DeclaresEnumeration o n)

/-- The field is one that is dropped. -/
def Drops (w : Surroundings) (s : Session) (unit : Package) (f : Field) : Prop :=
  f.embedded = false ∧ ∃ o n, Refers w s unit f.type.pointee o n ∧ DeclaresOther o n

variable {w : Surroundings} {style : Naming.Style} {struct : OutputStruct} {map : MapParam}
  {p : Package} {s : Session}

theorem slot?_named (d : Descriptor) (e : Enumeration) : (named style d p e).slot? = e.slot? := by
  cases e <;> rfl

/-- A primitive field is assigned or left to be filled by hand, but never dropped. -/
theorem slot?_primitive (isPointer : Bool) (n : String) :
    (∃ k, (primitive style map isPointer n).slot? = some k ∧ k ≠ .unsupported) ↔
      isPointer = true ∨ map.valueIsOpen = true ∨ n = map.valueType := by
  unfold primitive
  by_cases hp : isPointer = true
  · simp [hp, Verdict.slot?, Strategy.slot]
  by_cases ho : map.valueIsOpen = true
  · simp [hp, ho, Verdict.slot?, Strategy.slot]
  by_cases hn : n = map.valueType <;>
    simp [hp, ho, hn, unsupported, Verdict.slot?, Strategy.slot]

theorem slot?_primitive_ne_none (isPointer : Bool) (n : String) :
    (primitive style map isPointer n).slot? ≠ none := by
  unfold primitive
  split
  · simp [Verdict.slot?]
  split
  · simp [Verdict.slot?]
  split <;> simp [unsupported, Verdict.slot?]

/-- What becomes of a field that is looked up is read off the declaration, if the package of
the declaration can be opened. -/
theorem verdict_of_resolve {d : Descriptor} {unit : Package} {v : Verdict}
    (h : (named style d p <$> Enumeration.resolve w d unit).answer s = .ok v) :
    (∃ o, (Enumeration.owner w d unit).answer s = .ok (some o)
        ∧ v = named style d p (Enumeration.ofName o d.name))
      ∨ ((∀ o, (Enumeration.owner w d unit).answer s ≠ .ok (some o))
        ∧ v.slot? = some .unsupported) := by
  obtain ⟨e, he, rfl⟩ := Run.answer_map_eq_ok.1 h
  rcases Enumeration.resolve_eq_ok he with ⟨o, howner, rfl⟩ | ⟨hnone, hslot⟩
  · exact .inl ⟨o, howner, rfl⟩
  · exact .inr ⟨hnone, by rw [slot?_named, hslot]⟩

/-- A verdict is read off the one declaration that a type refers to; without one the field is
left to be filled by hand. -/
def ReadOff (w : Surroundings) (style : Naming.Style) (p : Package) (s : Session) (unit : Package)
    (t : TypeExpr) (v : Verdict) : Prop :=
  (∃ o n, Refers w s unit t o n ∧ (∀ o' n', Refers w s unit t o' n' → o' = o ∧ n' = n)
      ∧ ∃ d, d.name = n ∧ v = named style d p (Enumeration.ofName o n))
    ∨ ((∀ o n, ¬ Refers w s unit t o n) ∧ v.slot? = some .unsupported)

theorem ReadOff.fills_iff {unit : Package} {t : TypeExpr} {v : Verdict}
    (h : ReadOff w style p s unit t v) :
    (∃ k, v.slot? = some k ∧ k ≠ .unsupported) ↔
      ∃ o n, Refers w s unit t o n ∧ DeclaresEnumeration o n := by
  rcases h with ⟨o, n, hrefers, hunique, d, -, rfl⟩ | ⟨hnone, hslot⟩
  · rw [slot?_named]
    have henumeration := Enumeration.slot?_ofName_eq_enumeration_iff o n
    constructor
    · rintro ⟨k, hk, hne⟩
      refine ⟨o, n, hrefers, henumeration.1 ?_⟩
      -- Of the lists with a strategy only one is left for a declared type.
      rcases Enumeration.slot?_cases (Enumeration.ofName o n) with he | he | he
      · exact he
      · simp [he] at hk
      · exact absurd (Option.some.inj (hk.symm.trans he)) hne
    · rintro ⟨o', n', hrefers', hdeclares⟩
      -- The type refers to one declaration at most, so this is the one that was read.
      obtain ⟨rfl, rfl⟩ := hunique o' n' hrefers'
      exact ⟨.enumeration, henumeration.2 hdeclares, by simp⟩
  · simp [hslot, hnone]

theorem ReadOff.drops_iff {unit : Package} {t : TypeExpr} {v : Verdict}
    (h : ReadOff w style p s unit t v) :
    v.slot? = none ↔ ∃ o n, Refers w s unit t o n ∧ DeclaresOther o n := by
  rcases h with ⟨o, n, hrefers, hunique, d, -, rfl⟩ | ⟨hnone, hslot⟩
  · rw [slot?_named]
    have hother := Enumeration.slot?_ofName_eq_none_iff o n
    constructor
    · exact fun hdropped => ⟨o, n, hrefers, hother.1 hdropped⟩
    · rintro ⟨o', n', hrefers', hdeclares⟩
      obtain ⟨rfl, rfl⟩ := hunique o' n' hrefers'
      exact hother.2 hdeclares
  · simp [hslot, hnone]

/-- A shape without a name is left to be filled by hand. -/
theorem slot?_of_unnamed {f : Field} {d : Descriptor} {v : Verdict} (hembedded : f.embedded = false)
    (hbase : d.kind ≠ .base) (hstruct : d.kind ≠ .struct)
    (h : (verdict w style struct map p f d).answer s = .ok v) : v.slot? = some .unsupported := by
  rw [verdict, hembedded, if_neg (by simp)] at h
  cases hkind : d.kind with
  | base => exact absurd hkind hbase
  | struct => exact absurd hkind hstruct
  | pointer | interface | unknown =>
    rw [hkind] at h
    obtain rfl : unsupported _ = v := Except.ok.inj h
    rfl

/-- A field whose type is no primitive goes by what the type refers to. -/
theorem readOff_of_fieldVerdict {f : Field} {v : Verdict} (hembedded : f.embedded = false)
    (hprimitive : ∀ n, f.type.pointee = .name n → Source.isPrimitive n = false)
    (h : (fieldVerdict w style struct map p f).answer s = .ok v) :
    ReadOff w style p s struct.owner f.type.pointee v := by
  cases ht : f.type.pointee with
  | name n =>
    have hnot := hprimitive n ht
    rw [fieldVerdict, Descriptor.ofType_of_pointee_name ht, Descriptor.ofName,
      if_neg (by simp [hnot])] at h
    -- `any` is a name, but it does not refer to a declaration.
    by_cases hany : n = "any"
    · rw [if_pos hany] at h
      refine .inr ⟨?_, slot?_of_unnamed hembedded (by simp) (by simp) h⟩
      rintro o m ⟨-, hne⟩
      exact hne hany
    · rw [if_neg hany, verdict, hembedded, if_neg (by simp)] at h
      rcases verdict_of_resolve h with ⟨o, howner, hv⟩ | ⟨hnone, -⟩
      · obtain rfl : struct.owner = o := Option.some.inj (Except.ok.inj howner)
        refine .inl ⟨struct.owner, n, .name hnot hany, ?_, _, rfl, hv⟩
        rintro o' n' ⟨-, -⟩
        exact ⟨rfl, rfl⟩
      · exact absurd rfl (hnone struct.owner)
  | qualified q n =>
    rw [fieldVerdict, Descriptor.ofType_of_pointee_qualified ht, verdict, hembedded,
      if_neg (by simp)] at h
    rcases verdict_of_resolve h with ⟨o, howner, hv⟩ | ⟨hnone, hslot⟩
    · refine .inl ⟨o, n, .qualified howner, ?_, _, rfl, hv⟩
      intro o' n' hrefers
      cases hrefers with
      | qualified hopen =>
        exact ⟨Option.some.inj (Except.ok.inj (hopen.symm.trans howner)), rfl⟩
    · refine .inr ⟨?_, hslot⟩
      intro o' n' hrefers
      cases hrefers with
      | qualified hopen => exact hnone o' hopen
  | pointer _ | map _ _ | interface _ | other _ =>
    have hunnamed : f.type.pointee.isReference = false := by rw [ht]; rfl
    obtain ⟨hbase, hstruct⟩ := Descriptor.kind_ofType_of_not_reference struct.owner.name hunnamed
    refine .inr ⟨?_, slot?_of_unnamed hembedded hbase hstruct h⟩
    rintro o n ⟨⟩

/-- A primitive field is decided by the map alone. -/
theorem fieldVerdict_of_primitive {f : Field} {v : Verdict} {n : String}
    (hembedded : f.embedded = false) (ht : f.type.pointee = .name n)
    (hprimitive : Source.isPrimitive n = true)
    (h : (fieldVerdict w style struct map p f).answer s = .ok v) :
    v = primitive style map f.type.isPointer n := by
  rw [fieldVerdict, Descriptor.ofType_of_pointee_name ht, Descriptor.ofName, if_pos hprimitive,
    verdict, hembedded, if_neg (by simp)] at h
  exact (Except.ok.inj h).symm

theorem verdict_of_embedded {f : Field} {v : Verdict} (hembedded : f.embedded = true)
    (h : (fieldVerdict w style struct map p f).answer s = .ok v) :
    v.slot? = some .unsupported := by
  rw [fieldVerdict, verdict, hembedded, if_pos rfl] at h
  obtain rfl : unsupported _ = v := Except.ok.inj h
  rfl

/-- The three ways to a verdict: embedded fields are left to be filled by hand, primitive fields
are decided by the map, all others by what their types refer to. -/
theorem fieldVerdict_cases {f : Field} {v : Verdict}
    (h : (fieldVerdict w style struct map p f).answer s = .ok v) :
    (f.embedded = true ∧ v.slot? = some .unsupported)
      ∨ (f.embedded = false ∧ ∃ n, f.type.pointee = .name n ∧ Source.isPrimitive n = true
        ∧ v = primitive style map f.type.isPointer n)
      ∨ (f.embedded = false ∧ (∀ n, f.type.pointee = .name n → Source.isPrimitive n = false)
        ∧ ReadOff w style p s struct.owner f.type.pointee v) := by
  cases hembedded : f.embedded with
  | true => exact .inl ⟨rfl, verdict_of_embedded hembedded h⟩
  | false =>
    by_cases hbasic : ∃ n, f.type.pointee = .name n ∧ Source.isPrimitive n = true
    · obtain ⟨n, ht, hprimitive⟩ := hbasic
      have hv := fieldVerdict_of_primitive hembedded ht hprimitive h
      exact .inr (.inl ⟨rfl, n, ht, hprimitive, hv⟩)
    · have hnot : ∀ n, f.type.pointee = .name n → Source.isPrimitive n = false := by
        simpa using hbasic
      exact .inr (.inr ⟨rfl, hnot, readOff_of_fieldVerdict hembedded hnot h⟩)

/-- **What becomes of one field.** It is assigned exactly if its type and the map allow it, and
dropped exactly if its type is declared as something else. -/
theorem slot?_of_fieldVerdict {f : Field} {v : Verdict}
    (h : (fieldVerdict w style struct map p f).answer s = .ok v) :
    ((∃ k, v.slot? = some k ∧ k ≠ .unsupported) ↔ Fills w s struct.owner map f)
      ∧ (v.slot? = none ↔ Drops w s struct.owner f) := by
  rcases fieldVerdict_cases h with ⟨hembedded, hslot⟩ | ⟨hembedded, n, ht, hprimitive, rfl⟩ |
    ⟨hembedded, hnot, hread⟩
  · simp [Fills, Drops, hembedded, hslot]
  · -- A primitive refers to nothing, so that the map alone decides.
    have hnone : ∀ o m, ¬ Refers w s struct.owner (.name n) o m := by
      rintro o m ⟨hdeclared, -⟩
      simp [hprimitive] at hdeclared
    rw [slot?_primitive]
    simp [Fills, Drops, TakesValue, hembedded, ht, hprimitive, hnone, slot?_primitive_ne_none]
  · -- Any other type is decided by what it refers to, and the map has no say.
    have htakes : ¬ TakesValue map f.type := by
      rintro ⟨n, ht, hprimitive, -⟩
      simp [hnot n ht] at hprimitive
    simp only [Fills, Drops, hembedded, true_and, or_iff_right htakes]
    exact ⟨hread.fills_iff, hread.drops_iff⟩

/-- What has a strategy and is not filled is left to be filled by hand. -/
theorem unsupported_iff (slot : Option Slot) :
    slot = some .unsupported ↔ ¬ (∃ k, slot = some k ∧ k ≠ .unsupported) ∧ ¬ slot = none := by
  rcases slot with _ | _ | _ | _ | _ <;> simp

/-- **The domain of each outcome.** Every field lands in one list, and in which one it lands is
told by its type, the map, and what the type refers to: what is neither assigned nor dropped is
left to be filled by hand. -/
theorem classify_domain {b : Buckets} (h : (classify w style struct map p).answer s = .ok b) :
    ∃ slot : Fin struct.fields.length → Option Slot,
      (∀ k, List.Forall₂ (fun i e => Carries style k (struct.fields.get i) e)
        (positions slot (some k)) (b.entries k))
      ∧ b.dropped.map (·.name) = (positions slot none).map (fun i => (struct.fields.get i).name)
      ∧ ∀ i, ((∃ k, slot i = some k ∧ k ≠ .unsupported) ↔
            Fills w s struct.owner map (struct.fields.get i))
          ∧ (slot i = none ↔ Drops w s struct.owner (struct.fields.get i))
          ∧ (slot i = some .unsupported ↔ ¬ Fills w s struct.owner map (struct.fields.get i)
            ∧ ¬ Drops w s struct.owner (struct.fields.get i)) := by
  obtain ⟨placed, hfields, hjudged, hpartition⟩ := classify_partition h
  refine ⟨slotAt hfields, hpartition.entries_positions hfields,
    hpartition.dropped_positions hfields, ?_⟩
  intro i
  have hverdict := hjudged _ (placedAt_mem hfields i)
  rw [fst_placedAt hfields i] at hverdict
  obtain ⟨hfills, hdrops⟩ := slot?_of_fieldVerdict hverdict
  refine ⟨hfills, hdrops, ?_⟩
  rw [← hfills, ← hdrops]
  exact unsupported_iff _

theorem classify_domain_book :
    (classify Sample.surroundings Sample.style Sample.book Sample.openMap Sample.package).answer
        Sample.session = .ok Sample.buckets
      ∧ ∃ slot : Fin Sample.book.fields.length → Option Slot,
        (∀ k, List.Forall₂ (fun i e => Carries Sample.style k (Sample.book.fields.get i) e)
          (positions slot (some k)) (Sample.buckets.entries k))
        ∧ Sample.buckets.dropped.map (·.name)
          = (positions slot none).map (fun i => (Sample.book.fields.get i).name)
        ∧ ∀ i, ((∃ k, slot i = some k ∧ k ≠ .unsupported) ↔
              Fills Sample.surroundings Sample.session Sample.package Sample.openMap
                (Sample.book.fields.get i))
            ∧ (slot i = none ↔
              Drops Sample.surroundings Sample.session Sample.package (Sample.book.fields.get i))
            ∧ (slot i = some .unsupported ↔
              ¬ Fills Sample.surroundings Sample.session Sample.package Sample.openMap
                  (Sample.book.fields.get i)
                ∧ ¬ Drops Sample.surroundings Sample.session Sample.package
                  (Sample.book.fields.get i)) :=
  ⟨Sample.classify_book, classify_domain Sample.classify_book⟩

end Classification
end StructFill
