import StructFill.Proofs.Generation.Failures
import StructFill.Proofs.Generation.Names

/-! # Runs that agree

  What a run makes of its functions depends on little of what surrounds it: on
  the packages that a few local names lead to, on the types that are declared
  there, and on how the package of the functions calls the packages of its
  casts. Where two packages agree on these, in whatever surroundings and
  sessions, each function meets the same fate, and the runs give the same
  result.

  Only the package of the functions may differ between the runs. A struct that
  is found in it is found in the other one, too, so a fate is the same up to the
  owner of the struct.
-/

namespace StructFill

open Session (Run)
open Source (Field FuncDecl)

variable {w w' : Surroundings} {s s' : Session} {p p' : Package}

/-! ## Types -/

/-- What a type turns out to be depends on the package that it is found in. -/
theorem Enumeration.resolve_congr {d : Descriptor} {unit unit' : Package}
    (h : (owner w' d unit').answer s' = (owner w d unit).answer s) :
    (resolve w' d unit').answer s' = (resolve w d unit).answer s := by
  rw [resolve, resolve, Run.answer_bind, Run.answer_bind, Run.answer_outcome, Run.answer_outcome, h]
  rcases (owner w d unit).answer s with e | _ | o
  · show (if e.isFatal then throw e else pure (unavailable e.message) :
        Run Enumeration).answer _
      = (if e.isFatal then throw e else pure (unavailable e.message) : Run Enumeration).answer _
    split <;> rfl
  · rfl
  · rfl

/-! ## Fields -/

namespace Classification

variable {style : Naming.Style} {struct struct' : OutputStruct} {map : MapParam}

/-- Two packages in one directory name a package alike, if they call it alike. -/
theorem castName_congr {n : String} {o : Package} (hdir : p'.dir = p.dir)
    (h : o.dir.same p.dir = false → (p'.qualifierFor? o.importPath).getD o.name
      = (p.qualifierFor? o.importPath).getD o.name) :
    castName n o p' = castName n o p := by
  unfold castName
  rw [hdir]
  split
  · rfl
  next hother => rw [h (by simpa using hother)]

theorem castName_self (n : String) (p : Package) : castName n p p = (n, none) := by
  simp [castName, Path.same]

/-- The verdict on a declared type is the same where the declaration is, if casts are spelled
alike. -/
theorem named_ofName_congr {d : Descriptor} {o o' : Package}
    (hfind : o'.findType? d.name = o.findType? d.name)
    (hcast : (named style d p (Enumeration.ofName o d.name)).slot? = some .enumeration →
      castName d.name o' p' = castName d.name o p) :
    named style d p' (Enumeration.ofName o' d.name)
      = named style d p (Enumeration.ofName o d.name) := by
  rw [slot?_named, Enumeration.slot?_ofName_eq_enumeration_iff] at hcast
  unfold Enumeration.ofName
  rw [hfind]
  cases hdecl : o.findType? d.name with
  | none => rfl
  | some decl =>
    dsimp only
    rcases hbody : decl.body with fields | (n | inner | ⟨q, n⟩ | ⟨key, value⟩ | empty | text)
    case named.name =>
      -- Only what is over a primitive depends on the package.
      by_cases hprimitive : Source.isPrimitive n = true
      · have hspelled := hcast ⟨decl, n, hdecl, hbody, hprimitive⟩
        simp [Enumeration.ofBody, hprimitive, named, hspelled]
      · by_cases hany : n = "any" <;>
          simp [Enumeration.ofBody, hprimitive, hany, Enumeration.isPrimitive_any, named]
    all_goals rfl

/-- What cannot be looked up is left to be filled by hand in the same way. -/
theorem named_of_unsupported {d : Descriptor} {e : Enumeration}
    (h : e.slot? = some .unsupported) : named style d p' e = named style d p e := by
  cases e <;> first | rfl | simp [Enumeration.slot?] at h

/-- The verdict on a field is the same in two structs of the same name, if the same types are
found for it and a cast is spelled alike. -/
theorem fieldVerdict_congr {f : Field} {d : Descriptor} {v : Verdict}
    (hd : d = Descriptor.ofType struct.owner.name f.type)
    (hname : struct'.owner.name = struct.owner.name)
    (htypes : ∀ n, struct'.owner.findType? n = struct.owner.findType? n)
    (hopen : ∀ q, f.embedded = false → d.home = .imported q →
      (Session.openImport w' struct'.owner q).answer s'
        = (Session.openImport w struct.owner q).answer s)
    (hown : v.slot? = some .enumeration → ∀ n, d.home = .local n →
      castName d.name struct'.owner p' = castName d.name struct.owner p)
    (himported : v.slot? = some .enumeration → ∀ q o, d.home = .imported q →
      (Session.openImport w struct.owner q).answer s = .ok (some o) →
        castName d.name o p' = castName d.name o p)
    (h : (fieldVerdict w style struct map p f).answer s = .ok v) :
    (fieldVerdict w' style struct' map p' f).answer s' = .ok v := by
  rw [fieldVerdict, ← hd, verdict] at h
  rw [fieldVerdict, hname, ← hd, verdict]
  cases hembedded : f.embedded with
  | true =>
    rw [hembedded] at h
    exact h
  | false =>
  rw [hembedded] at h
  simp only [Bool.false_eq_true, if_false] at h ⊢
  cases hkind : d.kind with
  | base | interface | pointer | unknown =>
    rw [hkind] at h
    exact h
  | «struct» =>
    rw [hkind] at h
    dsimp only at h ⊢
    cases hhome : d.home with
    | «local» n =>
      have howner : (Enumeration.owner w d struct.owner).answer s = .ok (some struct.owner) := by
        rw [Enumeration.owner, hhome]
        rfl
      rcases verdict_of_resolve h with ⟨o, ho, rfl⟩ | ⟨hnone, -⟩
      · obtain rfl := Option.some.inj (Except.ok.inj (howner.symm.trans ho))
        have hresolve : (Enumeration.resolve w' d struct'.owner).answer s'
            = .ok (Enumeration.ofName struct'.owner d.name) := by
          rw [Enumeration.resolve, Run.answer_bind, Run.answer_outcome, Enumeration.owner, hhome]
          rfl
        rw [Run.answer_map, hresolve]
        exact congrArg Except.ok
          (named_ofName_congr (htypes d.name) fun hslot => hown hslot n hhome)
      · exact absurd howner (hnone _)
    | builtin | imported q =>
      -- The types are looked up from the same package, and the same is found.
      have howner : (Enumeration.owner w' d struct'.owner).answer s'
          = (Enumeration.owner w d struct.owner).answer s := by
        rw [Enumeration.owner, Enumeration.owner, hhome]
        first | rfl | exact hopen _ hembedded hhome
      obtain ⟨e, he, rfl⟩ := Run.answer_map_eq_ok.1 h
      rw [Run.answer_map, Enumeration.resolve_congr howner, he]
      refine congrArg Except.ok ?_
      rcases Enumeration.resolve_eq_ok he with ⟨o, ho, rfl⟩ | ⟨-, hslot⟩
      · refine named_ofName_congr rfl fun hslot => ?_
        rw [Enumeration.owner, hhome] at ho
        first | cases ho | exact himported hslot _ o hhome ho
      · exact named_of_unsupported hslot

end Classification

/-! ## Structs -/

/-- The struct of an output, where the package of the function is `p'`. -/
def Output.ownedBy (p' : Package) (output : Output) (struct : OutputStruct) : OutputStruct :=
  match output.package with
  | none => { struct with owner := p' }
  | some _ => struct

/-- Both packages have the same structs for an output, or neither has one. -/
theorem Signature.locate_congr {function : String} {output : Output} (hname : p'.name = p.name)
    (htypes : ∀ n, p'.findType? n = p.findType? n)
    (hopen : ∀ q, output.package = some q →
      (Session.openImport w' p' q).answer s' = (Session.openImport w p q).answer s) :
    (locate w' p' function output).answer s'
      = ((locate w p function output).answer s).map (output.ownedBy p') := by
  rw [locate, locate, Run.answer_bind, Run.answer_bind]
  cases hpackage : output.package with
  | none =>
    have howner : ∀ (w : Surroundings) (s : Session) (p : Package),
        (outputOwner w p function output).answer s = .ok p := by
      intro w s p
      rw [outputOwner, hpackage]
      rfl
    have hfind : p'.findStruct? output.typeName = p.findStruct? output.typeName := by
      rw [Package.findStruct?, Package.findStruct?, htypes]
    rw [howner, howner]
    simp only [Except.bind, hfind, hname]
    cases p.findStruct? output.typeName with
    | none => simp only [Run.answer_throw, Except.map]
    | some d => simp only [Run.answer_pure, Except.map, Output.ownedBy, hpackage]
  | some q =>
    have howner : (outputOwner w' p' function output).answer s'
        = (outputOwner w p function output).answer s := by
      rw [outputOwner, outputOwner, hpackage]
      dsimp only
      rw [Run.answer_bind, Run.answer_bind, hopen q hpackage]
      rcases (Session.openImport w p q).answer s with e | _ | o <;>
        simp only [Except.bind, Run.answer_throw, Run.answer_pure]
    rw [howner]
    rcases (outputOwner w p function output).answer s with e | o
    · simp only [Except.bind, Except.map]
    · simp only [Except.bind]
      cases o.findStruct? output.typeName with
      | none => simp only [Run.answer_throw, Except.map]
      | some d => simp only [Run.answer_pure, Except.map, Output.ownedBy, hpackage]

/-- The struct of an output is in the package itself, or in one that the package opens. -/
theorem Signature.ownedBy_cases {function : String} {output : Output} {struct : OutputStruct}
    (h : (locate w p function output).answer s = .ok struct) (p' : Package) :
    output.package = none ∧ struct.owner = p
        ∧ output.ownedBy p' struct = { struct with owner := p' }
      ∨ ∃ q, output.package = some q
        ∧ (Session.openImport w p q).answer s = .ok (some struct.owner)
        ∧ output.ownedBy p' struct = struct := by
  have hfound := Generation.owner_of_locate h
  unfold Output.ownedBy
  cases hpackage : output.package with
  | none =>
    rw [hpackage] at hfound
    exact .inl ⟨rfl, hfound, rfl⟩
  | some q =>
    rw [hpackage] at hfound
    exact .inr ⟨q, rfl, hfound, rfl⟩

namespace Generation

variable {c : Config} {told : Told} {d : FuncDecl} {fate : Fate}

/-- The fate, where the package of the function is `p'`. -/
def Fate.ownedBy (p' : Package) : Fate → Fate
  | .written map output struct b => .written map output (output.ownedBy p' struct) b
  | fate => fate

/-- The package `p` looks for the local name on behalf of its function `d`: it qualifies the output
type, or the type of a field of a struct in the package itself. -/
inductive LooksFor (w : Surroundings) (s : Session) (p : Package) (d : FuncDecl) : String → Prop
    where
  | output {map output q} (hshape : Signature.shape d = .ok (map, output))
    (hqualifier : output.package = some q) : LooksFor w s p d q
  | field {map output struct f q n} (hshape : Signature.shape d = .ok (map, output))
    (hown : output.package = none)
    (hlocate : (Signature.locate w p d.name output).answer s = .ok struct)
    (hfield : f ∈ struct.fields) (hembedded : f.embedded = false)
    (htype : f.type.pointee = .qualified q n) : LooksFor w s p d q

/-- The package `o` of a struct looks for the local name on behalf of the function `d` of `p`: it
qualifies the type of one of the fields. -/
inductive LooksIn (w : Surroundings) (s : Session) (p : Package) (d : FuncDecl) :
    Package → String → Prop where
  | field {map output struct f q n} (hshape : Signature.shape d = .ok (map, output))
    (hlocate : (Signature.locate w p d.name output).answer s = .ok struct)
    (hfield : f ∈ struct.fields) (hembedded : f.embedded = false)
    (htype : f.type.pointee = .qualified q n) : LooksIn w s p d struct.owner q

/-- In the surroundings `w'` and the session `s'` the package `p'` is to its functions what `p` is
in `w` and `s`, where they have met their fates. -/
structure Agrees (w : Surroundings) (s : Session) (p : Package) (w' : Surroundings) (s' : Session)
    (p' : Package) (c : Config) (told : Told) : Prop where
  name : p'.name = p.name
  dir : p'.dir = p.dir
  types : ∀ n, p'.findType? n = p.findType? n
  /-- The names that are looked for lead to the same packages. -/
  names : ∀ df ∈ told, ∀ q, LooksFor w s p df.1 q →
    (Session.openImport w' p' q).answer s' = (Session.openImport w p q).answer s
  /-- So do those that are looked for in packages that are imported. -/
  imported : ∀ df ∈ told, ∀ o q, p.Imports w s o → LooksIn w s p df.1 o q →
    (Session.openImport w' o q).answer s' = (Session.openImport w o q).answer s
  /-- The packages of casts are called alike. -/
  callings : ∀ o, Casts w s p told o → (p'.qualifierFor? o.importPath).getD o.name
    = (p.qualifierFor? o.importPath).getD o.name

/-! ## Functions -/

/-- A function meets one fate. -/
theorem Meets.unique {fate' : Fate} (h : Meets w c p s d fate) (h' : Meets w c p s d fate') :
    fate = fate' := by
  -- The fates are told apart by the answers for the shape, the struct and the fields, in this
  -- order. Two fates with the same answers are equal.
  cases h with
  | skipped hshape =>
    cases h' with
    | skipped hshape' => cases hshape.symm.trans hshape'; rfl
    | missing hshape' | written hshape' => cases hshape.symm.trans hshape'
  | missing hshape hlocate =>
    cases h' with
    | skipped hshape' => cases hshape.symm.trans hshape'
    | missing hshape' hlocate' =>
      cases hshape.symm.trans hshape'
      cases hlocate.symm.trans hlocate'
      rfl
    | written hshape' hlocate' =>
      cases hshape.symm.trans hshape'
      cases hlocate.symm.trans hlocate'
  | written hshape hlocate hclassify =>
    cases h' with
    | skipped hshape' => cases hshape.symm.trans hshape'
    | missing hshape' hlocate' =>
      cases hshape.symm.trans hshape'
      cases hlocate.symm.trans hlocate'
    | written hshape' hlocate' hclassify' =>
      cases hshape.symm.trans hshape'
      cases hlocate.symm.trans hlocate'
      cases hclassify.symm.trans hclassify'
      rfl

theorem AllMeet.unique {told' : Told} (h : AllMeet w c p s told) (h' : AllMeet w c p s told')
    (hdecls : told.map Prod.fst = told'.map Prod.fst) : told = told' := by
  induction told generalizing told' with
  | nil => exact (List.map_eq_nil_iff.1 hdecls.symm).symm
  | cons df rest ih =>
    cases told' with
    | nil => cases hdecls
    | cons df' rest' =>
      obtain ⟨d, fate⟩ := df
      obtain ⟨d', fate'⟩ := df'
      obtain ⟨rfl, hrest⟩ : d = d' ∧ rest.map Prod.fst = rest'.map Prod.fst := by simpa using hdecls
      obtain rfl : fate = fate' :=
        (h (d, fate) List.mem_cons_self).unique (h' (d, fate') List.mem_cons_self)
      rw [ih (fun df hdf => h df (List.mem_cons_of_mem _ hdf))
        (fun df hdf => h' df (List.mem_cons_of_mem _ hdf)) hrest]

/-- What a run gives whose functions meet these fates. -/
def result (c : Config) (p : Package) (told : Told) : Generated :=
  let g := assemble p.name [] (told.filterMap fun df => df.2.piece? c p df.1.name)
  { g with
    report.diagnostics :=
      (told.flatMap fun df => df.2.early df.1.name) ++ g.report.diagnostics }

/-- A run succeeds for a package if each of its functions meets some fate, and gives what comes of
the fates. -/
theorem ofPackage_of_meets (hdecls : told.map Prod.fst = Signature.candidates p c.functionStart)
    (hmeets : AllMeet w c p s told) : (ofPackage w c p).answer s = .ok (result c p told) := by
  cases hg : (ofPackage w c p).answer s with
  | error e =>
    -- No function has met a fatal error, so that nothing ends the run.
    exfalso
    cases aborts_of_ofPackage hg with
    | lookup hd hlookup hopen hfatal =>
      rw [← hdecls] at hd
      obtain ⟨df, hdf, rfl⟩ := List.mem_map.1 hd
      have hnot := (hmeets df hdf).not_isFatal hlookup hopen
      rw [hfatal] at hnot
      cases hnot
  | ok g =>
    obtain ⟨skipped, told', hdecls', hmeets', hskipped, rfl⟩ := told_of_ofPackage hg
    obtain rfl := hmeets.unique hmeets' (hdecls.trans hdecls'.symm)
    simp only [result, assemble, hskipped, List.filterMap_nil, List.nil_append]

theorem generate_of_meets {input : Path} (hp : (Session.openFile w input).answer s = .ok p)
    (hdecls : told.map Prod.fst = Signature.candidates p c.functionStart)
    (hmeets : AllMeet w c p s told) :
    (generate w c input).answer s = .ok (result c p told) := by
  rw [generate_eq_bind, (Session.transparent_openFile input).answer_bind transparent_ofPackage, hp]
  exact ofPackage_of_meets hdecls hmeets

/-- What comes of a function does not depend on the owner of its struct. -/
theorem Fate.piece?_ownedBy (hdir : p'.dir = p.dir) (name : String) (fate : Fate) :
    (fate.ownedBy p').piece? c p' name = fate.piece? c p name := by
  cases fate with
  | skipped reason => rfl
  | missing e => rfl
  | written map output struct b =>
    have houtput : outputImports p' output (output.ownedBy p' struct)
        = outputImports p output struct := by
      unfold outputImports Output.ownedBy
      cases output.package with
      | none => rfl
      | some q => rw [hdir]
    simp only [ownedBy, piece?, functionImports, houtput]
    rfl

namespace Agrees

variable (h : Agrees w s p w' s' p' c told)
include h

/-- A cast of a function is spelled alike. -/
theorem castName_eq {map : MapParam} {output : Output} {struct : OutputStruct} {b : Buckets}
    {e : FilledField} {o : Package} (hd : (d, .written map output struct b) ∈ told)
    (he : e ∈ b.enumerations)
    (howner : (Enumeration.owner w e.descriptor struct.owner).answer s = .ok (some o)) (n : String) :
    Classification.castName n o p' = Classification.castName n o p :=
  Classification.castName_congr h.dir fun hother => h.callings o (.field hd he howner hother)

/-- The verdicts on the fields of a struct are the same. -/
theorem judged_eq {map : MapParam} {output : Output} {struct : OutputStruct} {b : Buckets}
    {placed : List (Field × Classification.Verdict)}
    (hd : (d, .written map output struct b) ∈ told)
    (hshape : Signature.shape d = .ok (map, output))
    (hlocate : (Signature.locate w p d.name output).answer s = .ok struct)
    (hfields : placed.map Prod.fst = struct.fields)
    (hpartition : Classification.Partition ⟨c.conversionStart, c.tagKey⟩ struct.owner placed b)
    (hjudged : Classification.Judged w ⟨c.conversionStart, c.tagKey⟩ struct map p s placed) :
    Classification.Judged w' ⟨c.conversionStart, c.tagKey⟩ (output.ownedBy p' struct) map p' s'
      placed := by
  intro fv hfv
  have hfield : fv.1 ∈ struct.fields := by
    rw [← hfields]
    exact List.mem_map.2 ⟨fv, hfv, rfl⟩
  -- A field with a cast is described in the partition, so its cast is one of the function.
  have hspelled : fv.2.slot? = some .enumeration → ∀ o,
      (Enumeration.owner w (Descriptor.ofType struct.owner.name fv.1.type) struct.owner).answer s
        = .ok (some o) → ∀ n, Classification.castName n o p' = Classification.castName n o p := by
    intro hslot o howner n
    obtain ⟨e, he, hdescribes⟩ := hpartition.exists_describes hfv hslot
    rw [← hdescribes.descriptor] at howner
    exact h.castName_eq hd he howner n
  have himported : fv.2.slot? = some .enumeration → ∀ q o,
      (Descriptor.ofType struct.owner.name fv.1.type).home = .imported q →
      (Session.openImport w struct.owner q).answer s = .ok (some o) → ∀ n,
        Classification.castName n o p' = Classification.castName n o p := by
    intro hslot q o hhome hopen
    apply hspelled hslot
    rw [Enumeration.owner, hhome]
    exact hopen
  rcases Signature.ownedBy_cases hlocate p' with
    ⟨hpackage, howner, hstruct⟩ | ⟨q', -, hfound, hstruct⟩
  · -- The struct is in the package itself, which looks for the types of the fields.
    rw [hstruct]
    refine Classification.fieldVerdict_congr rfl ?_ ?_ ?_ ?_
      (fun hslot q o hhome hopen => himported hslot q o hhome hopen _) (hjudged fv hfv)
    · rw [howner, ← h.name]
    · rw [howner]
      exact h.types
    · intro q hembedded hhome
      obtain ⟨n, htype⟩ := Descriptor.home_ofType_eq_imported_iff.1 hhome
      rw [howner]
      exact h.names _ hd q (.field hshape hpackage hlocate hfield hembedded htype)
    · intro _ n _
      rw [howner, Classification.castName_self, Classification.castName_self]
  · -- The struct is in an imported package, which looks for them.
    rw [hstruct]
    refine Classification.fieldVerdict_congr rfl rfl (fun _ => rfl) ?_ ?_
      (fun hslot q o hhome hopen => himported hslot q o hhome hopen _) (hjudged fv hfv)
    · intro q hembedded hhome
      obtain ⟨n, htype⟩ := Descriptor.home_ofType_eq_imported_iff.1 hhome
      exact h.imported _ hd _ q (Session.imports_of_openImport hfound)
        (.field hshape hlocate hfield hembedded htype)
    · intro hslot n hhome
      apply hspelled hslot
      rw [Enumeration.owner, hhome]
      rfl

/-- The fields of a struct are classified alike. -/
theorem classify_eq {map : MapParam} {output : Output} {struct : OutputStruct} {b : Buckets}
    (hd : (d, .written map output struct b) ∈ told)
    (hshape : Signature.shape d = .ok (map, output))
    (hlocate : (Signature.locate w p d.name output).answer s = .ok struct)
    (hclassify : (Classification.classify w ⟨c.conversionStart, c.tagKey⟩ struct map p).answer s
      = .ok b) :
    (Classification.classify w' ⟨c.conversionStart, c.tagKey⟩ (output.ownedBy p' struct) map
      p').answer s' = .ok b := by
  obtain ⟨placed, hfields, hjudged, hbuckets⟩ := Classification.classify_eq_ok hclassify
  have hpartition : Classification.Partition ⟨c.conversionStart, c.tagKey⟩ struct.owner placed b := by
    rw [hbuckets]
    exact Classification.partition_foldl Classification.partition_empty placed
  have hstruct : (output.ownedBy p' struct).fields = struct.fields
      ∧ (output.ownedBy p' struct).owner.name = struct.owner.name := by
    rcases Signature.ownedBy_cases hlocate p' with ⟨-, howner, hstruct⟩ | ⟨-, -, -, hstruct⟩
    · rw [hstruct, howner]
      exact ⟨rfl, h.name⟩
    · rw [hstruct]
      exact ⟨rfl, rfl⟩
  have hjudged' := h.judged_eq hd hshape hlocate hfields hpartition hjudged
  -- The verdicts are put where they were, since the owner has kept its name.
  have hput : Classification.putField ⟨c.conversionStart, c.tagKey⟩ map
        (output.ownedBy p' struct).owner
      = Classification.putField ⟨c.conversionStart, c.tagKey⟩ map struct.owner := by
    funext b fv
    rw [Classification.putField, Classification.putField, hstruct.2]
  rw [Classification.classify_of_judged (hstruct.1.symm ▸ hfields) hjudged', hput, hbuckets]

/-- Each function meets the same fate. -/
theorem meets {df : FuncDecl × Fate} (hdf : df ∈ told) (hmeets : Meets w c p s df.1 df.2) :
    Meets w' c p' s' df.1 (df.2.ownedBy p') := by
  obtain ⟨d, fate⟩ := df
  have hlocated : ∀ {map output}, Signature.shape d = .ok (map, output) →
      (Signature.locate w' p' d.name output).answer s'
        = ((Signature.locate w p d.name output).answer s).map (output.ownedBy p') := by
    intro map output hshape
    exact Signature.locate_congr h.name h.types fun q hpackage =>
      h.names _ hdf q (.output hshape hpackage)
  cases hmeets with
  | skipped hshape => exact .skipped hshape
  | missing hshape hlocate hfatal =>
    refine .missing hshape ?_ hfatal
    rw [hlocated hshape, hlocate]
    rfl
  | written hshape hlocate hclassify =>
    refine .written hshape ?_ (h.classify_eq hdf hshape hlocate hclassify)
    rw [hlocated hshape, hlocate]
    rfl

/-! ## Runs -/

/-- What comes of the functions is the same wherever they meet the same fates. -/
theorem ofPackage_eq (hdecls : told.map Prod.fst = Signature.candidates p' c.functionStart)
    (hmeets : AllMeet w c p s told) :
    (ofPackage w' c p').answer s' = .ok (result c p told) := by
  have hmeets' : AllMeet w' c p' s' (told.map fun df => (df.1, df.2.ownedBy p')) := by
    intro df' hdf'
    obtain ⟨df, hdf, rfl⟩ := List.mem_map.1 hdf'
    exact h.meets hdf (hmeets df hdf)
  have hdecls' : (told.map fun df => (df.1, df.2.ownedBy p')).map Prod.fst
      = Signature.candidates p' c.functionStart := by
    rw [← hdecls, List.map_map]
    rfl
  rw [ofPackage_of_meets hdecls' hmeets']
  -- Carrying a fate over changes who owns the struct only where the output has no qualifier, and
  -- then nothing of the owner is in the text.
  have hpieces : (told.map fun df => (df.1, df.2.ownedBy p')).filterMap
        (fun df => df.2.piece? c p' df.1.name)
      = told.filterMap fun df => df.2.piece? c p df.1.name := by
    rw [List.filterMap_map]
    refine List.filterMap_congr fun df _ => ?_
    exact Fate.piece?_ownedBy h.dir df.1.name df.2
  have hearly : (told.map fun df => (df.1, df.2.ownedBy p')).flatMap
        (fun df => df.2.early df.1.name)
      = told.flatMap fun df => df.2.early df.1.name := by
    rw [List.flatMap_map]
    refine List.flatMap_congr fun df _ => ?_
    cases df.2 <;> rfl
  rw [result, result, hpieces, hearly, h.name]

/-- A run that succeeds gives the same result wherever its functions meet the same fates. -/
theorem generate_eq {input : Path} (hp' : (Session.openFile w' input).answer s' = .ok p')
    (hdecls : told.map Prod.fst = Signature.candidates p' c.functionStart)
    (hmeets : AllMeet w c p s told) :
    (generate w' c input).answer s' = .ok (result c p told) := by
  rw [generate_eq_bind, (Session.transparent_openFile input).answer_bind transparent_ofPackage, hp']
  exact h.ofPackage_eq hdecls hmeets

end Agrees
end Generation
end StructFill
