import StructFill.Generation
import StructFill.Proofs.Session.Run

/-! # How runs are put together

  Three kinds of runs touch the memory of a session: questions for a module,
  for a directory, and for a package. All other runs are put together from
  these, up to a whole generation. So what holds of the three, and is kept when
  runs are put together, holds of every run.

  **Relations.** A run goes *along* a relation that takes each session to the
  session after it. A relation that is reflexive and transitive needs to be
  shown for the three kinds only.
-/

namespace StructFill

open Source (Field FuncDecl)

namespace Session

variable {w : Surroundings} {α β : Type}

/-! ## Relations between sessions -/

/-- The run takes each session to one that is related to it. -/
def Run.Along (R : Session → Session → Prop) (r : Run α) : Prop := ∀ s, R s (r.after s)

theorem Run.Along.bind {R : Session → Session → Prop}
    (htrans : ∀ s₁ s₂ s₃, R s₁ s₂ → R s₂ s₃ → R s₁ s₃) {r : Run α} {k : α → Run β}
    (hr : Along R r) (hk : ∀ a, Along R (k a)) : Along R (r >>= k) := by
  intro s
  rw [after_bind]
  cases r.answer s with
  | error e => exact hr s
  | ok a => exact htrans _ _ _ (hr s) (hk a _)

/-- The search for a directory goes along a relation if the questions for modules and for the
standard packages do, and the noting of a directory. -/
theorem along_resolve {R : Session → Session → Prop} (hrefl : ∀ s, R s s)
    (htrans : ∀ s₁ s₂ s₃, R s₁ s₂ → R s₂ s₃ → R s₁ s₃)
    (hmoduleAt : ∀ path, Run.Along R (moduleAt w path))
    (hstandard : Run.Along R (standardRoots w))
    (hnoteDir : ∀ s path dir, R s (noteDir s path dir)) (path : String) :
    Run.Along R (resolve w path) := by
  have hdependency : ∀ beginnings, Run.Along R (dependencyDir w path beginnings) := by
    intro beginnings
    induction beginnings with
    | nil => exact hrefl
    | cons b rest ih =>
      refine (hmoduleAt b).bind htrans fun m => ?_
      cases m with
      | none => exact ih
      | some m =>
        dsimp only
        cases below? path m.path with
        | none => exact ih
        | some sub => dsimp only; cases m.effectiveDir? <;> exact hrefl
  -- Only the questions move the session. Everything else in the search is a case split on answers.
  have hafresh : Run.Along R (resolveAfresh w path) := by
    unfold resolveAfresh
    split
    · exact hrefl
    split
    · exact hrefl
    split
    · exact hrefl
    refine Run.Along.bind htrans ?_ fun dir => ?_
    · refine hstandard.bind htrans fun roots => ?_
      cases Text.cutFirst? '/' path.toList <;> exact hrefl
    cases dir with
    | some dir => exact hrefl
    | none =>
      refine (hmoduleAt "").bind htrans fun m => ?_
      cases mainDir? m path with
      | some dir => exact hrefl
      | none => exact (hdependency _).bind htrans fun _ => hrefl
  intro s
  rw [resolve, Run.after_get_bind]
  cases s.dirs.lookup path with
  | some dir => exact hrefl s
  | none =>
    refine hafresh.bind htrans (fun dir s => ?_) s
    exact hnoteDir s path dir

/-! ## Composed runs -/

/-- The run is put together from questions for modules, directories and packages. -/
inductive Composed (w : Surroundings) : {α : Type} → Run α → Prop where
  | moduleAt (path : String) : Composed w (moduleAt w path)
  | resolve (path : String) : Composed w (resolve w path)
  | openPath (path : String) : Composed w (openPath w path)
  | pure {α : Type} (a : α) : Composed w (Pure.pure a : Run α)
  | throw {α : Type} (e : Error) : Composed w (MonadExcept.throw e : Run α)
  | bind {α β : Type} {r : Run α} {k : α → Run β} (hr : Composed w r)
    (hk : ∀ a, Composed w (k a)) : Composed w (r >>= k)
  | outcome {α : Type} {r : Run α} (hr : Composed w r) : Composed w r.outcome

namespace Composed

theorem map {r : Run α} (f : α → β) (hr : Composed w r) : Composed w (f <$> r) :=
  hr.bind fun _ => .pure _

/-- A run goes along a relation if the questions do that it is put together from. -/
theorem along {R : Session → Session → Prop} {r : Run α} (h : Composed w r)
    (hrefl : ∀ s, R s s) (htrans : ∀ s₁ s₂ s₃, R s₁ s₂ → R s₂ s₃ → R s₁ s₃)
    (hmoduleAt : ∀ path, Run.Along R (Session.moduleAt w path))
    (hresolve : ∀ path, Run.Along R (Session.resolve w path))
    (hopenPath : ∀ path, Run.Along R (Session.openPath w path)) : Run.Along R r := by
  induction h with
  | moduleAt path => exact hmoduleAt path
  | resolve path => exact hresolve path
  | openPath path => exact hopenPath path
  | pure a => exact hrefl
  | throw e => exact hrefl
  | bind _ _ hr hk => exact hr.bind htrans hk
  | outcome _ hr => exact hr

end Composed

/-! ## Files and imports -/

theorem composed_openFile (file : Path) : Composed w (openFile w file) := by
  unfold openFile
  cases file.parent?.filter (·.isAbsolute) with
  | none => exact .throw _
  | some dir =>
    refine (Composed.openPath dir.text).bind fun p => ?_
    cases p with
    | none => exact .throw _
    | some p => exact .pure _

/-- The search for a declared name swallows failures. -/
theorem composed_probe (name : String) (paths : List String) :
    Composed w (probe w name paths) := by
  induction paths with
  | nil => exact .pure _
  | cons path rest ih =>
    rw [probe]
    split
    · exact ih
    refine (Composed.openPath path).outcome.bind fun outcome => ?_
    -- Neither a failure nor the lack of a package ends the search.
    rcases outcome with e | _ | p
    · exact ih
    · exact ih
    · show Composed w (if p.name = name then pure (some p) else probe w name rest)
      split
      · exact .pure _
      · exact ih

theorem composed_openImport (p : Package) (name : String) :
    Composed w (openImport w p name) := by
  unfold openImport
  cases p.importPathOf? name with
  | some path => exact .openPath path
  | none => exact composed_probe name p.importPaths

end Session

open Session (Run Composed)

variable {w : Surroundings}

/-! ## Types -/

namespace Enumeration

theorem composed_owner (d : Descriptor) (p : Package) : Composed w (owner w d p) := by
  unfold owner
  cases d.home with
  | builtin => exact .pure _
  | «local» n => exact .pure _
  | imported q => exact Session.composed_openImport p q

theorem composed_resolve (d : Descriptor) (p : Package) : Composed w (resolve w d p) := by
  refine (composed_owner d p).outcome.bind fun outcome => ?_
  rcases outcome with e | _ | o
  · show Composed w (if e.isFatal then throw e else pure _)
    split
    · exact .throw _
    · exact .pure _
  · exact .pure _
  · exact .pure _

end Enumeration

/-! ## Fields -/

namespace Classification

variable {style : Naming.Style} {struct : OutputStruct} {map : MapParam} {p : Package}

theorem composed_verdict (f : Field) (d : Descriptor) :
    Composed w (verdict w style struct map p f d) := by
  unfold verdict
  split
  · exact .pure _
  cases d.kind with
  | base => exact .pure _
  | struct => exact (Enumeration.composed_resolve d struct.owner).map _
  | interface => exact .pure _
  | pointer => exact .pure _
  | unknown => exact .pure _

theorem composed_classifyFields (fields : List Field) (b : Buckets) :
    Composed w (classifyFields w style struct map p fields b) := by
  induction fields generalizing b with
  | nil => exact .pure _
  | cons f rest ih => exact (composed_verdict f _).bind fun v => ih _

theorem composed_classify : Composed w (classify w style struct map p) :=
  composed_classifyFields _ _

end Classification

/-! ## Functions -/

namespace Signature

theorem composed_outputOwner (p : Package) (function : String) (o : Output) :
    Composed w (outputOwner w p function o) := by
  unfold outputOwner
  cases o.package with
  | none => exact .pure _
  | some q =>
    refine (Session.composed_openImport p q).bind fun owner => ?_
    cases owner with
    | none => exact .throw _
    | some owner => exact .pure _

theorem composed_locate (p : Package) (function : String) (o : Output) :
    Composed w (locate w p function o) := by
  refine (composed_outputOwner p function o).bind fun owner => ?_
  cases owner.findStruct? o.typeName with
  | none => exact .throw _
  | some d => exact .pure _

theorem composed_ofDecl (p : Package) (d : FuncDecl) : Composed w (ofDecl w p d) := by
  unfold ofDecl
  rcases shape d with e | ⟨map, output⟩
  · exact .throw _
  · refine (composed_locate p d.name output).outcome.bind fun struct => ?_
    rcases struct with e | struct
    · show Composed w (if e.isFatal then throw e else pure _)
      split
      · exact .throw _
      · exact .pure _
    · exact .pure _

theorem composed_scanDecls (p : Package) (decls : List FuncDecl) :
    Composed w (scanDecls w p decls) := by
  induction decls with
  | nil => exact .pure _
  | cons d rest ih =>
    refine (composed_ofDecl p d).outcome.bind fun outcome => ?_
    rcases outcome with e | signature
    · show Composed w (if e.isFatal then throw (e.inFunction d.name) else _)
      split
      · exact .throw _
      · exact ih.bind fun scan => .pure _
    · exact ih.bind fun scan => .pure _

theorem composed_scan (p : Package) (start : String) : Composed w (scan w p start) :=
  composed_scanDecls p _

end Signature

/-! ## Whole runs -/

namespace Generation

variable {c : Config} {p : Package}

theorem composed_piece (signature : Signature) : Composed w (piece w c p signature) := by
  unfold piece
  cases signature.struct with
  | error e => exact .pure _
  | ok struct =>
    refine (Classification.composed_classify).outcome.bind fun outcome => ?_
    rcases outcome with e | b
    · exact .throw _
    · exact .pure _

theorem composed_pieces (signatures : List Signature) :
    Composed w (pieces w c p signatures) := by
  induction signatures with
  | nil => exact .pure _
  | cons signature rest ih =>
    exact (composed_piece signature).bind fun first => ih.bind fun others => .pure _

theorem composed_generate (input : Path) : Composed w (generate w c input) := by
  refine (Session.composed_openFile input).bind fun p => ?_
  refine (Signature.composed_scan p c.functionStart).bind fun scan => ?_
  exact (composed_pieces scan.functions).bind fun ps => .pure _

end Generation
end StructFill
