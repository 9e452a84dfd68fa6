import StructFill.Proofs.Session.Answers
import StructFill.Proofs.Session.Composition

/-! # Runs are transparent

  From the lookup of a type to a whole generation: no run changes what a
  session answers, and what a run answers depends on the answers of the session
  only. Failures make no exception, nor do the failures that a run swallows.
-/

namespace StructFill

open Session (Run Transparent)
open Source (Field FuncDecl)

variable {w : Surroundings}

/-- Every run is transparent, since the questions are that it is put together from. -/
theorem Session.Composed.transparent {α : Type} {r : Run α} (h : Session.Composed w r) :
    Transparent w r := by
  induction h with
  | moduleAt path => exact ((Session.steady_moduleAt path).dirs.part Prod.snd).transparent
  | resolve path => exact (Session.steady_resolve path).transparent
  | openPath path => exact Session.transparent_openPath path
  | pure a => exact .pure a
  | throw e => exact .throw e
  | bind _ _ hr hk => exact hr.bind hk
  | outcome _ hr => exact hr.outcome

theorem Session.transparent_openFile (file : Path) : Transparent w (Session.openFile w file) :=
  (Session.composed_openFile file).transparent

/-- Each package that is tried for its declared name is the one that is looked for, or is passed
over. -/
theorem Session.answer_probe_cons (name path : String) (rest : List String) (s : Session) :
    (probe w name (path :: rest)).answer s =
      if Package.defaultName path = name then (probe w name rest).answer s
      else
        match (openPath w path).answer s with
        | .ok (some p) => if p.name = name then .ok (some p) else (probe w name rest).answer s
        | _ => (probe w name rest).answer s := by
  have hrest : (probe w name rest).answer ((openPath w path).outcome.after s)
      = (probe w name rest).answer s :=
    (composed_probe name rest).transparent.answer_after (transparent_openPath path).keeps s
  rw [probe]
  split
  · rfl
  · rw [Run.answer_bind, Run.answer_outcome]
    simp only [Except.bind]
    rcases (openPath w path).answer s with e | _ | p
    · exact hrest
    · exact hrest
    · dsimp only
      split
      · rfl
      · exact hrest

namespace Classification

variable {style : Naming.Style} {struct : OutputStruct} {map : MapParam} {p : Package}

theorem transparent_verdict (f : Field) (d : Descriptor) :
    Transparent w (verdict w style struct map p f d) := (composed_verdict f d).transparent

theorem transparent_classifyFields (fields : List Field) (b : Buckets) :
    Transparent w (classifyFields w style struct map p fields b) :=
  (composed_classifyFields fields b).transparent

end Classification

namespace Signature

theorem transparent_ofDecl (p : Package) (d : FuncDecl) : Transparent w (ofDecl w p d) :=
  (composed_ofDecl p d).transparent

theorem transparent_scanDecls (p : Package) (decls : List FuncDecl) :
    Transparent w (scanDecls w p decls) := (composed_scanDecls p decls).transparent

theorem transparent_scan (p : Package) (start : String) : Transparent w (scan w p start) :=
  (composed_scan p start).transparent

end Signature

namespace Generation

variable {c : Config} {p : Package}

theorem transparent_piece (signature : Signature) : Transparent w (piece w c p signature) :=
  (composed_piece signature).transparent

theorem transparent_pieces (signatures : List Signature) :
    Transparent w (pieces w c p signatures) := (composed_pieces signatures).transparent

end Generation
end StructFill
