import StructFill.Proofs.Session.Transparency

/-! # Histories

  A session is asked one question after the other, and a question may fail. A
  **history** is the list of the questions, each with the surroundings in which
  it was asked: between two questions files may have changed, and the source of
  module metadata may have changed its mind.

  While the surroundings stay the same, a history leaves no trace: the next
  question is answered as if it were the first one.
-/

namespace StructFill.Session

variable {w : Surroundings}

/-- What can be asked of a session. -/
inductive Question where
  /-- The directory of an import path. -/
  | directory (path : String)
  /-- The record of the main module. -/
  | mainModule
  /-- The package of an import path. -/
  | package (path : String)
  /-- The package of a source file. -/
  | file (file : Path)
  /-- The package that a local name stands for in another one. -/
  | imported (p : Package) (name : String)
  /-- The functions that are generated for an input file. -/
  | generation (c : Config) (input : Path)

namespace Question

/-- What a question is answered with. -/
def Answer : Question → Type
  | directory _ => Option Path
  | mainModule => Option Module.Info
  | package _ => Option Package
  | file _ => Package
  | imported .. => Option Package
  | generation .. => Generated

/-- The run that answers a question. -/
def ask (w : Surroundings) : (q : Question) → Run q.Answer
  | directory path => resolve w path
  | mainModule => Session.mainModule w
  | package path => openPath w path
  | file f => openFile w f
  | imported p name => openImport w p name
  | generation c input => Generation.generate w c input

theorem composed_ask (q : Question) : Composed w (q.ask w) := by
  cases q with
  | directory path => exact .resolve path
  | mainModule => exact .moduleAt ""
  | package path => exact .openPath path
  | file f => exact composed_openFile f
  | imported p name => exact composed_openImport p name
  | generation c input => exact Generation.composed_generate input

end Question

/-! ## Sessions after a history -/

/-- Questions in order, each with the surroundings in which it is asked. -/
abbrev History := List (Surroundings × Question)

/-- The session after all questions of a history. -/
def afterAll (h : History) (s : Session) : Session :=
  h.foldl (fun s asked => (asked.2.ask asked.1).after s) s

@[simp] theorem afterAll_nil (s : Session) : afterAll [] s = s := rfl

@[simp] theorem afterAll_cons (w : Surroundings) (q : Question) (h : History) (s : Session) :
    afterAll ((w, q) :: h) s = afterAll h ((q.ask w).after s) := rfl

/-- A history goes along a relation if each of its questions does. -/
theorem along_afterAll {R : Session → Session → Prop} (hrefl : ∀ s, R s s)
    (htrans : ∀ s₁ s₂ s₃, R s₁ s₂ → R s₂ s₃ → R s₁ s₃)
    (hask : ∀ w q, Run.Along R (Question.ask w q)) (h : History) (s : Session) :
    R s (afterAll h s) := by
  induction h generalizing s with
  | nil => exact hrefl s
  | cons asked rest ih => exact htrans _ _ _ (hask asked.1 asked.2 s) (ih _)

/-- What each question keeps holds after every history. -/
theorem holds_afterAll {P : Session → Prop}
    (hask : ∀ w q s, P s → P ((Question.ask w q).after s)) (h : History) {s : Session} (hs : P s) :
    P (afterAll h s) :=
  along_afterAll (R := fun s s' => P s → P s') (fun _ hs => hs) (fun _ _ _ h h' hs => h' (h hs))
    hask h s hs

/-! ## Transparency -/

/-- No history in the same surroundings changes what a session answers. -/
theorem answers_afterAll (earlier : List Question) (s : Session) :
    answers w (afterAll (earlier.map (w, ·)) s) = answers w s := by
  induction earlier generalizing s with
  | nil => rfl
  | cons q rest ih =>
    have hfirst : answers w ((q.ask w).after s) = answers w s :=
      q.composed_ask.transparent.keeps s
    rw [List.map_cons, afterAll_cons, ih, hfirst]

/-- A session answers each question as it would have before the history. -/
theorem answer_ask_afterAll (q : Question) (earlier : List Question) (s : Session) :
    (q.ask w).answer (afterAll (earlier.map (w, ·)) s) = (q.ask w).answer s :=
  q.composed_ask.transparent.determined (answers_afterAll earlier s)

/-- **The memory is transparent.** While the surroundings stay the same, each question is
answered as by a session that knows nothing, whatever was asked before and whatever of it
failed. -/
theorem answer_after_history (w : Surroundings) (earlier : List Question) (q : Question) :
    (q.ask w).answer (afterAll (earlier.map (w, ·)) .fresh) = (q.ask w).answer .fresh :=
  answer_ask_afterAll q earlier .fresh

end StructFill.Session
