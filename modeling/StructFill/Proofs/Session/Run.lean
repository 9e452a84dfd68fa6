import StructFill.Session

/-! # Laws of runs

  A run takes a session to an answer and a session. This module says what the
  two are for the ways in which runs are put together.

  **Views.** A view is what somebody sees of a session. A run *keeps* a view
  that it leaves as it was. A run is *steady* for a view that it keeps and on
  which alone its answer depends: asked again in any session that looks the
  same, it gives the same answer. Steadiness is closed under composition, so
  that it is shown for the few runs that touch the memory and holds of
  everything that is built from them.
-/

namespace StructFill.Session.Run

variable {α β γ δ : Type}

/-- What a run answers in a session. -/
def answer (r : Run α) (s : Session) : Except Error α := (r.from s).1

/-- The session after a run. -/
def after (r : Run α) (s : Session) : Session := (r.from s).2

/-! ## Answers and sessions -/

/-- A composed run stops at the first failure. -/
theorem from_bind (r : Run α) (k : α → Run β) (s : Session) :
    (r >>= k).from s =
      match r.from s with
      | (.ok a, s') => (k a).from s'
      | (.error e, s') => (.error e, s') := by
  change (match r.from s with
    | (a, s') => (ExceptT.bindCont k a).run s') = _
  rcases r.from s with ⟨_ | a, s'⟩ <;> rfl

@[simp] theorem answer_pure (a : α) (s : Session) : (pure a : Run α).answer s = .ok a := rfl

@[simp] theorem after_pure (a : α) (s : Session) : (pure a : Run α).after s = s := rfl

@[simp] theorem answer_throw (e : Error) (s : Session) :
    (throw e : Run α).answer s = .error e := rfl

@[simp] theorem after_throw (e : Error) (s : Session) : (throw e : Run α).after s = s := rfl

@[simp] theorem answer_modify (f : Session → Session) (s : Session) :
    (modify f : Run Unit).answer s = .ok () := rfl

@[simp] theorem after_modify (f : Session → Session) (s : Session) :
    (modify f : Run Unit).after s = f s := rfl

/-- A run that starts by looking at the session. -/
@[simp] theorem answer_get_bind (k : Session → Run β) (s : Session) :
    ((get : Run Session) >>= k).answer s = (k s).answer s := rfl

@[simp] theorem after_get_bind (k : Session → Run β) (s : Session) :
    ((get : Run Session) >>= k).after s = (k s).after s := rfl

/-- The answer of a composed run. -/
theorem answer_bind (r : Run α) (k : α → Run β) (s : Session) :
    (r >>= k).answer s = (r.answer s).bind fun a => (k a).answer (r.after s) := by
  unfold answer after
  rw [from_bind]
  rcases r.from s with ⟨_ | a, s'⟩ <;> rfl

/-- The session after a composed run. -/
theorem after_bind (r : Run α) (k : α → Run β) (s : Session) :
    (r >>= k).after s =
      match r.answer s with
      | .ok a => (k a).after (r.after s)
      | .error _ => r.after s := by
  unfold answer after
  rw [from_bind]
  rcases r.from s with ⟨_ | a, s'⟩ <;> rfl

@[simp] theorem answer_outcome (r : Run α) (s : Session) :
    r.outcome.answer s = .ok (r.answer s) := rfl

@[simp] theorem after_outcome (r : Run α) (s : Session) : r.outcome.after s = r.after s := rfl

theorem map_eq_bind (f : α → β) (r : Run α) : f <$> r = r >>= fun a => pure (f a) := rfl

@[simp] theorem answer_map (f : α → β) (r : Run α) (s : Session) :
    (f <$> r).answer s = (r.answer s).map f := by
  rw [map_eq_bind, answer_bind]
  cases r.answer s <;> rfl

@[simp] theorem after_map (f : α → β) (r : Run α) (s : Session) :
    (f <$> r).after s = r.after s := by
  rw [map_eq_bind, after_bind]
  cases r.answer s <;> rfl

/-- A composed run succeeds exactly when its parts do. -/
theorem answer_bind_eq_ok {r : Run α} {k : α → Run β} {s : Session} {b : β} :
    (r >>= k).answer s = .ok b ↔
      ∃ a, r.answer s = .ok a ∧ (k a).answer (r.after s) = .ok b := by
  rw [answer_bind]
  cases r.answer s with
  | error e => simp [Except.bind]
  | ok a => simp [Except.bind]

/-- A composed run fails exactly when one of its parts does. -/
theorem answer_bind_eq_error {r : Run α} {k : α → Run β} {s : Session} {e : Error} :
    (r >>= k).answer s = .error e ↔
      r.answer s = .error e ∨ ∃ a, r.answer s = .ok a ∧ (k a).answer (r.after s) = .error e := by
  rw [answer_bind]
  cases r.answer s with
  | error e' => simp [Except.bind]
  | ok a => simp [Except.bind]

theorem answer_map_eq_error {f : α → β} {r : Run α} {s : Session} {e : Error} :
    (f <$> r).answer s = .error e ↔ r.answer s = .error e := by
  rw [answer_map]
  cases r.answer s <;> simp [Except.map]

/-- The answer of a mapped run. -/
theorem answer_map_eq_ok {f : α → β} {r : Run α} {s : Session} {b : β} :
    (f <$> r).answer s = .ok b ↔ ∃ a, r.answer s = .ok a ∧ f a = b := by
  rw [answer_map]
  cases r.answer s <;> simp [Except.map]

/-! ## Kept views -/

/-- The run leaves a view of the session as it was. -/
def Keeps (v : Session → γ) (r : Run α) : Prop := ∀ s, v (r.after s) = v s

namespace Keeps

variable {v : Session → γ}

theorem pure (a : α) : Keeps v (pure a : Run α) := fun _ => rfl

theorem throw (e : Error) : Keeps v (throw e : Run α) := fun _ => rfl

theorem bind {r : Run α} {k : α → Run β} (hr : Keeps v r) (hk : ∀ a, Keeps v (k a)) :
    Keeps v (r >>= k) := by
  intro s
  rw [after_bind]
  cases r.answer s with
  | error e => exact hr s
  | ok a => exact (hk a _).trans (hr s)

end Keeps

/-! ## Steady runs -/

/-- The run leaves the view `seen` of the session as it was, and its answer depends on nothing
else. It leaves the view `spared` as it was, too. -/
structure Steady (seen : Session → γ) (spared : Session → δ) (r : Run α) : Prop where
  keeps : Keeps seen r
  spares : Keeps spared r
  determined : ∀ {s s'}, seen s = seen s' → r.answer s = r.answer s'

namespace Steady

variable {seen : Session → γ} {spared : Session → δ}

theorem pure (a : α) : Steady seen spared (pure a : Run α) := ⟨.pure a, .pure a, fun _ => rfl⟩

theorem throw (e : Error) : Steady seen spared (throw e : Run α) :=
  ⟨.throw e, .throw e, fun _ => rfl⟩

theorem bind {r : Run α} {k : α → Run β} (hr : Steady seen spared r)
    (hk : ∀ a, Steady seen spared (k a)) : Steady seen spared (r >>= k) := by
  refine ⟨hr.keeps.bind fun a => (hk a).keeps, hr.spares.bind fun a => (hk a).spares, ?_⟩
  intro s s' h
  rw [answer_bind, answer_bind, hr.determined h]
  cases r.answer s' with
  | error e => rfl
  | ok a =>
    -- The sessions between the two parts look alike, since the first part changed neither.
    have hmid : seen (r.after s) = seen (r.after s') := by rw [hr.keeps s, hr.keeps s', h]
    exact (hk a).determined hmid

/-- A run spares each part of what it spares. -/
theorem part {ε : Type} (f : δ → ε) {r : Run α} (hr : Steady seen spared r) :
    Steady seen (fun s => f (spared s)) r :=
  ⟨hr.keeps, fun s => congrArg f (hr.spares s), hr.determined⟩

theorem outcome {r : Run α} (hr : Steady seen spared r) : Steady seen spared r.outcome :=
  ⟨hr.keeps, hr.spares, fun h => congrArg Except.ok (hr.determined h)⟩

theorem map {r : Run α} (f : α → β) (hr : Steady seen spared r) : Steady seen spared (f <$> r) :=
  hr.bind fun _ => .pure _

/-- A steady run answers the same before and after another run that keeps the view. -/
theorem answer_after {r : Run α} {r' : Run β} (hr : Steady seen spared r) (hr' : Keeps seen r')
    (s : Session) : r.answer (r'.after s) = r.answer s := hr.determined (hr' s)

/-- A part of a composed run answers as if it were asked at once. -/
theorem answer_bind {r : Run α} {k : α → Run β} (hr : Steady seen spared r)
    (hk : ∀ a, Steady seen spared (k a)) (s : Session) :
    (r >>= k).answer s = (r.answer s).bind fun a => (k a).answer s := by
  rw [Run.answer_bind]
  cases r.answer s with
  | error e => rfl
  | ok a => exact (hk a).answer_after hr.keeps s

theorem answer_bind_eq_error {r : Run α} {k : α → Run β} {e : Error} (hr : Steady seen spared r)
    (hk : ∀ a, Steady seen spared (k a)) {s : Session} :
    (r >>= k).answer s = .error e ↔
      r.answer s = .error e ∨ ∃ a, r.answer s = .ok a ∧ (k a).answer s = .error e := by
  rw [hr.answer_bind hk]
  cases r.answer s with
  | error e' => simp [Except.bind]
  | ok a => simp [Except.bind]

theorem answer_bind_eq_ok {r : Run α} {k : α → Run β} {b : β} (hr : Steady seen spared r)
    (hk : ∀ a, Steady seen spared (k a)) {s : Session} :
    (r >>= k).answer s = .ok b ↔ ∃ a, r.answer s = .ok a ∧ (k a).answer s = .ok b := by
  rw [hr.answer_bind hk]
  cases r.answer s with
  | error e => simp [Except.bind]
  | ok a => simp [Except.bind]

end Steady
end StructFill.Session.Run
