import StructFill.Proofs.Session.Memoization
import StructFill.Proofs.Text.Pieces

/-! # What a session asks

  The source of module metadata is slow to ask, so a session asks it as little
  as it can. This module keeps account of the questions: which module paths are
  asked for, in which order, and with which answers.

  **Inquiries.** An `Inquiry` relates two sessions by the log of the questions
  between them. Logs of consecutive runs are put together by `Inquiry.trans`;
  that is where a question cannot come twice, for the record that was left by
  the first one is still there.

  **Resolution.** The search for one directory asks for the main module and for
  beginnings of its path. What it asks is a sublist of a list that depends on
  the path only, so that its order needs no induction over runs.
-/

namespace StructFill

namespace Session

variable {w : Surroundings} {s s' : Session} {path : String} {α β : Type}

/-! ## Beginnings of a path -/

/-- The path begins with `b`, up to its end or to a slash. -/
def Begins (b path : String) : Prop := b = path ∨ ∃ rest, path = b ++ "/" ++ rest

/-- What is tried for a path are beginnings of it. -/
theorem begins_of_mem_beginnings {b : String} (h : b ∈ beginnings path) : Begins b path := by
  simp only [beginnings, List.mem_map, List.mem_reverse, List.mem_range] at h
  obtain ⟨n, hn, rfl⟩ := h
  have hjoin : Text.join ['/'] (Text.splitOn Path.isSlash path.toList) = path.toList :=
    Text.join_splitOn (by simp [Path.isSlash]) _
  generalize Text.splitOn Path.isSlash path.toList = elements at hn hjoin
  by_cases hlast : n + 1 = elements.length
  · left
    rw [hlast, List.take_length, hjoin, String.ofList_toList]
  · right
    have hcut := Text.join_cut ['/'] (show n + 1 < elements.length by omega)
    refine ⟨String.ofList (Text.join ['/'] (elements.drop (n + 1))), ?_⟩
    rw [hjoin] at hcut
    apply String.toList_injective
    simpa using hcut

/-- The longest beginning comes first. -/
theorem pairwise_beginnings (path : String) :
    (beginnings path).Pairwise fun a b => b.length < a.length := by
  unfold beginnings
  generalize Text.splitOn Path.isSlash path.toList = elements
  rw [List.pairwise_map, List.pairwise_reverse]
  refine List.pairwise_lt_range.imp_of_mem ?_
  intro n m _ hm hlt
  have hm' := List.mem_range.1 hm
  -- The longer one is the shorter one, a slash, and what comes between the two.
  have hlonger : n + 1 < (elements.take (m + 1)).length := by
    rw [List.length_take]
    omega
  have hcut := Text.join_cut ['/'] hlonger
  rw [List.take_take, Nat.min_eq_left (by omega)] at hcut
  rw [hcut]
  simp only [String.length_ofList, List.length_append, List.length_singleton]
  omega

/-- A beginning of a relative path is not empty. -/
theorem ne_blank_of_begins {b : String} (h : Begins b path) (hpath : path ≠ "")
    (habsolute : ¬ (Path.mk path).isAbsolute) : b ≠ "" := by
  rintro rfl
  obtain rfl | ⟨rest, rfl⟩ := h
  · exact hpath rfl
  · simp [Path.isAbsolute] at habsolute

/-! ## Inquiries -/

/-- Questions to the provider with its answers, in order. -/
abbrev Log := List (String × Except Error (Option Module.Info))

/-- The second session comes from the first one by asking the questions of a log. -/
structure Inquiry (log : Log) (s s' : Session) : Prop where
  asked : s'.asked = (log.map Prod.fst).reverse ++ s.asked
  /-- No record is forgotten. -/
  kept : ∀ path m, s.modules.lookup path = some m → s'.modules.lookup path = some m
  /-- What is on record is not asked for. -/
  unknown : ∀ x ∈ log, s.modules.lookup x.1 = none
  /-- What was answered is on record. -/
  noted : ∀ x ∈ log, ∀ m, x.2 = .ok m → s'.modules.lookup x.1 = some m
  /-- A question comes again only after failures. -/
  again : log.Pairwise fun x y => x.1 = y.1 → ∃ e, x.2 = .error e

namespace Inquiry

/-- Nothing was asked, and no record was touched. -/
theorem silent (hasked : s'.asked = s.asked) (hmodules : s'.modules = s.modules) :
    Inquiry [] s s' where
  asked := hasked
  kept path m h := by rw [hmodules, h]
  unknown _ h := absurd h List.not_mem_nil
  noted _ h := absurd h List.not_mem_nil
  again := .nil

theorem refl (s : Session) : Inquiry [] s s := silent rfl rfl

theorem trans {log log' : Log} {s₁ s₂ s₃ : Session} (h : Inquiry log s₁ s₂)
    (h' : Inquiry log' s₂ s₃) : Inquiry (log ++ log') s₁ s₃ where
  asked := by rw [h'.asked, h.asked, List.map_append, List.reverse_append, List.append_assoc]
  kept path m hm := h'.kept path m (h.kept path m hm)
  unknown x hx := by
    rcases List.mem_append.1 hx with hx | hx
    · exact h.unknown x hx
    · -- A record from before would still be there, and then `x` is not asked for.
      have hlater := h'.unknown x hx
      cases hm : s₁.modules.lookup x.1 with
      | none => rfl
      | some m =>
        rw [h.kept x.1 m hm] at hlater
        cases hlater
  noted x hx m hm := by
    rcases List.mem_append.1 hx with hx | hx
    · exact h'.kept x.1 m (h.noted x hx m hm)
    · exact h'.noted x hx m hm
  again := by
    refine List.pairwise_append.2 ⟨h.again, h'.again, ?_⟩
    intro x hx y hy hxy
    cases hanswer : x.2 with
    | error e => exact ⟨e, rfl⟩
    | ok m =>
      have hnoted := h.noted x hx m hanswer
      rw [hxy, h'.unknown y hy] at hnoted
      cases hnoted

end Inquiry

/-! ## The questions of a run -/

/-- A question with the answer that it gets in these surroundings. -/
def answered (w : Surroundings) (path : String) : String × Except Error (Option Module.Info) :=
  (path, w.provider.query path)

/-- The run asks some of the given questions, in this order. -/
def Asks (w : Surroundings) (paths : List String) (r : Run α) : Prop :=
  ∀ s, ∃ asked : List String, asked.Sublist paths ∧
    Inquiry (asked.map (answered w)) s (r.after s)

namespace Asks

theorem silent {r : Run α} (hasked : ∀ s, (r.after s).asked = s.asked)
    (hmodules : ∀ s, (r.after s).modules = s.modules) : Asks w [] r :=
  fun s => ⟨[], .slnil, .silent (hasked s) (hmodules s)⟩

theorem pure (a : α) : Asks w [] (pure a : Run α) := silent (fun _ => rfl) fun _ => rfl

theorem throw (e : Error) : Asks w [] (throw e : Run α) := silent (fun _ => rfl) fun _ => rfl

theorem mono {paths paths' : List String} {r : Run α} (h : Asks w paths r)
    (hsub : paths.Sublist paths') : Asks w paths' r := by
  intro s
  obtain ⟨asked, hasked, hinquiry⟩ := h s
  exact ⟨asked, hasked.trans hsub, hinquiry⟩

theorem bind {paths paths' : List String} {r : Run α} {k : α → Run β} (hr : Asks w paths r)
    (hk : ∀ a, Asks w paths' (k a)) : Asks w (paths ++ paths') (r >>= k) := by
  intro s
  obtain ⟨asked, hasked, hinquiry⟩ := hr s
  rw [Run.after_bind]
  cases r.answer s with
  | error e => exact ⟨asked, hasked.trans (List.sublist_append_left paths paths'), hinquiry⟩
  | ok a =>
    obtain ⟨asked', hasked', hinquiry'⟩ := hk a (r.after s)
    refine ⟨asked ++ asked', hasked.append hasked', ?_⟩
    rw [List.map_append]
    exact hinquiry.trans hinquiry'

/-- A part that asks nothing does not count. -/
theorem bind_silent {paths : List String} {r : Run α} {k : α → Run β} (hr : Asks w [] r)
    (hk : ∀ a, Asks w paths (k a)) : Asks w paths (r >>= k) := hr.bind hk

theorem map {paths : List String} {r : Run α} (f : α → β) (hr : Asks w paths r) :
    Asks w paths (f <$> r) := by
  have hmap := hr.bind fun a => Asks.pure (f a)
  rwa [List.append_nil] at hmap

end Asks

/-- A module is asked for unless it is on record. -/
theorem asks_moduleAt (path : String) : Asks w [path] (moduleAt w path) := by
  intro s
  rw [after_moduleAt]
  cases hm : s.modules.lookup path with
  | some m => exact ⟨[], List.nil_sublist _, .refl s⟩
  | none =>
    refine ⟨[path], .refl _, ?_⟩
    have hunknown : ∀ x ∈ [answered w path], s.modules.lookup x.1 = none := by
      intro x hx
      obtain rfl := List.mem_singleton.1 hx
      exact hm
    -- A failed question is noted as asked too, but leaves no record, so it may be asked again.
    cases hq : w.provider.query path with
    | error e =>
      refine ⟨rfl, fun _ _ h => h, hunknown, ?_, List.pairwise_singleton ..⟩
      intro x hx m hm'
      obtain rfl := List.mem_singleton.1 hx
      simp [answered, hq] at hm'
    | ok m =>
      refine ⟨rfl, ?_, hunknown, ?_, List.pairwise_singleton ..⟩
      · intro path' m' hm'
        have hne : path' ≠ path := by
          rintro rfl
          simp [hm] at hm'
        simpa [noteModule, noteAsked, List.lookup_cons, beq_eq_false_iff_ne.2 hne] using hm'
      · intro x hx m' hm'
        obtain rfl := List.mem_singleton.1 hx
        obtain rfl : m = m' := by simpa [answered, hq] using hm'
        simp [answered, noteModule]

theorem asks_standardDir (path : String) : Asks w [] (standardDir w path) := by
  have hroots : Asks w [] (standardRoots w) := by
    refine .silent (fun s => ?_) fun s => ?_ <;>
    · obtain ⟨n, hafter⟩ := after_standardRoots (w := w) s
      rw [hafter]
  refine hroots.bind_silent fun roots => ?_
  cases Text.cutFirst? '/' path.toList with
  | none => exact .pure _
  | some cut => exact .pure _

/-- The search along the beginnings of a path asks for them in order, until one is found. -/
theorem asks_dependencyDir (path : String) (beginnings : List String) :
    Asks w beginnings (dependencyDir w path beginnings) := by
  induction beginnings with
  | nil => exact .throw _
  | cons b rest ih =>
    refine (asks_moduleAt b).bind fun m => ?_
    cases m with
    | none => exact ih
    | some m =>
      dsimp only
      cases below? path m.path with
      | none => exact ih
      | some sub =>
        dsimp only
        cases m.effectiveDir? with
        | none => exact (Asks.throw _).mono (List.nil_sublist _)
        | some dir => exact (Asks.pure _).mono (List.nil_sublist _)

theorem asks_resolveAfresh (path : String) :
    Asks w ("" :: beginnings path) (resolveAfresh w path) := by
  have hnothing : ([] : List String).Sublist ("" :: beginnings path) := List.nil_sublist _
  unfold resolveAfresh
  split
  · exact (Asks.pure _).mono hnothing
  split
  · exact (Asks.pure _).mono hnothing
  split
  · exact (Asks.throw _).mono hnothing
  refine (asks_standardDir path).bind_silent fun dir => ?_
  cases dir with
  | some dir => exact (Asks.pure _).mono hnothing
  | none =>
    refine (asks_moduleAt "").bind fun m => ?_
    cases mainDir? m path with
    | some dir => exact (Asks.pure _).mono (List.nil_sublist _)
    | none => exact (asks_dependencyDir path _).map some

/-- The search for a directory asks for the main module and then for beginnings of the path. -/
theorem asks_resolve (path : String) : Asks w ("" :: beginnings path) (resolve w path) := by
  intro s
  rw [resolve, Run.after_get_bind]
  cases s.dirs.lookup path with
  | some dir => exact ⟨[], List.nil_sublist _, .refl s⟩
  | none =>
    have hnote : ∀ dir, Asks w [] (do modify (·.noteDir path dir); Pure.pure dir) :=
      fun dir => .silent (fun _ => rfl) fun _ => rfl
    have hresolve := (asks_resolveAfresh path).bind hnote
    rw [List.append_nil] at hresolve
    exact hresolve s

/-! ## The questions of a history -/

/-- The second session comes from the first one by questions that were asked in these
surroundings. -/
def Inquires (w : Surroundings) (s s' : Session) : Prop :=
  ∃ asked : List String, Inquiry (asked.map (answered w)) s s'

theorem Inquires.refl (s : Session) : Inquires w s s := ⟨[], .refl s⟩

theorem Inquires.trans {s₁ s₂ s₃ : Session} (h : Inquires w s₁ s₂) (h' : Inquires w s₂ s₃) :
    Inquires w s₁ s₃ := by
  obtain ⟨asked, hinquiry⟩ := h
  obtain ⟨asked', hinquiry'⟩ := h'
  exact ⟨asked ++ asked', by rw [List.map_append]; exact hinquiry.trans hinquiry'⟩

theorem Asks.inquires {paths : List String} {r : Run α} (h : Asks w paths r) :
    Run.Along (Inquires w) r := by
  intro s
  obtain ⟨asked, -, hinquiry⟩ := h s
  exact ⟨asked, hinquiry⟩

theorem inquires_ask (w : Surroundings) (q : Question) : Run.Along (Inquires w) (q.ask w) := by
  refine q.composed_ask.along .refl (fun _ _ _ => .trans)
    (fun path => (asks_moduleAt path).inquires) (fun path => (asks_resolve path).inquires)
    fun path => ?_
  refine along_openPath .refl (fun _ _ _ => .trans) (asks_resolve path).inquires ?_
  -- What is noted of a package is no record of a module.
  intro s dir _ _
  refine ⟨[], .silent ?_ ?_⟩ <;> cases w.read dir path <;> rfl

/-- The module paths that were asked for between two sessions, in order. -/
def askedBetween (s s' : Session) : List String :=
  (s'.asked.take (s'.asked.length - s.asked.length)).reverse

theorem askedBetween_of_inquiry {asked : List String}
    (h : Inquiry (asked.map (answered w)) s s') : askedBetween s s' = asked := by
  have hfst : (asked.map (answered w)).map Prod.fst = asked := by
    simp [Function.comp_def, answered]
  have hasked := h.asked
  rw [hfst] at hasked
  simp [askedBetween, hasked]

/-- The questions of a run to the provider, with its answers. -/
def queries (w : Surroundings) (r : Run α) (s : Session) : Log :=
  (askedBetween s (r.after s)).map (answered w)

theorem queries_of_inquiry {r : Run α} {asked : List String}
    (h : Inquiry (asked.map (answered w)) s (r.after s)) :
    queries w r s = asked.map (answered w) := by
  rw [queries, askedBetween_of_inquiry h]

theorem inquiry_ask (w : Surroundings) (q : Question) (s : Session) :
    Inquiry (queries w (q.ask w) s) s ((q.ask w).after s) := by
  obtain ⟨asked, hinquiry⟩ := inquires_ask w q s
  rwa [queries_of_inquiry hinquiry]

/-- All questions of a history, each with the answer that it got at its time. -/
def log : History → Session → Log
  | [], _ => []
  | (w, q) :: rest, s => queries w (q.ask w) s ++ log rest ((q.ask w).after s)

theorem inquiry_afterAll (h : History) (s : Session) : Inquiry (log h s) s (afterAll h s) := by
  induction h generalizing s with
  | nil => exact .refl s
  | cons asked rest ih => exact (inquiry_ask asked.1 asked.2 s).trans (ih _)

/-! ## The installation -/

/-- The installation was asked for at most once, and not before the standard packages were
listed. -/
def AskedInstallation (s : Session) : Prop :=
  s.gorootCalls ≤ 1 ∧ (s.standard = none → s.gorootCalls = 0)

/-- The provider is asked for the installation as rarely as possible. -/
structure SparesInstallation (w : Surroundings) (s s' : Session) : Prop where
  once : AskedInstallation s → AskedInstallation s'
  /-- Where the installation is given, the provider is not asked for it. -/
  given : w.goroot ≠ none → s'.gorootCalls = s.gorootCalls

namespace SparesInstallation

theorem same (hstandard : s'.standard = s.standard) (hcalls : s'.gorootCalls = s.gorootCalls) :
    SparesInstallation w s s' where
  once h := by rwa [AskedInstallation, hstandard, hcalls]
  given _ := hcalls

theorem trans {s₁ s₂ s₃ : Session} (h : SparesInstallation w s₁ s₂)
    (h' : SparesInstallation w s₂ s₃) : SparesInstallation w s₁ s₃ where
  once hs := h'.once (h.once hs)
  given hw := (h'.given hw).trans (h.given hw)

end SparesInstallation

theorem sparesInstallation_standardRoots :
    Run.Along (SparesInstallation w) (standardRoots w) := by
  intro s
  rw [standardRoots, Run.after_get_bind]
  cases hs : s.standard with
  | some roots => exact .same rfl rfl
  | none =>
    cases hw : w.goroot with
    | some root =>
      refine ⟨fun h => ⟨h.1, ?_⟩, fun _ => rfl⟩
      simp [noteStandard]
    | none =>
      -- The first listing is the only one that asks.
      refine ⟨fun h => ⟨?_, ?_⟩, fun hgiven => absurd hw hgiven⟩
      · have hnone := h.2 hs
        simp [Run.after_bind, noteStandard, noteGorootCall, hnone]
      · simp [Run.after_bind, noteStandard]

theorem sparesInstallation_ask (w : Surroundings) (q : Question) :
    Run.Along (SparesInstallation w) (q.ask w) := by
  have hmoduleAt : ∀ path, Run.Along (SparesInstallation w) (moduleAt w path) := by
    intro path s
    rw [after_moduleAt]
    cases s.modules.lookup path <;> cases w.provider.query path <;> exact .same rfl rfl
  have hresolve : ∀ path, Run.Along (SparesInstallation w) (resolve w path) :=
    along_resolve (fun _ => .same rfl rfl) (fun _ _ _ => .trans) hmoduleAt
      sparesInstallation_standardRoots fun _ _ _ => .same rfl rfl
  refine q.composed_ask.along (fun _ => .same rfl rfl) (fun _ _ _ => .trans) hmoduleAt hresolve ?_
  intro path
  refine along_openPath (fun _ => .same rfl rfl) (fun _ _ _ => .trans) (hresolve path) ?_
  intro s dir _ _
  refine .same ?_ ?_ <;> cases w.read dir path <;> rfl

theorem askedInstallation_afterAll (h : History) : AskedInstallation (afterAll h .fresh) :=
  holds_afterAll (fun w q s => (sparesInstallation_ask w q s).once) h ⟨Nat.zero_le 1, fun _ => rfl⟩

/-! ## Paths that need no module -/

/-- The first element of a path. -/
def firstElement (path : String) : String :=
  match Text.cutFirst? '/' path.toList with
  | some (first, _) => String.ofList first
  | none => path

/-- The directory of the path is known without a module, or known to be none. -/
inductive NeedsNoModule (w : Surroundings) (s : Session) : String → Prop where
  | blank : NeedsNoModule w s ""
  | pseudo : NeedsNoModule w s pseudoPackage
  | absolute {path : String} (h : (Path.mk path).isAbsolute) : NeedsNoModule w s path
  /-- The first element is a directory of the standard packages. -/
  | standard {path : String} {dir : Path}
    (h : (standardOf w s).lookup (firstElement path) = some dir) : NeedsNoModule w s path

theorem answer_standardDir_isSome {dir : Path}
    (h : (standardOf w s).lookup (firstElement path) = some dir) :
    ∃ dir', (standardDir w path).answer s = .ok (some dir') := by
  simp only [standardDir, Run.answer_bind, answer_standardRoots, Except.bind]
  unfold firstElement at h
  cases hcut : Text.cutFirst? '/' path.toList with
  | none =>
    rw [hcut] at h
    exact ⟨dir, by simp [h]⟩
  | some cut =>
    rw [hcut] at h
    exact ⟨dir.joinName (String.ofList cut.2), by simp [h]⟩

/-- Such a path is resolved without a question. -/
theorem queries_resolve_eq_nil (h : NeedsNoModule w s path) :
    queries w (resolve w path) s = [] := by
  have hafresh : ((resolveAfresh w path).after s).asked = s.asked := by
    unfold resolveAfresh
    split
    · rfl
    next hpseudo =>
      split
      · rfl
      next habsolute =>
        split
        · rfl
        next hblank =>
          cases h with
          | blank => exact absurd rfl hblank
          | pseudo => exact absurd rfl hpseudo
          | absolute h => exact absurd h habsolute
          -- The search for standard packages lists directories, but it asks for no module.
          | standard h =>
            obtain ⟨dir, hdir⟩ := answer_standardDir_isSome h
            obtain ⟨asked, hnone, hinquiry⟩ := asks_standardDir (w := w) path s
            obtain rfl := List.sublist_nil.1 hnone
            simp only [Run.after_bind, hdir, Run.after_pure]
            exact hinquiry.asked
  have hasked : ((resolve w path).after s).asked = s.asked := by
    rw [after_resolve]
    cases s.dirs.lookup path with
    | some dir => rfl
    | none => cases (resolveAfresh w path).answer s <;> exact hafresh
  simp [queries, askedBetween, hasked]

/-- What the search for one directory asks for. -/
theorem queries_resolve (w : Surroundings) (path : String) (s : Session) :
    ∃ rest : List String,
      ((queries w (resolve w path) s).map Prod.fst = rest
        ∨ (queries w (resolve w path) s).map Prod.fst = "" :: rest)
      ∧ (∀ b ∈ rest, b ≠ "" ∧ Begins b path)
      ∧ rest.Pairwise fun a b => b.length < a.length := by
  by_cases hneeds : NeedsNoModule w s path
  · refine ⟨[], .inl ?_, by simp, .nil⟩
    rw [queries_resolve_eq_nil hneeds]
    rfl
  have hpath : path ≠ "" := by
    rintro rfl
    exact hneeds .blank
  have habsolute : ¬ (Path.mk path).isAbsolute := fun h => hneeds (.absolute h)
  obtain ⟨asked, hsub, hinquiry⟩ := asks_resolve (w := w) path s
  have hqueries : (queries w (resolve w path) s).map Prod.fst = asked := by
    rw [queries_of_inquiry hinquiry]
    simp [Function.comp_def, answered]
  rw [hqueries]
  have hbeginnings : ∀ rest : List String, rest.Sublist (beginnings path) →
      (∀ b ∈ rest, b ≠ "" ∧ Begins b path) ∧ rest.Pairwise fun a b => b.length < a.length := by
    intro rest hrest
    refine ⟨fun b hb => ?_, (pairwise_beginnings path).sublist hrest⟩
    have hbegins := begins_of_mem_beginnings (hrest.subset hb)
    exact ⟨ne_blank_of_begins hbegins hpath habsolute, hbegins⟩
  -- The main module comes first, if it is asked for at all.
  rcases List.sublist_cons_iff.1 hsub with hrest | ⟨rest, rfl, hrest⟩
  · exact ⟨asked, .inl rfl, hbeginnings asked hrest⟩
  · exact ⟨rest, .inr rfl, hbeginnings rest hrest⟩

/-! ## The account -/

/-- How a session with the given history deals with its provider. -/
structure AsksSparingly (earlier : History) : Prop where
  /-- The session has counted every question of the history. -/
  asked : (afterAll earlier .fresh).asked = ((log earlier .fresh).map Prod.fst).reverse
  /-- A module path is asked for again only if each earlier question for it failed. -/
  again : (log earlier .fresh).Pairwise fun x y => x.1 = y.1 → ∃ e, x.2 = .error e
  installation : (afterAll earlier .fresh).gorootCalls ≤ 1
  /-- No question asks for the installation where it is given. -/
  given : ∀ w q, w.goroot ≠ none →
    ((Question.ask w q).after (afterAll earlier .fresh)).gorootCalls
      = (afterAll earlier .fresh).gorootCalls
  /-- Some paths need no module. -/
  silent : ∀ w path, NeedsNoModule w (afterAll earlier .fresh) path →
    queries w (resolve w path) (afterAll earlier .fresh) = []
  /-- The search for a directory asks for the main module, and then for beginnings of the path,
  the longest first. -/
  resolution : ∀ w path, ∃ rest : List String,
    ((queries w (resolve w path) (afterAll earlier .fresh)).map Prod.fst = rest
      ∨ (queries w (resolve w path) (afterAll earlier .fresh)).map Prod.fst = "" :: rest)
    ∧ (∀ b ∈ rest, b ≠ "" ∧ Begins b path)
    ∧ rest.Pairwise fun a b => b.length < a.length

/-- **Sessions ask sparingly**, whatever they are asked and however the surroundings change. -/
theorem asksSparingly (earlier : History) : AsksSparingly earlier := by
  have hinquiry := inquiry_afterAll earlier .fresh
  have hasked := hinquiry.asked
  rw [show Session.fresh.asked = [] from rfl, List.append_nil] at hasked
  exact {
    asked := hasked
    again := hinquiry.again
    installation := (askedInstallation_afterAll earlier).1
    given := fun w q hgiven => (sparesInstallation_ask w q _).given hgiven
    silent := fun w path h => queries_resolve_eq_nil h
    resolution := fun w path => queries_resolve w path _ }

end Session
end StructFill
