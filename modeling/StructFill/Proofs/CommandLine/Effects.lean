import StructFill.CommandLine.Run
import StructFill.Proofs.Files.Growth
import StructFill.Proofs.Session.Run
import StructFill.Proofs.Text.Decoding

/-! # What a run of the command changes

  **One write.** All stages of a run that can fail come before its text is
  written, and the text is written last. So a run that fails leaves every file
  as it was; all that it may leave behind are directories that were made for
  the output. A run that succeeds writes one file, or prints its text.

  **The text.** It is what was generated, or what the first formatter that is
  installed makes of it: a program that takes all of it, ends with success and
  prints a text. What is reported next to it has no say in how the run ends.
-/

namespace StructFill

open Files (Disk)
open Program (Host)
open Session (Run)

/-! ## Formatting -/

namespace Output

variable {h : Host} {names : List String} {name source text : String} {p : Path}

/-- The program makes one text of another: it was started in the working directory, took all the
bytes of the first text, ended with success and printed the bytes of the second. -/
def Formats (h : Host) (p : Path) (source text : String) : Prop :=
  ∃ o : Program.Outcome,
    h.start p [] h.disk.workingDirectory (Bytes.ofText source) = .ok ⟨none, .ok o⟩
      ∧ o.status = 0 ∧ o.output = Bytes.ofText text

theorem runFormatter_eq_ok_iff : runFormatter h p source = .ok text ↔ Formats h p source text := by
  unfold runFormatter Formats
  constructor
  · intro hrun
    split at hrun
    next => cases hrun
    next => cases hrun
    next => cases hrun
    next o hstart =>
      split at hrun
      next hsuccess =>
        split at hrun
        next s hdecode =>
          obtain rfl := Except.ok.inj hrun
          exact ⟨o, hstart, by simpa [Program.Outcome.isSuccess] using hsuccess,
            Bytes.decode_eq_ok_iff.1 hdecode⟩
        next => cases hrun
      next => cases hrun
  · rintro ⟨o, hstart, hstatus, houtput⟩
    have hsuccess : o.isSuccess = true := by simp [Program.Outcome.isSuccess, hstatus]
    rw [hstart]
    simp only [hsuccess, if_true, Bytes.decode_eq_ok_iff.2 houtput]

theorem formatter?_eq_none_iff : formatter? h names = none ↔ ∀ n ∈ names, h.find? n = none := by
  induction names with
  | nil => simp [formatter?]
  | cons m rest ih => cases hm : h.find? m <;> simp [formatter?, hm, ih]

/-- The formatters before the one that is used are not installed. -/
theorem formatter?_eq_some_iff : formatter? h names = some (name, p) ↔
    ∃ before after, names = before ++ name :: after ∧ (∀ n ∈ before, h.find? n = none)
      ∧ h.find? name = some p := by
  induction names with
  | nil => simp [formatter?]
  | cons m rest ih =>
    constructor
    · intro hfound
      rw [formatter?] at hfound
      split at hfound
      next hm =>
        obtain ⟨rfl, rfl⟩ := Prod.mk.inj (Option.some.inj hfound)
        exact ⟨[], rest, rfl, by simp, hm⟩
      next hm =>
        obtain ⟨before, after, rfl, hbefore, hname⟩ := ih.1 hfound
        exact ⟨m :: before, after, rfl, by simpa [hm] using hbefore, hname⟩
    · rintro ⟨before, after, hnames, hbefore, hname⟩
      cases before with
      | nil =>
        obtain ⟨rfl, rfl⟩ := List.cons.inj hnames
        rw [formatter?, hname]
      | cons m' before =>
        obtain ⟨rfl, rfl⟩ := List.cons.inj hnames
        rw [formatter?, hbefore _ List.mem_cons_self]
        exact ih.2 ⟨before, after, rfl, fun n hn => hbefore n (List.mem_cons_of_mem _ hn), hname⟩

/-- A text is left as it is where no formatter is installed, and is otherwise what the first one
that is installed makes of it. -/
theorem format_eq_ok_iff :
    format h names source = .ok text ↔
      (∀ name ∈ names, h.find? name = none) ∧ text = source
      ∨ ∃ before name p after, names = before ++ name :: after
        ∧ (∀ n ∈ before, h.find? n = none) ∧ h.find? name = some p ∧ Formats h p source text := by
  constructor
  · intro hformat
    rw [format] at hformat
    cases hformatter : formatter? h names with
    | none =>
      rw [hformatter] at hformat
      exact .inl ⟨formatter?_eq_none_iff.1 hformatter, (Except.ok.inj hformat).symm⟩
    | some found =>
      obtain ⟨name, p⟩ := found
      obtain ⟨before, after, hnames, hbefore, hname⟩ := formatter?_eq_some_iff.1 hformatter
      cases hrun : runFormatter h p source with
      | error reason =>
        simp only [hformatter, hrun] at hformat
        cases hformat
      | ok s =>
        simp only [hformatter, hrun] at hformat
        obtain rfl := Except.ok.inj hformat
        exact .inr ⟨before, name, p, after, hnames, hbefore, hname, runFormatter_eq_ok_iff.1 hrun⟩
  · rintro (⟨hnone, rfl⟩ | ⟨before, name, p, after, hnames, hbefore, hname, hmade⟩)
    · rw [format, formatter?_eq_none_iff.2 hnone]
    · rw [format, formatter?_eq_some_iff.2 ⟨before, after, hnames, hbefore, hname⟩]
      simp only [runFormatter_eq_ok_iff.2 hmade]

end Output

namespace CommandLine

variable {h : Host} {a : Arguments} {c : Config} {g : Generated} {text : String}

/-- The text that a run makes of the one that was generated. -/
inductive Final (h : Host) (c : Config) (generated : String) : String → Prop where
  /-- It stays as it is when formatting is off or no formatter is installed. -/
  | unchanged (hnone : c.format = false ∨ ∀ name ∈ c.formatters, h.find? name = none) :
    Final h c generated generated
  /-- The first formatter that is installed is used. -/
  | formatted {before after name p text} (hformat : c.format = true)
    (hformatters : c.formatters = before ++ name :: after)
    (hbefore : ∀ n ∈ before, h.find? n = none) (hname : h.find? name = some p)
    (hmade : Output.Formats h p generated text) : Final h c generated text

/-- The text of a run, if formatting succeeds. -/
def finish (h : Host) (c : Config) (generated : String) : Except String String :=
  if c.format then (Output.format h c.formatters generated).mapError Error.message
  else pure generated

theorem finish_eq_ok_iff : finish h c g.text = .ok text ↔ Final h c g.text text := by
  cases hformat : c.format with
  | false =>
    have hoff : finish h c g.text = .ok g.text := by
      simp [finish, hformat]
      rfl
    rw [hoff, Except.ok.injEq]
    constructor
    · rintro rfl
      exact .unchanged (.inl hformat)
    · intro hfinal
      cases hfinal with
      | unchanged => rfl
      | formatted hformat' => cases hformat.symm.trans hformat'
  -- With formatting the text is unchanged only if no formatter is installed.
  | true =>
    have hon : finish h c g.text = .ok text ↔ Output.format h c.formatters g.text = .ok text := by
      simp only [finish, hformat, if_true]
      cases Output.format h c.formatters g.text <;> simp [Except.mapError]
    rw [hon, Output.format_eq_ok_iff]
    constructor
    · rintro (⟨hnone, rfl⟩ | ⟨before, name, p, after, hnames, hbefore, hname, hrun⟩)
      · exact .unchanged (.inr hnone)
      · exact .formatted hformat hnames hbefore hname hrun
    · intro hfinal
      cases hfinal with
      | unchanged hnone => exact .inl ⟨hnone.resolve_left (by simp [hformat]), rfl⟩
      | formatted _ hnames hbefore hname hrun =>
        exact .inr ⟨_, _, _, _, hnames, hbefore, hname, hrun⟩

section

variable [Source.Recovery]

/-! ## The stages before the text is delivered -/

/-- With the arguments `a` the configuration `c` holds, generation succeeds with `g`, and `text` is
what comes of it. -/
structure Produces (h : Host) (a : Arguments) (c : Config) (g : Generated) (text : String) :
    Prop where
  generated : ∃ directory, (absoluteInput h a).parent? = some directory
    ∧ configuration h a directory = .ok c
    ∧ (Generation.generate (surroundings h c directory) c (absoluteInput h a)).answer .fresh = .ok g
  final : Final h c g.text text

/-- Where the output of a run goes that does not print it. -/
def outputPlace (h : Host) (a : Arguments) (c : Config) : Path :=
  Output.place (absoluteInput h a) a.outputPath c.outputEnd

/-- The stages of a run, one after the other. -/
theorem deliver_eq (h : Host) (a : Arguments) : deliver h a =
    match (absoluteInput h a).parent? with
    | none => .error "input file has no parent directory"
    | some directory =>
      (configuration h a directory).bind fun c =>
        (((Generation.generate (surroundings h c directory) c (absoluteInput h a)).answer
          .fresh).mapError Error.message).bind fun g =>
            (finish h c g.text).map fun text =>
              if a.stdout then .printed text else .written (outputPlace h a c) text := by
  unfold deliver
  dsimp only
  cases (absoluteInput h a).parent? with
  | none => simp only [throw, throwThe, MonadExceptOf.throw]
  | some directory =>
    dsimp only
    generalize configuration h a directory = c?
    cases c? with
    | error e => simp only [bind, Except.bind]
    | ok c =>
      simp only [bind, Except.bind, Run.answer]
      generalize ((Generation.generate (surroundings h c directory) c (absoluteInput h a)).from
        .fresh).1 = g?
      cases g? with
      | error e => simp only [Except.mapError]
      | ok g =>
        simp only [Except.mapError, finish]
        cases c.format with
        | false => simp only [pure, Except.pure, Except.map, outputPlace, Bool.false_eq_true, if_false]
        | true =>
          generalize Output.format h c.formatters g.text = formatted
          cases formatted <;>
            simp only [pure, Except.pure, Except.map, outputPlace, if_true]

theorem deliver_eq_ok_iff {delivery : Delivery} : deliver h a = .ok delivery ↔
    ∃ c g text, Produces h a c g text
      ∧ delivery = if a.stdout then .printed text else .written (outputPlace h a c) text := by
  rw [deliver_eq]
  constructor
  · intro hdeliver
    split at hdeliver
    · cases hdeliver
    next directory hdirectory =>
      cases hc : configuration h a directory with
      | error e =>
        rw [hc] at hdeliver
        cases hdeliver
      | ok c =>
        cases hg : (Generation.generate (surroundings h c directory) c (absoluteInput h a)).answer
            .fresh with
        | error e =>
          simp only [hc, hg, Except.bind, Except.mapError] at hdeliver
          cases hdeliver
        | ok g =>
          cases hfinish : finish h c g.text with
          | error e =>
            simp only [hc, hg, hfinish, Except.bind, Except.mapError, Except.map] at hdeliver
            cases hdeliver
          | ok text =>
            simp only [hc, hg, hfinish, Except.bind, Except.mapError, Except.map] at hdeliver
            exact ⟨c, g, text, ⟨⟨directory, hdirectory, hc, hg⟩, finish_eq_ok_iff.1 hfinish⟩,
              (Except.ok.inj hdeliver).symm⟩
  · rintro ⟨c, g, text, ⟨⟨directory, hdirectory, hc, hg⟩, hfinal⟩, rfl⟩
    simp only [hdirectory, hc, hg, finish_eq_ok_iff.2 hfinal, Except.bind, Except.mapError,
      Except.map]

/-! ## Endings -/

theorem runWith_of_error {reason : String} (hdeliver : deliver h a = .error reason) :
    runWith h a = failed h.disk reason := by
  unfold runWith
  rw [hdeliver]

theorem runWith_of_stdout (hproduces : Produces h a c g text) (hstdout : a.stdout = true) :
    runWith h a = ⟨0, text, none, h.disk⟩ := by
  have hdeliver := deliver_eq_ok_iff.2 ⟨c, g, text, hproduces, rfl⟩
  rw [if_pos hstdout] at hdeliver
  unfold runWith
  rw [hdeliver]

theorem runWith_of_saved (hproduces : Produces h a c g text) (hstdout : a.stdout = false)
    (hsaved : (Output.save h.disk (outputPlace h a c) text).failure = none) :
    runWith h a = ⟨0, "", none, (Output.save h.disk (outputPlace h a c) text).disk⟩ := by
  have hdeliver := deliver_eq_ok_iff.2 ⟨c, g, text, hproduces, rfl⟩
  rw [if_neg (by simp [hstdout])] at hdeliver
  unfold runWith
  simp only [hdeliver, hsaved]

theorem runWith_of_unsaved {e : Error} (hproduces : Produces h a c g text)
    (hstdout : a.stdout = false)
    (hsaved : (Output.save h.disk (outputPlace h a c) text).failure = some e) :
    runWith h a = failed (Output.save h.disk (outputPlace h a c) text).disk e.message := by
  have hdeliver := deliver_eq_ok_iff.2 ⟨c, g, text, hproduces, rfl⟩
  rw [if_neg (by simp [hstdout])] at hdeliver
  unfold runWith
  simp only [hdeliver, hsaved]

/-- What a run with arguments may print and change, and when it succeeds. -/
structure AllOrNothing (h : Host) (a : Arguments) (e : Ending) : Prop where
  /-- A run that fails prints nothing and changes no file. -/
  failure : e.status ≠ 0 → e.output = "" ∧ h.disk.Grown e.disk
  /-- A run that succeeds has printed its text, or else written it to the place of the output and
  nowhere else. -/
  success : e.status = 0 → ∃ c g text, Produces h a c g text
    ∧ if a.stdout then e.output = text ∧ e.disk = h.disk
      else e.output = "" ∧ h.disk.Written (outputPlace h a c) text e.disk
  /-- A run that is to print its text leaves the disk alone, whether it succeeds or not. -/
  printing : a.stdout = true → e.disk = h.disk
  /-- A run succeeds if it comes to its text and can write it, whatever is reported. -/
  complete : ∀ c g text, Produces h a c g text →
    (a.stdout = false → ∃ d, Output.write h.disk (outputPlace h a c) text = .ok d) → e.status = 0

theorem allOrNothing_runWith (h : Host) (a : Arguments) : AllOrNothing h a (runWith h a) := by
  cases hdeliver : deliver h a with
  | error reason =>
    have hrun := runWith_of_error hdeliver
    refine ⟨fun _ => ?_, fun hzero => ?_, fun _ => ?_, fun c g text hproduces _ => ?_⟩
    · rw [hrun]
      exact ⟨rfl, .refl _⟩
    · rw [hrun] at hzero
      cases hzero
    · rw [hrun]
      rfl
    · -- A run that comes to its text has something to deliver.
      cases hdeliver.symm.trans (deliver_eq_ok_iff.2 ⟨c, g, text, hproduces, rfl⟩)
  | ok delivery =>
    obtain ⟨c, g, text, hproduces, hdelivery⟩ := deliver_eq_ok_iff.1 hdeliver
    cases hstdout : a.stdout with
    | true =>
      have hrun := runWith_of_stdout hproduces hstdout
      rw [hrun]
      refine ⟨fun hne => absurd rfl hne, fun _ => ⟨c, g, text, hproduces, ?_⟩, fun _ => rfl,
        fun _ _ _ _ _ => rfl⟩
      rw [if_pos hstdout]
      exact ⟨rfl, rfl⟩
    | false =>
      cases hsaved : (Output.save h.disk (outputPlace h a c) text).failure with
      | none =>
        rw [runWith_of_saved hproduces hstdout hsaved]
        refine ⟨fun hne => absurd rfl hne, fun _ => ⟨c, g, text, hproduces, ?_⟩, fun htrue => ?_,
          fun _ _ _ _ _ => rfl⟩
        · rw [if_neg (by simp [hstdout])]
          exact ⟨rfl, Output.written_save hsaved⟩
        · cases hstdout.symm.trans htrue
      | some e =>
        have hrun := runWith_of_unsaved hproduces hstdout hsaved
        rw [hrun]
        refine ⟨fun _ => ⟨rfl, Output.grown_save_of_failure hsaved⟩, fun hzero => ?_,
          fun htrue => ?_, fun c' g' text' hproduces' hwrite => ?_⟩
        · cases hzero
        · cases hstdout.symm.trans htrue
        · -- The text that could be written would have been saved.
          obtain ⟨d, hd⟩ := hwrite hstdout
          have hrun' := runWith_of_saved hproduces' hstdout (Output.write_eq_ok_iff.1 hd).1
          cases congrArg Ending.status (hrun.symm.trans hrun')

/-- **All or nothing.** Unless the help text or the version is asked for, a run fails without
touching a file, or it ends as `AllOrNothing` says. -/
theorem run_allOrNothing (h : Host) (args : List String)
    (hhelp : Arguments.read args (h.settings.lookup fileVariable) ≠ .error .help)
    (hversion : Arguments.read args (h.settings.lookup fileVariable) ≠ .error .version) :
    (∃ refusal, Arguments.read args (h.settings.lookup fileVariable) = .error refusal
        ∧ (run h args).status ≠ 0 ∧ (run h args).output = "" ∧ (run h args).disk = h.disk)
      ∨ ∃ a, Arguments.read args (h.settings.lookup fileVariable) = .ok a
        ∧ AllOrNothing h a (run h args) := by
  unfold run
  cases hread : Arguments.read args (h.settings.lookup fileVariable) with
  | error refusal =>
    have hstatus : refusal.status ≠ 0 := by
      cases refusal with
      | help => exact absurd hread hhelp
      | version => exact absurd hread hversion
      | _ => simp [Refusal.status]
    have houtput : refusal.output = "" := by
      cases refusal with
      | version => exact absurd hread hversion
      | _ => rfl
    exact .inl ⟨refusal, rfl, hstatus, houtput, rfl⟩
  | ok a => exact .inr ⟨a, rfl, allOrNothing_runWith h a⟩

end

end CommandLine

/-! ## A run in a directory of one file -/

namespace Sample

open CommandLine (Arguments AllOrNothing)
open Program (Starter Started)

/-- `gofmt`, for texts in which there is nothing to change. No other program can be started. -/
abbrev gofmt : Starter where
  start _ program _ _ input :=
    if program = ⟨"/bin/gofmt"⟩ then .ok ⟨none, .ok { output := input }⟩
    else .error "No such file or directory (os error 2)"

/-- A formatter that ends with success before it has read its input. -/
abbrev hasty : Starter where
  start _ _ _ _ _ := .ok ⟨some "Broken pipe (os error 32)", .ok {}⟩

/-- The environment names the input, and a formatter is installed. -/
def oneFileHost (starter : Starter) : Host where
  disk := ⟨(Files.Tree.empty.plant ["m", "gen.go"] (.file (.text "package gen\n") false)).plant
    ["bin", "gofmt"] (.file (.binary []) true), ["m"]⟩
  settings := [("GOFILE", "gen.go"), ("PATH", "/bin")]

def oneFileArguments : Arguments where
  input := ⟨"gen.go"⟩
  output := some ⟨"new"⟩
  config := none
  functionStart := none
  noFormat := false
  stdout := false
  verbose := 0

end Sample

namespace CommandLine

open Sample (oneFileHost oneFileArguments gofmt hasty)

theorem run_allOrNothing_oneFile :
    (∀ starter, Arguments.read ["-o", "new"] ((oneFileHost starter).settings.lookup fileVariable)
        = .ok oneFileArguments
      ∧ AllOrNothing (oneFileHost starter) oneFileArguments
          (run (oneFileHost starter) ["-o", "new"]))
    ∧ (run (oneFileHost gofmt) ["-o", "new"]).status = 0
    ∧ (run (oneFileHost hasty) ["-o", "new"]).status = 1 := by
  refine ⟨fun starter => ?_, by decide +kernel, by decide +kernel⟩
  have hread : Arguments.read ["-o", "new"] ((oneFileHost starter).settings.lookup fileVariable)
      = .ok oneFileArguments := by
    show Arguments.read ["-o", "new"] (some "gen.go") = _
    decide
  refine ⟨hread, ?_⟩
  rcases run_allOrNothing (oneFileHost starter) ["-o", "new"] (by simp [hread])
      (by simp [hread]) with ⟨refusal, hrefused, -⟩ | ⟨a, ha, hending⟩
  · cases hread.symm.trans hrefused
  · obtain rfl := Except.ok.inj (hread.symm.trans ha)
    exact hending

end CommandLine
end StructFill
