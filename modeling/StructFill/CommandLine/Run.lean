import StructFill.CommandLine.Arguments
import StructFill.Config.Discovery
import StructFill.Generation
import StructFill.Output
import StructFill.Output.Formatting
import StructFill.Output.Writing
import StructFill.Session.Toolchain

/-! # The command

  A run of the command goes through five stages: arguments, configuration,
  generation, formatting and writing. It ends with a status: zero for success,
  one for a failure of the run, two for arguments that cannot be used.
-/

namespace StructFill.CommandLine

open Program (Host)

/-- What a run of the command leaves behind. -/
structure Ending where
  status : Nat
  /-- What is printed. -/
  output : String
  /-- Why the run failed. -/
  failure : Option String
  disk : Files.Disk

/-- What a run writes: to its output channel, or to a file. -/
inductive Delivery where
  | printed (text : String)
  | written (place : Path) (text : String)

/-- The input as an absolute path. -/
def absoluteInput (h : Host) (a : Arguments) : Path :=
  h.disk.workingDirectory.join a.inputPath

/-- The configuration of a run: the one that was asked for or else the one that holds for the
directory of the input, changed by the arguments. -/
def configuration (h : Host) (a : Arguments) (directory : Path) : Except String Config := do
  let c ←
    match a.config with
    | some p => (Config.ofFile h.disk p).mapError Error.message
    | none => pure (Config.discover h.disk directory)
  let c := match a.functionStart with
    | some s => { c with functionStart := s }
    | none => c
  let c := if a.noFormat then { c with format := false } else c
  c.checked.mapError Config.Problem.message

variable [Source.Recovery]

/-- What a run sees of the system. -/
def surroundings (h : Host) (c : Config) (directory : Path) : Surroundings where
  disk := h.disk
  provider := Toolchain.provider h Toolchain.defaultCommand directory
  goroot := c.goroot

/-- The text that a run delivers, and where to. -/
def deliver (h : Host) (a : Arguments) : Except String Delivery := do
  let input := absoluteInput h a
  match input.parent? with
  | none => throw "input file has no parent directory"
  | some directory =>
    let c ← configuration h a directory
    let run := Generation.generate (surroundings h c directory) c input
    let generated ← (run.from Session.fresh).1.mapError Error.message
    let text ←
      if c.format then (Output.format h c.formatters generated.text).mapError Error.message
      else pure generated.text
    pure (if a.stdout then .printed text
      else .written (Output.place input a.outputPath c.outputEnd) text)

/-- The ending of a run that failed, with the disk as it is left. -/
def failed (d : Files.Disk) (reason : String) : Ending := ⟨1, "", some reason, d⟩

/-- Runs with the arguments that were read. -/
def runWith (h : Host) (a : Arguments) : Ending :=
  match deliver h a with
  | .error reason => failed h.disk reason
  | .ok (.printed text) => ⟨0, text, none, h.disk⟩
  | .ok (.written place text) =>
    let saved := Output.save h.disk place text
    match saved.failure with
    | none => ⟨0, "", none, saved.disk⟩
    | some e => failed saved.disk e.message

/-- The status that refused arguments lead to. -/
def Refusal.status : Refusal → Nat
  | .help | .version => 0
  | _ => 2

/-- The name of the command and its version. -/
def versionText : String := "map2struct 0.3.0"

/-- What is printed when arguments are refused. -/
def Refusal.output : Refusal → String
  | .version => versionText ++ "\n"
  | _ => ""

/-- The variable that names the input. -/
def fileVariable : String := "GOFILE"

/-- Runs the command with the arguments as they were given. -/
def run (h : Host) (args : List String) : Ending :=
  match Arguments.read args (h.settings.lookup fileVariable) with
  | .error refusal => ⟨refusal.status, refusal.output, none, h.disk⟩
  | .ok a => runWith h a

end StructFill.CommandLine
