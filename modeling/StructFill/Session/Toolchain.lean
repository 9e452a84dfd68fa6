import StructFill.Program.Host
import StructFill.Session

/-! # Metadata from the toolchain

  Module records come from the command that manages modules, which is run in
  the directory of the input and asked for one record at a time. The command
  is looked for only when there is something to ask.
-/

namespace StructFill.Toolchain

open Program (Host)

/-- The command that is asked when nothing else is said. -/
def defaultCommand : String := "go"

/-- What the command prints, unless it fails. -/
def answer (h : Host) (command : String) (directory : Path) (arguments : List String) :
    Except Error (Option String) :=
  match h.find? command with
  | none => .error (.toolchain (command ++ " (cannot find binary path)"))
  | some p =>
    match h.start p arguments directory [] with
    | .error reason | .ok ⟨_, .error reason⟩ => .error (.io p reason)
    | .ok ⟨_, .ok o⟩ => .ok (if o.isSuccess then some (Bytes.tolerant o.output) else none)

/-- The text without the blanks at either end, if there is more to it. -/
def filled? (s : String) : Option String :=
  match Text.trimBlanks s.toList with
  | [] => none
  | cs => some (String.ofList cs)

/-- The record of a module path. -/
def query (h : Host) (command : String) (directory : Path) (path : String) :
    Except Error (Option Module.Info) := do
  let arguments := ["list", "-m", "-json"] ++ (if path = "" then [] else [path])
  match ← answer h command directory arguments with
  | some text => if (filled? text).isSome then some <$> Module.Info.ofText text else pure none
  | none => pure none

/-- The installation: that of the environment, or the one that the command tells. -/
def goroot (h : Host) (command : String) (directory : Path) : Option Path :=
  match (h.settings.lookup "GOROOT").filter (· != "") with
  | some root => some ⟨root⟩
  | none =>
    match answer h command directory ["env", "GOROOT"] with
    | .ok (some text) => (filled? text).map Path.mk
    | _ => none

/-- The metadata that a command knows in a directory. -/
def provider (h : Host) (command : String) (directory : Path) : Provider where
  query := query h command directory
  goroot := goroot h command directory

end StructFill.Toolchain
