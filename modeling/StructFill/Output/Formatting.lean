import StructFill.Error
import StructFill.Program.Host

/-! # Formatting the output

  The text goes through the first formatter that is installed, and stays as it
  is when none is. A formatter that cannot be started, does not take the whole
  text or fails takes the run with it: what it says becomes the error.
-/

namespace StructFill.Output

open Program (Host)

/-- The first formatter that is installed, with its place. -/
def formatter? (h : Host) : List String → Option (String × Path)
  | [] => none
  | name :: rest =>
    match h.find? name with
    | some p => some (name, p)
    | none => formatter? h rest

/-- What a formatter makes of a text, or why it makes nothing of it. That its end is not known
is told before what became of its input. -/
def runFormatter (h : Host) (p : Path) (text : String) : Except String String :=
  match h.start p [] h.disk.workingDirectory (Bytes.ofText text) with
  | .error reason => .error ("failed to start " ++ p.text ++ ": " ++ reason)
  | .ok ⟨_, .error reason⟩ => .error ("formatter did not finish: " ++ reason)
  | .ok ⟨some reason, .ok _⟩ => .error ("failed to write to formatter: " ++ reason)
  | .ok ⟨none, .ok o⟩ =>
    if o.isSuccess then
      match Bytes.decode o.output with
      | .ok s => .ok s
      | .error flaw => .error ("formatter produced invalid UTF-8: " ++ flaw.message)
    else .error (String.ofList (Text.trimBlanks (Bytes.tolerant o.errors).toList))

/-- The formatted text. -/
def format (h : Host) (formatters : List String) (text : String) : Except Error String :=
  match formatter? h formatters with
  | none => .ok text
  | some (name, p) =>
    match runFormatter h p text with
    | .ok s => .ok s
    | .error reason => .error (.emission name reason)

end StructFill.Output
