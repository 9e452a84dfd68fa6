import StructFill.Path

/-! # Errors

  **Causes.** Every way in which a run, a function or a field can fail is a
  constructor of `Error`; `Error.message` is the only place where a cause is
  put into words.

  **Fatal or not.** A fatal error means that symbols can no longer be located
  at all, so the run stops. The other errors are local to one function, one
  field or one package, and are turned into diagnostics.
-/

namespace StructFill

/-- The cause of a failure. -/
inductive Error where
  /-- No directory could be found for an import path. `neededBy` is the function whose
  resolution asked for it. -/
  | unresolvedModule (importPath : String) (neededBy : Option String) (reason : String)
  /-- A directory without usable sources, or a source that cannot be read. -/
  | parse (path : Path) (line column : Option Nat) (reason : String)
  /-- A candidate function without a usable parameter or result. -/
  | unsupportedSignature (function reason : String)
  /-- The struct that a function returns could not be located. -/
  | missingOutput (function output reason : String)
  /-- A field of a struct for which no assignment is known. -/
  | unresolvedField (struct field reason : String)
  /-- Writing or formatting the generated text failed. -/
  | emission (function reason : String)
  /-- The configuration is unusable. -/
  | configuration (reason : String)
  /-- A file operation failed. -/
  | io (path : Path) (reason : String)
  /-- Module metadata could not be decoded. -/
  | metadata (reason : String)
  /-- The command that answers metadata queries is not installed. -/
  | toolchain (reason : String)
deriving DecidableEq, Inhabited

namespace Error

/-- A parse error without a position. -/
def unparsable (path : Path) (reason : String) : Error := .parse path none none reason

/-- An import path that nobody has asked for yet. -/
def unresolved (importPath reason : String) : Error := .unresolvedModule importPath none reason

/-- How a position is written after a path: only a line allows a column. -/
def position : Option Nat → Option Nat → String
  | some line, some column => ":" ++ toString line ++ ":" ++ toString column
  | some line, none => ":" ++ toString line
  | none, _ => ""

/-- The wording of an error. -/
def message : Error → String
  | .unresolvedModule importPath neededBy reason =>
    "unresolved module " ++ importPath
      ++ (match neededBy with
          | some f => " (needed by " ++ f ++ ")"
          | none => "")
      ++ ": " ++ reason
  | .parse path line column reason =>
    "parse error in " ++ path.text ++ position line column ++ ": " ++ reason
  | .unsupportedSignature function reason =>
    "unsupported signature for " ++ function ++ ": " ++ reason
  | .missingOutput function output reason =>
    "output " ++ output ++ " of " ++ function ++ " not found: " ++ reason
  | .unresolvedField struct field reason =>
    "unresolved field " ++ struct ++ "." ++ field ++ ": " ++ reason
  | .emission function reason => "emit error in " ++ function ++ ": " ++ reason
  | .configuration reason => "configuration error: " ++ reason
  | .io path reason => "I/O error on " ++ path.text ++ ": " ++ reason
  | .metadata reason => "invalid module metadata: " ++ reason
  | .toolchain reason => "go toolchain not found: " ++ reason

/-- The error with the function that needed the import path. A function that is already
noted stays, and only unresolved import paths carry one. -/
def inFunction (function : String) : Error → Error
  | .unresolvedModule importPath none reason => .unresolvedModule importPath (some function) reason
  | e => e

/-- Whether the run has to stop. -/
def isFatal : Error → Bool
  | .unresolvedModule .. | .configuration _ | .io .. | .metadata _ | .toolchain _ => true
  | .parse .. | .unsupportedSignature .. | .missingOutput .. | .unresolvedField ..
  | .emission .. => false

@[simp] theorem isFatal_inFunction (function : String) (e : Error) :
    (e.inFunction function).isFatal = e.isFatal := by
  unfold inFunction; split <;> rfl

/-- The first function to be noted wins. -/
@[simp] theorem inFunction_inFunction (f g : String) (e : Error) :
    (e.inFunction f).inFunction g = e.inFunction f := by
  rcases e with ⟨_, _ | _, _⟩ | _ | _ | _ | _ | _ | _ | _ | _ | _ <;> rfl

end Error
end StructFill
