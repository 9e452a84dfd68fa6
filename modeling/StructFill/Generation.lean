import StructFill.Classification
import StructFill.Config
import StructFill.Emission

/-! # Generation

  One run reads the package of the input, writes a function for each of its
  conversion functions, and reports what it left out: functions without a
  usable signature, functions whose struct was not found, and fields that are
  not filled.
-/

namespace StructFill

open Session (Run)

/-- What a diagnostic is about. -/
inductive Diagnostic.Kind where
  | unsupportedSignature
  | missingOutput
  | unresolvedField
  | droppedField
  /-- The package of the struct could not be read. -/
  | dependencyParse
  | emission
deriving DecidableEq

/-- The name of a kind in reports. -/
def Diagnostic.Kind.label : Diagnostic.Kind → String
  | .unsupportedSignature => "UnsupportedSignature"
  | .missingOutput => "MissingOutput"
  | .unresolvedField => "UnresolvedField"
  | .droppedField => "DroppedField"
  | .dependencyParse => "DependencyParse"
  | .emission => "Emit"

/-- Something that was left out without stopping the run. -/
structure Diagnostic where
  function : String
  field : Option String
  kind : Diagnostic.Kind
  reason : String
deriving DecidableEq

/-- The diagnostic in reports. -/
def Diagnostic.text (d : Diagnostic) : String :=
  match d.field with
  | some f => d.kind.label ++ " " ++ d.function ++ "." ++ f ++ ": " ++ d.reason
  | none => d.kind.label ++ " " ++ d.function ++ ": " ++ d.reason

/-- What a run did. -/
structure Report where
  /-- The names of the generated functions, in source order. -/
  generated : List String
  diagnostics : List Diagnostic
deriving DecidableEq

/-- The number of diagnostics of a kind. -/
def Report.count (r : Report) (k : Diagnostic.Kind) : Nat :=
  (r.diagnostics.filter fun d => d.kind = k).length

/-- The result of a run. -/
structure Generated where
  /-- The name of the package, which the output shares with the input. -/
  package : String
  text : String
  report : Report
deriving DecidableEq

namespace Generation

/-- What comes of one function. -/
structure Piece where
  /-- The name and the text of the generated function, if there is one. -/
  function : Option (String × String)
  imports : List PackageImport
  diagnostics : List Diagnostic

/-! ## Diagnostics -/

/-- The diagnostic of a function that was passed over. -/
def skippedDiagnostic? : Error → Option Diagnostic
  | .unsupportedSignature function reason =>
    some ⟨function, none, .unsupportedSignature, reason⟩
  | _ => none

/-- The diagnostic of a function whose struct was not found. -/
def missingDiagnostic (function : String) (e : Error) : Diagnostic :=
  match e with
  | .parse .. => ⟨function, none, .dependencyParse, e.message⟩
  | _ => ⟨function, none, .missingOutput, e.message⟩

/-- The diagnostics of the fields that are not filled. -/
def fieldDiagnostics (function : String) (b : Buckets) : List Diagnostic :=
  (b.unsupported.filterMap fun f =>
      match f.strategy with
      | .unsupported reason => some ⟨function, some f.name, .unresolvedField, reason⟩
      | _ => none)
    ++ b.dropped.map fun f => ⟨function, some f.name, .droppedField, f.reason⟩

/-! ## Functions -/

/-- The import of the conversion helpers. -/
def conversionImport (c : Config) : PackageImport :=
  ⟨c.conversionImport, c.conversionPackage?.getD (Package.defaultName c.conversionImport)⟩

/-- The import of the package of the struct, where it has another directory. -/
def outputImports (p : Package) (o : Output) (struct : OutputStruct) : List PackageImport :=
  match o.package with
  | none => []
  | some q => if struct.owner.dir.same p.dir then [] else [⟨struct.owner.importPath, q⟩]

/-- The imports that one function needs. -/
def functionImports (c : Config) (p : Package) (s : Signature) (struct : OutputStruct)
    (b : Buckets) : List PackageImport :=
  (if b.usesConversion then [conversionImport c] else [])
    ++ outputImports p s.output struct ++ b.castImports

/-- The function that is written for a signature. -/
def plan (c : Config) (s : Signature) (b : Buckets) : Emission.Plan :=
  ⟨c.generatedStart ++ s.name, c.paramName, s.map.typeText, s.output.qualifiedName, b⟩

/-- What comes of one signature. -/
def piece (w : Surroundings) (c : Config) (p : Package) (s : Signature) : Run Piece :=
  match s.struct with
  | .error e => pure ⟨none, [], [missingDiagnostic s.name e]⟩
  | .ok struct => do
    let style : Naming.Style := ⟨c.conversionStart, c.tagKey⟩
    match ← (Classification.classify w style struct s.map p).outcome with
    | .error e => throw (e.inFunction s.name)
    | .ok b =>
      let plan := plan c s b
      pure ⟨some (plan.name, Emission.function plan), functionImports c p s struct b,
        fieldDiagnostics s.name b⟩

/-- What comes of several signatures, in order. -/
def pieces (w : Surroundings) (c : Config) (p : Package) : List Signature → Run (List Piece)
  | [] => pure []
  | s :: rest => do
    let first ← piece w c p s
    let others ← pieces w c p rest
    pure (first :: others)

/-! ## The run -/

/-- Puts the pieces together. -/
def assemble (package : String) (skipped : List Error) (ps : List Piece) : Generated :=
  let functions := ps.filterMap (·.function)
  let imports := PackageImport.ordered (ps.flatMap (·.imports))
  { package
    text := Emission.header package imports ++ String.join (functions.map (·.2))
    report :=
      ⟨functions.map (·.1), skipped.filterMap skippedDiagnostic? ++ ps.flatMap (·.diagnostics)⟩ }

/-- Generates code for the conversion functions in the package of an input file. -/
def generate (w : Surroundings) (c : Config) (input : Path) : Run Generated := do
  let p ← Session.openFile w input
  let scan ← Signature.scan w p c.functionStart
  let ps ← pieces w c p scan.functions
  pure (assemble p.name scan.skipped ps)

end Generation
end StructFill
