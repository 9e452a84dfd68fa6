import StructFill.Session

/-! # Directories of import paths

  An import path leads to a directory in one of five ways, tried in order.

  * The pseudo package `C` has no directory.
  * An absolute path stands for itself, without dots and steps to parents.
  * The first element of the path is a directory of the standard packages.
  * The path lies inside the main module.
  * A beginning of the path, the longest first, is a module that contains it.

  The directory of a module is that of its replacement, if there is one. Each
  question to the provider is asked at most once, unless it fails.
-/

namespace StructFill.Session

/-- The import path of the pseudo package that has no directory. -/
def pseudoPackage : String := "C"

/-! ## Import paths and module paths -/

/-- What remains of an import path below a module path, if it lies there. -/
def below? (importPath modulePath : String) : Option String :=
  if modulePath = "" then none
  else
    match modulePath.toList.isPrefixOf? importPath.toList with
    | some [] => some ""
    | some ('/' :: rest) => some (String.ofList rest)
    | _ => none

/-- The directory `rest` below another one. -/
def subdirectory (dir : Path) (rest : String) : Path :=
  if rest = "" then dir else dir.joinName rest

/-- The beginnings of a path at its slashes, the longest first. -/
def beginnings (path : String) : List String :=
  let elements := Text.splitOn Path.isSlash path.toList
  (List.range elements.length).reverse.map fun n =>
    String.ofList (Text.join ['/'] (elements.take (n + 1)))

/-! ## Questions to the provider -/

/-- The record of a module path. -/
def moduleAt (w : Surroundings) (path : String) : Run (Option Module.Info) := do
  match (← get).modules.lookup path with
  | some m => pure m
  | none =>
    modify (·.noteAsked path)
    match w.provider.query path with
    | .error e => throw e
    | .ok m =>
      modify (·.noteModule path m)
      pure m

/-- The record of the main module. -/
def mainModule (w : Surroundings) : Run (Option Module.Info) := moduleAt w ""

/-- The directories directly below `src` of an installation. -/
def listStandard (d : Files.Disk) (root : Path) : List (String × Path) :=
  let src := root.joinName "src"
  match d.list src with
  | .ok entries =>
    (entries.filter (·.2.isDirectory)).map fun (n, _) => (n, src.joinName n)
  | .error _ => []

/-- The directories of the standard packages by their first element. -/
def standardRoots (w : Surroundings) : Run (List (String × Path)) := do
  match (← get).standard with
  | some roots => pure roots
  | none =>
    let goroot ←
      match w.goroot with
      | some root => pure (some root)
      | none =>
        modify noteGorootCall
        pure w.provider.goroot
    let roots := (goroot.map (listStandard w.disk)).getD []
    modify (·.noteStandard roots)
    pure roots

/-! ## The ways to a directory -/

/-- The directory of a standard package. -/
def standardDir (w : Surroundings) (path : String) : Run (Option Path) := do
  let roots ← standardRoots w
  match Text.cutFirst? '/' path.toList with
  | some (first, rest) =>
    pure ((roots.lookup (String.ofList first)).map (·.joinName (String.ofList rest)))
  | none => pure (roots.lookup path)

/-- The directory of a package of a dependency: the first of the given module paths that
contains it decides. -/
def dependencyDir (w : Surroundings) (path : String) : List String → Run Path
  | [] => throw (.unresolved path "no module provides this package (forgot to go get?)")
  | b :: rest => do
    match ← moduleAt w b with
    | none => dependencyDir w path rest
    | some m =>
      match below? path m.path with
      | none => dependencyDir w path rest
      | some sub =>
        match m.effectiveDir? with
        | some dir => pure (subdirectory dir sub)
        | none =>
          throw (.unresolved path
            ("module " ++ m.path ++ " is missing from the module cache (run go mod download?)"))

/-- The directory of a package of the main module. -/
def mainDir? (m : Option Module.Info) (path : String) : Option Path := do
  let m ← m
  let sub ← below? path m.path
  let dir ← m.dir
  some (subdirectory dir sub)

/-- The directory of an import path that is not yet known. -/
def resolveAfresh (w : Surroundings) (path : String) : Run (Option Path) := do
  if path = pseudoPackage then pure none
  else if (Path.mk path).isAbsolute then pure (some (Path.mk path).clean)
  else if path = "" then throw (.unresolved path "empty import path")
  else
    match ← standardDir w path with
    | some dir => pure (some dir)
    | none =>
      match mainDir? (← mainModule w) path with
      | some dir => pure (some dir)
      | none => some <$> dependencyDir w path (beginnings path)

/-- The directory of an import path; `none` for the pseudo package. -/
def resolve (w : Surroundings) (path : String) : Run (Option Path) := do
  match (← get).dirs.lookup path with
  | some dir => pure dir
  | none =>
    let dir ← resolveAfresh w path
    modify (·.noteDir path dir)
    pure dir

end StructFill.Session
