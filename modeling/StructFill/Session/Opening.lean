import StructFill.Session.Resolution

/-! # Opening packages

  A package is read the first time it is asked for; from then on every
  question gets the same package. A package that could not be read stays
  unreadable for the session, while a path that could not be resolved may be
  tried again.
-/

namespace StructFill.Session

/-- The package of an import path. Neither the empty path nor the pseudo package has one. -/
def openPath (w : Surroundings) (path : String) : Run (Option Package) := do
  if path = "" then pure none
  else
    let s ← get
    match s.packages.lookup path, s.failures.lookup path with
    | some p, _ => pure (some p)
    | none, some e => throw e
    | none, none =>
      match ← resolve w path with
      | none => pure none
      | some dir =>
        modify noteParsed
        match w.read dir path with
        | .ok p =>
          modify (·.notePackage path p)
          pure (some p)
        | .error e =>
          modify (·.noteFailure path e)
          throw e

/-- The package of a source file, opened under its directory. -/
def openFile (w : Surroundings) (file : Path) : Run Package := do
  match file.parent?.filter (·.isAbsolute) with
  | none => throw (.unparsable file "input must be an absolute file path")
  | some dir =>
    match ← openPath w dir.text with
    | some p => pure p
    | none => throw (.unparsable file "no package found for input file")

/-- The first of several packages whose declared name is `name`. Import paths that suggest
the name are passed over, and so are packages that cannot be opened. -/
def probe (w : Surroundings) (name : String) : List String → Run (Option Package)
  | [] => pure none
  | path :: rest => do
    if Package.defaultName path = name then probe w name rest
    else
      match ← (openPath w path).outcome with
      | .ok (some p) => if p.name = name then pure (some p) else probe w name rest
      | _ => probe w name rest

/-- The package that a local name stands for in the source of `p`. A name that no import
binds is looked for among the declared names of the imported packages. -/
def openImport (w : Surroundings) (p : Package) (name : String) : Run (Option Package) :=
  match p.importPathOf? name with
  | some path => openPath w path
  | none => probe w name p.importPaths

end StructFill.Session
