import StructFill.Session.Opening

/-! # Signatures of conversion functions

  A conversion function takes a map and returns a struct. Of a function's
  parameters the first one with a map type counts, of its results the first
  one. The struct that is returned is located right away; a function without
  one is kept together with the reason.
-/

namespace StructFill

open Source (TypeExpr FuncDecl Field)
open Session (Run)

/-- The map that values are taken from. -/
structure MapParam where
  keyType : String
  valueType : String
  /-- Nothing is known about the type of a value. -/
  valueIsOpen : Bool
deriving DecidableEq

/-- The type of the map, as it is written. -/
def MapParam.typeText (m : MapParam) : String := "map[" ++ m.keyType ++ "]" ++ m.valueType

/-- The type that is returned. -/
structure Output where
  /-- The name before the dot; a type of the same package has none. -/
  package : Option String
  typeName : String
  isPointer : Bool
deriving DecidableEq

/-- The type, as the function's package writes it. -/
def Output.qualifiedName (o : Output) : String :=
  match o.package with
  | some q => q ++ "." ++ o.typeName
  | none => o.typeName

/-- A struct that was located. -/
structure OutputStruct where
  /-- The package that declares it. -/
  owner : Package
  name : String
  fields : List Field

structure Signature where
  name : String
  map : MapParam
  output : Output
  /-- The struct that is returned, or why there is none. -/
  struct : Except Error OutputStruct

/-- The functions of a package that were looked at, in order. -/
structure Scan where
  functions : List Signature
  /-- The errors of the functions that were passed over. -/
  skipped : List Error

namespace Signature

/-- The map of a parameter's type. -/
def mapParam (function : String) : TypeExpr → Except Error MapParam
  | .map (.name k) v =>
    match v with
    | .name _ | .interface true => .ok ⟨k, v.text, v.isOpenInterface⟩
    | v =>
      .error (.unsupportedSignature function
        ("map value type " ++ v.text ++ " is neither an identifier nor interface\x7b\x7d"))
  | .map k _ =>
    .error (.unsupportedSignature function ("map key type " ++ k.text ++ " is not an identifier"))
  | _ => .error (.unsupportedSignature function "parameter is not a map")

def isMap : TypeExpr → Bool
  | .map .. => true
  | _ => false

/-- The output of a result's type. -/
def outputOf (function : String) (t : TypeExpr) : Except Error Output :=
  match t.pointee with
  | .name n => .ok ⟨none, n, t.isPointer⟩
  | .qualified q n => .ok ⟨some q, n, t.isPointer⟩
  | other =>
    .error (.unsupportedSignature function
      ("first result " ++ other.text ++ " is not a named type"))

/-- The map and the output of a declared function. -/
def shape (d : FuncDecl) : Except Error (MapParam × Output) :=
  match d.params, d.results with
  | _ :: _, result :: _ =>
    match d.params.find? fun p => isMap p.type with
    | none => .error (.unsupportedSignature d.name "no map-typed parameter")
    | some p => do
      let map ← mapParam d.name p.type
      let output ← outputOf d.name result.type
      .ok (map, output)
  | _, _ =>
    .error (.unsupportedSignature d.name "needs at least one parameter and one result")

/-- The package in which the output type is declared, as seen from `p`. -/
def outputOwner (w : Surroundings) (p : Package) (function : String) (o : Output) :
    Run Package :=
  match o.package with
  | none => pure p
  | some q => do
    match ← Session.openImport w p q with
    | some owner => pure owner
    | none =>
      throw (.missingOutput function o.qualifiedName ("package " ++ q ++ " is not imported"))

/-- The struct that an output names. -/
def locate (w : Surroundings) (p : Package) (function : String) (o : Output) :
    Run OutputStruct := do
  let owner ← outputOwner w p function o
  match owner.findStruct? o.typeName with
  | some d => pure ⟨owner, d.name, (d.fields?).getD []⟩
  | none =>
    throw (.missingOutput function o.qualifiedName
      ("no struct " ++ o.typeName ++ " in package " ++ owner.name))

/-- The signature of a declared function. -/
def ofDecl (w : Surroundings) (p : Package) (d : FuncDecl) : Run Signature := do
  match shape d with
  | .error e => throw e
  | .ok (map, output) =>
    match ← (locate w p d.name output).outcome with
    | .ok struct => pure ⟨d.name, map, output, .ok struct⟩
    | .error e => if e.isFatal then throw e else pure ⟨d.name, map, output, .error e⟩

/-- The functions of a list. A function without a usable signature is passed over; a fatal
error names the function that met it. -/
def scanDecls (w : Surroundings) (p : Package) : List FuncDecl → Run Scan
  | [] => pure ⟨[], []⟩
  | d :: rest => do
    match ← (ofDecl w p d).outcome with
    | .ok s =>
      let scan ← scanDecls w p rest
      pure { scan with functions := s :: scan.functions }
    | .error e =>
      if e.isFatal then throw (e.inFunction d.name)
      else
        let scan ← scanDecls w p rest
        pure { scan with skipped := e :: scan.skipped }

/-- The functions whose names begin in a given way. -/
def candidates (p : Package) (start : String) : List FuncDecl :=
  p.functions.filter fun f => start.toList.isPrefixOf f.name.toList

/-- The conversion functions of a package. -/
def scan (w : Surroundings) (p : Package) (start : String) : Run Scan :=
  scanDecls w p (candidates p start)

end Signature
end StructFill
