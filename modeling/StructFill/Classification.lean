import StructFill.Bucket
import StructFill.Enumeration
import StructFill.Naming
import StructFill.Signature

/-! # Classification of fields

  Each field of an output struct gets a strategy or is dropped. Embedded
  fields are left for completion by hand; primitive fields are decided by the
  type of the map's values; named types are looked up. A type that turns out
  not to be an enumeration is dropped.
-/

namespace StructFill

open Source (Field TypeExpr)
open Session (Run)

/-- What is configured about classification. -/
structure Naming.Style where
  /-- How a call of a conversion helper begins. -/
  conversionStart : String
  /-- The key of the struct tag that holds a field's name in the map. -/
  tagKey : String

namespace Classification

/-- What becomes of a field. -/
inductive Verdict where
  | keep (s : Strategy)
  | drop (reason : String)
deriving DecidableEq

def unsupported (reason : String) : Verdict := .keep (.unsupported reason)

/-- What becomes of a field with a primitive type, or of a pointer to one. -/
def primitive (style : Naming.Style) (map : MapParam) (isPointer : Bool) (name : String) :
    Verdict :=
  let conversion := Naming.conversion style.conversionStart name
  if isPointer then .keep (.assign conversion)
  else if map.valueIsOpen then .keep (.direct (some conversion))
  else if name = map.valueType then .keep (.direct none)
  else
    unsupported ("map value type " ++ map.valueType ++ " differs from field type " ++ name)

/-- How the package `p` writes a type that `owner` declares, and the import for it. Within
one directory a type needs no qualifier. -/
def castName (typeName : String) (owner p : Package) : String × Option PackageImport :=
  if owner.dir.same p.dir then (typeName, none)
  else
    let q := (p.qualifierFor? owner.importPath).getD owner.name
    (q ++ "." ++ typeName, some ⟨owner.importPath, q⟩)

/-- What becomes of a field with a named type. -/
def named (style : Naming.Style) (d : Descriptor) (p : Package) : Enumeration → Verdict
  | .found owner base =>
    let (cast, i) := castName d.name owner p
    .keep (.enumeration cast (Naming.conversion style.conversionStart base) i)
  | .unavailable reason => unsupported reason
  | .chained underlying =>
    unsupported (d.name ++ " is declared over " ++ underlying ++ "; only one level is followed")
  | .undeclared =>
    .drop ("type " ++ d.name ++ " not declared in package " ++ d.home.name?.getD "")
  | .other underlying =>
    .drop ("type " ++ d.name ++ " is a " ++ underlying ++ ", not a named primitive")

/-- What becomes of a field. -/
def verdict (w : Surroundings) (style : Naming.Style) (struct : OutputStruct) (map : MapParam)
    (p : Package) (f : Field) (d : Descriptor) : Run Verdict :=
  if f.embedded then pure (unsupported ("embedded field " ++ f.type.text))
  else
    match d.kind with
    | .base => pure (primitive style map f.type.isPointer d.name)
    | .struct => named style d p <$> Enumeration.resolve w d struct.owner
    | .interface | .pointer | .unknown =>
      pure (unsupported ("type " ++ f.type.text ++ " has no generation strategy"))

/-- The buckets with one more field. -/
def place (style : Naming.Style) (map : MapParam) (f : Field) (d : Descriptor) (b : Buckets) :
    Verdict → Buckets
  | .keep s =>
    b.add ⟨f.name, f.tag.keyName style.tagKey, f.type.text, d, f.type.isPointer,
      d.name == map.valueType, s⟩
  | .drop reason => b.drop ⟨f.name, reason⟩

/-- Puts fields into buckets, one after the other. -/
def classifyFields (w : Surroundings) (style : Naming.Style) (struct : OutputStruct)
    (map : MapParam) (p : Package) : List Field → Buckets → Run Buckets
  | [], b => pure b
  | f :: rest, b => do
    let d := Descriptor.ofType struct.owner.name f.type
    let v ← verdict w style struct map p f d
    classifyFields w style struct map p rest (place style map f d b v)

/-- The fields of a struct by strategy, for a function of the package `p`. -/
def classify (w : Surroundings) (style : Naming.Style) (struct : OutputStruct) (map : MapParam)
    (p : Package) : Run Buckets :=
  classifyFields w style struct map p struct.fields .empty

end Classification
end StructFill
