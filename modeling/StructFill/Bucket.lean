import StructFill.Descriptor

/-! # Buckets of fields

  **Strategies.** Each field of an output struct is filled in one of a few
  ways, or is left to be filled by hand. A `Strategy` says how.

  **Buckets.** The fields of one struct are kept by strategy, in the order of
  their declaration; fields that are left out altogether are kept with the
  reason.
-/

namespace StructFill

/-- A package that the generated file imports, and the name it uses for it. -/
structure PackageImport where
  path : String
  name : String
deriving DecidableEq, Inhabited

namespace PackageImport

/-- The order of imports: by path, then by name. -/
def le (a b : PackageImport) : Bool :=
  if a.path = b.path then decide (a.name ≤ b.name) else decide (a.path < b.path)

/-- Puts an import into an ordered list that has it at most once. -/
def insert (a : PackageImport) : List PackageImport → List PackageImport
  | [] => [a]
  | b :: rest =>
    if a = b then b :: rest
    else if a.le b then a :: b :: rest
    else b :: insert a rest

/-- The imports of a list in order, each once. -/
def ordered (is : List PackageImport) : List PackageImport := is.foldr insert []

end PackageImport

/-- How a field is filled from the value that the map holds for it. -/
inductive Strategy where
  /-- The value, converted if a helper is named. -/
  | direct (conversion : Option String)
  /-- The converted value, cast to a named type over a primitive. -/
  | enumeration (cast conversion : String) (import? : Option PackageImport)
  /-- The address of the converted value. -/
  | assign (conversion : String)
  /-- Nothing: the field is left for completion by hand. -/
  | unsupported (reason : String)
deriving DecidableEq

/-- The helper that a strategy calls. -/
def Strategy.conversion? : Strategy → Option String
  | .direct c => c
  | .enumeration _ c _ => some c
  | .assign c => some c
  | .unsupported _ => none

/-- A field with its strategy. -/
structure FilledField where
  name : String
  /-- The map key from which the value is read. -/
  key : String
  /-- The declared type, as text. -/
  typeText : String
  descriptor : Descriptor
  isPointer : Bool
  /-- The name of the type is that of the map's value type. -/
  typeEqual : Bool
  strategy : Strategy
deriving DecidableEq

/-- A field that is left out. -/
structure DroppedField where
  name : String
  reason : String
deriving DecidableEq

/-- The fields of one struct by strategy. -/
structure Buckets where
  direct : List FilledField
  enumerations : List FilledField
  assign : List FilledField
  unsupported : List FilledField
  dropped : List DroppedField
deriving DecidableEq

namespace Buckets

def empty : Buckets := ⟨[], [], [], [], []⟩

/-- Puts a field behind the others of its strategy. -/
def add (b : Buckets) (f : FilledField) : Buckets :=
  match f.strategy with
  | .direct _ => { b with direct := b.direct ++ [f] }
  | .enumeration .. => { b with enumerations := b.enumerations ++ [f] }
  | .assign _ => { b with assign := b.assign ++ [f] }
  | .unsupported _ => { b with unsupported := b.unsupported ++ [f] }

/-- Leaves a field out. -/
def drop (b : Buckets) (f : DroppedField) : Buckets := { b with dropped := b.dropped ++ [f] }

/-- The fields that receive a value, in the order in which they are written. -/
def assigned (b : Buckets) : List FilledField := b.direct ++ b.enumerations ++ b.assign

/-- Whether a conversion helper is called. -/
def usesConversion (b : Buckets) : Bool := b.assigned.any (·.strategy.conversion?.isSome)

/-- The imports that casts refer to, in order, each once. -/
def castImports (b : Buckets) : List PackageImport :=
  PackageImport.ordered (b.enumerations.filterMap fun f =>
    match f.strategy with
    | .enumeration _ _ i => i
    | _ => none)

/-- The number of fields. -/
def size (b : Buckets) : Nat :=
  b.direct.length + b.enumerations.length + b.assign.length + b.unsupported.length
    + b.dropped.length

def isEmpty (b : Buckets) : Bool := b.size == 0

@[simp] theorem size_empty : empty.size = 0 := rfl

/-- Every field that is put in counts once. -/
@[simp] theorem size_add (b : Buckets) (f : FilledField) : (b.add f).size = b.size + 1 := by
  unfold add size; split <;> simp <;> omega

@[simp] theorem size_drop (b : Buckets) (f : DroppedField) : (b.drop f).size = b.size + 1 := by
  simp [drop, size]; omega

end Buckets
end StructFill
