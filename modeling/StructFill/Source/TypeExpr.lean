/-! # Type expressions

  The shapes of types that matter for filling a struct are told apart; every
  other shape is kept as the text it is written with. Parentheses are no
  shape: a type in parentheses is the type.
-/

namespace StructFill.Source

/-- A type as it is referred to. -/
inductive TypeExpr where
  /-- A plain name. -/
  | name (s : String)
  | pointer (inner : TypeExpr)
  /-- A name behind the local name of an imported package. -/
  | qualified (package name : String)
  | map (key value : TypeExpr)
  /-- An interface type, `empty` when it lists no method and no type. -/
  | interface (empty : Bool)
  /-- Any other shape, as written. -/
  | other (text : String)
deriving DecidableEq, Inhabited

namespace TypeExpr

/-- The text of a type. -/
def text : TypeExpr → String
  | .name s => s
  | .pointer inner => "*" ++ inner.text
  | .qualified q s => q ++ "." ++ s
  | .map key value => "map[" ++ key.text ++ "]" ++ value.text
  | .interface true => "interface\x7b\x7d"
  | .interface false => "interface\x7b...\x7d"
  | .other s => s

/-- Values of the type have no static type: the empty interface, by either spelling. -/
def isOpenInterface : TypeExpr → Bool
  | .interface empty => empty
  | .name s => s == "any"
  | _ => false

@[simp] theorem isOpenInterface_name (s : String) :
    (TypeExpr.name s).isOpenInterface = (s == "any") := rfl

def isPointer : TypeExpr → Bool
  | .pointer _ => true
  | _ => false

/-- The type without its outermost pointer. -/
def pointee : TypeExpr → TypeExpr
  | .pointer inner => inner
  | t => t

end TypeExpr

/-- The predeclared types that a map value can be converted to. -/
def primitives : List String :=
  ["bool", "string", "int", "int8", "int16", "int32", "int64", "uint", "uint8", "uint16",
   "uint32", "uint64", "float32", "float64"]

def isPrimitive (name : String) : Bool := primitives.contains name

end StructFill.Source
