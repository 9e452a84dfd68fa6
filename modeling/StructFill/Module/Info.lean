import StructFill.Error
import StructFill.Module.Json

/-! # Module records

  What is known about a module: its path, where its files are, and the module
  that replaces it, if one does.

  **Decoding.** A record is an object with the members below; other members
  are passed over, a member that is missing has its default, and a member may
  be given once. An array is read as the members in order.
-/

namespace StructFill.Module

/-- A module. -/
structure Info where
  path : String
  version : Option String
  /-- The directory of the module's files, if they are there. -/
  dir : Option Path
  goMod : Option Path
  goVersion : Option String
  main : Bool
  indirect : Bool
  /-- The module that stands in for this one. -/
  replace : Option Info
deriving Inhabited

namespace Info

/-- The record without any member. -/
def blank : Info := ⟨"", none, none, none, none, false, false, none⟩

/-- The directory of the packages: that of the replacement, if it has one, or else the
module's own. -/
def effectiveDir? (m : Info) : Option Path := (m.replace.bind (·.dir)) <|> m.dir

/-- The names of the members in their order. -/
def memberNames : List String :=
  ["Path", "Version", "Dir", "GoMod", "GoVersion", "Main", "Indirect", "Replace"]

def text? : Json → Option String
  | .text s => s
  | _ => none

/-- A text that may be missing. -/
def optionalText? : Json → Option (Option String)
  | .null => some none
  | .text (some s) => some (some s)
  | _ => none

def truth? : Json → Option Bool
  | .truth b => some b
  | _ => none

/-- Sets one member; `decode` reads a record inside the record. -/
def set? (decode : Json → Option Info) (m : Info) : String × Json → Option Info
  | ("Path", v) => (text? v).map fun s => { m with path := s }
  | ("Version", v) => (optionalText? v).map fun s => { m with version := s }
  | ("Dir", v) => (optionalText? v).map fun s => { m with dir := s.map Path.mk }
  | ("GoMod", v) => (optionalText? v).map fun s => { m with goMod := s.map Path.mk }
  | ("GoVersion", v) => (optionalText? v).map fun s => { m with goVersion := s }
  | ("Main", v) => (truth? v).map fun b => { m with main := b }
  | ("Indirect", v) => (truth? v).map fun b => { m with indirect := b }
  | ("Replace", .null) => some { m with replace := none }
  | ("Replace", v) => (decode v).map fun r => { m with replace := some r }
  | _ => some m

/-- No known member is given twice. -/
def distinct (members : List (String × Json)) : Bool :=
  let known := (members.map (·.1)).filter memberNames.contains
  known.eraseDups.length == known.length

/-- The record of a value, with at most `n` records inside one another. -/
def decodeWithin? : Nat → Json → Option Info
  | 0, _ => none
  | n + 1, .object members =>
    if distinct members then members.foldlM (set? (decodeWithin? n)) blank else none
  | n + 1, .array elements =>
    if elements.length ≤ memberNames.length then
      (memberNames.zip elements).foldlM (set? (decodeWithin? n)) blank
    else none
  | _ + 1, _ => none

/-- How many records may lie inside one another. -/
def depthLimit : Nat := 127

/-- The record that is written in a text. -/
def ofText (s : String) : Except Error Info :=
  match (Json.ofText? s).bind (decodeWithin? depthLimit) with
  | some m => .ok m
  | none => .error (.metadata "malformed record")

end Info
end StructFill.Module
