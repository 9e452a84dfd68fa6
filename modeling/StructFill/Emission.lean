import StructFill.Bucket
import StructFill.Package.Name
import StructFill.Source.Quoted

/-! # Emission of the generated text

  **Lines.** The generated file is a list of lines, each ended by a line
  feed. The header has the package clause and the imports; each function
  follows after an empty line.

  **Sections.** A function fills the fields bucket by bucket. A section whose
  bucket is empty is left out. Nothing is checked here: the buckets are
  written as they are.
-/

namespace StructFill.Emission

open Source (Quoted.quote)

/-- The first line of every generated file. -/
def marker : String := "// Code generated by map2struct. DO NOT EDIT."

/-- Lines as a text. -/
def unlines (ls : List String) : String := ls.foldr (fun l t => l ++ "\n" ++ t) ""

/-! ## Header -/

/-- The specification of an import: its name is written only where the path does not
suggest it. -/
def importLine (i : PackageImport) : String :=
  if Package.defaultName i.path = i.name then Quoted.quote i.path
  else i.name ++ " " ++ Quoted.quote i.path

def importLines : List PackageImport → List String
  | [] => []
  | [i] => ["", "import " ++ importLine i]
  | is => ["", "import ("] ++ is.map (fun i => "\t" ++ importLine i) ++ [")"]

/-- The beginning of a generated file. -/
def header (package : String) (imports : List PackageImport) : String :=
  unlines ([marker, "", "package " ++ package] ++ importLines imports)

/-! ## Functions -/

/-- What is needed to write one function. -/
structure Plan where
  name : String
  paramName : String
  paramType : String
  outputType : String
  buckets : Buckets

/-- A section, unless it has no fields. -/
def section? (title : String) (fields : List FilledField) (write : FilledField → List String) :
    List String :=
  if fields = [] then [] else ["", "\t// " ++ title] ++ fields.flatMap write

/-- The value of a field in the map. -/
def lookup (source : String) (f : FilledField) : String :=
  source ++ "[" ++ Quoted.quote f.key ++ "]"

/-- A field that is assigned in any case. -/
def directLines (source : String) (f : FilledField) : List String :=
  match f.strategy.conversion? with
  | some c => ["\tobj." ++ f.name ++ " = " ++ c ++ "(" ++ lookup source f ++ ")"]
  | none => ["\tobj." ++ f.name ++ " = " ++ lookup source f]

/-- The value of a field made from the value `tmp`, where that takes a conversion. -/
def guardedValue? (f : FilledField) : Option String :=
  match f.strategy with
  | .enumeration cast c _ => some (cast ++ "(" ++ c ++ "(tmp))")
  | .assign c => some (c ++ "(tmp)")
  | _ => none

/-- A field that is assigned only when the map has its key. -/
def guardedLines (source : String) (f : FilledField) : List String :=
  ["\tif tmp, ok := " ++ lookup source f ++ "; ok \x7b"]
    ++ (match guardedValue? f, f.isPointer with
        | some v, true => ["\t\tval := " ++ v, "\t\tobj." ++ f.name ++ " = &val"]
        | some v, false => ["\t\tobj." ++ f.name ++ " = " ++ v]
        | none, true => ["\t\tobj." ++ f.name ++ " = &tmp"]
        | none, false => ["\t\tobj." ++ f.name ++ " = tmp"])
    ++ ["\t\x7d"]

/-- A field that is left to be filled by hand. -/
def placeholderLines (f : FilledField) : List String :=
  match f.strategy with
  | .unsupported reason => ["\t// obj." ++ f.name ++ " = ? // " ++ reason]
  | _ => ["\t// obj." ++ f.name ++ " = ?"]

/-- The lines of a function. -/
def functionLines (p : Plan) : List String :=
  ["", "func " ++ p.name ++ "(" ++ p.paramName ++ " " ++ p.paramType ++ ") (obj *" ++ p.outputType
      ++ ", err error) \x7b",
   "\tobj = &" ++ p.outputType ++ "\x7b\x7d"]
    ++ section? "assigned directly" p.buckets.direct (directLines p.paramName)
    ++ section? "enum types" p.buckets.enumerations (guardedLines p.paramName)
    ++ section? "pointer types" p.buckets.assign (guardedLines p.paramName)
    ++ section? "complete by hand" p.buckets.unsupported placeholderLines
    ++ ["", "\treturn obj, err", "\x7d"]

/-- The text of a function. -/
def function (p : Plan) : String := unlines (functionLines p)

end StructFill.Emission
