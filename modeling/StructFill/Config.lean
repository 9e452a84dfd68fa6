import StructFill.Path
import StructFill.Text
import StructFill.Unicode.Printable

/-! # Configuration

  Every setting has a default, so an empty configuration is a configuration.
  A configuration is **valid** when the three names that end up in generated
  code are identifiers and two texts are not empty; validation reports the
  first setting that is not.
-/

namespace StructFill

/-- The settings of a run. -/
structure Config where
  /-- How the names of the functions begin for which code is generated. -/
  functionStart : String := "MapTo"
  /-- What is put before such a name to name the generated function. -/
  generatedStart : String := "gen"
  /-- The name of the parameter of a generated function. -/
  paramName : String := "src"
  /-- The key of the struct tag that holds a field's name in the map. -/
  tagKey : String := "json"
  /-- The import path of the conversion helpers. -/
  conversionImport : String := "github.com/spf13/cast"
  /-- How a call of a conversion helper begins, before the name of the primitive. -/
  conversionStart : String := "cast.To"
  /-- What is put behind the name of the input to name the output. -/
  outputEnd : String := "_gen"
  /-- Whether the generated text is run through a formatter. -/
  format : Bool := true
  /-- The formatters to try; the first one that is installed is used. -/
  formatters : List String := ["goimports", "gofmt"]
  /-- The installation in which standard packages are looked up. -/
  goroot : Option Path := none
deriving DecidableEq

namespace Config

/-- Why a configuration is unusable. -/
inductive Problem where
  /-- The text of the settings cannot be read. -/
  | malformed
  /-- A setting that has to be an identifier is none. -/
  | notIdentifier (key value : String)
  /-- A setting that must not be empty is. -/
  | blank (key : String)
deriving DecidableEq

/-! ## Values in messages -/

/-- A character between quotes in a message. -/
def shownChar (c : Char) : List Char :=
  if c = '\x00' then ['\\', '0']
  else if c = '\t' then ['\\', 't']
  else if c = '\r' then ['\\', 'r']
  else if c = '\n' then ['\\', 'n']
  else if c = '\\' ∨ c = '"' then ['\\', c]
  else if Unicode.isPrintable c then [c]
  else "\\u\x7b".toList ++ Nat.toDigits 16 c.toNat ++ ['\x7d']

/-- A value between quotes in a message. -/
def shown (s : String) : String :=
  String.ofList ('"' :: (s.toList.flatMap shownChar ++ ['"']))

/-- The name of the file in which settings are looked for. -/
def fileName : String := ".map2struct.toml"

/-- The wording of a problem. -/
def Problem.message : Problem → String
  | .malformed => "failed to parse " ++ fileName
  | .notIdentifier key value => key ++ " " ++ shown value ++ " is not a Go identifier"
  | .blank key => key ++ " must not be empty"

/-! ## Validity -/

/-- A letter or underscore, and then letters, digits and underscores. -/
def isIdentifier (s : String) : Bool :=
  match s.toList with
  | [] => false
  | c :: rest =>
    (c == '_' || Unicode.isAlphabetic c)
      && rest.all fun c => c == '_' || Unicode.isAlphanumeric c

/-- The first problem of a configuration. -/
def problem? (c : Config) : Option Problem :=
  if !isIdentifier c.functionStart then some (.notIdentifier "function_prefix" c.functionStart)
  else if !isIdentifier c.generatedStart then
    some (.notIdentifier "generated_prefix" c.generatedStart)
  else if !isIdentifier c.paramName then some (.notIdentifier "param_name" c.paramName)
  else if c.tagKey = "" then some (.blank "tag_key")
  else if c.conversionStart = "" then some (.blank "conversion_prefix")
  else none

/-- A configuration without problems. -/
def Valid (c : Config) : Prop := c.problem? = none

instance (c : Config) : Decidable c.Valid := inferInstanceAs (Decidable (c.problem? = none))

/-- The configuration, if it is valid. -/
def checked (c : Config) : Except Problem Config :=
  match c.problem? with
  | some p => .error p
  | none => .ok c

theorem checked_eq_ok_iff {c c' : Config} : c.checked = .ok c' ↔ c = c' ∧ c.Valid := by
  unfold checked Valid
  cases h : c.problem? <;> simp

/-- The defaults are valid. -/
theorem valid_default : ({} : Config).Valid := by decide

/-- The package of the conversion helpers, as the beginning of a call names it. -/
def conversionPackage? (c : Config) : Option String :=
  match Text.cutLast? ['.'] c.conversionStart.toList with
  | some (a :: as, _) => some (String.ofList (a :: as))
  | _ => none

end Config
end StructFill
