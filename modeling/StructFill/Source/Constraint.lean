import StructFill.Text

/-! # Build constraints

  A comment above the package clause can keep a file out of the package: a
  constraint that mentions the tag `ignore`.
-/

namespace StructFill.Source

/-- The expression of a constraint, if a line is one. -/
def constraint? (line : List Char) : Option (List Char) :=
  ("//go:build".toList.isPrefixOf? line) <|> ("// +build".toList.isPrefixOf? line)

/-- A character of a tag. -/
def isTagChar (c : Char) : Bool := Unicode.isAlphanumeric c || c == '_' || c == '.'

/-- A constraint mentions the tag that marks files to be ignored. -/
def mentionsIgnore (expression : List Char) : Bool :=
  (Text.splitOn (fun c => !isTagChar c) expression).contains "ignore".toList

/-- Whether one of the lines above the package clause keeps the file out. -/
def ignoredLines : List (List Char) → Bool
  | [] => false
  | line :: rest =>
    let line := Text.trimBlanks line
    if "package ".toList.isPrefixOf line then false
    else ((constraint? line).any mentionsIgnore) || ignoredLines rest

/-- Whether a source text keeps itself out of its package. -/
def isIgnored (source : String) : Bool :=
  ignoredLines (Text.splitOn (· == '\n') source.toList)

example : isIgnored "//go:build ignore\n\npackage x\n" = true := by decide
example : isIgnored "package x\n//go:build ignore\n" = false := by decide

end StructFill.Source
