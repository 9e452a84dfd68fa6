import StructFill.Unicode.Case

/-! # Names derived from names

  **Snake case.** An underscore is put before a capital that begins a word of
  small letters (unless the capital begins the text or follows a line break),
  and between a small letter or digit and a capital; the result is
  lower-cased. **Conversion names.** The helper that converts a value to a
  primitive type is a configured beginning followed by the capitalised type.
-/

namespace StructFill.Naming

/-- A text that begins with a small letter. -/
def startsSmall : List Char → Bool
  | [] => false
  | c :: _ => c.isLower

/-- Puts an underscore before each capital that is followed by small letters, and copies
those letters: `inWord` says that the letters before belong to such a word. -/
def divideWords : Bool → List Char → List Char
  | _, [] => []
  | _, [c] => [c]
  | inWord, c :: u :: rest =>
    if inWord && c.isLower then c :: divideWords true (u :: rest)
    else if c != '\n' && u.isUpper && startsSmall rest then c :: '_' :: u :: divideWords true rest
    else c :: divideWords false (u :: rest)

/-- Puts an underscore between a small letter or digit and the capital after it. -/
def divideHumps : List Char → List Char
  | [] => []
  | [c] => [c]
  | a :: b :: rest =>
    if (a.isLower || a.isDigit) && b.isUpper then a :: '_' :: divideHumps (b :: rest)
    else a :: divideHumps (b :: rest)

/-- Snake case over characters. -/
def snakeChars (cs : List Char) : List Char :=
  Unicode.lowerText (divideHumps (divideWords false cs))

/-- `ApiBookInfo` becomes `api_book_info`, and `HTTPServer` becomes `http_server`. -/
def snakeCase (name : String) : String := String.ofList (snakeChars name.toList)

/-- The name with its first character in upper case. -/
def capitalize (name : String) : String :=
  match name.toList with
  | [] => ""
  | c :: rest => String.ofList (Unicode.upper c ++ rest)

/-- The helper for a primitive, such as `cast.ToInt64` for `cast.To` and `int64`. -/
def conversion (beginning primitive : String) : String := beginning ++ capitalize primitive

example : snakeCase "ApiBookInfo" = "api_book_info" := by decide
example : snakeCase "HTTPServer" = "http_server" := by decide
example : conversion "cast.To" "int64" = "cast.ToInt64" := by decide

end StructFill.Naming
