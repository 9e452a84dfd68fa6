import StructFill.Unicode.Letters

/-! # Cutting texts

  Operations on lists of characters that several readers share: splitting at
  separators, trimming, and cutting at the last occurrence of a word.
-/

namespace StructFill.Text

/-- The pieces between separators: `n` separators give `n + 1` pieces. -/
def splitOn (sep : Char → Bool) : List Char → List (List Char)
  | [] => [[]]
  | c :: cs =>
    match splitOn sep cs with
    | [] => [[]]
    | p :: ps => if sep c then [] :: p :: ps else (c :: p) :: ps

theorem splitOn_ne_nil (sep : Char → Bool) (cs : List Char) : splitOn sep cs ≠ [] := by
  cases cs with
  | nil => simp [splitOn]
  | cons c cs => rw [splitOn]; split <;> (try split) <;> simp

/-- Without the characters of the class at either end. -/
def trim (drop : Char → Bool) (cs : List Char) : List Char :=
  ((cs.dropWhile drop).reverse.dropWhile drop).reverse

/-- Without the blanks at either end. -/
def trimBlanks (cs : List Char) : List Char := trim Unicode.isBlank cs

/-- The text before and the text after the last occurrence of `word`. -/
def cutLast? (word : List Char) : List Char → Option (List Char × List Char)
  | [] => none
  | c :: cs =>
    match cutLast? word cs with
    | some (a, b) => some (c :: a, b)
    | none => (word.isPrefixOf? (c :: cs)).map fun rest => ([], rest)

/-- The text before and the text after the first `sep`. -/
def cutFirst? (sep : Char) : List Char → Option (List Char × List Char)
  | [] => none
  | c :: cs =>
    if c = sep then some ([], cs)
    else (cutFirst? sep cs).map fun (a, b) => (c :: a, b)

/-- Digits only, and at least one. -/
def isNumeral (cs : List Char) : Bool := !cs.isEmpty && cs.all Char.isDigit

/-- The pieces of a list of texts with `sep` between them. -/
def join (sep : List Char) (ps : List (List Char)) : List Char :=
  sep.intercalate ps

end StructFill.Text
