import StructFill.Source.Quoted
import StructFill.Text

/-! # Struct tags

  A tag such as `json:"book_id,omitempty" xml:"id"` is a table of keys and
  values in the order in which they are written. Reading stops at the first
  pair that is malformed; the pairs before it count. Looking up a key finds
  its first pair.
-/

namespace StructFill.Source

/-- The pairs of a struct tag, in order. -/
structure Tag where
  pairs : List (String × String)
deriving DecidableEq, Inhabited

namespace Tag

def empty : Tag := ⟨[]⟩

/-- A character that may stand in a key. -/
def isKeyChar (c : Char) : Bool :=
  decide (' ' < c) && c != ':' && c != '"' && c != '\x7f'

/-- One pair at the front of a text that has no blanks in front: the pair and the rest. -/
def pair? (cs : List Char) : Option ((String × String) × List Char) :=
  let key := cs.takeWhile isKeyChar
  if key = [] then none
  else
    match cs.dropWhile isKeyChar with
    | ':' :: rest =>
      (Quoted.leading? rest).map fun (v, r) => ((String.ofList key, String.ofList v), r)
    | _ => none

/-- The pairs of a text, at most `n` of them. -/
def pairsWithin : Nat → List Char → List (String × String)
  | 0, _ => []
  | n + 1, cs =>
    match pair? (cs.dropWhile (· == ' ')) with
    | some (p, rest) => p :: pairsWithin n rest
    | none => []

/-- The table written in a text. Every pair has characters of its own, so the length of
the text bounds their number. -/
def ofChars (cs : List Char) : Tag := ⟨pairsWithin cs.length cs⟩

/-- The table written in a tag without its quotes. -/
def ofText (s : String) : Tag := ofChars s.toList

/-- The value of the first pair with a key. -/
def get? (t : Tag) (key : String) : Option String := t.pairs.lookup key

/-- The name under which a field is encoded: what precedes the first comma of the value.
A missing key and the value `-` give the empty name. -/
def keyName (t : Tag) (key : String) : String :=
  match t.get? key with
  | none => ""
  | some v => if v = "-" then "" else String.ofList (v.toList.takeWhile (· != ','))

def isEmpty (t : Tag) : Bool := t.pairs.isEmpty

example : (ofText "json:\"a,omitempty\" xml:\"b\"").keyName "json" = "a" := by decide
example : (ofText "json:\"-\"").keyName "json" = "" := by decide
example : (ofText "json:\"a\" bad xml:\"b\"").get? "xml" = none := by decide

end Tag
end StructFill.Source
