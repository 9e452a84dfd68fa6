import StructFill.Source.Token

/-! # JSON texts

  Metadata records are written as JSON. The reader is strict: one value, with
  nothing but blanks around it, no superfluous zeros in numbers, and no
  control characters in texts. The members of an object stay in order, and a
  name may occur more than once.
-/

namespace StructFill.Module

/-- A JSON value. Numbers are of no interest beyond being numbers. -/
inductive Json where
  | null
  | truth (b : Bool)
  | number
  /-- A text; `none` when an escape in it stands for no character. -/
  | text (s : Option String)
  | array (elements : List Json)
  | object (members : List (String × Json))

namespace Json

def isBlank (c : Char) : Bool := c == ' ' || c == '\n' || c == '\t' || c == '\r'

def skipBlanks (cs : List Char) : List Char := cs.dropWhile isBlank

/-! ## Numbers -/

/-- The rest behind at least one digit. -/
def digits? (cs : List Char) : Option (List Char) :=
  if cs.head?.any Char.isDigit then some (cs.dropWhile Char.isDigit) else none

/-- The rest behind a number. -/
def number? (cs : List Char) : Option (List Char) := do
  let cs := if cs.head? = some '-' then cs.drop 1 else cs
  let cs ← match cs with
    | '0' :: rest => if rest.head?.any Char.isDigit then none else some rest
    | _ => digits? cs
  let cs ← match cs with
    | '.' :: rest => digits? rest
    | _ => some cs
  match cs with
  | e :: rest =>
    if e == 'e' || e == 'E' then
      match rest with
      | s :: rest' => if s == '+' || s == '-' then digits? rest' else digits? rest
      | [] => none
    else some cs
  | [] => some []

/-! ## Texts -/

/-- The value of a hexadecimal digit. -/
def hexDigit? (c : Char) : Option Nat :=
  if c.isDigit then some (c.toNat - 48)
  else if 'a' ≤ c ∧ c ≤ 'f' then some (c.toNat - 87)
  else if 'A' ≤ c ∧ c ≤ 'F' then some (c.toNat - 55)
  else none

/-- The number that four hexadecimal digits give, and the rest. -/
def unit? : List Char → Option (Nat × List Char)
  | a :: b :: c :: d :: rest => do
    let a ← hexDigit? a
    let b ← hexDigit? b
    let c ← hexDigit? c
    let d ← hexDigit? d
    some (((a * 16 + b) * 16 + c) * 16 + d, rest)
  | _ => none

/-- The character of an escape with a number: two numbers make one character where the
first is the leading half of a pair. The inner option is empty where they make none. -/
def numbered? (cs : List Char) : Option (Option Char × List Char) := do
  let (hi, rest) ← unit? cs
  if 0xD800 ≤ hi ∧ hi < 0xDC00 then
    match rest with
    | '\\' :: 'u' :: rest' =>
      let (lo, rest'') ← unit? rest'
      if 0xDC00 ≤ lo ∧ lo < 0xE000 then
        some (some (Char.ofNat (0x10000 + (hi - 0xD800) * 0x400 + (lo - 0xDC00))), rest'')
      else some (none, rest'')
    | _ => some (none, rest)
  else if 0xDC00 ≤ hi ∧ hi < 0xE000 then some (none, rest)
  else some (some (Char.ofNat hi), rest)

/-- The character of an escape; the backslash has been read. -/
def escape? : List Char → Option (Option Char × List Char)
  | '"' :: rest => some (some '"', rest)
  | '\\' :: rest => some (some '\\', rest)
  | '/' :: rest => some (some '/', rest)
  | 'b' :: rest => some (some '\x08', rest)
  | 'f' :: rest => some (some '\x0c', rest)
  | 'n' :: rest => some (some '\n', rest)
  | 'r' :: rest => some (some '\r', rest)
  | 't' :: rest => some (some '\t', rest)
  | 'u' :: rest => numbered? rest
  | _ => none

/-- The characters of a text up to its closing quote. -/
def chars? : Nat → List Char → Option (Option (List Char) × List Char)
  | 0, _ => none
  | n + 1, cs =>
    match cs with
    | [] => none
    | '"' :: rest => some (some [], rest)
    | '\\' :: rest => do
      let (c, rest) ← escape? rest
      let (v, r) ← chars? n rest
      some ((do some ((← c) :: (← v))), r)
    | c :: rest =>
      if c.toNat < 0x20 then none
      else (chars? n rest).map fun (v, r) => (v.map (c :: ·), r)

/-- A text behind its opening quote. -/
def text? (cs : List Char) : Option (Option String × List Char) :=
  (chars? (cs.length + 1) cs).map fun (v, r) => (v.map String.ofList, r)

/-! ## Values -/

/-- The rest behind a word. -/
def word? (s : String) (cs : List Char) : Option (List Char) := s.toList.isPrefixOf? cs

mutual

/-- A value, with as many values inside it as the bound allows. -/
def value? : Nat → List Char → Option (Json × List Char)
  | 0, _ => none
  | n + 1, cs =>
    match skipBlanks cs with
    | [] => none
    | '"' :: rest => (text? rest).map fun (s, r) => (.text s, r)
    | '[' :: rest =>
      match skipBlanks rest with
      | ']' :: r => some (.array [], r)
      | rest => (elements? n rest).map fun (vs, r) => (.array vs, r)
    | '{' :: rest =>
      match skipBlanks rest with
      | '}' :: r => some (.object [], r)
      | rest => (members? n rest).map fun (ms, r) => (.object ms, r)
    | c :: rest =>
      if c = 'n' then (word? "ull" rest).map (.null, ·)
      else if c = 't' then (word? "rue" rest).map (.truth true, ·)
      else if c = 'f' then (word? "alse" rest).map (.truth false, ·)
      else (number? (c :: rest)).map (.number, ·)

/-- The elements of an array and its closing bracket. -/
def elements? : Nat → List Char → Option (List Json × List Char)
  | 0, _ => none
  | n + 1, cs => do
    let (v, rest) ← value? n cs
    match skipBlanks rest with
    | ',' :: rest =>
      let (vs, r) ← elements? n rest
      some (v :: vs, r)
    | ']' :: r => some ([v], r)
    | _ => none

/-- The members of an object and its closing brace. -/
def members? : Nat → List Char → Option (List (String × Json) × List Char)
  | 0, _ => none
  | n + 1, cs =>
    match skipBlanks cs with
    | '"' :: rest => do
      let (name, rest) ← text? rest
      let name ← name
      match skipBlanks rest with
      | ':' :: rest =>
        let (v, rest) ← value? n rest
        match skipBlanks rest with
        | ',' :: rest =>
          let (ms, r) ← members? n rest
          some ((name, v) :: ms, r)
        | '}' :: r => some ([(name, v)], r)
        | _ => none
      | _ => none
    | _ => none

end

/-- The value that is written in a text. -/
def ofText? (s : String) : Option Json :=
  let cs := s.toList
  match value? (2 * cs.length + 2) cs with
  | some (v, rest) => if skipBlanks rest = [] then some v else none
  | none => none

end Json
end StructFill.Module
