import StructFill.Unicode.Letters

/-! # Tokens

  **Shape.** A source text is a sequence of tokens, each with the blanks and
  comments before it, so that the text of any stretch of tokens can be given
  back as it was written.

  **Line breaks.** A declaration or statement may end at a line break, so a
  token notes whether one stands before it. A break inside a comment does not
  count.

  **Words.** No word is reserved here: the grammar decides where a name is
  read as a keyword.

  **Null.** No comment and no text in quotes goes on behind the character with
  the number zero, which is a token of its own.
-/

namespace StructFill.Source

/-- The classes of tokens. -/
inductive Token.Kind where
  | name
  | number
  /-- A character in single quotes. -/
  | rune
  /-- A text in double quotes or in backquotes. -/
  | string
  /-- An operator, a bracket or the null character. -/
  | mark
deriving DecidableEq

structure Token where
  kind : Token.Kind
  spelling : String
  /-- The blanks and comments before the token. -/
  lead : String
  /-- A line break stands among the blanks before the token. -/
  fresh : Bool
deriving DecidableEq

namespace Token

/-- The text of a stretch of tokens, without what stands before it. -/
def sourceText : List Token → String
  | [] => ""
  | t :: ts => ts.foldl (fun s t => s ++ t.lead ++ t.spelling) t.spelling

/-! ## Blanks and comments -/

/-- The character with the number zero. -/
def null : Char := Char.ofNat 0

def isBlank (c : Char) : Bool := c == ' ' || (9 ≤ c.toNat && c.toNat ≤ 13)

/-- The character does not end a comment behind slashes. -/
def staysInLine (c : Char) : Bool := c != '\n' && c != null

/-- The text up to the end of a comment in stars, and what follows. -/
def starComment? : List Char → Option (List Char × List Char)
  | [] => none
  | '*' :: '/' :: rest => some (['*', '/'], rest)
  | c :: rest =>
    if c = null then none else (starComment? rest).map fun (t, r) => (c :: t, r)

/-- The blanks and comments at the front of a text, whether there is a line break among the
blanks, and what follows. There is no such front when a comment does not end. -/
def gap? : Nat → List Char → Option (List Char × Bool × List Char)
  | 0, cs => some ([], false, cs)
  | n + 1, cs =>
    match cs with
    | '/' :: '/' :: rest =>
      (gap? n (rest.dropWhile staysInLine)).map fun (t, fresh, r) =>
        ('/' :: '/' :: rest.takeWhile staysInLine ++ t, fresh, r)
    | '/' :: '*' :: rest => do
      let (body, rest') ← starComment? rest
      let (t, fresh, r) ← gap? n rest'
      some ('/' :: '*' :: body ++ t, fresh, r)
    | c :: rest =>
      if isBlank c then
        (gap? n rest).map fun (t, fresh, r) => (c :: t, c == '\n' || fresh, r)
      else some ([], false, cs)
    | [] => some ([], false, [])

/-! ## Names -/

def isNameStart (c : Char) : Bool := c == '_' || Unicode.isLetter c

def isNamePart (c : Char) : Bool := isNameStart c || Unicode.isDecimal c

/-! ## Numbers -/

def isHexDigit (c : Char) : Bool :=
  c.isDigit || ('a' ≤ c && c ≤ 'f') || ('A' ≤ c && c ≤ 'F')

def isOctalDigit (c : Char) : Bool := '0' ≤ c && c ≤ '7'

def isBinaryDigit (c : Char) : Bool := c == '0' || c == '1'

/-- Digits with single underscores between them: a digit has been read. -/
def moreDigits (digit : Char → Bool) : List Char → List Char × List Char
  | [] => ([], [])
  | [c] => if digit c then ([c], []) else ([], [c])
  | '_' :: d :: rest =>
    if digit d then
      let (t, r) := moreDigits digit rest
      ('_' :: d :: t, r)
    else ([], '_' :: d :: rest)
  | c :: d :: rest =>
    if digit c then
      let (t, r) := moreDigits digit (d :: rest)
      (c :: t, r)
    else ([], c :: d :: rest)

/-- At least one digit, with single underscores between digits. -/
def digits? (digit : Char → Bool) : List Char → Option (List Char × List Char)
  | c :: rest =>
    if digit c then
      let (t, r) := moreDigits digit rest
      some (c :: t, r)
    else none
  | [] => none

/-- Digits after an underscore that may be left out. -/
def looseDigits? (digit : Char → Bool) : List Char → Option (List Char × List Char)
  | '_' :: rest => (digits? digit rest).map fun (t, r) => ('_' :: t, r)
  | cs => digits? digit cs

/-- An exponent behind one of the given letters. -/
def exponent? (letters : List Char) : List Char → Option (List Char × List Char)
  | c :: rest =>
    if letters.contains c then
      match rest with
      | s :: rest' =>
        if s == '+' || s == '-' then
          (digits? Char.isDigit rest').map fun (t, r) => (c :: s :: t, r)
        else (digits? Char.isDigit rest).map fun (t, r) => (c :: t, r)
      | [] => none
    else none
  | [] => none

/-- The text and what follows, continued by a reader. -/
def continued? (start : List Char × List Char)
    (next : List Char → Option (List Char × List Char)) : Option (List Char × List Char) :=
  (next start.2).map fun (t, r) => (start.1 ++ t, r)

/-- The text and what follows, continued by a reader where it applies. -/
def continuedIf (start : List Char × List Char)
    (next : List Char → Option (List Char × List Char)) : List Char × List Char :=
  (continued? start next).getD start

/-- A dot at the front. -/
def dot? : List Char → Option (List Char × List Char)
  | '.' :: rest => some (['.'], rest)
  | _ => none

/-- The readings of a hexadecimal number after `0x`. -/
def hexReadings (x : Char) (cs : List Char) : List (List Char × List Char) :=
  let whole := looseDigits? isHexDigit cs
  let power := exponent? ['p', 'P']
  let mantissas : List (List Char × List Char) :=
    whole.toList
      ++ (whole.bind fun w => (continued? w dot?).map (continuedIf · (digits? isHexDigit))).toList
      ++ ((dot? cs).bind fun d => continued? d (digits? isHexDigit)).toList
  (whole.toList ++ mantissas.filterMap fun m => continued? m power).map fun (t, r) =>
    ('0' :: x :: t, r)

/-- The readings of a number that begins with a decimal digit. -/
def decimalReadings (cs : List Char) : List (List Char × List Char) :=
  let power := exponent? ['e', 'E']
  let whole := digits? Char.isDigit cs
  let integers : List (List Char × List Char) :=
    match cs with
    | '0' :: rest =>
      (['0'], rest) :: ((looseDigits? isOctalDigit rest).map fun (t, r) => ('0' :: t, r)).toList
    | _ => whole.toList
  let dotted := (whole.bind fun w => continued? w dot?).map fun w =>
    continuedIf (continuedIf w (digits? Char.isDigit)) power
  integers ++ dotted.toList ++ (whole.bind fun w => continued? w power).toList

/-- The longest of several readings. -/
def longest : List (List Char × List Char) → Option (List Char × List Char)
  | [] => none
  | p :: ps =>
    match longest ps with
    | none => some p
    | some q => if p.1.length < q.1.length then some q else some p

/-- A number at the front of a text. -/
def number? (cs : List Char) : Option (List Char × List Char) :=
  let readings : List (List Char × List Char) :=
    match cs with
    | '0' :: x :: rest =>
      if x == 'x' || x == 'X' then (['0'], x :: rest) :: hexReadings x rest
      else if x == 'b' || x == 'B' then
        (['0'], x :: rest)
          :: ((looseDigits? isBinaryDigit rest).map fun (t, r) => ('0' :: x :: t, r)).toList
      else if x == 'o' || x == 'O' then
        (['0'], x :: rest)
          :: ((looseDigits? isOctalDigit rest).map fun (t, r) => ('0' :: x :: t, r)).toList
      else decimalReadings cs
    | '.' :: _ =>
      (((dot? cs).bind fun d => continued? d (digits? Char.isDigit)).map fun m =>
        continuedIf m (exponent? ['e', 'E'])).toList
    | _ => decimalReadings cs
  let plain := readings ++ (digits? Char.isDigit cs).toList
  let imaginary := plain.filterMap fun m =>
    match m.2 with
    | 'i' :: rest => some (m.1 ++ ['i'], rest)
    | _ => none
  longest (readings ++ imaginary)

/-! ## Texts in quotes -/

/-- The text begins with `n` hexadecimal digits. -/
def startsHex (n : Nat) (cs : List Char) : Bool :=
  (cs.take n).length == n && (cs.take n).all isHexDigit

/-- The text begins with `n` octal digits. -/
def startsOctal (n : Nat) (cs : List Char) : Bool :=
  (cs.take n).length == n && (cs.take n).all isOctalDigit

/-- A double-quoted text after its opening quote, with the closing quote. -/
def quotedRest? : List Char → Option (List Char × List Char)
  | [] => none
  | '"' :: rest => some (['"'], rest)
  | '\n' :: _ => none
  | ['\\'] => none
  | '\\' :: c :: rest =>
    if (c == 'x' && !startsHex 2 rest) || (c == 'u' && !startsHex 4 rest)
        || (c == 'U' && !startsHex 8 rest) || c == null then none
    else (quotedRest? rest).map fun (t, r) => ('\\' :: c :: t, r)
  | c :: rest => if c = null then none else (quotedRest? rest).map fun (t, r) => (c :: t, r)

/-- A backquoted text after its opening quote, with the closing quote. -/
def rawRest? : List Char → Option (List Char × List Char)
  | [] => none
  | c :: rest =>
    if c = Char.ofNat 0x60 then some ([c], rest)
    else if c = null then none
    else (rawRest? rest).map fun (t, r) => (c :: t, r)

/-- The character inside single quotes. -/
def runeBody? : List Char → Option (List Char × List Char)
  | '\\' :: c :: rest =>
    let take (n : Nat) := some ('\\' :: c :: rest.take n, rest.drop n)
    if c == 'x' && startsHex 2 rest then take 2
    else if c == 'u' && startsHex 4 rest then take 4
    else if c == 'U' && startsHex 8 rest then take 8
    else if startsOctal 3 (c :: rest) then take 2
    else if ['a', 'b', 'f', 'n', 'r', 't', 'v', '\\', '\'', '"'].contains c then take 0
    else none
  | c :: rest => if c == '\'' || c == '\\' || c == null then none else some ([c], rest)
  | [] => none

/-- A character in single quotes, after the opening one. -/
def runeRest? (cs : List Char) : Option (List Char × List Char) :=
  match runeBody? cs with
  | some (t, '\'' :: rest) => some (t ++ ['\''], rest)
  | _ => none

/-! ## Marks -/

/-- The operators and brackets, longer ones first, and the null character. -/
def marks : List String :=
  ["<<=", ">>=", "&^=", "...", "&&", "||", "<-", "++", "--", "==", "!=", "<=", ">=", ":=", "+=",
   "-=", "*=", "/=", "%=", "&=", "|=", "^=", "<<", ">>", "&^", "+", "-", "*", "/", "%", "&", "|",
   "^", "<", ">", "=", "!", "(", ")", "[", "]", "\x7b", "\x7d", ",", ";", ".", ":", "~", "\x00"]

/-- The longest operator or bracket at the front of a text. -/
def mark? (cs : List Char) : Option (List Char × List Char) :=
  marks.findSome? fun m => (m.toList.isPrefixOf? cs).map (m.toList, ·)

/-! ## The scan -/

/-- The token at the front of a text: its class, its spelling and what follows. -/
def front? : List Char → Option (Kind × List Char × List Char)
  | [] => none
  | c :: rest =>
    if isNameStart c then
      some (.name, c :: rest.takeWhile isNamePart, rest.dropWhile isNamePart)
    else if c.isDigit || (c == '.' && (rest.head?.any Char.isDigit)) then
      (number? (c :: rest)).map (.number, ·)
    else if c = '"' then (quotedRest? rest).map fun (t, r) => (.string, c :: t, r)
    else if c = Char.ofNat 0x60 then (rawRest? rest).map fun (t, r) => (.string, c :: t, r)
    else if c = '\'' then (runeRest? rest).map fun (t, r) => (.rune, c :: t, r)
    else (mark? (c :: rest)).map (.mark, ·)

/-- The tokens of a text, at most `n - 1` of them. -/
def scanWithin? : Nat → List Char → Option (List Token)
  | 0, _ => none
  | n + 1, cs => do
    let (lead, fresh, rest) ← gap? n cs
    match rest with
    | [] => some []
    | _ =>
      let (kind, spelling, rest') ← front? rest
      let ts ← scanWithin? n rest'
      some (⟨kind, String.ofList spelling, String.ofList lead, fresh⟩ :: ts)

/-- The tokens of a text, unless it holds a character or a literal that is none. A byte
order mark at the front is passed over. -/
def scan? (cs : List Char) : Option (List Token) :=
  let cs := match cs with
    | '\ufeff' :: rest => rest
    | _ => cs
  scanWithin? (cs.length + 2) cs

example : (scan? "a.b /* c */ 0x1p-2".toList).map (·.map (·.spelling)) =
    some ["a", ".", "b", "0x1p-2"] := by decide

end Token
end StructFill.Source
