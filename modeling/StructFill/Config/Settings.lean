import StructFill.Config
import StructFill.Source.Token

/-! # The text of a configuration

  A configuration is written as lines `key = value`, with comments behind a
  hash. A key is a bare word or a quoted one, and it may be set once. A value
  is a text, a truth value or a list of texts. Everything else makes the whole
  text unreadable, as does a key that is no setting.

  **Texts** are written in four ways: in double quotes with escapes or in
  single quotes without, and both also in triple quotes over several lines.
-/

namespace StructFill.Config.Settings

/-- The value of a setting. -/
inductive Value where
  | text (s : String)
  | truth (b : Bool)
  | texts (ss : List String)
deriving DecidableEq

/-! ## Blanks and line ends -/

def isBlank (c : Char) : Bool := c == ' ' || c == '\t'

def skipBlanks (cs : List Char) : List Char := cs.dropWhile isBlank

/-- A control character that may not stand in a text or comment. -/
def isForbidden (c : Char) : Bool := (c.toNat < 0x20 && c != '\t') || c == '\x7f'

/-- The rest behind a line end. -/
def lineEnd? : List Char → Option (List Char)
  | '\n' :: rest => some rest
  | '\r' :: '\n' :: rest => some rest
  | _ => none

/-- The rest behind a comment, if there is one, which ends before the end of its line. -/
def comment? : List Char → Option (List Char)
  | '#' :: rest =>
    let after := rest.dropWhile fun c => !isForbidden c
    if after = [] ∨ (lineEnd? after).isSome then some after else none
  | cs => some cs

/-- The rest behind blanks, comments and line ends. -/
def skipLines? : Nat → List Char → Option (List Char)
  | 0, cs => some cs
  | n + 1, cs => do
    let cs ← comment? (skipBlanks cs)
    match lineEnd? cs with
    | some rest => skipLines? n rest
    | none => some cs

/-! ## Texts -/

/-- The value of hexadecimal digits. -/
def hexValue (cs : List Char) : Nat :=
  cs.foldl (fun n c =>
    16 * n + (if c.isDigit then c.toNat - 48 else if 'a' ≤ c then c.toNat - 87 else c.toNat - 55)) 0

/-- The character with the number that `n` hexadecimal digits at the front give. -/
def numbered? (n : Nat) (cs : List Char) : Option (Char × List Char) :=
  if Source.Token.startsHex n cs then
    let v := hexValue (cs.take n)
    if v.isValidChar then some (Char.ofNat v, cs.drop n) else none
  else none

/-- The character that an escape stands for; the backslash has been read. -/
def escape? : List Char → Option (Char × List Char)
  | 'b' :: rest => some ('\x08', rest)
  | 't' :: rest => some ('\t', rest)
  | 'n' :: rest => some ('\n', rest)
  | 'f' :: rest => some ('\x0c', rest)
  | 'r' :: rest => some ('\r', rest)
  | 'e' :: rest => some ('\x1b', rest)
  | '"' :: rest => some ('"', rest)
  | '\\' :: rest => some ('\\', rest)
  | 'x' :: rest => numbered? 2 rest
  | 'u' :: rest => numbered? 4 rest
  | 'U' :: rest => numbered? 8 rest
  | _ => none

/-- A text in double quotes, behind the opening quote. -/
def basic? : Nat → List Char → Option (List Char × List Char)
  | 0, _ => none
  | n + 1, cs =>
    match cs with
    | [] => none
    | '"' :: rest => some ([], rest)
    | '\\' :: rest => do
      let (c, rest) ← escape? rest
      let (v, r) ← basic? n rest
      some (c :: v, r)
    | c :: rest =>
      if isForbidden c then none else (basic? n rest).map fun (v, r) => (c :: v, r)

/-- A text in single quotes, behind the opening quote. -/
def literal? : List Char → Option (List Char × List Char)
  | [] => none
  | '\'' :: rest => some ([], rest)
  | c :: rest => if isForbidden c then none else (literal? rest).map fun (v, r) => (c :: v, r)

/-- Up to two quotes behind three closing ones belong to the text. -/
def closing? (q : Char) (cs : List Char) : Option (List Char × List Char) :=
  let quotes := cs.takeWhile (· == q)
  if quotes.length < 3 ∨ 5 < quotes.length then none
  else some (quotes.drop 3, cs.dropWhile (· == q))

/-- The rest behind blanks and line ends after a backslash at the end of a line. -/
def foldedLine? (cs : List Char) : Option (List Char) :=
  (lineEnd? (skipBlanks cs)).map fun rest =>
    rest.dropWhile fun c => isBlank c || c == '\n' || c == '\r'

/-- A text over several lines, behind the opening quotes. -/
def multiline? (q : Char) (escapes : Bool) : Nat → List Char → Option (List Char × List Char)
  | 0, _ => none
  | n + 1, cs =>
    match cs with
    | [] => none
    | c :: rest =>
      if c = q then
        match closing? q cs with
        | some r => some r
        | none =>
          if (cs.takeWhile (· == q)).length < 3 then
            (multiline? q escapes n rest).map fun (v, r) => (c :: v, r)
          else none
      else if c = '\\' ∧ escapes then
        match foldedLine? rest with
        | some rest => multiline? q escapes n rest
        | none => do
          let (c, rest) ← escape? rest
          let (v, r) ← multiline? q escapes n rest
          some (c :: v, r)
      else if c = '\n' then (multiline? q escapes n rest).map fun (v, r) => (c :: v, r)
      else if c = '\r' ∧ rest.head? = some '\n' then
        (multiline? q escapes n rest).map fun (v, r) => (c :: v, r)
      else if isForbidden c then none
      else (multiline? q escapes n rest).map fun (v, r) => (c :: v, r)

/-- A line end right behind the opening quotes is no part of the text. -/
def afterOpening (cs : List Char) : List Char := (lineEnd? cs).getD cs

/-- A text in any of the four notations. -/
def text? (cs : List Char) : Option (String × List Char) :=
  let found :=
    match cs with
    | '"' :: '"' :: '"' :: rest => multiline? '"' true (cs.length + 1) (afterOpening rest)
    | '\'' :: '\'' :: '\'' :: rest => multiline? '\'' false (cs.length + 1) (afterOpening rest)
    | '"' :: rest => basic? (cs.length + 1) rest
    | '\'' :: rest => literal? rest
    | _ => none
  found.map fun (v, r) => (String.ofList v, r)

/-! ## Values -/

/-- The texts of a list and its closing bracket. -/
def listRest? : Nat → List Char → Option (List String × List Char)
  | 0, _ => none
  | n + 1, cs => do
    let cs ← skipLines? (n + 1) cs
    match cs with
    | ']' :: rest => some ([], rest)
    | _ =>
      let (s, rest) ← text? cs
      let rest ← skipLines? (n + 1) rest
      match rest with
      | ',' :: rest => do
        let (ss, r) ← listRest? n rest
        some (s :: ss, r)
      | ']' :: rest => some ([s], rest)
      | _ => none

/-- A value. -/
def value? (cs : List Char) : Option (Value × List Char) :=
  match cs with
  | '[' :: rest => (listRest? (cs.length + 1) rest).map fun (ss, r) => (.texts ss, r)
  | _ =>
    match "true".toList.isPrefixOf? cs, "false".toList.isPrefixOf? cs with
    | some r, _ => some (.truth true, r)
    | _, some r => some (.truth false, r)
    | none, none => (text? cs).map fun (s, r) => (.text s, r)

/-- A character of a bare key. -/
def isKeyChar (c : Char) : Bool := c.isAlphanum || c == '_' || c == '-'

/-- A key, bare or in quotes on one line. -/
def key? (cs : List Char) : Option (String × List Char) :=
  match cs with
  | '"' :: rest => (basic? (cs.length + 1) rest).map fun (v, r) => (String.ofList v, r)
  | '\'' :: rest => (literal? rest).map fun (v, r) => (String.ofList v, r)
  | _ =>
    let k := cs.takeWhile isKeyChar
    if k = [] then none else some (String.ofList k, cs.dropWhile isKeyChar)

/-- The settings of a text, in order. -/
def read? : Nat → List Char → Option (List (String × Value))
  | 0, _ => none
  | n + 1, cs => do
    let cs ← skipLines? (n + 1) cs
    if cs = [] then some []
    else
      let (k, rest) ← key? cs
      match skipBlanks rest with
      | '=' :: rest =>
        let (v, rest) ← value? (skipBlanks rest)
        let rest ← comment? (skipBlanks rest)
        let rest ← if rest = [] then some [] else lineEnd? rest
        let others ← read? n rest
        some ((k, v) :: others)
      | _ => none

/-! ## Configurations -/

/-- Sets one setting. -/
def set? (c : Config) : String × Value → Option Config
  | ("function_prefix", .text s) => some { c with functionStart := s }
  | ("generated_prefix", .text s) => some { c with generatedStart := s }
  | ("param_name", .text s) => some { c with paramName := s }
  | ("tag_key", .text s) => some { c with tagKey := s }
  | ("conversion_import", .text s) => some { c with conversionImport := s }
  | ("conversion_prefix", .text s) => some { c with conversionStart := s }
  | ("output_suffix", .text s) => some { c with outputEnd := s }
  | ("format", .truth b) => some { c with format := b }
  | ("formatters", .texts ss) => some { c with formatters := ss }
  | ("goroot", .text s) => some { c with goroot := some ⟨s⟩ }
  | _ => none

/-- The configuration of a list of settings, each of which is set at most once. -/
def config? (settings : List (String × Value)) : Option Config :=
  let keys := settings.map (·.1)
  if keys.eraseDups.length = keys.length then settings.foldlM set? {} else none

/-- The text without a byte order mark at its front. -/
def withoutMark : List Char → List Char
  | '\ufeff' :: rest => rest
  | cs => cs

/-- The valid configuration that is written in a text. -/
def parse (s : String) : Except Problem Config :=
  let cs := withoutMark s.toList
  match (read? (cs.length + 1) cs).bind config? with
  | some c => c.checked
  | none => .error .malformed

end StructFill.Config.Settings
