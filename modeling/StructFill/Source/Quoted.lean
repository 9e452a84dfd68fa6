/-! # Double-quoted literals

  **Reading.** After the opening quote each character stands for itself, up to
  the closing quote; a backslash makes the next character stand for itself,
  except that `n`, `t`, `r` and `0` stand for a line feed, a tab, a carriage
  return and the null character.

  **Writing.** The quote, the backslash and the control characters are
  escaped: some by a letter, the other control characters by their number in
  hexadecimal digits. What is written holds no control character.
-/

namespace StructFill.Source.Quoted

/-! ## Reading -/

/-- The character that stands for `c` after a backslash. -/
def escaped (c : Char) : Char :=
  match c with
  | 'n' => '\n'
  | 't' => '\t'
  | 'r' => '\r'
  | '0' => '\x00'
  | other => other

/-- Reads up to the closing quote: the value, and the text after the quote. -/
def body? : List Char → Option (List Char × List Char)
  | [] => none
  | '"' :: rest => some ([], rest)
  | ['\\'] => none
  | '\\' :: c :: rest => (body? rest).map fun (v, r) => (escaped c :: v, r)
  | c :: rest => (body? rest).map fun (v, r) => (c :: v, r)

/-- Reads a literal at the front of a text: the value, and the text after it. -/
def leading? : List Char → Option (List Char × List Char)
  | '"' :: rest => body? rest
  | _ => none

/-- The value of a text that is one literal. -/
def unquote? (cs : List Char) : Option (List Char) :=
  match leading? cs with
  | some (v, []) => some v
  | _ => none

/-! ## Writing -/

/-- `n` in at least `width` hexadecimal digits. -/
def hex (width n : Nat) : List Char :=
  let ds := Nat.toDigits 16 n
  List.replicate (width - ds.length) '0' ++ ds

/-- The written form of one character. -/
def encodeChar (c : Char) : List Char :=
  if c = '"' then ['\\', '"']
  else if c = '\\' then ['\\', '\\']
  else if c = '\n' then ['\\', 'n']
  else if c = '\r' then ['\\', 'r']
  else if c = '\t' then ['\\', 't']
  else if c = '\x07' then ['\\', 'a']
  else if c = '\x08' then ['\\', 'b']
  else if c = '\x0b' then ['\\', 'v']
  else if c = '\x0c' then ['\\', 'f']
  else if c.toNat < 0x20 ∨ c.toNat = 0x7f then '\\' :: 'x' :: hex 2 c.toNat
  else if 0x80 ≤ c.toNat ∧ c.toNat < 0xa0 then '\\' :: 'u' :: hex 4 c.toNat
  else [c]

/-- The written form of a text, with its quotes. -/
def encode (cs : List Char) : List Char := '"' :: (cs.flatMap encodeChar ++ ['"'])

/-- A text as a literal. -/
def quote (s : String) : String := String.ofList (encode s.toList)

example : quote "a\"b\n" = "\"a\\\"b\\n\"" := by decide
example : unquote? "\"a\\x41\"".toList = some "ax41".toList := by decide

end StructFill.Source.Quoted
