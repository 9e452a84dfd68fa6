/-! # Texts as bytes

  A text is stored with one to four bytes for each character. Decoding goes
  byte by byte: a leading byte says how many bytes follow and in which range
  the first of them lies, so that no character has two spellings.

  **Flaws.** Bytes that are no text have a first flaw, with the place where it
  begins. A tolerant reader puts the replacement character in the place of
  each flaw.
-/

namespace StructFill.Bytes

/-- The bytes of a text. -/
def ofText (s : String) : List UInt8 := s.toUTF8.toList

/-! ## One character -/

/-- What begins with a leading byte. -/
inductive Front where
  /-- A character with `more` bytes behind the leading one. -/
  | char (c : Char) (more : Nat)
  /-- `more + 1` bytes that no character begins with. -/
  | invalid (more : Nat)
  /-- A character of which the last bytes are missing. -/
  | incomplete

/-- The range of a byte that follows. -/
def tail : Nat × Nat := (0x80, 0xBF)

/-- What a leading byte contributes to the character, and the ranges of the bytes that
follow it. -/
def tails? (b : Nat) : Option (Nat × List (Nat × Nat)) :=
  if b < 0x80 then some (b, [])
  else if b < 0xC2 then none
  else if b < 0xE0 then some (b - 0xC0, [tail])
  else if b = 0xE0 then some (0, [(0xA0, 0xBF), tail])
  else if b = 0xED then some (0xD, [(0x80, 0x9F), tail])
  else if b < 0xF0 then some (b - 0xE0, [tail, tail])
  else if b = 0xF0 then some (0, [(0x90, 0xBF), tail, tail])
  else if b < 0xF4 then some (b - 0xF0, [tail, tail, tail])
  else if b = 0xF4 then some (4, [(0x80, 0x8F), tail, tail])
  else none

/-- Adds the bytes that follow, of which `more` have been read. -/
def follow (value more : Nat) : List (Nat × Nat) → List UInt8 → Front
  | [], _ => .char (Char.ofNat value) more
  | _ :: _, [] => .incomplete
  | (lo, hi) :: ranges, b :: rest =>
    if lo ≤ b.toNat ∧ b.toNat ≤ hi then
      follow (value * 64 + (b.toNat - 0x80)) (more + 1) ranges rest
    else .invalid more

/-- What the bytes begin with. -/
def front (b : UInt8) (rest : List UInt8) : Front :=
  match tails? b.toNat with
  | some (value, ranges) => follow value 0 ranges rest
  | none => .invalid 0

/-! ## Whole texts -/

/-- Why bytes are no text. -/
inductive Flaw where
  /-- `length` bytes from `index` on begin no character. -/
  | invalid (length index : Nat)
  /-- The bytes end inside the character at `index`. -/
  | incomplete (index : Nat)
deriving DecidableEq

/-- The wording of a flaw. -/
def Flaw.message : Flaw → String
  | .invalid length index =>
    "invalid utf-8 sequence of " ++ toString length ++ " bytes from index " ++ toString index
  | .incomplete index => "incomplete utf-8 byte sequence from index " ++ toString index

/-- The characters of the bytes from `index` on, of which the first `skip` have been read. -/
def decodeFrom (index : Nat) : Nat → List UInt8 → Except Flaw (List Char)
  | _, [] => .ok []
  | skip + 1, _ :: rest => decodeFrom (index + 1) skip rest
  | 0, b :: rest =>
    match front b rest with
    | .char c more => (decodeFrom (index + 1) more rest).map (c :: ·)
    | .invalid more => .error (.invalid (more + 1) index)
    | .incomplete => .error (.incomplete index)

/-- The text that the bytes are. -/
def decode (bs : List UInt8) : Except Flaw String := (decodeFrom 0 0 bs).map String.ofList

/-- The character that stands for a flaw. -/
def replacement : Char := '\ufffd'

/-- The characters of the bytes with a replacement for each flaw. -/
def tolerantFrom : Nat → List UInt8 → List Char
  | _, [] => []
  | skip + 1, _ :: rest => tolerantFrom skip rest
  | 0, b :: rest =>
    match front b rest with
    | .char c more => c :: tolerantFrom more rest
    | .invalid more => replacement :: tolerantFrom more rest
    | .incomplete => [replacement]

/-- The text of bytes that may have flaws. -/
def tolerant (bs : List UInt8) : String := String.ofList (tolerantFrom 0 bs)

end StructFill.Bytes
