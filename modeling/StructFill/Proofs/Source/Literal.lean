import StructFill.Source.Quoted
import StructFill.Unicode.Bounds

/-! # Literals as a compiler reads them

  What is written in double quotes is read again by a compiler, and not by the
  reader of this library, which makes less of escapes. This module has the
  compiler's rules, and shows that every text that is written comes back.

  **Reader.** The reader goes from character to character. Between two of them
  it is inside the text, behind a backslash, or among the digits of an escape
  by number. Each character that is written leads it back into the text, where
  it has given exactly that character.

  Escapes by octal digits are left out, and so are escapes for single bytes
  that are no characters. Neither is ever written.
-/

namespace StructFill.Source.Literal

open Quoted (encodeChar encode hex)

/-! ## The reader -/

/-- Where the reader is between two characters. -/
inductive Place where
  | text
  /-- Behind a backslash. -/
  | escape
  /-- Among the hexadecimal digits of an escape: the number of a byte or of a character, how many
  digits are to come, and the number that those before make. -/
  | digits (byte : Bool) (left value : Nat)
deriving DecidableEq

/-- The character that one letter after a backslash stands for. -/
def named? : Char → Option Char
  | 'a' => some '\x07'
  | 'b' => some '\x08'
  | 'f' => some '\x0c'
  | 'n' => some '\n'
  | 'r' => some '\r'
  | 't' => some '\t'
  | 'v' => some '\x0b'
  | '\\' => some '\\'
  | '"' => some '"'
  | _ => none

/-- The value of a hexadecimal digit. -/
def digit? (c : Char) : Option Nat :=
  if '0' ≤ c ∧ c ≤ '9' then some (c.toNat - '0'.toNat)
  else if 'a' ≤ c ∧ c ≤ 'f' then some (c.toNat - 'a'.toNat + 10)
  else if 'A' ≤ c ∧ c ≤ 'F' then some (c.toNat - 'A'.toNat + 10)
  else none

/-- The character that an escape by number stands for. -/
def numbered? (byte : Bool) (n : Nat) : Option Char :=
  if n.isValidChar ∧ (byte = true → n < 0x80) then some (Char.ofNat n) else none

/-- One character is read: what it adds to the value, and where the reader is behind it. The
closing quote is no part of the text. -/
def step? : Place → Char → Option (List Char × Place)
  | .text, c =>
    if c = '"' ∨ c = '\n' then none
    else if c = '\\' then some ([], .escape)
    else some ([c], .text)
  | .escape, c =>
    match named? c with
    | some v => some ([v], .text)
    | none =>
      if c = 'x' then some ([], .digits true 2 0)
      else if c = 'u' then some ([], .digits false 4 0)
      else if c = 'U' then some ([], .digits false 8 0)
      else none
  | .digits byte left value, c =>
    match digit? c with
    | none => none
    | some d =>
      if left ≤ 1 then (numbered? byte (16 * value + d)).map fun v => ([v], .text)
      else some ([], .digits byte (left - 1) (16 * value + d))

/-- Reads up to the closing quote: the value, and the text behind the quote. -/
def scan? : Place → List Char → Option (List Char × List Char)
  | _, [] => none
  | l, c :: cs =>
    if l = .text ∧ c = '"' then some ([], cs)
    else
      match step? l c with
      | none => none
      | some (v, l') => (scan? l' cs).map fun (vs, rest) => (v ++ vs, rest)

/-- Reads a literal at the front of a text: its value, and the text behind it. -/
def leading? : List Char → Option (List Char × List Char)
  | '"' :: cs => scan? .text cs
  | _ => none

/-! ## Reading what is written -/

/-- Reads a stretch of text within a literal: its value, and where the reader is behind it. -/
def feed? : Place → List Char → Option (List Char × Place)
  | l, [] => some ([], l)
  | l, c :: cs =>
    match step? l c with
    | none => none
    | some (v, l') => (feed? l' cs).map fun (vs, l'') => (v ++ vs, l'')

/-- The quote ends the literal where it would be read as a part of the text. -/
theorem step?_quote : step? .text '"' = none := rfl

/-- A stretch that can be read as a part of a literal is read as one. -/
theorem scan?_append {l l' : Place} {as vs : List Char} (h : feed? l as = some (vs, l'))
    (cs : List Char) :
    scan? l (as ++ cs) = (scan? l' cs).map fun (v, rest) => (vs ++ v, rest) := by
  induction as generalizing l vs with
  | nil =>
    obtain ⟨rfl, rfl⟩ : [] = vs ∧ l = l' := by simpa [feed?] using h
    simp
  | cons a as ih =>
    -- A quote outside of an escape would end the literal, and `feed?` takes none.
    have hquote : ¬ (l = .text ∧ a = '"') := by
      rintro ⟨rfl, rfl⟩
      simp [feed?, step?_quote] at h
    rw [List.cons_append, scan?, if_neg hquote]
    rw [feed?] at h
    cases hstep : step? l a with
    | none => simp [hstep] at h
    | some out =>
      obtain ⟨v, l₁⟩ := out
      rw [hstep] at h
      obtain ⟨⟨vs', l₂⟩, hrest, hout⟩ := Option.map_eq_some_iff.1 h
      obtain ⟨rfl, rfl⟩ := Prod.mk.inj hout
      simp only [ih hrest]
      cases scan? l₂ cs <;> simp

/-- A character that needs no escape is written as it is. -/
theorem encodeChar_of_le {c : Char} (h : 0xa0 ≤ c.toNat) :
    encodeChar c = [c] ∧ step? .text c = some ([c], .text) := by
  have hne : ∀ d : Char, d.toNat < 0xa0 → c ≠ d := by
    rintro d hd rfl
    omega
  refine ⟨?_, ?_⟩
  · unfold encodeChar
    iterate 9 rw [if_neg (hne _ (by decide))]
    rw [if_neg (by omega), if_neg (by omega)]
  · simp [step?, hne '"' (by decide), hne '\n' (by decide), hne '\\' (by decide)]

/-- A character that is written is read as itself. -/
theorem feed?_encodeChar (c : Char) : feed? .text (encodeChar c) = some ([c], .text) := by
  -- All escapes are for low characters, and these are few enough to be tried.
  have hlow : ∀ n < 0xa0, feed? .text (encodeChar (Char.ofNat n))
      = some ([Char.ofNat n], .text) := by decide +kernel
  by_cases hc : c.toNat < 0xa0
  · obtain ⟨n, hn, rfl⟩ := Unicode.exists_ofNat_of_lt hc
    exact hlow n hn
  · obtain ⟨hwritten, hstep⟩ := encodeChar_of_le (Nat.le_of_not_lt hc)
    simp [hwritten, feed?, hstep]

/-- A text that is written is read up to the closing quote, which ends it. -/
theorem scan?_flatMap_encodeChar (cs rest : List Char) :
    scan? .text (cs.flatMap encodeChar ++ '"' :: rest) = some (cs, rest) := by
  induction cs with
  | nil => rfl
  | cons c cs ih =>
    rw [List.flatMap_cons, List.append_assoc, scan?_append (feed?_encodeChar c), ih]
    rfl

/-- **What is written comes back.** A literal is read up to its own closing quote, whatever
follows. -/
theorem leading?_encode (cs rest : List Char) :
    leading? (encode cs ++ rest) = some (cs, rest) := by
  have hscan := scan?_flatMap_encodeChar cs rest
  simpa [encode, leading?] using hscan

example : leading? "\"a\\x41\\u00e4\" // b".toList = some ("aAä".toList, " // b".toList) := by
  decide

/-! ## Where a literal ends -/

/-- No literal goes on behind a blank and a quote. -/
theorem length_le_of_scan? {l : Place} {as cs vs rest : List Char}
    (h : scan? l (as ++ ' ' :: '"' :: cs) = some (vs, rest)) : cs.length ≤ rest.length := by
  induction as generalizing l vs with
  | nil =>
    cases l with
    | text =>
      -- The blank is read, and then the quote ends the text.
      obtain ⟨-, rfl⟩ : [' '] = vs ∧ cs = rest := by simpa [scan?, step?] using h
      exact Nat.le_refl _
    | escape => simp [scan?, step?, named?] at h
    | digits byte left value => simp [scan?, step?, digit?] at h
  | cons a as ih =>
    rw [List.cons_append, scan?] at h
    split at h
    · obtain ⟨-, rfl⟩ : [] = vs ∧ as ++ ' ' :: '"' :: cs = rest := by simpa using h
      simp only [List.length_append, List.length_cons]
      omega
    · cases hstep : step? l a with
      | none => simp [hstep] at h
      | some out =>
        obtain ⟨v, l'⟩ := out
        rw [hstep] at h
        obtain ⟨⟨vs', rest'⟩, hscan, hout⟩ := Option.map_eq_some_iff.1 h
        obtain ⟨rfl, rfl⟩ := Prod.mk.inj hout
        exact ih hscan

end StructFill.Source.Literal
