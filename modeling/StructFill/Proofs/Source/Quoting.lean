import StructFill.Proofs.Source.Literal
import StructFill.Source.Grammar

/-! # What is written in quotes

  A text is put between quotes for two readers. A compiler reads the generated
  file, and this library reads it again when the file lies among the sources
  of the next run.

  **The compiler** finds in each literal the text that was written, and nothing
  else: the literal ends at its own closing quote, whatever stands behind it.
  No control character is written, so that a literal stays on its line.

  **The reader of this library** knows the escapes for a line feed, a carriage
  return and a tab only. Behind any other backslash it takes what it finds, be
  it the letter of another escape or the digits of a number. A text comes back
  if and only if it has no other control character.
-/

namespace StructFill.Source

/-- The character is no control character. -/
def Token.IsPlain (c : Char) : Prop := 0x20 ≤ c.toNat ∧ ¬ (0x7f ≤ c.toNat ∧ c.toNat < 0xa0)

instance (c : Char) : Decidable (Token.IsPlain c) := inferInstanceAs (Decidable (_ ∧ _))

namespace Quoted

open Token (IsPlain)

/-! ## The written form -/

theorem toList_quote (s : String) : (quote s).toList = encode s.toList := by
  rw [quote, String.toList_ofList]

/-- No control character is written. -/
theorem isPlain_of_mem_encodeChar {c d : Char} (h : d ∈ encodeChar c) : IsPlain d := by
  -- Below 0xa0 lie all characters that are escaped, and above it no control character.
  have hlow : ∀ n < 0xa0,
      (encodeChar (Char.ofNat n)).all (fun d => decide (IsPlain d)) = true := by decide +kernel
  by_cases hc : c.toNat < 0xa0
  · obtain ⟨n, hn, rfl⟩ := Unicode.exists_ofNat_of_lt hc
    exact of_decide_eq_true (List.all_eq_true.1 (hlow n hn) d h)
  · obtain ⟨hwritten, -⟩ := Literal.encodeChar_of_le (Nat.le_of_not_lt hc)
    rw [hwritten, List.mem_singleton] at h
    subst h
    show 0x20 ≤ d.toNat ∧ ¬ (0x7f ≤ d.toNat ∧ d.toNat < 0xa0)
    omega

theorem isPlain_of_mem_encode {cs : List Char} {d : Char} (h : d ∈ encode cs) : IsPlain d := by
  have hquote : IsPlain '"' := by decide
  rw [encode, List.mem_cons, List.mem_append, List.mem_singleton] at h
  rcases h with rfl | h | rfl
  · exact hquote
  · obtain ⟨c, -, hd⟩ := List.mem_flatMap.1 h
    exact isPlain_of_mem_encodeChar hd
  · exact hquote

/-! ## The compiler -/

/-- Two texts that begin with the same literal go on in the same way. -/
theorem encode_append_inj {cs ds rest rest' : List Char} :
    encode cs ++ rest = encode ds ++ rest' ↔ cs = ds ∧ rest = rest' := by
  constructor
  · intro h
    have hread : some (cs, rest) = some (ds, rest') := by
      rw [← Literal.leading?_encode, ← Literal.leading?_encode, h]
    exact Prod.mk.inj (Option.some.inj hread)
  · rintro ⟨rfl, rfl⟩
    rfl

/-- **Literals are closed.** A compiler that reads a literal takes exactly what was written for it,
finds the text that it was written for, and leaves what stands behind it. So no text can begin with
two literals, and different texts have different ones. A literal has no control character. -/
theorem quote_closed :
    (∀ s rest, Literal.leading? ((quote s).toList ++ rest) = some (s.toList, rest))
      ∧ (∀ s t rest rest', (quote s).toList ++ rest = (quote t).toList ++ rest'
          ↔ s = t ∧ rest = rest')
      ∧ (∀ s, ∀ c ∈ (quote s).toList, IsPlain c)
      ∧ Function.Injective quote := by
  have hbegins : ∀ s t rest rest', (quote s).toList ++ rest = (quote t).toList ++ rest'
      ↔ s = t ∧ rest = rest' := by
    intro s t rest rest'
    rw [toList_quote, toList_quote, encode_append_inj, String.toList_inj]
  refine ⟨?_, hbegins, ?_, ?_⟩
  · intro s rest
    rw [toList_quote]
    exact Literal.leading?_encode s.toList rest
  · intro s c hc
    rw [toList_quote] at hc
    exact isPlain_of_mem_encode hc
  · intro s t hst
    exact ((hbegins s t [] []).1 (by rw [hst])).1

/-! ## The reader of this library -/

/-- What is read where a character was written. -/
def readBack (c : Char) : List Char :=
  if c = '\x07' then ['a']
  else if c = '\x08' then ['b']
  else if c = '\x0b' then ['v']
  else if c = '\x0c' then ['f']
  else if c = '\n' ∨ c = '\r' ∨ c = '\t' then [c]
  else if c.toNat < 0x20 ∨ c.toNat = 0x7f then 'x' :: hex 2 c.toNat
  else if 0x80 ≤ c.toNat ∧ c.toNat < 0xa0 then 'u' :: hex 4 c.toNat
  else [c]

/-- The character stands for itself between quotes. -/
def IsOrdinary (c : Char) : Prop := c ≠ '"' ∧ c ≠ '\\'

instance (c : Char) : Decidable (IsOrdinary c) := inferInstanceAs (Decidable (_ ∧ _))

/-- The value of a stretch of text of which at most the first character is escaped. -/
def frontValue : List Char → List Char
  | '\\' :: e :: ds => escaped e :: ds
  | ds => ds

/-- What stands behind an escape in front. -/
def behindEscape : List Char → List Char
  | '\\' :: _ :: ds => ds
  | ds => ds

theorem body?_ordinary {ds : List Char} (h : ∀ d ∈ ds, IsOrdinary d) (rest : List Char) :
    body? (ds ++ rest) = (body? rest).map fun (v, r) => (ds ++ v, r) := by
  induction ds with
  | nil => simp
  | cons d ds ih =>
    obtain ⟨hquote, hslash⟩ := h d List.mem_cons_self
    rw [List.cons_append, body?, ih fun d' hd' => h d' (List.mem_cons_of_mem _ hd'),
      Option.map_map]
    · rfl
    · exact fun he => hquote he
    · exact fun he _ => hslash he
    · exact fun _ _ he _ => hslash he

theorem body?_front {cs : List Char} (h : ∀ d ∈ behindEscape cs, IsOrdinary d)
    (rest : List Char) :
    body? (cs ++ rest) = (body? rest).map fun (v, r) => (frontValue cs ++ v, r) := by
  unfold behindEscape at h
  unfold frontValue
  split at h
  next e ds =>
    rw [List.cons_append, List.cons_append, body?, body?_ordinary h, Option.map_map]
    rfl
  next => exact body?_ordinary h rest

/-- Characters with high numbers are read as they are written. -/
theorem readBack_of_le {c : Char} (h : 0xa0 ≤ c.toNat) : IsOrdinary c ∧ readBack c = [c] := by
  have hne : ∀ d : Char, d.toNat < 0xa0 → c ≠ d := by
    rintro d hd rfl
    omega
  refine ⟨⟨hne '"' (by decide), hne '\\' (by decide)⟩, ?_⟩
  unfold readBack
  iterate 4 rw [if_neg (hne _ (by decide))]
  split
  · rfl
  · rw [if_neg (by omega), if_neg (by omega)]

/-- A character is written with at most one escape, which comes first. -/
theorem encodeChar_front (c : Char) :
    (∀ d ∈ behindEscape (encodeChar c), IsOrdinary d)
      ∧ frontValue (encodeChar c) = readBack c := by
  have hlow : ∀ n < 0xa0, (behindEscape (encodeChar (Char.ofNat n))).all
        (fun d => decide (IsOrdinary d)) = true
      ∧ frontValue (encodeChar (Char.ofNat n)) = readBack (Char.ofNat n) := by decide +kernel
  -- Everything that is escaped is below `0xa0`, so that these characters can be gone through. All
  -- others are written as they are.
  by_cases hc : c.toNat < 0xa0
  · obtain ⟨n, hn, rfl⟩ := Unicode.exists_ofNat_of_lt hc
    obtain ⟨hall, hvalue⟩ := hlow n hn
    exact ⟨fun d hd => of_decide_eq_true (List.all_eq_true.1 hall d hd), hvalue⟩
  · have hhigh : 0xa0 ≤ c.toNat := Nat.le_of_not_lt hc
    obtain ⟨hwritten, -⟩ := Literal.encodeChar_of_le hhigh
    obtain ⟨hordinary, hback⟩ := readBack_of_le hhigh
    rw [hwritten, hback]
    constructor
    · intro d hd
      obtain rfl : d = c := by simpa [behindEscape] using hd
      exact hordinary
    · simp [frontValue]

theorem body?_flatMap (cs rest : List Char) :
    body? (cs.flatMap encodeChar ++ '"' :: rest) = some (cs.flatMap readBack, rest) := by
  induction cs with
  | nil => rfl
  | cons c cs ih =>
    obtain ⟨hbehind, hfront⟩ := encodeChar_front c
    rw [List.flatMap_cons, List.append_assoc, body?_front hbehind, ih, hfront]
    rfl

theorem unquote?_encode (cs : List Char) : unquote? (encode cs) = some (cs.flatMap readBack) := by
  rw [unquote?, encode, leading?, body?_flatMap]

theorem literalValue_encode (s : String) :
    Grammar.literalValue (quote s) = String.ofList (s.toList.flatMap readBack) := by
  rw [Grammar.literalValue, toList_quote]
  simp only [unquote?_encode]
  rfl

/-- A character comes back if it is no control character, and three of these do. -/
theorem readBack_eq_self_iff (c : Char) :
    readBack c = [c] ↔ IsPlain c ∨ c ∈ ['\n', '\r', '\t'] := by
  have hlow : ∀ n < 0xa0, readBack (Char.ofNat n) = [Char.ofNat n]
      ↔ IsPlain (Char.ofNat n) ∨ Char.ofNat n ∈ ['\n', '\r', '\t'] := by decide +kernel
  by_cases hc : c.toNat < 0xa0
  · obtain ⟨n, hn, rfl⟩ := Unicode.exists_ofNat_of_lt hc
    exact hlow n hn
  · have hhigh : 0xa0 ≤ c.toNat := Nat.le_of_not_lt hc
    have hplain : IsPlain c := by
      show 0x20 ≤ c.toNat ∧ ¬ (0x7f ≤ c.toNat ∧ c.toNat < 0xa0)
      omega
    exact iff_of_true (readBack_of_le hhigh).2 (.inl hplain)

theorem readBack_ne_nil (c : Char) : readBack c ≠ [] := by
  unfold readBack
  repeat' split
  all_goals simp

theorem length_le_flatMap_readBack (cs : List Char) : cs.length ≤ (cs.flatMap readBack).length := by
  induction cs with
  | nil => simp
  | cons c cs ih =>
    have hfirst := List.length_pos_iff.2 (readBack_ne_nil c)
    rw [List.flatMap_cons, List.length_append, List.length_cons]
    omega

/-- A text comes back if and only if each of its characters does: none is read as nothing, so that
a character that is read as several of them cannot be made up for by the others. -/
theorem flatMap_readBack_eq_self_iff (cs : List Char) :
    cs.flatMap readBack = cs ↔ ∀ c ∈ cs, readBack c = [c] := by
  induction cs with
  | nil => simp
  | cons c cs ih =>
    rw [List.forall_mem_cons, ← ih, List.flatMap_cons]
    constructor
    · intro h
      obtain ⟨d, ds, hback⟩ := List.exists_cons_of_ne_nil (readBack_ne_nil c)
      rw [hback, List.cons_append] at h
      obtain ⟨rfl, hrest⟩ := List.cons.inj h
      -- If the first character is read as more than itself, less than their number is left for the
      -- others, but each of them is read as something.
      have hlength := congrArg List.length hrest
      have hle := length_le_flatMap_readBack cs
      rw [List.length_append] at hlength
      obtain rfl : ds = [] := List.length_eq_zero_iff.1 (by omega)
      exact ⟨hback, hrest⟩
    · rintro ⟨hback, hrest⟩
      rw [hback, hrest]
      rfl

/-- Without control characters a text is read back from what is written. -/
theorem literalValue_quote {s : String} (h : ∀ c ∈ s.toList, IsPlain c) :
    Grammar.literalValue (quote s) = s := by
  have hsame : s.toList.flatMap readBack = s.toList := by
    rw [flatMap_readBack_eq_self_iff]
    exact fun c hc => (readBack_eq_self_iff c).2 (.inl (h c hc))
  rw [literalValue_encode, hsame, String.ofList_toList]

/-- **What comes back.** The reader makes a value of every literal that is written, for an import
path and for any other text: it reads each character as `readBack` says. The value is the text that
was written if and only if a line feed, a carriage return and a tab are all the control characters
that it has. -/
theorem unquote?_quote (s : String) :
    unquote? (quote s).toList = some (s.toList.flatMap readBack)
      ∧ Grammar.literalValue (quote s) = String.ofList (s.toList.flatMap readBack)
      ∧ (unquote? (quote s).toList = some s.toList
          ↔ ∀ c ∈ s.toList, IsPlain c ∨ c ∈ ['\n', '\r', '\t'])
      ∧ (Grammar.literalValue (quote s) = s
          ↔ ∀ c ∈ s.toList, IsPlain c ∨ c ∈ ['\n', '\r', '\t']) := by
  have hvalue := unquote?_encode s.toList
  rw [← toList_quote] at hvalue
  have hsame : s.toList.flatMap readBack = s.toList
      ↔ ∀ c ∈ s.toList, IsPlain c ∨ c ∈ ['\n', '\r', '\t'] := by
    rw [flatMap_readBack_eq_self_iff]
    exact forall₂_congr fun c _ => readBack_eq_self_iff c
  refine ⟨hvalue, literalValue_encode s, ?_, ?_⟩
  · rw [hvalue, Option.some_inj, hsame]
  · rw [literalValue_encode, ← String.toList_inj, String.toList_ofList, hsame]

/-- The bell is written as a backslash and a letter, and read as the letter. -/
theorem unquote?_bell :
    unquote? (quote "\x07").toList = some ['a']
      ∧ unquote? (quote "\x07").toList ≠ some "\x07".toList
      ∧ Grammar.literalValue (quote "\x07") = "a" := by
  decide

end Quoted
end StructFill.Source
