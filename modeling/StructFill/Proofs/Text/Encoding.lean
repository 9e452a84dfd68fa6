import Mathlib.Data.List.Basic
import StructFill.Bytes

/-! # The bytes of characters

  A low character is one byte, with its own number. All bytes of any other
  character are high. So a reader that looks for low characters may go byte by
  byte: it will not take a part of a character for one.

  Whole texts differ if and only if their bytes do. A text can be cut at an
  offset in bytes if the offset is between two characters.
-/

namespace StructFill.Bytes

/-- The bytes of characters, one after the other. -/
def ofChars (cs : List Char) : List UInt8 := cs.flatMap String.utf8EncodeChar

@[simp] theorem ofChars_nil : ofChars [] = [] := rfl

@[simp] theorem ofChars_cons (c : Char) (cs : List Char) :
    ofChars (c :: cs) = String.utf8EncodeChar c ++ ofChars cs := List.flatMap_cons

@[simp] theorem ofChars_append (as bs : List Char) :
    ofChars (as ++ bs) = ofChars as ++ ofChars bs := List.flatMap_append

/-! ## Texts -/

theorem toList_loop (bs : ByteArray) (i : Nat) (r : List UInt8) :
    ByteArray.toList.loop bs i r = r.reverse ++ bs.data.toList.drop i := by
  induction h : bs.size - i generalizing i r with
  | zero =>
    rw [ByteArray.toList.loop, if_neg (by omega), List.drop_eq_nil_of_le, List.append_nil]
    show bs.data.size ≤ i
    have hsize : bs.size = bs.data.size := rfl
    omega
  | succ n ih =>
    have hi : i < bs.data.toList.length := by
      show i < bs.size
      omega
    rw [ByteArray.toList.loop, if_pos (by omega), ih (i + 1) _ (by omega),
      List.drop_eq_getElem_cons hi]
    have hget : bs.get! i = bs.data.toList[i] := by
      show bs.data[i]! = _
      rw [getElem!_pos bs.data i hi, Array.getElem_toList]
    rw [hget, List.reverse_cons, List.append_assoc, List.singleton_append]

/-- The bytes of a text are those of its characters. -/
theorem ofText_eq (s : String) : ofText s = ofChars s.toList := by
  have hbytes : s.toUTF8 = (ofChars s.toList).toByteArray := by
    rw [String.toUTF8_eq_toByteArray, ← String.utf8Encode_toList]
    rfl
  rw [ofText, hbytes, ByteArray.toList, toList_loop, List.toList_data_toByteArray]
  rfl

@[simp] theorem ofText_ofList (cs : List Char) : ofText (String.ofList cs) = ofChars cs := by
  rw [ofText_eq, String.toList_ofList]

@[simp] theorem ofChars_eq_nil_iff {cs : List Char} : ofChars cs = [] ↔ cs = [] := by
  cases cs with
  | nil => simp
  | cons c cs => simp [String.utf8EncodeChar_ne_nil]

theorem ofText_inj {s t : String} : ofText s = ofText t ↔ s = t := by
  constructor
  · intro h
    have hdata : s.toByteArray.data.toList = t.toByteArray.data.toList := by
      have hs := toList_loop s.toUTF8 0 []
      have ht := toList_loop t.toUTF8 0 []
      rw [String.toUTF8_eq_toByteArray] at hs ht
      simpa [ofText, ByteArray.toList, String.toUTF8_eq_toByteArray, hs, ht] using h
    exact String.toByteArray_inj.1 (ByteArray.ext (Array.toList_inj.1 hdata))
  · intro h
    rw [h]

/-! ## Low and high characters -/

theorem utf8EncodeChar_low {c : Char} (h : c.toNat < 0x80) :
    String.utf8EncodeChar c = [UInt8.ofNat c.toNat] := by
  have hle : c.val.toNat ≤ 127 := by
    show c.toNat ≤ 127
    omega
  rw [String.utf8EncodeChar]
  simp only [hle, if_true]
  rfl

theorem le_of_mem_utf8EncodeChar {c : Char} (h : 0x80 ≤ c.toNat) {b : UInt8}
    (hb : b ∈ String.utf8EncodeChar c) : 0x80 ≤ b := by
  have hnot : ¬ c.val.toNat ≤ 127 := by
    show ¬ c.toNat ≤ 127
    omega
  -- Each byte has the high bit from the number that is added.
  have hhigh : ∀ n, 128 ≤ n → n < 256 → (0x80 : UInt8) ≤ UInt8.ofNat n := by
    intro n hlow hupper
    rw [UInt8.le_iff_toNat_le, UInt8.toNat_ofNat', Nat.mod_eq_of_lt hupper]
    exact hlow
  rw [String.utf8EncodeChar] at hb
  simp only [hnot, if_false] at hb
  split at hb
  · simp only [List.mem_cons, List.not_mem_nil, or_false] at hb
    rcases hb with rfl | rfl
    all_goals exact hhigh _ (by omega) (by omega)
  split at hb
  · simp only [List.mem_cons, List.not_mem_nil, or_false] at hb
    rcases hb with rfl | rfl | rfl
    all_goals exact hhigh _ (by omega) (by omega)
  · simp only [List.mem_cons, List.not_mem_nil, or_false] at hb
    rcases hb with rfl | rfl | rfl | rfl
    all_goals exact hhigh _ (by omega) (by omega)

/-- A low byte in front is a character in front. -/
theorem ofChars_eq_low_cons_iff {d : Char} (hd : d.toNat < 0x80) {cs : List Char}
    {bs : List UInt8} :
    ofChars cs = UInt8.ofNat d.toNat :: bs ↔ ∃ rest, cs = d :: rest ∧ ofChars rest = bs := by
  constructor
  · intro h
    cases cs with
    | nil => cases h
    | cons c rest =>
      rw [ofChars_cons] at h
      by_cases hc : c.toNat < 0x80
      · rw [utf8EncodeChar_low hc] at h
        obtain ⟨hbyte, hrest⟩ := List.cons.inj h
        have hnat : c.toNat = d.toNat := by
          have hmod := congrArg UInt8.toNat hbyte
          rwa [UInt8.toNat_ofNat', UInt8.toNat_ofNat', Nat.mod_eq_of_lt (by omega),
            Nat.mod_eq_of_lt (by omega)] at hmod
        exact ⟨rest, by rw [Char.toNat_inj.1 hnat], hrest⟩
      · -- The byte in front is one of a high character.
        obtain ⟨b, more, hbytes⟩ :=
          List.exists_cons_of_ne_nil (String.utf8EncodeChar_ne_nil (c := c))
        rw [hbytes] at h
        obtain ⟨hbyte, -⟩ := List.cons.inj h
        have hle : 0x80 ≤ b := le_of_mem_utf8EncodeChar (Nat.le_of_not_lt hc) (by simp [hbytes])
        rw [hbyte, UInt8.le_iff_toNat_le, UInt8.toNat_ofNat', Nat.mod_eq_of_lt (by omega)] at hle
        exact absurd hle (Nat.not_le_of_lt hd)
  · rintro ⟨rest, rfl, rfl⟩
    rw [ofChars_cons, utf8EncodeChar_low hd, List.singleton_append]

/-! ## Tests on bytes and on characters -/

/-- The test on bytes says of each byte of a character what the test on characters says of the
character. -/
def Agree (p : Char → Bool) (q : UInt8 → Bool) : Prop :=
  ∀ c, ∀ b ∈ String.utf8EncodeChar c, q b = p c

/-- Two tests agree if they do on low characters, and if neither tells high ones apart. -/
theorem agree_of_low {p : Char → Bool} {q : UInt8 → Bool} (answer : Bool)
    (hlow : ∀ n < 0x80, q (UInt8.ofNat n) = p (Char.ofNat n))
    (hchars : ∀ c : Char, 0x80 ≤ c.toNat → p c = answer)
    (hbytes : ∀ b : UInt8, 0x80 ≤ b → q b = answer) : Agree p q := by
  intro c b hb
  by_cases hc : c.toNat < 0x80
  · rw [utf8EncodeChar_low hc, List.mem_singleton] at hb
    subst hb
    have hsame := hlow c.toNat hc
    rwa [Char.ofNat_toNat] at hsame
  · have hhigh : 0x80 ≤ c.toNat := Nat.le_of_not_lt hc
    rw [hbytes b (le_of_mem_utf8EncodeChar hhigh hb), hchars c hhigh]

/-- The bytes that pass a test in front are those of the characters that do. -/
theorem span_ofChars {p : Char → Bool} {q : UInt8 → Bool} (h : Agree p q) (cs : List Char) :
    (ofChars cs).takeWhile q = ofChars (cs.takeWhile p)
      ∧ (ofChars cs).dropWhile q = ofChars (cs.dropWhile p) := by
  induction cs with
  | nil => exact ⟨rfl, rfl⟩
  | cons c cs ih =>
    rw [ofChars_cons]
    cases hc : p c with
    | true =>
      have hall : ∀ b ∈ String.utf8EncodeChar c, q b = true := fun b hb => (h c b hb).trans hc
      rw [List.takeWhile_append_of_pos hall, List.dropWhile_append_of_pos hall,
        List.takeWhile_cons_of_pos hc, List.dropWhile_cons_of_pos hc, ofChars_cons, ih.1, ih.2]
      exact ⟨rfl, rfl⟩
    | false =>
      -- The first byte of the character fails the test, as the character does.
      obtain ⟨b, bs, hbytes⟩ := List.exists_cons_of_ne_nil (String.utf8EncodeChar_ne_nil (c := c))
      have hb : ¬ q b = true := by
        rw [h c b (by simp [hbytes]), hc]
        exact Bool.false_ne_true
      have hc' : ¬ p c = true := by simp [hc]
      rw [List.takeWhile_cons_of_neg hc', List.dropWhile_cons_of_neg hc', ofChars_cons, hbytes,
        List.cons_append, List.takeWhile_cons_of_neg hb, List.dropWhile_cons_of_neg hb]
      exact ⟨rfl, rfl⟩

/-! ## Cuts -/

/-- Cuts a text at an offset in bytes. There is no cut inside a character or behind the end. -/
def cut? : Nat → List Char → Option (List Char × List Char)
  | 0, cs => some ([], cs)
  | _ + 1, [] => none
  | n + 1, c :: cs =>
    if c.utf8Size ≤ n + 1 then (cut? (n + 1 - c.utf8Size) cs).map fun (f, r) => (c :: f, r)
    else none

/-- Between two texts there is a cut. -/
theorem cut?_append (front rest : List Char) :
    cut? (ofChars front).length (front ++ rest) = some (front, rest) := by
  induction front with
  | nil => rw [List.nil_append, ofChars_nil, List.length_nil, cut?]
  | cons c front ih =>
    have hpos := c.utf8Size_pos
    have hlen : (ofChars (c :: front)).length = c.utf8Size + (ofChars front).length := by
      rw [ofChars_cons, List.length_append, String.length_utf8EncodeChar]
    obtain ⟨n, hn⟩ : ∃ n, c.utf8Size + (ofChars front).length = n + 1 :=
      ⟨c.utf8Size - 1 + (ofChars front).length, by omega⟩
    have hleft : n + 1 - c.utf8Size = (ofChars front).length := by omega
    rw [hlen, hn, List.cons_append, cut?, if_pos (by omega), hleft, ih]
    rfl

example : cut? 1 ['ä', 'b'] = none := by decide

end StructFill.Bytes
