import StructFill.Proofs.Text.Encoding

/-! # Reading the bytes of a text

  Decoding undoes encoding: bytes are read as a text if and only if they are
  the bytes of that text. The bytes of one character come first: what a
  leading byte allows is what the encoding writes, and nothing else.
-/

namespace StructFill.Bytes

/-! ## Leading bytes -/

/-- The least byte that may stand behind a leading one: a lower one would make a number that has
a shorter spelling. -/
def leastSecond (b : Nat) : Nat := if b = 0xE0 then 0xA0 else if b = 0xF0 then 0x90 else 0x80

/-- The greatest byte that may stand behind a leading one: a higher one would make the number of
a surrogate, or one that is too large. -/
def greatestSecond (b : Nat) : Nat := if b = 0xED then 0x9F else if b = 0xF4 then 0x8F else 0xBF

theorem le_leastSecond (b : Nat) : 0x80 ≤ leastSecond b ∧ (b = 0xE0 → leastSecond b = 0xA0)
    ∧ (b = 0xF0 → leastSecond b = 0x90) := by
  unfold leastSecond
  split_ifs <;> omega

theorem greatestSecond_le (b : Nat) : greatestSecond b ≤ 0xBF
    ∧ (b = 0xED → greatestSecond b = 0x9F) ∧ (b = 0xF4 → greatestSecond b = 0x8F) := by
  unfold greatestSecond
  split_ifs <;> omega

theorem tails?_one {b : Nat} (h : b < 0x80) : tails? b = some (b, []) := by
  rw [tails?, if_pos h]

theorem tails?_two {b : Nat} (h : 0xC2 ≤ b) (h' : b < 0xE0) :
    tails? b = some (b - 0xC0, [tail]) := by
  rw [tails?, if_neg (by omega), if_neg (by omega), if_pos h']

theorem tails?_three {b : Nat} (h : 0xE0 ≤ b) (h' : b < 0xF0) :
    tails? b = some (b - 0xE0, [(leastSecond b, greatestSecond b), tail]) := by
  unfold tails? leastSecond greatestSecond
  rw [if_neg (by omega), if_neg (by omega), if_neg (by omega)]
  split_ifs <;> first | omega | simp_all [tail]

theorem tails?_four {b : Nat} (h : 0xF0 ≤ b) (h' : b ≤ 0xF4) :
    tails? b = some (b - 0xF0, [(leastSecond b, greatestSecond b), tail, tail]) := by
  unfold tails? leastSecond greatestSecond
  rw [if_neg (by omega), if_neg (by omega), if_neg (by omega), if_neg (by omega),
    if_neg (by omega), if_neg (by omega)]
  split_ifs <;> first | omega | simp_all [tail]

/-- Bytes that no character begins with. -/
theorem tails?_eq_none {b : Nat} (h : 0x80 ≤ b ∧ b < 0xC2 ∨ 0xF4 < b) : tails? b = none := by
  unfold tails?
  split_ifs <;> first | omega | rfl

/-! ## Bytes that follow -/

theorem follow_cons_of_mem {value more lo hi : Nat} {ranges : List (Nat × Nat)} {b : UInt8}
    (rest : List UInt8) (hlo : lo ≤ b.toNat) (hhi : b.toNat ≤ hi) :
    follow value more ((lo, hi) :: ranges) (b :: rest)
      = follow (value * 64 + (b.toNat - 0x80)) (more + 1) ranges rest := by
  rw [follow, if_pos ⟨hlo, hhi⟩]

theorem follow_cons_eq_char {value more lo hi n : Nat} {ranges : List (Nat × Nat)}
    {bs : List UInt8} {c : Char} (h : follow value more ((lo, hi) :: ranges) bs = .char c n) :
    ∃ b rest, bs = b :: rest ∧ lo ≤ b.toNat ∧ b.toNat ≤ hi
      ∧ follow (value * 64 + (b.toNat - 0x80)) (more + 1) ranges rest = .char c n := by
  cases bs with
  | nil => cases h
  | cons b rest =>
    rw [follow] at h
    split at h
    next hrange => exact ⟨b, rest, rfl, hrange.1, hrange.2, h⟩
    next => cases h

/-! ## Numbers -/

theorem toNat_ofNat_byte {n : Nat} (h : n < 256) : (UInt8.ofNat n).toNat = n := by
  rw [UInt8.toNat_ofNat', Nat.mod_eq_of_lt h]

theorem ofNat_eq_byte {n : Nat} {b : UInt8} (h : n = b.toNat) : UInt8.ofNat n = b := by
  rw [h, UInt8.ofNat_toNat]

theorem toNat_ofNat_char {n : Nat} (h : n.isValidChar) : (Char.ofNat n).val.toNat = n := by
  rw [Char.ofNat, dif_pos h]
  exact UInt32.toNat_ofNatLT

/-- A leading byte and one more. -/
theorem encode_two {a b : UInt8} (ha : 0xC2 ≤ a.toNat) (ha' : a.toNat < 0xE0)
    (hb : 0x80 ≤ b.toNat) (hb' : b.toNat ≤ 0xBF) :
    String.utf8EncodeChar (Char.ofNat ((a.toNat - 0xC0) * 64 + (b.toNat - 0x80))) = [a, b] := by
  have hvalue := toNat_ofNat_char (n := (a.toNat - 0xC0) * 64 + (b.toNat - 0x80)) (.inl (by omega))
  generalize Char.ofNat ((a.toNat - 0xC0) * 64 + (b.toNat - 0x80)) = c at hvalue ⊢
  rw [String.utf8EncodeChar, hvalue, if_neg (by omega), if_pos (by omega),
    ofNat_eq_byte (b := a) (by omega), ofNat_eq_byte (b := b) (by omega)]

/-- A leading byte and two more. -/
theorem encode_three {a b c : UInt8} (ha : 0xE0 ≤ a.toNat) (ha' : a.toNat < 0xF0)
    (hb : leastSecond a.toNat ≤ b.toNat) (hb' : b.toNat ≤ greatestSecond a.toNat)
    (hc : 0x80 ≤ c.toNat) (hc' : c.toNat ≤ 0xBF) :
    String.utf8EncodeChar
        (Char.ofNat (((a.toNat - 0xE0) * 64 + (b.toNat - 0x80)) * 64 + (c.toNat - 0x80)))
      = [a, b, c] := by
  have hleast := le_leastSecond a.toNat
  have hgreatest := greatestSecond_le a.toNat
  have hvalue := toNat_ofNat_char
    (n := ((a.toNat - 0xE0) * 64 + (b.toNat - 0x80)) * 64 + (c.toNat - 0x80))
    (by unfold Nat.isValidChar; omega)
  generalize Char.ofNat (((a.toNat - 0xE0) * 64 + (b.toNat - 0x80)) * 64 + (c.toNat - 0x80)) = d
    at hvalue ⊢
  rw [String.utf8EncodeChar, hvalue, if_neg (by omega), if_neg (by omega), if_pos (by omega),
    ofNat_eq_byte (b := a) (by omega), ofNat_eq_byte (b := b) (by omega),
    ofNat_eq_byte (b := c) (by omega)]

/-- A leading byte and three more. -/
theorem encode_four {a b c d : UInt8} (ha : 0xF0 ≤ a.toNat) (ha' : a.toNat ≤ 0xF4)
    (hb : leastSecond a.toNat ≤ b.toNat) (hb' : b.toNat ≤ greatestSecond a.toNat)
    (hc : 0x80 ≤ c.toNat) (hc' : c.toNat ≤ 0xBF) (hd : 0x80 ≤ d.toNat) (hd' : d.toNat ≤ 0xBF) :
    String.utf8EncodeChar (Char.ofNat
        ((((a.toNat - 0xF0) * 64 + (b.toNat - 0x80)) * 64 + (c.toNat - 0x80)) * 64
          + (d.toNat - 0x80)))
      = [a, b, c, d] := by
  have hleast := le_leastSecond a.toNat
  have hgreatest := greatestSecond_le a.toNat
  have hvalue := toNat_ofNat_char
    (n := (((a.toNat - 0xF0) * 64 + (b.toNat - 0x80)) * 64 + (c.toNat - 0x80)) * 64
      + (d.toNat - 0x80)) (.inr (by omega))
  generalize Char.ofNat ((((a.toNat - 0xF0) * 64 + (b.toNat - 0x80)) * 64 + (c.toNat - 0x80)) * 64
    + (d.toNat - 0x80)) = e at hvalue ⊢
  rw [String.utf8EncodeChar, hvalue, if_neg (by omega), if_neg (by omega), if_neg (by omega),
    ofNat_eq_byte (b := a) (by omega), ofNat_eq_byte (b := b) (by omega),
    ofNat_eq_byte (b := c) (by omega), ofNat_eq_byte (b := d) (by omega)]

/-! ## One character -/

/-- What is read as a character is its bytes. -/
theorem encode_of_front {b : UInt8} {rest : List UInt8} {c : Char} {more : Nat}
    (h : front b rest = .char c more) :
    ∃ bs after, rest = bs ++ after ∧ bs.length = more ∧ String.utf8EncodeChar c = b :: bs := by
  unfold front at h
  rcases Nat.lt_or_ge b.toNat 0x80 with hb | hb
  · rw [tails?_one hb] at h
    obtain ⟨rfl, rfl⟩ := Front.char.inj h
    have hvalue : (Char.ofNat b.toNat).toNat = b.toNat := toNat_ofNat_char (.inl (by omega))
    refine ⟨[], rest, rfl, rfl, ?_⟩
    rw [utf8EncodeChar_low (by omega), ofNat_eq_byte hvalue]
  rcases Nat.lt_or_ge b.toNat 0xC2 with hb' | hb'
  · rw [tails?_eq_none (.inl ⟨hb, hb'⟩)] at h
    cases h
  rcases Nat.lt_or_ge b.toNat 0xE0 with hb | hb
  · rw [tails?_two hb' hb] at h
    obtain ⟨x, after, rfl, hx, hx', h⟩ := follow_cons_eq_char h
    obtain ⟨rfl, rfl⟩ := Front.char.inj h
    exact ⟨[x], after, rfl, rfl, encode_two hb' hb hx hx'⟩
  rcases Nat.lt_or_ge b.toNat 0xF0 with hb' | hb'
  · rw [tails?_three hb hb'] at h
    obtain ⟨x, after, rfl, hx, hx', h⟩ := follow_cons_eq_char h
    obtain ⟨y, after, rfl, hy, hy', h⟩ := follow_cons_eq_char h
    obtain ⟨rfl, rfl⟩ := Front.char.inj h
    exact ⟨[x, y], after, rfl, rfl, encode_three hb hb' hx hx' hy hy'⟩
  rcases Nat.lt_or_ge 0xF4 b.toNat with hb | hb
  · rw [tails?_eq_none (.inr hb)] at h
    cases h
  · rw [tails?_four hb' hb] at h
    obtain ⟨x, after, rfl, hx, hx', h⟩ := follow_cons_eq_char h
    obtain ⟨y, after, rfl, hy, hy', h⟩ := follow_cons_eq_char h
    obtain ⟨z, after, rfl, hz, hz', h⟩ := follow_cons_eq_char h
    obtain ⟨rfl, rfl⟩ := Front.char.inj h
    exact ⟨[x, y, z], after, rfl, rfl, encode_four hb' hb hx hx' hy hy' hz hz'⟩

/-- A byte that follows in a character. -/
theorem toNat_following (n : Nat) : (UInt8.ofNat (n % 64 + 128)).toNat = n % 64 + 128 :=
  toNat_ofNat_byte (by omega)

theorem leastSecond_le {b n : Nat} (h : 0x80 ≤ n) (hthree : b = 0xE0 → 0xA0 ≤ n)
    (hfour : b = 0xF0 → 0x90 ≤ n) : leastSecond b ≤ n := by
  unfold leastSecond
  split_ifs <;> omega

theorem le_greatestSecond {b n : Nat} (h : n ≤ 0xBF) (hthree : b = 0xED → n ≤ 0x9F)
    (hfour : b = 0xF4 → n ≤ 0x8F) : n ≤ greatestSecond b := by
  unfold greatestSecond
  split_ifs <;> omega

/-- The bytes of a character are read as the character. -/
theorem front_of_encode {c : Char} {b : UInt8} {bs : List UInt8}
    (h : String.utf8EncodeChar c = b :: bs) (rest : List UInt8) :
    front b (bs ++ rest) = .char c bs.length := by
  have hvalid : c.val.toNat.isValidChar := c.valid
  have hc : Char.ofNat c.val.toNat = c := Char.ofNat_toNat c
  rw [String.utf8EncodeChar] at h
  generalize c.val.toNat = n at hvalid hc h
  unfold Nat.isValidChar at hvalid
  unfold front
  split_ifs at h <;> obtain ⟨rfl, rfl⟩ := List.cons.inj h
  · rw [toNat_ofNat_byte (by omega), tails?_one (by omega)]
    simp only [follow, hc, List.length_nil]
  · have hx := toNat_following n
    have hn : (n / 64 % 32 + 192 - 192) * 64 + (n % 64 + 128 - 128) = n := by omega
    rw [toNat_ofNat_byte (n := n / 64 % 32 + 192) (by omega), tails?_two (by omega) (by omega)]
    dsimp only
    rw [tail, List.singleton_append, follow_cons_of_mem _ (by omega) (by omega), follow, hx, hn, hc]
    rfl
  · have hx := toNat_following (n / 64)
    have hy := toNat_following n
    have hn : ((n / 4096 % 16 + 224 - 224) * 64 + (n / 64 % 64 + 128 - 128)) * 64
        + (n % 64 + 128 - 128) = n := by
      omega
    rw [toNat_ofNat_byte (n := n / 4096 % 16 + 224) (by omega), tails?_three (by omega) (by omega)]
    dsimp only
    rw [List.cons_append,
      follow_cons_of_mem _ (leastSecond_le (by omega) (by omega) (by omega))
        (le_greatestSecond (by omega) (by omega) (by omega)),
      tail, List.singleton_append, follow_cons_of_mem _ (by omega) (by omega), follow,
      hx, hy, hn, hc]
    rfl
  · have hx := toNat_following (n / 4096)
    have hy := toNat_following (n / 64)
    have hz := toNat_following n
    have hn : (((n / 262144 % 8 + 240 - 240) * 64 + (n / 4096 % 64 + 128 - 128)) * 64
        + (n / 64 % 64 + 128 - 128)) * 64 + (n % 64 + 128 - 128) = n := by
      omega
    rw [toNat_ofNat_byte (n := n / 262144 % 8 + 240) (by omega), tails?_four (by omega) (by omega)]
    dsimp only
    rw [List.cons_append,
      follow_cons_of_mem _ (leastSecond_le (by omega) (by omega) (by omega))
        (le_greatestSecond (by omega) (by omega) (by omega)),
      List.cons_append, tail, follow_cons_of_mem _ (by omega) (by omega), List.singleton_append,
      follow_cons_of_mem _ (by omega) (by omega), follow, hx, hy, hz, hn, hc]
    rfl

/-! ## Whole texts -/

theorem decodeFrom_skip (index skip : Nat) (bs : List UInt8) :
    decodeFrom index skip bs = decodeFrom (index + skip) 0 (bs.drop skip) := by
  induction skip generalizing index bs with
  | zero => rfl
  | succ skip ih =>
    cases bs with
    | nil => simp only [decodeFrom, List.drop_nil]
    | cons b bs => rw [decodeFrom, ih, List.drop_succ_cons, Nat.add_assoc, Nat.add_comm 1]

/-- The bytes of characters are read as these. -/
theorem decodeFrom_ofChars (index : Nat) (cs : List Char) :
    decodeFrom index 0 (ofChars cs) = .ok cs := by
  induction cs generalizing index with
  | nil => rfl
  | cons c cs ih =>
    obtain ⟨b, bs, hbytes⟩ := List.exists_cons_of_ne_nil (String.utf8EncodeChar_ne_nil (c := c))
    rw [ofChars_cons, hbytes, List.cons_append, decodeFrom, front_of_encode hbytes]
    dsimp only
    rw [decodeFrom_skip, List.drop_left, ih]
    rfl

/-- Bytes that are read as characters are those of the characters. -/
theorem eq_ofChars_of_decodeFrom {index : Nat} {bs : List UInt8} {cs : List Char}
    (h : decodeFrom index 0 bs = .ok cs) : bs = ofChars cs := by
  induction hlength : bs.length using Nat.strongRecOn generalizing index bs cs with
  | ind n ih =>
    cases bs with
    | nil =>
      obtain rfl := Except.ok.inj h
      rfl
    | cons b rest =>
      rw [decodeFrom] at h
      split at h
      next c more hfront =>
        obtain ⟨bs, after, rfl, rfl, hbytes⟩ := encode_of_front hfront
        rw [decodeFrom_skip, List.drop_left] at h
        cases hafter : decodeFrom (index + 1 + bs.length) 0 after with
        | error flaw =>
          rw [hafter] at h
          cases h
        | ok chars =>
          rw [hafter] at h
          obtain rfl := Except.ok.inj h
          have hshorter : after.length < n := by
            simp only [List.length_cons, List.length_append] at hlength
            omega
          rw [ofChars_cons, hbytes, ← ih after.length hshorter hafter rfl]
          rfl
      next => cases h
      next => cases h

/-- Bytes are read as a text if and only if they are its bytes. -/
theorem decode_eq_ok_iff {bs : List UInt8} {s : String} : decode bs = .ok s ↔ bs = ofText s := by
  unfold decode
  constructor
  · intro h
    cases hchars : decodeFrom 0 0 bs with
    | error flaw =>
      rw [hchars] at h
      cases h
    | ok cs =>
      rw [hchars] at h
      obtain rfl := Except.ok.inj h
      rw [ofText_ofList, eq_ofChars_of_decodeFrom hchars]
  · rintro rfl
    rw [ofText_eq, decodeFrom_ofChars, Except.map, String.ofList_toList]

end StructFill.Bytes
