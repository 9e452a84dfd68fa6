import StructFill.Proofs.Source.Tags
import StructFill.Proofs.Text.Encoding

/-! # Tags, byte by byte

  The reflection library looks a key up in the bytes of a tag. It visits pair
  after pair: spaces are skipped, then come a key, a colon and a text in
  quotes, and in that text a backslash skips one byte. At the first pair that
  is malformed it stops.

  A tag is read here by keys that are measured in bytes and by values that are
  read in characters, and it is cut at offsets in bytes. A cut inside a
  character would not give a text.

  **The walks stay in step.** Quotes, backslashes, colons and spaces are low,
  and no byte of a high character is low. So a byte walk and a character walk
  stop at the same places. The one place where the byte walk leaves a character
  in the middle is behind a backslash; it then passes over the rest of the
  character, whose bytes are high.
-/

namespace StructFill.Source

namespace Quoted

open Bytes (ofChars)

/-! ## The walk over bytes -/

/-- The bytes up to the closing quote, and those after it. A backslash skips one byte. -/
def closing? : List UInt8 → Option (List UInt8 × List UInt8)
  | [] => none
  | 0x22 :: rest => some ([0x22], rest)
  | [0x5c] => none
  | 0x5c :: b :: rest => (closing? rest).map fun (text, r) => (0x5c :: b :: text, r)
  | b :: rest => (closing? rest).map fun (text, r) => (b :: text, r)

theorem closing?_plain {b : UInt8} (hquote : b ≠ 0x22) (hslash : b ≠ 0x5c) (rest : List UInt8) :
    closing? (b :: rest) = (closing? rest).map fun (text, r) => (b :: text, r) := by
  rw [closing?]
  · exact hquote
  · exact fun h _ => hslash h
  · exact fun _ _ h _ => hslash h

/-- Bytes that are neither quotes nor backslashes are passed over. -/
theorem closing?_pass {front : List UInt8} (h : ∀ b ∈ front, b ≠ 0x22 ∧ b ≠ 0x5c)
    (rest : List UInt8) :
    closing? (front ++ rest) = (closing? rest).map fun (text, r) => (front ++ text, r) := by
  induction front with
  | nil =>
    show closing? rest = _
    simp
  | cons b front ih =>
    have hb := h b List.mem_cons_self
    have hfront := ih fun b' hb' => h b' (List.mem_cons_of_mem _ hb')
    rw [List.cons_append, closing?_plain hb.1 hb.2, hfront, Option.map_map]
    rfl

/-- What is behind a closing quote is shorter than what is behind the opening one. -/
theorem length_lt_of_closing? {bs text rest : List UInt8} (h : closing? bs = some (text, rest)) :
    rest.length < bs.length := by
  fun_induction closing? bs generalizing text rest with
  | case1 => cases h
  | case2 rest' =>
    obtain ⟨-, rfl⟩ := Prod.mk.inj (Option.some.inj h)
    simp
  | case3 => cases h
  | case4 b rest' ih | case5 b rest' _ _ _ ih =>
    obtain ⟨⟨t, r⟩, hclosing, hout⟩ := Option.map_eq_some_iff.1 h
    obtain ⟨-, rfl⟩ := Prod.mk.inj hout
    have hlt := ih hclosing
    simp only [List.length_cons]
    omega

/-- High bytes are passed over. -/
theorem passed_of_high {b : UInt8} (h : 0x80 ≤ b) : b ≠ 0x22 ∧ b ≠ 0x5c := by
  have hle : 128 ≤ b.toNat := h
  constructor
  all_goals
    rintro rfl
    exact absurd hle (by decide)

/-- The bytes of a character that stands for itself are passed over. -/
theorem passed_of_plain {c : Char} (hquote : c ≠ '"') (hslash : c ≠ '\\') :
    ∀ b ∈ String.utf8EncodeChar c, b ≠ 0x22 ∧ b ≠ 0x5c := by
  intro b hb
  by_cases hc : c.toNat < 0x80
  · rw [Bytes.utf8EncodeChar_low hc, List.mem_singleton] at hb
    have hnat : ∀ d : Char, c ≠ d → c.toNat ≠ d.toNat := fun d hne h => hne (Char.toNat_inj.1 h)
    have hq := hnat _ hquote
    have hs := hnat _ hslash
    have hb' : b.toNat = c.toNat := by
      rw [hb, UInt8.toNat_ofNat', Nat.mod_eq_of_lt (by omega)]
    constructor
    · intro h
      exact hq (hb'.symm.trans (by rw [h]; rfl))
    · intro h
      exact hs (hb'.symm.trans (by rw [h]; rfl))
  · exact passed_of_high (Bytes.le_of_mem_utf8EncodeChar (Nat.le_of_not_lt hc) hb)

/-- A backslash skips one byte of a character and passes over the others. -/
theorem closing?_escape (c : Char) (rest : List UInt8) :
    closing? (0x5c :: (String.utf8EncodeChar c ++ rest))
      = (closing? rest).map fun (text, r) => (0x5c :: (String.utf8EncodeChar c ++ text), r) := by
  by_cases hc : c.toNat < 0x80
  · rw [Bytes.utf8EncodeChar_low hc]
    rfl
  · obtain ⟨b, more, hbytes⟩ := List.exists_cons_of_ne_nil (String.utf8EncodeChar_ne_nil (c := c))
    have hmore : ∀ b' ∈ more, b' ≠ 0x22 ∧ b' ≠ 0x5c := by
      intro b' hb'
      have hmem : b' ∈ String.utf8EncodeChar c := hbytes ▸ List.mem_cons_of_mem b hb'
      exact passed_of_high (Bytes.le_of_mem_utf8EncodeChar (Nat.le_of_not_lt hc) hmem)
    rw [hbytes, List.cons_append, closing?, closing?_pass hmore, Option.map_map]
    rfl

theorem ofChars_slash (cs : List Char) : ofChars ('\\' :: cs) = 0x5c :: ofChars cs := by
  rw [Bytes.ofChars_cons]
  rfl

/-- The bytes of a closed text end at its quote. -/
theorem Closed.closing? {text v : List Char} (h : Closed text v) (rest : List UInt8) :
    closing? (ofChars text ++ rest) = some (ofChars text, rest) := by
  induction h with
  | quote => rfl
  | escape c _ ih =>
    rw [ofChars_slash, Bytes.ofChars_cons, List.cons_append, List.append_assoc, closing?_escape, ih]
    rfl
  | plain hquote hslash _ ih =>
    rw [Bytes.ofChars_cons, List.append_assoc, closing?_pass (passed_of_plain hquote hslash), ih]
    rfl

/-- A text that is not closed has no closing quote in its bytes. -/
theorem closing?_of_body?_none {cs : List Char} (h : body? cs = none) :
    Quoted.closing? (ofChars cs) = none := by
  fun_induction body? cs with
  | case1 => rfl
  | case2 => cases h
  | case3 => rfl
  | case4 c rest ih =>
    rw [ofChars_slash, Bytes.ofChars_cons, closing?_escape, ih (Option.map_eq_none_iff.1 h)]
    rfl
  | case5 c rest hquote hend hslash ih =>
    have hpassed := passed_of_plain hquote (ne_slash hend hslash)
    rw [Bytes.ofChars_cons, closing?_pass hpassed,
      ih (Option.map_eq_none_iff.1 h)]
    rfl

/-! ## The walk over characters with offsets -/

/-- Reads up to the closing quote from byte `i` on: the value, and the offset after the quote. -/
def bodyAt? : Nat → List Char → Option (List Char × Nat)
  | _, [] => none
  | i, '"' :: _ => some ([], i + 1)
  | _, ['\\'] => none
  | i, '\\' :: c :: rest =>
    (bodyAt? (i + 1 + c.utf8Size) rest).map fun (v, n) => (escaped c :: v, n)
  | i, c :: rest => (bodyAt? (i + c.utf8Size) rest).map fun (v, n) => (c :: v, n)

/-- Reads a literal at the front of a text: the value, and how many bytes it takes. -/
def leadingAt? : List Char → Option (List Char × Nat)
  | '"' :: rest => bodyAt? 1 rest
  | _ => none

/-- The offset after a closed text counts its bytes. -/
theorem Closed.bodyAt? {text v : List Char} (h : Closed text v) (i : Nat) (rest : List Char) :
    bodyAt? i (text ++ rest) = some (v, i + (ofChars text).length) := by
  induction h generalizing i with
  | quote => rfl
  | escape c _ ih =>
    rw [List.cons_append, List.cons_append, Quoted.bodyAt?, ih, ofChars_slash, Bytes.ofChars_cons,
      List.length_cons, List.length_append, String.length_utf8EncodeChar]
    simp only [Option.map_some, Option.some.injEq, Prod.mk.injEq, true_and]
    omega
  | plain hquote hslash _ ih =>
    rw [List.cons_append, Quoted.bodyAt?]
    · rw [ih, Bytes.ofChars_cons, List.length_append, String.length_utf8EncodeChar]
      simp only [Option.map_some, Option.some.injEq, Prod.mk.injEq, true_and]
      omega
    · exact hquote
    · exact fun h _ => hslash h
    · exact fun _ _ h _ => hslash h

/-- A text that is not closed has no offset after it. -/
theorem bodyAt?_of_body?_none {cs : List Char} (h : body? cs = none) (i : Nat) :
    Quoted.bodyAt? i cs = none := by
  fun_induction body? cs generalizing i with
  | case1 => rfl
  | case2 => cases h
  | case3 => rfl
  | case4 c rest ih =>
    rw [Quoted.bodyAt?, ih (Option.map_eq_none_iff.1 h)]
    rfl
  | case5 c rest hquote hend hslash ih =>
    rw [Quoted.bodyAt?, ih (Option.map_eq_none_iff.1 h)]
    · rfl
    · exact hquote
    · exact hend
    · exact hslash

/-- The offset after a literal counts the bytes of its text. -/
theorem leadingAt?_eq {cs v rest : List Char} (h : leading? cs = some (v, rest)) :
    ∃ text, cs = '"' :: (text ++ rest) ∧ Closed text v
      ∧ leadingAt? cs = some (v, (ofChars ('"' :: text)).length) := by
  unfold leading? at h
  split at h
  next body =>
    obtain ⟨text, rfl, hclosed⟩ := closed_of_body? h
    refine ⟨text, rfl, hclosed, ?_⟩
    show Quoted.bodyAt? 1 (text ++ rest) = _
    rw [hclosed.bodyAt?, Bytes.ofChars_cons, List.length_append]
    rfl
  next => cases h

theorem leadingAt?_of_leading?_none {cs : List Char} (h : leading? cs = none) :
    leadingAt? cs = none := by
  unfold leading? at h
  split at h
  next body => exact bodyAt?_of_body?_none h 1
  next hother =>
    unfold leadingAt?
    split
    next body => exact absurd rfl (hother body)
    next => rfl

end Quoted

namespace Tag

open Quoted (closing? leading? leadingAt? Closed)

/-! ## What is visited -/

/-- A byte that may stand in a key. -/
def isKeyByte (b : UInt8) : Bool :=
  decide (0x20 < b) && b != 0x3a && b != 0x22 && b != 0x7f

/-- What the byte walk sees of a pair: the key, and the value with its quotes. -/
structure Visit where
  key : List UInt8
  quoted : List UInt8
deriving DecidableEq

/-- One pair at the front of bytes that have no space in front. -/
def visit? (bs : List UInt8) : Option (Visit × List UInt8) :=
  let key := bs.takeWhile isKeyByte
  if key = [] then none
  else
    match bs.dropWhile isKeyByte with
    | 0x3a :: 0x22 :: rest => (closing? rest).map fun (text, r) => (⟨key, 0x22 :: text⟩, r)
    | _ => none

theorem visit?_eq_some_iff {bs rest : List UInt8} {v : Visit} :
    visit? bs = some (v, rest) ↔
      v.key ≠ [] ∧ v.key = bs.takeWhile isKeyByte ∧ ∃ body text,
        bs.dropWhile isKeyByte = 0x3a :: 0x22 :: body ∧ closing? body = some (text, rest)
          ∧ v.quoted = 0x22 :: text := by
  unfold visit?
  dsimp only
  constructor
  · intro h
    split at h
    · cases h
    next hkey =>
    split at h
    next body hdrop =>
      obtain ⟨⟨text, r⟩, hclosing, hout⟩ := Option.map_eq_some_iff.1 h
      obtain ⟨rfl, rfl⟩ := Prod.mk.inj hout
      exact ⟨hkey, rfl, body, text, hdrop, hclosing, rfl⟩
    next => cases h
  · intro h
    obtain ⟨hne, hkey, body, text, hdrop, hclosing, hquoted⟩ := h
    rw [hkey] at hne
    rw [if_neg hne, hdrop]
    simp [hclosing, ← hkey, ← hquoted]

/-- A pair behind spaces takes bytes. -/
theorem length_lt_of_visit? {bs rest : List UInt8} {v : Visit}
    (h : visit? (bs.dropWhile (· == 0x20)) = some (v, rest)) : rest.length < bs.length := by
  obtain ⟨-, -, body, text, hdrop, hclosing, -⟩ := visit?_eq_some_iff.1 h
  have hlt := Quoted.length_lt_of_closing? hclosing
  have hkey := (List.dropWhile_suffix isKeyByte (l := bs.dropWhile (· == 0x20))).length_le
  have hspaces := (List.dropWhile_suffix (· == 0x20) (l := bs)).length_le
  simp only [hdrop, List.length_cons] at hkey
  omega

/-- The pairs that the byte walk visits before it stops. -/
def visits (bs : List UInt8) : List Visit :=
  match h : visit? (bs.dropWhile (· == 0x20)) with
  | none => []
  | some (v, rest) =>
    have _hlt := length_lt_of_visit? h
    v :: visits rest
termination_by bs.length

theorem visits_eq (bs : List UInt8) :
    visits bs = match visit? (bs.dropWhile (· == 0x20)) with
      | none => []
      | some (v, rest) => v :: visits rest := by
  rw [visits]
  split
  next hnone => rw [hnone]
  next v rest hsome => simp [hsome]

/-- The text in quotes has the value. -/
def Visit.HasValue (v : Visit) (value : String) : Prop :=
  ∃ quoted : String, v.quoted = Bytes.ofText quoted
    ∧ Quoted.unquote? quoted.toList = some value.toList

/-- The pair that is read is the one that is visited. -/
def Visit.Gives (v : Visit) (p : String × String) : Prop :=
  v.key = Bytes.ofText p.1 ∧ v.HasValue p.2

/-! ## One pair -/

theorem agree_key : Bytes.Agree isKeyChar isKeyByte := by
  apply Bytes.agree_of_low true
  · decide
  · intro c hc
    have hne : ∀ d : Char, d.toNat < 0x80 → c ≠ d := by
      intro d hd h
      rw [h] at hc
      omega
    have hlt : ' ' < c := by
      show ' '.toNat < c.toNat
      exact Nat.lt_of_lt_of_le (by decide) hc
    exact isKeyChar_iff.2 ⟨hlt, hne _ (by decide), hne _ (by decide), hne _ (by decide)⟩
  -- A byte of a longer character is none of the three marks, which are low.
  · intro b hb
    have hle : 128 ≤ b.toNat := hb
    have hne : ∀ d : UInt8, d.toNat < 0x80 → b ≠ d := by
      intro d hd h
      rw [h] at hle
      omega
    have hlt : 0x20 < b := Nat.lt_of_lt_of_le (show 0x20 < 128 by decide) hle
    simp [isKeyByte, hlt, hne 0x3a (by decide), hne 0x22 (by decide), hne 0x7f (by decide)]

theorem agree_space : Bytes.Agree (· == ' ') (· == 0x20) := by
  apply Bytes.agree_of_low false
  · decide
  · intro c hc
    apply beq_eq_false_iff_ne.2
    intro h
    rw [h] at hc
    exact absurd hc (by decide)
  · intro b hb
    apply beq_eq_false_iff_ne.2
    intro h
    rw [h] at hb
    exact absurd hb (by decide)

/-- A pair that is read is visited. -/
theorem visit?_of_pair? {cs rest : List Char} {p : String × String}
    (h : pair? cs = some (p, rest)) :
    ∃ v, visit? (Bytes.ofChars cs) = some (v, Bytes.ofChars rest) ∧ v.Gives p := by
  obtain ⟨hne, hkey, behind, hdrop, hvalue⟩ := pair?_eq_some_iff.1 h
  obtain ⟨text, rfl, hclosed, -⟩ := Quoted.leadingAt?_eq hvalue
  have hspan := Bytes.span_ofChars agree_key cs
  refine ⟨⟨Bytes.ofText p.1, Bytes.ofChars ('"' :: text)⟩, ?_, rfl, ?_⟩
  · rw [visit?_eq_some_iff, hspan.1, hspan.2, hkey, Bytes.ofText_ofList, hdrop]
    refine ⟨fun hnil => hne (Bytes.ofChars_eq_nil_iff.1 hnil), rfl, Bytes.ofChars (text ++ rest),
      Bytes.ofChars text, rfl, ?_, rfl⟩
    rw [Bytes.ofChars_append, hclosed.closing?]
  · refine ⟨String.ofList ('"' :: text), by rw [Bytes.ofText_ofList], ?_⟩
    have hbody := hclosed.body? []
    rw [List.append_nil] at hbody
    rw [String.toList_ofList, Quoted.unquote?, leading?, hbody]

/-- Where no pair is read, none is visited. -/
theorem visit?_of_pair?_none {cs : List Char} (h : pair? cs = none) :
    visit? (Bytes.ofChars cs) = none := by
  have hspan := Bytes.span_ofChars agree_key cs
  apply Option.eq_none_iff_forall_ne_some.2
  intro out hout
  obtain ⟨v, bytes⟩ := out
  -- A visit in spite of that would have a key, a colon and a quote in characters too, and then a
  -- value that is closed, by `closing?_of_body?_none`.
  obtain ⟨hne, hkey, body, text, hdrop, hclosing, -⟩ := visit?_eq_some_iff.1 hout
  rw [hspan.1] at hkey
  rw [hspan.2] at hdrop
  obtain ⟨behind, hcolon, hbehind⟩ :=
    (Bytes.ofChars_eq_low_cons_iff (d := ':') (by decide)).1 hdrop
  obtain ⟨inner, hquote, rfl⟩ :=
    (Bytes.ofChars_eq_low_cons_iff (d := '"') (by decide)).1 hbehind
  cases hbody : Quoted.body? inner with
  | none => simp [Quoted.closing?_of_body?_none hbody] at hclosing
  | some out =>
    obtain ⟨value, rest⟩ := out
    have hchars : cs.takeWhile isKeyChar ≠ [] := by
      intro hnil
      exact hne (by rw [hkey, hnil]; rfl)
    rw [pair?_of_colon hchars hcolon, hquote, leading?, hbody] at h
    cases h

/-! ## The walk that cuts at offsets -/

/-- One round at the front of a text that has no space in front: the pair and the text behind it,
or nothing where the walk stops. The outer answer is missing if a cut is not between characters. -/
def round? (cs : List Char) : Option (Option ((String × String) × List Char)) := do
  let bytes := Bytes.ofChars cs
  let n := (bytes.takeWhile isKeyByte).length
  if n = 0 ∨ bytes.length ≤ n + 1 ∨ bytes[n]? ≠ some 0x3a ∨ bytes[n + 1]? ≠ some 0x22 then
    return none
  let (key, _) ← Bytes.cut? n cs
  let (_, behind) ← Bytes.cut? (n + 1) cs
  match leadingAt? behind with
  | none => return none
  | some (value, consumed) =>
    let (_, rest) ← Bytes.cut? consumed behind
    return some ((String.ofList key, String.ofList value), rest)

/-- The bytes behind a key are a colon and a quote if and only if the characters are. -/
theorem quote_behind_key_iff (cs : List Char) {n : Nat}
    (hn : n = ((Bytes.ofChars cs).takeWhile isKeyByte).length) :
    (Bytes.ofChars cs)[n]? = some 0x3a ∧ (Bytes.ofChars cs)[n + 1]? = some 0x22 ↔
      ∃ body, cs.dropWhile isKeyChar = ':' :: '"' :: body := by
  have hspan := Bytes.span_ofChars agree_key cs
  have hsplit := List.takeWhile_append_dropWhile (p := isKeyByte) (l := Bytes.ofChars cs)
  have hget : ∀ i, (Bytes.ofChars cs)[n + i]? = (Bytes.ofChars (cs.dropWhile isKeyChar))[i]? := by
    intro i
    rw [← hspan.2, ← hsplit, List.getElem?_append_right (by omega), hsplit, hn,
      Nat.add_sub_cancel_left]
  rw [hget 1, ← Nat.add_zero n, hget 0]
  constructor
  · intro h
    obtain ⟨hcolon, hquote⟩ := h
    -- A colon and a quote are one byte each, and no byte of a longer character is one of them.
    cases hbytes : Bytes.ofChars (cs.dropWhile isKeyChar) with
    | nil => simp [hbytes] at hcolon
    | cons b bs =>
      cases bs with
      | nil => simp [hbytes] at hquote
      | cons b' bs =>
        obtain rfl : b = 0x3a := by simpa [hbytes] using hcolon
        obtain rfl : b' = 0x22 := by simpa [hbytes] using hquote
        obtain ⟨behind, hbehind, hrest⟩ :=
          (Bytes.ofChars_eq_low_cons_iff (d := ':') (by decide)).1 hbytes
        obtain ⟨body, rfl, -⟩ := (Bytes.ofChars_eq_low_cons_iff (d := '"') (by decide)).1 hrest
        exact ⟨body, hbehind⟩
  · intro h
    obtain ⟨body, hbody⟩ := h
    rw [hbody]
    exact ⟨rfl, rfl⟩

/-- In front of the colon and behind it there are cuts. -/
theorem cut?_key {cs behind : List Char} (hdrop : cs.dropWhile isKeyChar = ':' :: behind) {n : Nat}
    (hn : n = ((Bytes.ofChars cs).takeWhile isKeyByte).length) :
    Bytes.cut? n cs = some (cs.takeWhile isKeyChar, ':' :: behind)
      ∧ Bytes.cut? (n + 1) cs = some (cs.takeWhile isKeyChar ++ [':'], behind) := by
  have hsplit := List.takeWhile_append_dropWhile (p := isKeyChar) (l := cs)
  have hbefore := Bytes.cut?_append (cs.takeWhile isKeyChar) (':' :: behind)
  have hafter := Bytes.cut?_append (cs.takeWhile isKeyChar ++ [':']) behind
  have hlen : (Bytes.ofChars (cs.takeWhile isKeyChar ++ [':'])).length
      = (Bytes.ofChars (cs.takeWhile isKeyChar)).length + 1 := by
    rw [Bytes.ofChars_append, List.length_append]
    rfl
  rw [hdrop] at hsplit
  rw [hsplit] at hbefore
  rw [List.append_assoc, List.singleton_append, hlen, hsplit] at hafter
  rw [hn, (Bytes.span_ofChars agree_key cs).1]
  exact ⟨hbefore, hafter⟩

/-- A round reads the pair in front, and each of its cuts is between characters. -/
theorem round?_eq (cs : List Char) : round? cs = some (pair? cs) := by
  have hkey : (Bytes.ofChars cs).takeWhile isKeyByte = [] ↔ cs.takeWhile isKeyChar = [] := by
    rw [(Bytes.span_ofChars agree_key cs).1, Bytes.ofChars_eq_nil_iff]
  have hquote := quote_behind_key_iff cs rfl
  unfold round?
  dsimp only
  split
  next hstop =>
    -- Where a round stops there is no key in front of a colon and a quote.
    have hpair : pair? cs = none := by
      apply Option.eq_none_iff_forall_ne_some.2
      intro out hout
      obtain ⟨p, rest⟩ := out
      obtain ⟨hne, -, behind, hdrop, hvalue⟩ := pair?_eq_some_iff.1 hout
      obtain ⟨text, rfl, -⟩ := Quoted.leadingAt?_eq hvalue
      obtain ⟨hcolon, hopen⟩ := hquote.2 ⟨_, hdrop⟩
      have hbound := (List.getElem?_eq_some_iff.1 hopen).1
      rcases hstop with hzero | hshort | hother | hother
      · exact hne (hkey.1 (List.length_eq_zero_iff.1 hzero))
      · omega
      · exact hother hcolon
      · exact hother hopen
    rw [hpair]
    rfl
  next hgo =>
    rw [not_or, not_or, not_or, not_not, not_not, List.length_eq_zero_iff, hkey] at hgo
    obtain ⟨hne, -, hcolon, hopen⟩ := hgo
    obtain ⟨body, hdrop⟩ := hquote.1 ⟨hcolon, hopen⟩
    obtain ⟨hbefore, hafter⟩ := cut?_key hdrop rfl
    rw [hbefore, hafter, pair?_of_colon hne hdrop]
    simp only [Option.bind_eq_bind, Option.bind_some]
    cases hvalue : leading? ('"' :: body) with
    | none =>
      rw [Quoted.leadingAt?_of_leading?_none hvalue]
      rfl
    | some out =>
      obtain ⟨value, rest⟩ := out
      obtain ⟨text, htext, -, hat⟩ := Quoted.leadingAt?_eq hvalue
      have hend := Bytes.cut?_append ('"' :: text) rest
      rw [List.cons_append, ← htext] at hend
      simp only [hat, hend, Option.bind_some]
      rfl

/-- The pairs that the walk with offsets finds, if all its cuts are between characters. -/
def walk? (cs : List Char) : Option (List (String × String)) :=
  match h : round? (cs.dropWhile (· == ' ')) with
  | none => none
  | some none => some []
  | some (some (p, rest)) =>
    have _hlt : rest.length < cs.length := by
      rw [round?_eq] at h
      exact length_lt_of_spaced_pair? (Option.some.inj h)
    (walk? rest).map (p :: ·)
termination_by cs.length

/-- The walk with offsets finds the pairs, and each of its cuts is between characters. -/
theorem walk?_eq (cs : List Char) : walk? cs = some (Tag.ofChars cs).pairs := by
  induction hlen : cs.length using Nat.strongRecOn generalizing cs with
  | _ n ih =>
    subst hlen
    rw [walk?, pairs_ofChars]
    split
    next hround => simp [round?_eq] at hround
    next hround =>
      rw [round?_eq] at hround
      rw [Option.some.inj hround]
    next p rest hround =>
      rw [round?_eq] at hround
      have hpair := Option.some.inj hround
      rw [hpair, ih rest.length (length_lt_of_spaced_pair? hpair) rest rfl]
      rfl

/-! ## All pairs -/

/-- The pairs that are read are those that are visited, one by one. -/
theorem gives_visits (cs : List Char) :
    List.Forall₂ Visit.Gives (visits (Bytes.ofChars cs)) (Tag.ofChars cs).pairs := by
  induction hlen : cs.length using Nat.strongRecOn generalizing cs with
  | _ n ih =>
    subst hlen
    rw [visits_eq, pairs_ofChars, (Bytes.span_ofChars agree_space cs).2]
    cases hpair : pair? (cs.dropWhile (· == ' ')) with
    | none =>
      rw [visit?_of_pair?_none hpair]
      exact .nil
    | some out =>
      obtain ⟨p, rest⟩ := out
      obtain ⟨v, hvisit, hgives⟩ := visit?_of_pair? hpair
      rw [hvisit]
      exact .cons hgives (ih rest.length (length_lt_of_spaced_pair? hpair) rest rfl)

/-- The first pair of a key is the first visit of the key. -/
theorem hasValue_find? {vs : List Visit} {ps : List (String × String)}
    (h : List.Forall₂ Visit.Gives vs ps) (key : String) :
    Option.Rel Visit.HasValue (vs.find? (·.key == Bytes.ofText key)) (ps.lookup key) := by
  induction h with
  | nil => exact .none
  | @cons v p vs ps hgives _ ih =>
    have hkey : (v.key == Bytes.ofText key) = (key == p.1) := by
      rw [hgives.1, Bool.eq_iff_iff, beq_iff_eq, beq_iff_eq, Bytes.ofText_inj, eq_comm]
    rw [List.find?_cons, List.lookup_cons, hkey]
    cases key == p.1 with
    | true => exact .some hgives.2
    | false => exact ih

/-- **Tags are read as the reflection library reads them.** The walk with offsets ends, and it cuts
between characters only. It finds the pairs that the byte walk visits, in order, each with the
value of its text in quotes, and the value of a key is that of its first visit. -/
theorem walk_visits (raw : String) :
    walk? raw.toList = some (ofText raw).pairs
      ∧ List.Forall₂ Visit.Gives (visits (Bytes.ofText raw)) (ofText raw).pairs
      ∧ ∀ key, Option.Rel Visit.HasValue
          ((visits (Bytes.ofText raw)).find? (·.key == Bytes.ofText key))
          ((ofText raw).get? key) := by
  have hgives : List.Forall₂ Visit.Gives (visits (Bytes.ofText raw)) (ofText raw).pairs := by
    rw [Bytes.ofText_eq]
    exact gives_visits raw.toList
  exact ⟨walk?_eq raw.toList, hgives, hasValue_find? hgives⟩

-- Behind the backslash stands a character of two bytes, and the last pair is not closed.
example : (visits (Bytes.ofText "a:\"\\ä\\\"\"  b:\"1")).length = 1 := by decide +kernel

end Tag
end StructFill.Source
