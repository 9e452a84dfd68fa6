import StructFill.Source.Tag

/-! # Pairs of a tag

  A tag is read pair by pair, and what is behind a pair is read as a tag of its
  own. So pairs that are written in front of a text are read in front of the
  pairs of that text, whatever the text is: a text in which reading stops at
  once takes nothing away from the pairs before it.

  **Writing.** A pair is written as a key, a colon and a value in quotes, with
  any number of spaces in front. In the value a backslash is put before each
  quote and each backslash; everything else stands for itself, line breaks and
  control characters included.
-/

namespace StructFill.Source

namespace Quoted

/-! ## Closed texts -/

/-- A text from behind an opening quote up to the closing one, with its value. -/
inductive Closed : List Char → List Char → Prop where
  | quote : Closed ['"'] []
  | escape (c : Char) {text v : List Char} (h : Closed text v) :
      Closed ('\\' :: c :: text) (escaped c :: v)
  | plain {c : Char} (hquote : c ≠ '"') (hslash : c ≠ '\\') {text v : List Char}
      (h : Closed text v) : Closed (c :: text) (c :: v)

/-- A character that stands for itself in front of `rest` is no backslash: that would be the last
character, or stand in front of another one. -/
theorem ne_slash {c : Char} {rest : List Char} (hend : c = '\\' → rest = [] → False)
    (hslash : ∀ e es, c = '\\' → rest = e :: es → False) : c ≠ '\\' := by
  intro hc
  cases rest with
  | nil => exact hend hc rfl
  | cons e es => exact hslash e es hc rfl

/-- A closed text is read, and what follows is left. -/
theorem Closed.body? {text v : List Char} (h : Closed text v) (rest : List Char) :
    body? (text ++ rest) = some (v, rest) := by
  induction h with
  | quote => rfl
  | escape c _ ih =>
    rw [List.cons_append, List.cons_append, Quoted.body?, ih]
    rfl
  | plain hquote hslash _ ih =>
    rw [List.cons_append, Quoted.body?]
    · rw [ih]
      rfl
    · exact hquote
    · exact fun h _ => hslash h
    · exact fun _ _ h _ => hslash h

/-- What is read is a closed text. -/
theorem closed_of_body? {cs v rest : List Char} (h : body? cs = some (v, rest)) :
    ∃ text, cs = text ++ rest ∧ Closed text v := by
  fun_induction body? cs generalizing v rest with
  | case1 => cases h
  | case2 rest' =>
    obtain ⟨rfl, rfl⟩ := Prod.mk.inj (Option.some.inj h)
    exact ⟨['"'], rfl, .quote⟩
  | case3 => cases h
  | case4 c rest' ih =>
    obtain ⟨⟨v', r⟩, hbody, hout⟩ := Option.map_eq_some_iff.1 h
    obtain ⟨rfl, rfl⟩ := Prod.mk.inj hout
    obtain ⟨text, rfl, hclosed⟩ := ih hbody
    exact ⟨'\\' :: c :: text, rfl, .escape c hclosed⟩
  | case5 c rest' hquote hend hslash ih =>
    obtain ⟨⟨v', r⟩, hbody, hout⟩ := Option.map_eq_some_iff.1 h
    obtain ⟨rfl, rfl⟩ := Prod.mk.inj hout
    obtain ⟨text, rfl, hclosed⟩ := ih hbody
    exact ⟨c :: text, rfl, .plain hquote (ne_slash hend hslash) hclosed⟩

/-- What is behind a closing quote is shorter than what is behind the opening one. -/
theorem length_lt_of_body? {cs v rest : List Char} (h : body? cs = some (v, rest)) :
    rest.length < cs.length := by
  obtain ⟨text, rfl, hclosed⟩ := closed_of_body? h
  have hpos : text ≠ [] := by
    cases hclosed
    all_goals exact List.cons_ne_nil _ _
  rw [List.length_append]
  have hlen := List.length_pos_iff.2 hpos
  omega

end Quoted

namespace Tag

open Quoted (body? leading? Closed)

/-! ## Reading on -/

theorem pair?_of_colon {cs behind : List Char} (hkey : cs.takeWhile isKeyChar ≠ [])
    (hdrop : cs.dropWhile isKeyChar = ':' :: behind) :
    pair? cs = (leading? behind).map fun (v, r) =>
      ((String.ofList (cs.takeWhile isKeyChar), String.ofList v), r) := by
  unfold pair?
  dsimp only
  rw [if_neg hkey, hdrop]
  rfl

theorem pair?_eq_some_iff {cs rest : List Char} {p : String × String} :
    pair? cs = some (p, rest) ↔
      cs.takeWhile isKeyChar ≠ [] ∧ p.1 = String.ofList (cs.takeWhile isKeyChar) ∧
        ∃ behind, cs.dropWhile isKeyChar = ':' :: behind
          ∧ leading? behind = some (p.2.toList, rest) := by
  constructor
  · intro h
    unfold pair? at h
    dsimp only at h
    split at h
    · cases h
    next hkey =>
    split at h
    next behind hdrop =>
      obtain ⟨⟨v, r⟩, hvalue, hout⟩ := Option.map_eq_some_iff.1 h
      obtain ⟨rfl, rfl⟩ := Prod.mk.inj hout
      exact ⟨hkey, rfl, behind, hdrop, by rw [String.toList_ofList, hvalue]⟩
    next => cases h
  · intro h
    obtain ⟨hne, hkey, behind, hdrop, hvalue⟩ := h
    simp [pair?_of_colon hne hdrop, hvalue, ← hkey]

/-- A pair takes characters. -/
theorem length_lt_of_pair? {cs rest : List Char} {p : String × String}
    (h : pair? cs = some (p, rest)) : rest.length < cs.length := by
  have hdrop := (List.dropWhile_suffix isKeyChar (l := cs)).length_le
  obtain ⟨-, -, behind, hcolon, hvalue⟩ := pair?_eq_some_iff.1 h
  unfold leading? at hvalue
  split at hvalue
  next text =>
    have hlt := Quoted.length_lt_of_body? hvalue
    simp only [hcolon, List.length_cons] at hdrop
    omega
  next => cases hvalue

/-- A pair and the spaces in front of it take characters. -/
theorem length_lt_of_spaced_pair? {cs rest : List Char} {p : String × String}
    (h : pair? (cs.dropWhile (· == ' ')) = some (p, rest)) : rest.length < cs.length :=
  Nat.lt_of_lt_of_le (length_lt_of_pair? h) (List.dropWhile_suffix _).length_le

/-- As many rounds as there are characters are enough, and more of them find no more pairs. -/
theorem pairsWithin_eq {n m : Nat} {cs : List Char} (hn : cs.length ≤ n) (hm : cs.length ≤ m) :
    pairsWithin n cs = pairsWithin m cs := by
  have hnil : ∀ k, pairsWithin k [] = [] := by
    intro k
    cases k <;> rfl
  induction n generalizing m cs with
  | zero =>
    obtain rfl := List.length_eq_zero_iff.1 (Nat.le_zero.1 hn)
    rw [hnil, hnil]
  | succ n ih =>
    cases m with
    | zero =>
      obtain rfl := List.length_eq_zero_iff.1 (Nat.le_zero.1 hm)
      rw [hnil, hnil]
    | succ m =>
      rw [pairsWithin, pairsWithin]
      cases hpair : pair? (cs.dropWhile (· == ' ')) with
      | none => rfl
      | some out =>
        obtain ⟨p, rest⟩ := out
        -- A pair takes a character at least, so one round less is enough for what is behind it.
        have hlt := length_lt_of_spaced_pair? hpair
        simp only [ih (show rest.length ≤ n by omega) (show rest.length ≤ m by omega)]

/-- **Reading on.** A tag has the pair in front and then the pairs of what is behind it. -/
theorem pairs_ofChars (cs : List Char) :
    (ofChars cs).pairs =
      match pair? (cs.dropWhile (· == ' ')) with
      | some (p, rest) => p :: (ofChars rest).pairs
      | none => [] := by
  have hround : (ofChars cs).pairs = pairsWithin (cs.length + 1) cs :=
    pairsWithin_eq (Nat.le_refl _) (Nat.le_succ _)
  rw [hround, pairsWithin]
  cases hpair : pair? (cs.dropWhile (· == ' ')) with
  | none => rfl
  | some out =>
    obtain ⟨p, rest⟩ := out
    have hlt := length_lt_of_spaced_pair? hpair
    show p :: pairsWithin cs.length rest = p :: pairsWithin rest.length rest
    rw [pairsWithin_eq (show rest.length ≤ cs.length by omega) (Nat.le_refl _)]

/-! ## Writing -/

/-- A value between quotes: a backslash stands before each quote and each backslash. -/
def escape (cs : List Char) : List Char :=
  cs.flatMap fun c => if c = '"' ∨ c = '\\' then ['\\', c] else [c]

/-- A pair as it is written. -/
structure Written where
  /-- How many spaces stand in front. -/
  spaces : Nat
  key : String
  value : String

namespace Written

def chars (p : Written) : List Char :=
  List.replicate p.spaces ' '
    ++ (p.key.toList ++ ':' :: '"' :: (escape p.value.toList ++ ['"']))

/-- What is read of the pair. -/
def pair (p : Written) : String × String := (p.key, p.value)

end Written

/-- Pairs, written one after the other. -/
def render (ps : List Written) : String := String.ofList (ps.flatMap Written.chars)

/-- A text that can be a key: it is not empty, and its characters are above the space and
neither colons nor quotes nor the delete character. -/
def IsKey (key : String) : Prop :=
  key ≠ "" ∧ ∀ c ∈ key.toList, ' ' < c ∧ c ≠ ':' ∧ c ≠ '"' ∧ c ≠ '\x7f'

theorem isKeyChar_iff {c : Char} :
    isKeyChar c = true ↔ ' ' < c ∧ c ≠ ':' ∧ c ≠ '"' ∧ c ≠ '\x7f' := by
  simp [isKeyChar, and_assoc]

/-- A text can be a key when the reader would take all of it for one. -/
theorem isKey_iff {key : String} :
    IsKey key ↔ key ≠ "" ∧ key.toList.all isKeyChar = true := by
  simp only [IsKey, List.all_eq_true, isKeyChar_iff]

instance (key : String) : Decidable (IsKey key) := decidable_of_iff _ isKey_iff.symm

/-- A value that is written is closed by the quote behind it. -/
theorem closed_escape (cs : List Char) : Closed (escape cs ++ ['"']) cs := by
  induction cs with
  | nil => exact .quote
  | cons c cs ih =>
    have hcons : escape (c :: cs)
        = (if c = '"' ∨ c = '\\' then ['\\', c] else [c]) ++ escape cs := List.flatMap_cons ..
    rw [hcons]
    by_cases hc : c = '"' ∨ c = '\\'
    · rw [if_pos hc]
      -- Behind a backslash both characters stand for themselves.
      have hself : Quoted.escaped c = c := by
        rcases hc with rfl | rfl
        all_goals rfl
      have hescape := Closed.escape c ih
      rwa [hself] at hescape
    · rw [if_neg hc]
      exact .plain (fun h => hc (.inl h)) (fun h => hc (.inr h)) ih

/-- A pair that is written is read, and what follows is left. -/
theorem pair?_chars {p : Written} (hkey : IsKey p.key) (rest : List Char) :
    pair? ((p.chars ++ rest).dropWhile (· == ' ')) = some (p.pair, rest) := by
  obtain ⟨hne, hchars⟩ := hkey
  have hall := List.all_eq_true.1 (isKey_iff.1 ⟨hne, hchars⟩).2
  have hcolon : isKeyChar ':' = false := by decide
  -- The spaces end where the key begins.
  have hspaces : (p.chars ++ rest).dropWhile (· == ' ')
      = p.key.toList ++ ':' :: '"' :: (escape p.value.toList ++ '"' :: rest) := by
    have hfront : ∀ c ∈ List.replicate p.spaces ' ', (c == ' ') = true := by
      intro c hc
      simp [List.eq_of_mem_replicate hc]
    rw [Written.chars, List.append_assoc, List.dropWhile_append_of_pos hfront]
    cases hlist : p.key.toList with
    | nil => exact absurd (String.toList_eq_nil_iff.1 hlist) hne
    | cons c cs =>
      have hc : (c == ' ') = false := by
        apply beq_eq_false_iff_ne.2
        intro hspace
        have hlt := (hchars c (by simp [hlist])).1
        exact Nat.lt_irrefl _ (hspace ▸ hlt)
      simp [hc]
  have htake : (p.key.toList ++ ':' :: '"' :: (escape p.value.toList ++ '"' :: rest)).takeWhile
      isKeyChar = p.key.toList := by
    rw [List.takeWhile_append_of_pos hall, List.takeWhile_cons_of_neg (by simp [hcolon]),
      List.append_nil]
  have hdrop : (p.key.toList ++ ':' :: '"' :: (escape p.value.toList ++ '"' :: rest)).dropWhile
      isKeyChar = ':' :: '"' :: (escape p.value.toList ++ '"' :: rest) := by
    rw [List.dropWhile_append_of_pos hall, List.dropWhile_cons_of_neg (by simp [hcolon])]
  have hbody := (closed_escape p.value.toList).body? rest
  rw [List.append_assoc, List.singleton_append] at hbody
  rw [hspaces, pair?_of_colon _ hdrop, htake, leading?, hbody]
  · simp [Written.pair]
  · rw [htake]
    exact fun hlist => hne (String.toList_eq_nil_iff.1 hlist)

/-- **Pairs that are written are read.** Whatever follows pairs with usable keys, the pairs are
read, and then what follows is read as if it stood alone. In particular nothing is lost of pairs
that stand alone. -/
theorem pairs_render {ps : List Written} (hkeys : ∀ p ∈ ps, IsKey p.key) (s : String) :
    (ofText (render ps ++ s)).pairs = ps.map Written.pair ++ (ofText s).pairs
      ∧ (ofText (render ps)).pairs = ps.map Written.pair := by
  have hread : ∀ rest, (ofChars (ps.flatMap Written.chars ++ rest)).pairs
      = ps.map Written.pair ++ (ofChars rest).pairs := by
    intro rest
    induction ps with
    | nil => rfl
    | cons p ps ih =>
      have hrest := ih fun q hq => hkeys q (List.mem_cons_of_mem _ hq)
      rw [List.flatMap_cons, List.append_assoc, pairs_ofChars,
        pair?_chars (hkeys p List.mem_cons_self), List.map_cons, List.cons_append, ← hrest]
  constructor
  · rw [ofText, ofText, render, String.toList_append, String.toList_ofList, hread]
  · have hnone : (ofChars []).pairs = [] := rfl
    have hall := hread []
    rw [List.append_nil, hnone, List.append_nil] at hall
    rw [ofText, render, String.toList_ofList, hall]

/-- A value with quotes, backslashes and a line break, in front of a pair that is malformed. -/
theorem pairs_render_doc :
    IsKey "doc" ∧ IsKey "ä-1"
      ∧ (ofText (render [⟨0, "doc", "\"a\\n\"\n"⟩, ⟨2, "ä-1", ""⟩] ++ " bad x:\"1\"")).pairs
        = [("doc", "\"a\\n\"\n"), ("ä-1", "")] := by
  have hdoc : IsKey "doc" := by decide
  have hother : IsKey "ä-1" := by decide
  have hkeys : ∀ p ∈ [(⟨0, "doc", "\"a\\n\"\n"⟩ : Written), ⟨2, "ä-1", ""⟩], IsKey p.key :=
    List.forall_mem_cons.2 ⟨hdoc, List.forall_mem_cons.2 ⟨hother, List.forall_mem_nil _⟩⟩
  have hbad : (ofText " bad x:\"1\"").pairs = [] := by decide
  refine ⟨hdoc, hother, ?_⟩
  rw [(pairs_render hkeys " bad x:\"1\"").1, hbad]
  rfl

end Tag
end StructFill.Source
