import StructFill.Proofs.Source.SignatureForms

/-! # Fields in source form

  The fields of a struct and the elements of a group stand on lines of their
  own, with blank lines and comments between them.

  **Leads.** Blank lines and comments have no tokens: they go into the lead of
  what is behind them. So the tokens of lines are put together with the lead
  that has piled up, and what is behind the last line gets what is left.

  **Fields.** Names with one type give a field for each name. A type alone is
  embedded. The rule for names is tried first; it takes a name and fails where
  a tag, a dot or the end of the line comes in place of a type.
-/

namespace StructFill.Source

open Token (Gap FitAll EndsWord EndsLine endsWord_cons gap_none spell)
open Grammar (Rules endsType)
open Parse

/-- No type begins with a text in quotes. -/
theorem Grammar.type_string {r : Rules} {tail f : Bool} {s l : String} {rest : List Token} :
    Grammar.type r tail (⟨.string, s, l, f⟩ :: rest) = none := by
  simp [Grammar.type, Grammar.namedType_of_kind]

/-- Elements that line breaks end are read as a group, too. -/
theorem Parse.Lines.group {β : Type} {p : Parse β} {close : String} {ts rest : List Token}
    {bs : List β} (h : Lines p close ts bs rest) : Parse.group p close ts = some (bs, rest) := by
  have hwithin : ∀ k, ts.length < k → groupWithin p close k ts = some (bs, rest) := by
    intro k hk
    induction h generalizing k with
    | done =>
      obtain ⟨m, rfl⟩ : ∃ m, k = m + 1 := ⟨k - 1, by omega⟩
      simp [groupWithin]
    | more hopen h hfresh hlength _ ih =>
      obtain ⟨m, rfl⟩ : ∃ m, k = m + 1 := ⟨k - 1, by omega⟩
      simp [groupWithin, hopen, h, terminator_of_fresh hfresh, ih m (by omega)]
  exact hwithin _ (Nat.lt_succ_self _)

namespace Written

/-! ## Lines -/

/-- A line that is blank or a comment. -/
inductive IsNote (s : String) : Prop where
  | blank (hs : Token.areBlanks s.toList = true)
  | comment (pad text : List Char) (hs : s.toList = pad ++ '/' :: '/' :: text)
    (hpad : Token.areBlanks pad = true) (htext : Token.InLine text)

theorem IsNote.gap {s : String} (h : IsNote s) : Gap (s.toList ++ ['\n']) true := by
  cases h with
  | blank hs => exact (Token.gap_of_blanks hs).append Token.gap_break
  | comment pad text hs hpad htext =>
    simpa [hs] using (Token.gap_of_blanks hpad).append (Token.gap_comment htext)

/-- What is behind an element on its line: nothing, or a comment behind blanks. -/
inductive IsTrail (s : String) : Prop where
  | none (hs : s = "")
  | comment (pad : String) (text : List Char) (hs : s.toList = pad.toList ++ '/' :: '/' :: text)
    (hpad : Token.IsPad pad) (htext : Token.InLine text)

theorem IsTrail.gap {s : String} (h : IsTrail s) : Gap (s ++ "\n").toList true := by
  cases h with
  | none hs =>
    subst hs
    exact Token.gap_break
  | comment pad text hs hpad htext => simpa [hs] using hpad.gap.append (Token.gap_comment htext)

theorem IsTrail.endsLine {s : String} (h : IsTrail s) (rest : List Char) :
    EndsLine ((s ++ "\n").toList ++ rest) := by
  cases h with
  | none hs => exact ⟨'\n', rest, by simp [hs], by simp⟩
  | comment pad text hs hpad htext =>
    rw [String.toList_append, hs, List.append_assoc, List.append_assoc]
    exact hpad.endsLine _

/-- A line between others. -/
inductive Line (α : Type) where
  /-- A line that is blank or a comment. -/
  | note (s : String)
  /-- An element and what is behind it on its line. -/
  | entry (a : α) (trail : String)

section lines

variable {α β : Type}

/-- The elements on the lines, in order. -/
def entries : List (Line α) → List α
  | [] => []
  | .note _ :: ls => entries ls
  | .entry a _ :: ls => a :: entries ls

/-- The text of lines, each element behind an indent. -/
def linesText (indent : String) (text : α → String) : List (Line α) → String
  | [] => ""
  | .note s :: ls => s ++ "\n" ++ linesText indent text ls
  | .entry a trail :: ls => indent ++ text a ++ trail ++ "\n" ++ linesText indent text ls

/-- The tokens of the elements, where `l` is in front of the first line. -/
def linesTokens (indent : String) (tokens : String → Bool → α → List Token) (l : String) :
    List (Line α) → List Token
  | [] => []
  | .note s :: ls => linesTokens indent tokens (l ++ s ++ "\n") ls
  | .entry a trail :: ls =>
    tokens (l ++ indent) true a ++ linesTokens indent tokens (trail ++ "\n") ls

/-- The lead of what is behind the lines. -/
def linesLead (l : String) : List (Line α) → String
  | [] => l
  | .note s :: ls => linesLead (l ++ s ++ "\n") ls
  | .entry _ trail :: ls => linesLead (trail ++ "\n") ls

/-- The notes are notes, and the elements have a property. -/
def LegibleLines (P : α → Prop) : List (Line α) → Prop
  | [] => True
  | .note s :: ls => IsNote s ∧ LegibleLines P ls
  | .entry a trail :: ls => P a ∧ IsTrail trail ∧ LegibleLines P ls

/-- Up to a blank or a line break, the text has the tokens, behind any lead. -/
structure LexesLine (s : String) (tokens : String → Bool → List Token) : Prop where
  text : ∀ l f rest, spell (tokens l f) rest = l.toList ++ (s.toList ++ rest)
  fitAll : ∀ l f, Gap l.toList f → ∀ rest, EndsLine rest → FitAll (tokens l f) rest

theorem Lexes.line {s : String} {tokens : String → Bool → List Token} (h : Lexes s tokens) :
    LexesLine s tokens :=
  ⟨h.text, fun l f hl rest hrest => h.fitAll l f hl rest hrest.endsWord⟩

variable {P : α → Prop} {indent : String} {text : α → String}
  {tokens : String → Bool → α → List Token} {ls : List (Line α)}

theorem spell_linesTokens (h : LegibleLines P ls)
    (hlexes : ∀ a, P a → LexesLine (text a) fun l f => tokens l f a) (l : String)
    (rest : List Char) :
    spell (linesTokens indent tokens l ls) ((linesLead l ls).toList ++ rest)
      = l.toList ++ ((linesText indent text ls).toList ++ rest) := by
  induction ls generalizing l with
  | nil => simp [linesTokens, linesLead, linesText, spell]
  | cons line ls ih =>
    cases line with
    | note s =>
      rw [linesTokens, linesLead, ih h.2]
      simp [linesText]
    | entry a trail =>
      rw [linesTokens, linesLead, Token.spell_append, ih h.2.2, (hlexes a h.1).text]
      simp [linesText]

theorem gap_linesLead (h : LegibleLines P ls) {l : String} (hl : Gap l.toList true) :
    Gap (linesLead l ls).toList true := by
  induction ls generalizing l with
  | nil => exact hl
  | cons line ls ih =>
    cases line with
    | note s =>
      refine ih h.2 ?_
      simpa using hl.append h.1.gap
    | entry a trail => exact ih h.2.2 h.2.1.gap

theorem fitAll_linesTokens (h : LegibleLines P ls)
    (hlexes : ∀ a, P a → LexesLine (text a) fun l f => tokens l f a)
    (hindent : Gap indent.toList false) {l : String} (hl : Gap l.toList true) (rest : List Char) :
    FitAll (linesTokens indent tokens l ls) ((linesLead l ls).toList ++ rest) := by
  induction ls generalizing l with
  | nil => trivial
  | cons line ls ih =>
    cases line with
    | note s =>
      refine ih h.2 ?_
      simpa using hl.append h.1.gap
    | entry a trail =>
      refine Token.fitAll_append.2 ⟨?_, ih h.2.2 h.2.1.gap⟩
      rw [linesLead, spell_linesTokens h.2.2 hlexes]
      refine (hlexes a h.1).fitAll _ true ?_ _ (h.2.1.endsLine _)
      rw [String.toList_append]
      exact hl.append hindent

/-- On a line of its own, an element is read by a rule as a value. -/
structure IsEntry (p : Rules → Parse β) (tokens : String → Bool → List Token) (b : β) : Prop where
  head : ∀ l f, ∃ t us, tokens l f = t :: us ∧ t.fresh = f
    ∧ ∀ m ∈ ["(", ")", "\x7d"], isMark m t = false
  reads : ∀ l f n, (tokens l f).length ≤ n → ∀ rest : List Token,
    rest.head?.all (·.fresh) = true → p (Rules.upTo n) (tokens l f ++ rest) = some (b, rest)

/-- **Lines are read one after the other**, up to a closing mark. -/
theorem lines_linesTokens {p : Rules → Parse β} {value : α → β} {close : String}
    (hclose : close ∈ ["(", ")", "\x7d"]) (h : LegibleLines P ls)
    (hentry : ∀ a, P a → IsEntry p (fun l f => tokens l f a) (value a)) {l : String} {n : Nat}
    (hn : (linesTokens indent tokens l ls).length ≤ n) (l' : String) (rest : List Token) :
    Lines (p (Rules.upTo n)) close
        (linesTokens indent tokens l ls ++ ⟨.mark, close, l', true⟩ :: rest)
        ((entries ls).map value) rest
      ∧ (linesTokens indent tokens l ls ++ ⟨.mark, close, l', true⟩ :: rest).head?.all (·.fresh)
        = true := by
  induction ls generalizing l with
  | nil => exact ⟨.done, rfl⟩
  | cons line ls ih =>
    cases line with
    -- A comment on a line of its own has no token. It is part of the lead of what comes next.
    | note s => exact ih h.2 hn
    | entry a trail =>
      rw [linesTokens, List.length_append] at hn
      obtain ⟨hlines, hfresh⟩ := ih h.2.2 (l := trail ++ "\n") (by omega)
      have hread := (hentry a h.1).reads (l ++ indent) true n (by omega) _ hfresh
      obtain ⟨t, us, htokens, ht, hmark⟩ := (hentry a h.1).head (l ++ indent) true
      rw [linesTokens, List.append_assoc]
      rw [htokens] at hread ⊢
      refine ⟨.more (hmark close hclose) hread hfresh ?_ hlines, by simpa using ht⟩
      simp only [List.length_append, List.length_cons]
      omega

end lines

/-! ## Tags -/

/-- A tag in backquotes behind blanks. -/
structure TagForm where
  pad : String
  raw : String

def tagText : Option TagForm → String
  | none => ""
  | some t => t.pad ++ Token.rawLiteral t.raw

def tagTokens : Option TagForm → List Token
  | none => []
  | some t => [⟨.string, Token.rawLiteral t.raw, t.pad, false⟩]

def tagValue : Option TagForm → Tag
  | none => .empty
  | some t => .ofText t.raw

/-- The tag can stand in backquotes. -/
def LegibleTag : Option TagForm → Prop
  | none => True
  | some t => Token.IsPad t.pad ∧ Token.IsRaw t.raw

variable {tag : Option TagForm} {rest : List Token} {n : Nat} {l : String} {f : Bool}

theorem spell_tagTokens (tag : Option TagForm) (rest : List Char) :
    spell (tagTokens tag) rest = (tagText tag).toList ++ rest := by
  cases tag <;> simp [tagTokens, tagText, spell]

theorem fitAll_tagTokens (h : LegibleTag tag) (rest : List Char) :
    FitAll (tagTokens tag) rest := by
  cases tag with
  | none => trivial
  | some t => exact ⟨⟨h.1.gap, Token.front_raw h.2 rest⟩, trivial⟩

/-- A tag ends the word in front of it. -/
theorem endsWord_tagText (h : LegibleTag tag) {rest : List Char} (hrest : EndsWord rest) :
    EndsWord ((tagText tag).toList ++ rest) := by
  cases tag with
  | none => exact hrest
  | some t =>
    rw [tagText, String.toList_append, List.append_assoc]
    exact h.1.endsWord _

/-- A type ends before a tag. -/
theorem endsType_tagTokens (tag : Option TagForm) (hrest : rest.head?.all (·.fresh) = true) :
    endsType true (tagTokens tag ++ rest) = true := by
  cases tag with
  | none => exact endsType_of_fresh hrest
  | some t => simp [tagTokens, endsType]

theorem fieldTag_tagTokens (hrest : rest.head?.all (·.fresh) = true) :
    Grammar.fieldTag (tagTokens tag ++ rest) = some (tagValue tag, rest) := by
  cases tag with
  | none => simp [tagTokens, tagValue, Grammar.fieldTag, hrest]
  | some t => simp [tagTokens, tagValue, Grammar.fieldTag, Grammar.literalValue_raw]

/-! ## Fields -/

/-- Every word can be the name of a field, a constant or a variable for the rule that reads it. -/
theorem nameRun_fieldNames (l : String) (f : Bool) (s : String) (ss : List String)
    (rest : List Token) (hrest : continues true "," rest = some (false, rest)) :
    nameRun [] true (namesTokens l f (s :: ss) ++ rest) = some (s :: ss, rest) :=
  nameRun_names (fun _ _ => List.not_mem_nil) l f hrest

theorem Ty.fresh_head (t : Ty) (l : String) (f : Bool) (rest : List Token) :
    (t.tokens l f ++ rest).head?.all (·.fresh) = f := by
  cases t <;> simp [tokens]

/-- No type begins with the word that begins a struct type. -/
theorem Ty.Legible.isWord_head {t : Ty} (h : t.Legible) (l : String) (f : Bool)
    (rest : List Token) : (t.tokens l f ++ rest).head?.any (isWord "struct") = false := by
  have hne : ∀ {n : String}, IsName n → n ≠ "struct" := by
    rintro n hn rfl
    exact hn.2 (by decide)
  cases t with
  | name n => simpa [tokens] using hne h
  | qualified q n => simpa [tokens] using hne h.1
  | pointer | map | openInterface | parens => simp [tokens]

/-- A type that is embedded: a name, perhaps behind a qualifier, perhaps behind a star. -/
structure Embedded where
  starred : Bool
  qualifier : Option String
  name : String

namespace Embedded

/-- The type without its star. -/
def base (e : Embedded) : Ty :=
  match e.qualifier with
  | none => .name e.name
  | some q => .qualified q e.name

def ty (e : Embedded) : Ty := if e.starred then .pointer e.base else e.base

def Legible (e : Embedded) : Prop := (∀ q ∈ e.qualifier, IsName q) ∧ IsName e.name

instance (e : Embedded) : Decidable e.Legible := inferInstanceAs (Decidable (_ ∧ _))

theorem Legible.base {e : Embedded} (h : e.Legible) : e.base.Legible := by
  obtain ⟨starred, _ | q, name⟩ := e
  · exact h.2
  · exact ⟨h.1 q rfl, h.2⟩

theorem Legible.ty {e : Embedded} (h : e.Legible) : e.ty.Legible := by
  unfold Embedded.ty
  split
  · exact h.base
  · exact h.base

/-- The base is read as a named type. -/
theorem Legible.namedType {e : Embedded} (h : e.Legible)
    (hn : (e.base.tokens l f).length ≤ n) (hrest : endsType true rest = true) :
    Grammar.namedType (Rules.upTo n) true (e.base.tokens l f ++ rest)
      = some (e.base.type, rest) := by
  have hread : Grammar.type (Rules.upTo n) true (e.base.tokens l f ++ rest)
      = some (e.base.type, rest) :=
    h.base.reads (n := n + 1) (by omega) hrest
  obtain ⟨starred, _ | q, name⟩ := e
  · exact (Grammar.type_eq_namedType (h.2.not_mem typeWords_subset)).symm.trans hread
  · exact (Grammar.type_eq_namedType ((h.1 q rfl).not_mem typeWords_subset)).symm.trans hread

end Embedded

/-- What a line of a struct declares, without its tag. -/
inductive FieldForm where
  | named (names : List String) (pad : String) (type : Ty)
  | embedded (e : Embedded)

/-- A line of a struct. -/
structure FieldLine where
  form : FieldForm
  tag : Option TagForm

namespace FieldForm

def text : FieldForm → String
  | .named names pad t => separated names ++ pad ++ t.text
  | .embedded e => e.ty.text

def tokens (l : String) (f : Bool) : FieldForm → List Token
  | .named names pad t => namesTokens l f names ++ t.tokens pad false
  | .embedded e => e.ty.tokens l f

def Legible : FieldForm → Prop
  | .named names pad t => (names ≠ [] ∧ ∀ n ∈ names, IsName n) ∧ Token.IsPad pad ∧ t.Legible
  | .embedded e => e.Legible

instance : (form : FieldForm) → Decidable form.Legible
  | .named _ _ _ => inferInstanceAs (Decidable (_ ∧ _))
  | .embedded e => inferInstanceAs (Decidable e.Legible)

/-- One field for each name, or one that is named after the embedded type. -/
def fields (tag : Tag) : FieldForm → List Field
  | .named names _ t => names.map fun n => ⟨n, t.type, tag, false⟩
  | .embedded e => [⟨e.name, e.ty.type, tag, true⟩]

theorem Legible.lexes {form : FieldForm} (h : form.Legible) :
    Lexes form.text fun l f => form.tokens l f := by
  cases form with
  | embedded e => exact (Embedded.Legible.ty (e := e) h).lexes
  | named names pad t =>
    obtain ⟨⟨hne, hnames⟩, hpad, ht⟩ := h
    obtain ⟨n, ns, rfl⟩ := List.exists_cons_of_ne_nil hne
    refine ⟨fun l f rest => ?_, fun l f hl rest hrest => ?_⟩
    · simp [tokens, text, Token.spell_append, spell_namesTokens, Ty.spell_tokens]
    · refine Token.fitAll_append.2
        ⟨fitAll_namesTokens (fun m hm => (hnames m hm).1) hl ?_, ht.fitAll hpad.gap hrest⟩
      rw [Ty.spell_tokens]
      exact hpad.endsWord _

end FieldForm

namespace FieldLine

variable {line : FieldLine}

def text (line : FieldLine) : String := line.form.text ++ tagText line.tag

def tokens (l : String) (f : Bool) (line : FieldLine) : List Token :=
  line.form.tokens l f ++ tagTokens line.tag

def fields (line : FieldLine) : List Field := line.form.fields (tagValue line.tag)

structure Legible (line : FieldLine) : Prop where
  form : line.form.Legible
  tag : LegibleTag line.tag

theorem Legible.lexes (h : line.Legible) : Lexes line.text fun l f => line.tokens l f := by
  refine ⟨fun l f rest => ?_, fun l f hl rest hrest => ?_⟩
  · rw [tokens, Token.spell_append, h.form.lexes.text, spell_tagTokens]
    simp [text]
  · refine Token.fitAll_append.2 ⟨h.form.lexes.fitAll l f hl _ ?_, fitAll_tagTokens h.tag rest⟩
    rw [spell_tagTokens]
    exact endsWord_tagText h.tag hrest

/-- Names with a type and a tag are read as fields. -/
theorem reads_named {names : List String} {pad : String} {t : Ty}
    (h : (FieldForm.named names pad t).Legible) (tag : Option TagForm)
    (hn : ((FieldForm.named names pad t).tokens l f).length ≤ n)
    (hrest : rest.head?.all (·.fresh) = true) :
    Grammar.namedFields (Rules.upTo n)
        ((FieldForm.named names pad t).tokens l f ++ (tagTokens tag ++ rest))
      = some ((FieldForm.named names pad t).fields (tagValue tag), rest) := by
  obtain ⟨⟨hne, hnames⟩, hpad, ht⟩ := h
  obtain ⟨s, ss, rfl⟩ := List.exists_cons_of_ne_nil hne
  simp only [FieldForm.tokens, List.length_append] at hn
  have htype := ht.reads (l := pad) (f := false) (n := n) (by omega)
    (endsType_tagTokens tag hrest)
  have hfresh := t.fresh_head pad false (tagTokens tag ++ rest)
  have hrun := nameRun_fieldNames l f s ss (t.tokens pad false ++ (tagTokens tag ++ rest))
    (by rw [continues_apply, t.isMark_head pad false _ (by decide), Bool.and_false])
  rw [FieldForm.tokens, List.append_assoc]
  simp [-List.head?_append, Grammar.namedFields, FieldForm.fields, hrun, hfresh, htype,
    fieldTag_tagTokens hrest]

/-- An embedded type does not read as names with a type. -/
theorem namedFields_embedded {e : Embedded} (h : e.Legible) (tag : Option TagForm)
    (hrest : rest.head?.all (·.fresh) = true) :
    Grammar.namedFields (Rules.upTo n) (e.ty.tokens l f ++ (tagTokens tag ++ rest)) = none := by
  obtain ⟨starred, qualifier, name⟩ := e
  cases starred with
  | true =>
    simp [Embedded.ty, Ty.tokens, Grammar.namedFields, nameRun, rounds_apply, nameRunWithin,
      identExcept, resume]
  | false =>
    cases qualifier with
    | some q =>
      have hrun := nameRun_fieldNames l f q []
        (⟨.mark, ".", "", false⟩ :: ⟨.name, name, "", false⟩ :: (tagTokens tag ++ rest)) (by simp)
      have hstuck : Stuck (⟨.mark, ".", "", false⟩ :: ⟨.name, name, "", false⟩
          :: (tagTokens tag ++ rest)) := ⟨".", by simp, _, _, _, rfl⟩
      simp only [namesTokens, commaTokens, nameToken, List.singleton_append] at hrun
      simp [Embedded.ty, Embedded.base, Ty.tokens, Grammar.namedFields, hrun, hstuck.type, resume]
    | none =>
      -- In place of a type there is the end of the line, or a tag.
      cases tag with
      | none =>
        have hrun := nameRun_fieldNames l f name [] rest (by simp [hrest])
        simp only [namesTokens, commaTokens, nameToken, List.singleton_append] at hrun
        simp [Embedded.ty, Embedded.base, Ty.tokens, tagTokens, Grammar.namedFields, hrun, hrest,
          require, resume]
        rfl
      | some t =>
        have hrun := nameRun_fieldNames l f name []
          (⟨.string, Token.rawLiteral t.raw, t.pad, false⟩ :: rest) (by simp)
        have htype : (Rules.upTo n).type true
            (⟨.string, Token.rawLiteral t.raw, t.pad, false⟩ :: rest) = none := by
          cases n with
          | zero => rfl
          | succ n => exact Grammar.type_string
        simp only [namesTokens, commaTokens, nameToken, List.singleton_append] at hrun
        simp [Embedded.ty, Embedded.base, Ty.tokens, tagTokens, Grammar.namedFields, hrun, htype,
          resume]

theorem reads_embedded {e : Embedded} (h : e.Legible) (tag : Option TagForm)
    (hn : (e.ty.tokens l f).length ≤ n) (hrest : rest.head?.all (·.fresh) = true) :
    Grammar.embeddedField (Rules.upTo n) (e.ty.tokens l f ++ (tagTokens tag ++ rest))
      = some ((FieldForm.embedded e).fields (tagValue tag), rest) := by
  have hends := endsType_tagTokens tag hrest
  have hname : Grammar.embeddedName e.base.type = e.name := by
    obtain ⟨starred, _ | q, name⟩ := e <;> rfl
  have hbase : ∀ l f, (e.base.tokens l f).length ≤ n → _ := fun l f hn =>
    h.namedType (l := l) (f := f) hn hends
  cases hstar : e.starred with
  | true =>
    have hty : e.ty = .pointer e.base := if_pos hstar
    rw [hty, Ty.tokens, List.length_cons] at hn
    rw [hty, Ty.tokens, List.cons_append]
    simp [Grammar.embeddedField, hbase "" false (by omega), fieldTag_tagTokens hrest,
      FieldForm.fields, hname, hty, Ty.type]
  | false =>
    have hty : e.ty = e.base := if_neg (by simp [hstar])
    rw [hty] at hn
    -- Without a star the first token is a name, so the rule does not take the way of a pointer.
    have hopen : (e.base.tokens l f ++ (tagTokens tag ++ rest)).head?.any (isMark "*") = false := by
      obtain ⟨starred, _ | q, name⟩ := e <;> simp [Embedded.base, Ty.tokens]
    rw [hty]
    simp [-List.head?_append, Grammar.embeddedField, hopen, hbase l f hn,
      fieldTag_tagTokens hrest, FieldForm.fields, hname, hty]

/-- **Lines of a struct are read as fields.** -/
theorem Legible.isEntry (h : line.Legible) :
    IsEntry (fun r => Grammar.namedFields r <|> Grammar.embeddedField r)
      (fun l f => line.tokens l f) line.fields := by
  obtain ⟨form, tag⟩ := line
  obtain ⟨hform, htag⟩ := h
  cases form with
  | named names pad t =>
    refine ⟨fun l f => ?_, fun l f n hn rest hrest => ?_⟩
    · obtain ⟨s, ss, rfl⟩ := List.exists_cons_of_ne_nil hform.1.1
      refine ⟨⟨.name, s, l, f⟩, moreTokens nameToken ss ++ t.tokens pad false ++ tagTokens tag, ?_,
        rfl, by simp⟩
      rw [tokens, FieldForm.tokens, namesTokens_cons, List.cons_append, List.cons_append]
    · rw [tokens, List.length_append] at hn
      rw [tokens, List.append_assoc]
      exact orElse_of_eq_some
        (reads_named hform tag (Nat.le_trans (Nat.le_add_right _ _) hn) hrest)
  | embedded e =>
    refine ⟨fun l f => ?_, fun l f n hn rest hrest => ?_⟩
    · obtain ⟨_ | _, _ | q, name⟩ := e <;> exact ⟨_, _, rfl, rfl, by simp⟩
    · rw [tokens, List.length_append] at hn
      rw [tokens, List.append_assoc]
      exact (orElse_of_eq_none (namedFields_embedded hform tag hrest)).trans
        (reads_embedded hform tag (Nat.le_trans (Nat.le_add_right _ _) hn) hrest)

end FieldLine

end Written
end StructFill.Source
