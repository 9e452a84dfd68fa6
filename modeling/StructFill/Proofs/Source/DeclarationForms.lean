import StructFill.Proofs.Source.FieldForms
import StructFill.Proofs.Source.Quoting

/-! # Declarations in source form

  Types, imports, constants and variables are declared one at a time or in a
  group, where each stands on a line of its own.

  **Values.** Nothing is kept of the value of a constant or a variable. It is
  given by its tokens, which only have to be read up to the end of the line.
-/

namespace StructFill.Source.Written

open Token (Gap FitAll EndsWord EndsLine endsWord_cons gap_none spell)
open Grammar (Rules endsType)
open Parse

variable {rest : List Token} {n : Nat} {l : String} {f : Bool}

/-! ## Types that are declared -/

/-- What a type is declared to be. -/
inductive BodyForm where
  | emptyStruct
  | struct (fields : List (Line FieldLine))
  | named (t : Ty)

namespace BodyForm

def body : BodyForm → TypeBody
  | .emptyStruct => .struct []
  | .struct ls => .struct ((entries ls).flatMap FieldLine.fields)
  | .named t => .named t.type

/-- The text of a body; its lines stand behind a further indent. -/
def text (indent : String) : BodyForm → String
  | .emptyStruct => "struct\x7b\x7d"
  | .struct ls =>
    "struct \x7b\n" ++ linesText (indent ++ "\t") FieldLine.text ls ++ indent ++ "\x7d"
  | .named t => t.text

def tokens (indent l : String) (f : Bool) : BodyForm → List Token
  | .emptyStruct =>
    [⟨.name, "struct", l, f⟩, ⟨.mark, "\x7b", "", false⟩, ⟨.mark, "\x7d", "", false⟩]
  | .struct ls =>
    ⟨.name, "struct", l, f⟩ :: ⟨.mark, "\x7b", " ", false⟩
      :: (linesTokens (indent ++ "\t") FieldLine.tokens "\n" ls
        ++ [⟨.mark, "\x7d", linesLead "\n" ls ++ indent, true⟩])
  | .named t => t.tokens l f

def Legible : BodyForm → Prop
  | .emptyStruct => True
  | .struct ls => LegibleLines FieldLine.Legible ls
  | .named t => t.Legible

variable {b : BodyForm} {indent : String}

theorem Legible.lexes (h : b.Legible) (hindent : Gap indent.toList false) :
    Lexes (b.text indent) fun l f => b.tokens indent l f := by
  have hstruct : IsWord "struct" := by decide
  cases b with
  | named t => exact Ty.Legible.lexes (t := t) h
  | emptyStruct =>
    refine ⟨fun l f rest => by simp [tokens, text, spell], fun l f hl rest _ => ?_⟩
    exact ⟨⟨hl, Token.front_word hstruct (endsWord_cons (by decide) _)⟩,
      Token.fits_bracket gap_none (by decide) _, Token.fits_bracket gap_none (by decide) _,
      trivial⟩
  | struct ls =>
    have hlexes : ∀ line : FieldLine, line.Legible →
        LexesLine line.text fun l f => line.tokens l f := fun line hline => hline.lexes.line
    have hclose : ∀ rest, spell [⟨.mark, "\x7d", linesLead "\n" ls ++ indent, true⟩] rest
        = (linesLead "\n" ls).toList ++ (indent.toList ++ '\x7d' :: rest) := by
      intro rest
      simp [spell]
    refine ⟨fun l f rest => ?_, fun l f hl rest _ => ?_⟩
    · rw [tokens, spell, spell, Token.spell_append, hclose, spell_linesTokens h hlexes]
      simp [text]
    · have hdeeper : Gap (indent ++ "\t").toList false := by
        rw [String.toList_append]
        exact hindent.append Token.gap_tab
      have hlines := fitAll_linesTokens h hlexes hdeeper (l := "\n") Token.gap_break
        (indent.toList ++ '\x7d' :: rest)
      have hlead : Gap (linesLead "\n" ls ++ indent).toList true := by
        rw [String.toList_append]
        exact (gap_linesLead h (l := "\n") Token.gap_break).append hindent
      rw [← hclose] at hlines
      exact ⟨⟨hl, Token.front_word hstruct Token.spell_space_ends⟩,
        Token.fits_bracket Token.gap_space (by decide) _,
        Token.fitAll_append.2 ⟨hlines, Token.fits_bracket hlead (by decide) _, trivial⟩⟩

/-- No body begins with an equals sign. -/
theorem isMark_head (b : BodyForm) (indent l : String) (f : Bool) (rest : List Token) :
    (b.tokens indent l f ++ rest).head?.any (isMark "=") = false := by
  cases b with
  | named t => exact t.isMark_head l f rest (by decide)
  | emptyStruct | struct ls => simp [tokens]

/-- **Bodies are read.** -/
theorem Legible.reads (h : b.Legible) (hn : (b.tokens indent l f).length ≤ n)
    (hrest : rest.head?.all (·.fresh) = true) :
    Grammar.typeBody (Rules.upTo n) (b.tokens indent l f ++ rest) = some (b.body, rest) := by
  cases b with
  | emptyStruct =>
    have hlines : lines
        (Grammar.namedFields (Rules.upTo n) <|> Grammar.embeddedField (Rules.upTo n)) "\x7d"
        (⟨.mark, "\x7d", "", false⟩ :: rest) = some ([], rest) := Lines.done.apply
    simp [tokens, body, Grammar.typeBody, Grammar.structFields, hlines]
  | struct ls =>
    simp only [tokens, List.length_cons, List.length_append] at hn
    have hlines : Lines
        (Grammar.namedFields (Rules.upTo n) <|> Grammar.embeddedField (Rules.upTo n)) "\x7d"
        (linesTokens (indent ++ "\t") FieldLine.tokens "\n" ls
          ++ ⟨.mark, "\x7d", linesLead "\n" ls ++ indent, true⟩ :: rest)
        ((entries ls).map FieldLine.fields) rest :=
      (lines_linesTokens (p := fun r => Grammar.namedFields r <|> Grammar.embeddedField r)
        (by simp) h (fun line hline => hline.isEntry) (by omega) _ rest).1
    have hread := hlines.apply
    simp [tokens, body, Grammar.typeBody, Grammar.structFields, hread, List.flatMap_def]
  -- A named type does not begin with `struct`, so the body is no list of fields.
  | named t =>
    have htype := Ty.Legible.reads (t := t) h hn (endsType_of_fresh hrest)
    have hword := Ty.Legible.isWord_head (t := t) h l f rest
    rw [tokens]
    simp [-List.head?_append, Grammar.typeBody, hword, htype, body]

end BodyForm

/-- The declaration of a type. -/
structure TypeForm where
  name : String
  pad : String
  isAlias : Bool
  body : BodyForm

namespace TypeForm

variable {d : TypeForm} {indent : String}

def decl (d : TypeForm) : TypeDecl := ⟨d.name, d.body.body, d.isAlias⟩

def text (indent : String) (d : TypeForm) : String :=
  d.name ++ d.pad ++ (if d.isAlias then "= " else "") ++ d.body.text indent

def tokens (indent l : String) (f : Bool) (d : TypeForm) : List Token :=
  ⟨.name, d.name, l, f⟩
    :: (if d.isAlias then ⟨.mark, "=", d.pad, false⟩ :: d.body.tokens indent " " false
      else d.body.tokens indent d.pad false)

structure Legible (d : TypeForm) : Prop where
  name : IsName d.name
  pad : Token.IsPad d.pad
  body : d.body.Legible

theorem Legible.lexes (h : d.Legible) (hindent : Gap indent.toList false) :
    Lexes (d.text indent) fun l f => d.tokens indent l f := by
  obtain ⟨name, pad, isAlias, body⟩ := d
  have hbody := h.body.lexes hindent
  cases isAlias with
  | true =>
    refine ⟨fun l f rest => ?_, fun l f hl rest hrest => ?_⟩
    · simp [tokens, text, spell, hbody.text]
    · refine ⟨⟨hl, Token.front_word h.name.1 (h.pad.endsWord _)⟩,
        ⟨h.pad.gap, Token.front_lengthened (by simp) ?_⟩,
        hbody.fitAll " " false Token.gap_space rest hrest⟩
      rw [hbody.text]
      rintro c ⟨⟩
      decide
  | false =>
    refine ⟨fun l f rest => ?_, fun l f hl rest hrest => ?_⟩
    · simp [tokens, text, spell, hbody.text]
    · refine ⟨⟨hl, Token.front_word h.name.1 ?_⟩, hbody.fitAll pad false h.pad.gap rest hrest⟩
      change EndsWord (spell (body.tokens indent pad false) rest)
      rw [hbody.text]
      exact h.pad.endsWord _

/-- **Declarations of types are read.** -/
theorem Legible.isEntry (h : d.Legible) :
    IsEntry Grammar.typeSpec (fun l f => d.tokens indent l f) d.decl := by
  refine ⟨fun l f => ⟨_, _, rfl, rfl, by simp⟩, fun l f n hn rest hrest => ?_⟩
  obtain ⟨name, pad, isAlias, body⟩ := d
  have hlegible : body.Legible := h.body
  simp only [tokens, List.length_cons] at hn
  cases isAlias with
  | true =>
    have hbody : Grammar.typeBody (Rules.upTo n) (body.tokens indent " " false ++ rest)
        = some (body.body, rest) := hlegible.reads (by simp at hn; omega) hrest
    simp [tokens, decl, Grammar.typeSpec, hbody]
  | false =>
    have hbody : Grammar.typeBody (Rules.upTo n) (body.tokens indent pad false ++ rest)
        = some (body.body, rest) := hlegible.reads (by simp at hn; omega) hrest
    have hor := orElse_of_eq_some (q := (do
      Grammar.typeParams (Rules.upTo n)
      Grammar.typeBody (Rules.upTo n))) hbody
    have hopen := body.isMark_head indent pad false rest
    simp [-List.head?_append, tokens, decl, Grammar.typeSpec, hopen, hor]

end TypeForm

/-! ## Imports -/

/-- The path of an import, in quotes of either kind. -/
inductive PathForm where
  | quoted (path : String)
  | raw (path : String)

namespace PathForm

def path : PathForm → String
  | .quoted p => p
  | .raw p => p

def text : PathForm → String
  | .quoted p => Quoted.quote p
  | .raw p => Token.rawLiteral p

/-- The path can stand in its quotes as it is. -/
def Legible : PathForm → Prop
  | .quoted p => ∀ c ∈ p.toList, Token.IsPlain c
  | .raw p => Token.IsRaw p

instance : (p : PathForm) → Decidable p.Legible
  | .quoted p => List.decidableBAll Token.IsPlain p.toList
  | .raw p => inferInstanceAs (Decidable (Token.IsRaw p))

theorem Legible.front {p : PathForm} (h : p.Legible) (rest : List Char) :
    Token.Front .string p.text rest := by
  cases p with
  | quoted p => exact Token.front_quote p rest
  | raw p => exact Token.front_raw h rest

theorem Legible.literalValue {p : PathForm} (h : p.Legible) :
    Grammar.literalValue p.text = p.path := by
  cases p with
  | quoted p => exact Quoted.literalValue_quote h
  | raw p => exact Grammar.literalValue_raw p

end PathForm

/-- An import, perhaps under a name of its own. -/
structure ImportForm where
  localName : Option String
  path : PathForm

namespace ImportForm

variable {i : ImportForm}

def decl (i : ImportForm) : Import := ⟨i.path.path, i.localName⟩

def text (i : ImportForm) : String :=
  match i.localName with
  | none => i.path.text
  | some a => a ++ " " ++ i.path.text

def tokens (l : String) (f : Bool) (i : ImportForm) : List Token :=
  match i.localName with
  | none => [⟨.string, i.path.text, l, f⟩]
  | some a => [⟨if a = "." then .mark else .name, a, l, f⟩, ⟨.string, i.path.text, " ", false⟩]

/-- The name is a dot, an underscore or any other name. -/
structure Legible (i : ImportForm) : Prop where
  localName : ∀ a ∈ i.localName, a = "." ∨ IsName a
  path : i.path.Legible

theorem Legible.lexes (h : i.Legible) : Lexes i.text fun l f => i.tokens l f := by
  obtain ⟨_ | a, path⟩ := i
  · exact ⟨fun l f rest => by simp [tokens, text, spell],
      fun l f hl rest _ => ⟨⟨hl, h.path.front rest⟩, trivial⟩⟩
  · refine ⟨fun l f rest => by simp [tokens, text, spell], fun l f hl rest _ => ⟨⟨hl, ?_⟩,
      ⟨Token.gap_space, h.path.front rest⟩, trivial⟩⟩
    rcases h.localName a rfl with rfl | ha
    · simpa [spell] using Token.front_dot (path.text.toList ++ rest)
    · have hdot : a ≠ "." := by
        rintro rfl
        exact absurd ha.1 (by decide)
      have hspace : EndsWord (spell [⟨.string, path.text, " ", false⟩] rest) :=
        Token.spell_space_ends
      simpa [hdot] using Token.front_word ha.1 hspace

/-- **Imports are read.** -/
theorem Legible.isEntry (h : i.Legible) :
    IsEntry (fun _ => Grammar.importSpec) (fun l f => i.tokens l f) i.decl := by
  obtain ⟨_ | a, path⟩ := i
  · refine ⟨fun l f => ⟨_, _, rfl, rfl, by simp⟩, fun l f n _ rest _ => ?_⟩
    simp [tokens, decl, Grammar.importSpec, h.path.literalValue]
  · by_cases hdot : a = "."
    · refine ⟨fun l f => ⟨_, _, rfl, rfl, by simp [hdot]⟩, fun l f n _ rest _ => ?_⟩
      simp [tokens, decl, Grammar.importSpec, h.path.literalValue, hdot]
    · refine ⟨fun l f => ⟨_, _, rfl, rfl, by simp [hdot]⟩, fun l f n _ rest _ => ?_⟩
      simp [tokens, decl, Grammar.importSpec, h.path.literalValue, hdot]

end ImportForm

/-! ## Constants and variables -/

inductive ValueKind where
  | const
  | var

namespace ValueKind

def word : ValueKind → String
  | .const => "const"
  | .var => "var"

def spec : ValueKind → Rules → Parse Unit
  | .const => Grammar.constSpec
  | .var => Grammar.varSpec

end ValueKind

/-- The tokens are values up to the end of a line. -/
structure IsValue (ts : List Token) : Prop where
  fitAll : ∀ rest, EndsLine rest → FitAll ts rest
  head_ne : ∀ rest, ∀ c ∈ (spell ts rest).head?, c ≠ '='
  reads : ∀ n, ts.length < n → ∀ rest : List Token, rest.head?.all (·.fresh) = true →
    Grammar.values (Rules.upTo n) .statement (ts ++ rest) = some ((), rest)

/-- Constants or variables; the value is given by its tokens behind the equals sign. -/
structure ValueForm where
  names : List String
  type : Option Ty
  value : Option (List Token)

namespace ValueForm

variable {d : ValueForm} {kind : ValueKind}

def valueTokens : Option (List Token) → List Token
  | none => []
  | some ts => ⟨.mark, "=", " ", false⟩ :: ts

def typeText : Option Ty → String
  | none => ""
  | some t => " " ++ t.text

def typeTokens : Option Ty → List Token
  | none => []
  | some t => t.tokens " " false

def text (d : ValueForm) : String :=
  separated d.names ++ typeText d.type ++ skippedText (valueTokens d.value)

def tokens (l : String) (f : Bool) (d : ValueForm) : List Token :=
  namesTokens l f d.names ++ (typeTokens d.type ++ valueTokens d.value)

/-- A type without a value is written for variables only, neither for constants only. -/
def Complete : ValueKind → ValueForm → Prop
  | .const, d => d.type.isSome → d.value.isSome
  | .var, d => d.type.isSome ∨ d.value.isSome

structure Legible (kind : ValueKind) (d : ValueForm) : Prop where
  ne_nil : d.names ≠ []
  names : ∀ n ∈ d.names, IsName n
  type : ∀ t ∈ d.type, t.Legible
  value : ∀ ts ∈ d.value, IsValue ts
  complete : Complete kind d

theorem spell_typeTokens (t : Option Ty) (rest : List Char) :
    spell (typeTokens t) rest = (typeText t).toList ++ rest := by
  cases t <;> simp [typeTokens, typeText, spell, Ty.spell_tokens]

theorem Legible.lexes (h : d.Legible kind) : LexesLine d.text fun l f => d.tokens l f := by
  obtain ⟨names, type, value⟩ := d
  obtain ⟨s, ss, rfl⟩ := List.exists_cons_of_ne_nil h.ne_nil
  refine ⟨fun l f rest => ?_, fun l f hl rest hrest => ?_⟩
  · have hvalue := spell_eq_append (valueTokens value) rest
    simp [tokens, text, Token.spell_append, spell_namesTokens, spell_typeTokens, hvalue]
  · have hvalue : EndsWord (spell (valueTokens value) rest)
        ∧ FitAll (valueTokens value) rest := by
      cases value with
      | none => exact ⟨hrest.endsWord, trivial⟩
      | some ts =>
        have hts : IsValue ts := h.value ts rfl
        exact ⟨endsWord_cons (by decide) _,
          ⟨Token.gap_space, Token.front_lengthened (by simp) (hts.head_ne _)⟩,
          hts.fitAll rest hrest⟩
    have htype : EndsWord (spell (typeTokens type ++ valueTokens value) rest)
        ∧ FitAll (typeTokens type) (spell (valueTokens value) rest) := by
      rw [Token.spell_append, spell_typeTokens]
      cases type with
      | none => exact ⟨hvalue.1, trivial⟩
      | some t =>
        have ht : t.Legible := h.type t rfl
        rw [typeText, String.toList_append, List.append_assoc]
        exact ⟨endsWord_cons (by decide) _, ht.fitAll Token.gap_space hvalue.1⟩
    exact Token.fitAll_append.2 ⟨fitAll_namesTokens (fun m hm => (h.names m hm).1) hl htype.1,
      Token.fitAll_append.2 ⟨htype.2, hvalue.2⟩⟩

/-- Behind names there is a type, a value or the end of the line, but no comma. -/
theorem continues_comma (type : Option Ty) (value : Option (List Token))
    (hrest : rest.head?.all (·.fresh) = true) :
    continues true "," (typeTokens type ++ (valueTokens value ++ rest))
      = some (false, typeTokens type ++ (valueTokens value ++ rest)) := by
  cases type with
  | some t =>
    rw [typeTokens, continues_apply, t.isMark_head " " false _ (by decide), Bool.and_false]
  | none =>
    cases value with
    | some ts => simp [typeTokens, valueTokens]
    | none => simp [typeTokens, valueTokens, hrest]

/-- A type is told from a value by its first token. -/
theorem begins_tokens (t : Ty) (l : String) (f : Bool) (rest : List Token) :
    (t.tokens l f ++ rest).head?.any (fun t => Grammar.beginsType t || isMark "(" t) = true := by
  cases t <;> simp [Ty.tokens, Grammar.beginsType]

/-- **Constants and variables are read.** -/
theorem Legible.isEntry (h : d.Legible kind) :
    IsEntry kind.spec (fun l f => d.tokens l f) () := by
  obtain ⟨names, type, value⟩ := d
  obtain ⟨s, ss, rfl⟩ := List.exists_cons_of_ne_nil h.ne_nil
  refine ⟨fun l f => ?_, fun l f n hn rest hrest => ?_⟩
  · refine ⟨⟨.name, s, l, f⟩, moreTokens nameToken ss ++ (typeTokens type ++ valueTokens value), ?_,
      rfl, by simp⟩
    rw [tokens, namesTokens_cons, List.cons_append]
  simp only [tokens, List.length_append] at hn
  have hrun := nameRun_fieldNames l f s ss _ (continues_comma type value hrest)
  have hvalue : ∀ ts, value = some ts →
      Grammar.values (Rules.upTo n) .statement (ts ++ rest) = some ((), rest) := by
    intro ts hts
    rw [hts, valueTokens, List.length_cons] at hn
    exact (h.value ts hts).reads n (by omega) rest hrest
  have htype : ∀ t, type = some t → (Rules.upTo n).type true
      (t.tokens " " false ++ (valueTokens value ++ rest))
        = some (t.type, valueTokens value ++ rest) := by
    intro t ht
    rw [ht, typeTokens] at hn
    refine (h.type t ht).reads (by omega) ?_
    cases value with
    | none => exact endsType_of_fresh hrest
    | some ts => simp [valueTokens, endsType]
  -- Which branch the rule takes depends on whether a type and a value are written. A constant with
  -- a type alone and a variable with neither are not complete.
  rw [tokens, List.append_assoc, List.append_assoc]
  cases type with
  | none =>
    cases value with
    | none =>
      cases kind with
      | const =>
        simp only [typeTokens, valueTokens, List.nil_append] at hrun ⊢
        simp [ValueKind.spec, Grammar.constSpec, hrun, hrest]
      | var => exact absurd h.complete (by simp [Complete])
    | some ts =>
      have hread := hvalue ts rfl
      simp only [typeTokens, valueTokens, List.nil_append, List.cons_append] at hrun ⊢
      cases kind <;> simp [ValueKind.spec, Grammar.constSpec, Grammar.varSpec, hrun, hread]
  | some t =>
    have hread := htype t rfl
    have hfresh := t.fresh_head " " false (valueTokens value ++ rest)
    have hopen := t.isMark_head " " false (valueTokens value ++ rest) (m := "=") (by decide)
    have hbegins := begins_tokens t " " false (valueTokens value ++ rest)
    simp only [typeTokens] at hrun ⊢
    cases value with
    | none =>
      cases kind with
      | const => exact absurd h.complete (by simp [Complete])
      | var =>
        simp only [valueTokens, List.nil_append] at *
        simp [-List.head?_append, ValueKind.spec, Grammar.varSpec, hrun, hopen, hread, hrest]
    | some ts =>
      have hread' := hvalue ts rfl
      simp only [valueTokens, List.cons_append] at *
      cases kind <;> simp [-List.head?_append, ValueKind.spec, Grammar.constSpec, Grammar.varSpec,
        hrun, hfresh, hopen, hbegins, hread, hread']

end ValueForm

/-! ## Groups of declarations -/

/-- One element behind a word, or several in parentheses. -/
inductive Block (α : Type) where
  | single (a : α)
  | group (ls : List (Line α))

namespace Block

variable {α β γ : Type}

def elements : Block α → List α
  | .single a => [a]
  | .group ls => entries ls

/-- The text behind the word. -/
def text (text : String → α → String) : Block α → String
  | .single a => " " ++ text "" a
  | .group ls => " (\n" ++ linesText "\t" (text "\t") ls ++ ")"

/-- The tokens behind the word. -/
def tokens (tokens : String → String → Bool → α → List Token) : Block α → List Token
  | .single a => tokens "" " " false a
  | .group ls => ⟨.mark, "(", " ", false⟩
    :: (linesTokens "\t" (tokens "\t") "\n" ls ++ [⟨.mark, ")", linesLead "\n" ls, true⟩])

def Legible (P : α → Prop) : Block α → Prop
  | .single a => P a
  | .group ls => LegibleLines P ls

variable {P : α → Prop} {b : Block α} {shown : String → α → String}
  {spelled : String → String → Bool → α → List Token}

theorem Legible.lexes (h : b.Legible P) (hlexes : ∀ a, P a → ∀ indent : String,
      Gap indent.toList false → LexesLine (shown indent a) fun l f => spelled indent l f a) :
    (∀ rest, spell (b.tokens spelled) rest = (b.text shown).toList ++ rest)
      ∧ ∀ rest, EndsLine rest → FitAll (b.tokens spelled) rest := by
  cases b with
  | single a =>
    have ha := hlexes a h "" gap_none
    refine ⟨fun rest => ?_, ha.fitAll " " false Token.gap_space⟩
    rw [tokens, text, ha.text, String.toList_append, List.append_assoc]
  | group ls =>
    have hline : ∀ a, P a → LexesLine (shown "\t" a) fun l f => spelled "\t" l f a :=
      fun a ha => hlexes a ha "\t" Token.gap_tab
    have hclose : ∀ rest, spell [⟨.mark, ")", linesLead "\n" ls, true⟩] rest
        = (linesLead "\n" ls).toList ++ (')' :: rest) := fun rest => by simp [spell]
    refine ⟨fun rest => ?_, fun rest _ => ?_⟩
    · rw [tokens, spell, Token.spell_append, hclose, spell_linesTokens h hline]
      simp [text]
    · have hlines := fitAll_linesTokens h hline Token.gap_tab (l := "\n") Token.gap_break
        (')' :: rest)
      rw [← hclose] at hlines
      exact ⟨Token.fits_bracket Token.gap_space (by decide) _, Token.fitAll_append.2 ⟨hlines,
        Token.fits_bracket (gap_linesLead h (l := "\n") Token.gap_break) (by decide) _, trivial⟩⟩

/-- **Blocks are read**: a single element by one rule, and a group by another that reads its
lines. -/
theorem Legible.reads {p : Rules → Parse β} {value : α → β} {single group : Parse γ} {c : γ}
    (h : b.Legible P)
    (hentry : ∀ a, P a → ∀ indent, IsEntry p (fun l f => spelled indent l f a) (value a))
    (hn : (b.tokens spelled).length ≤ n) (hrest : rest.head?.all (·.fresh) = true)
    (hgroup : ∀ ts, Lines (p (Rules.upTo n)) ")" ts (b.elements.map value) rest →
      group ts = some (c, rest))
    (hsingle : ∀ ts v, b.elements.map value = [v] → p (Rules.upTo n) ts = some (v, rest) →
      single ts = some (c, rest)) :
    (do if ← takeMark "(" then group else single) (b.tokens spelled ++ rest)
      = some (c, rest) := by
  cases b with
  | single a =>
    have hread := (hentry a h "").reads " " false n hn rest hrest
    obtain ⟨t, us, htokens, -, hopen⟩ := (hentry a h "").head " " false
    have hparen := hopen "(" (by simp)
    have hone := hsingle _ _ rfl hread
    rw [tokens]
    rw [htokens] at hone ⊢
    simp only [List.cons_append] at hone ⊢
    simp [hparen, hone]
  | group ls =>
    simp only [tokens, List.length_cons, List.length_append] at hn
    have hlines : Lines (p (Rules.upTo n)) ")"
        (linesTokens "\t" (spelled "\t") "\n" ls ++ ⟨.mark, ")", linesLead "\n" ls, true⟩ :: rest)
        ((entries ls).map value) rest :=
      (lines_linesTokens (by simp) h (fun a ha => hentry a ha "\t") (by omega) _ rest).1
    have hall := hgroup _ hlines
    rw [tokens, List.cons_append, List.append_assoc, List.singleton_append]
    simp [hall]

end Block

end Written
end StructFill.Source
