import StructFill.Proofs.Emission.Reading
import StructFill.Proofs.Source.DeclarationForms

/-! # Files in source form

  A file is a package clause and declarations on lines of their own. Reading
  its text gives back what was written, in order: each field and parameter of
  a group with the type and the tag of the group, types without parentheses,
  and nothing of methods, constants and variables.

  **Items.** Each declaration is one item of the grammar, so the file is read
  declaration by declaration. What is kept of an item does not depend on the
  items around it.
-/

namespace StructFill.Source.Written

open Token (Gap FitAll EndsWord EndsLine endsWord_cons gap_none spell)
open Grammar (Rules)
open Parse
open Emission (IsItem AreItems)

variable {rest : List Token} {n : Nat} {l : String} {f : Bool}

/-! ## What is skipped -/

/-- Statements on lines of their own are a body. -/
theorem isBody_of_areStatements {ts : List Token} (h : Emission.AreStatements ts)
    {l : String} (hfit : ∀ rest, FitAll ts (l.toList ++ rest)) (hl : Gap l.toList true) :
    IsBody (ts ++ [⟨.mark, "\x7d", l, true⟩]) := by
  refine ⟨fun rest => Token.fitAll_append.2
    ⟨hfit _, Token.fits_bracket hl (by decide) _, trivial⟩, fun n hn rest => ?_⟩
  rw [List.length_append, List.length_singleton] at hn
  obtain ⟨m, rfl⟩ : ∃ m, n = m + 1 := ⟨n - 1, by omega⟩
  rw [List.append_assoc, List.singleton_append]
  exact Grammar.block_of_statements (h.statements (by omega) l rest)

/-- An expression is a value. -/
theorem isValue_of_spells {e : Typing.Expr} {ts : List Token} (h : Emission.Spells e " " ts)
    (htypes : Emission.AllocatesTypes e) : IsValue ts := by
  refine ⟨fun rest hrest => h.fitAll Token.gap_space hrest.endsWord, fun rest c hc => ?_,
    fun n hn rest hrest => ?_⟩
  · rw [h.spell] at hc
    obtain rfl : ' ' = c := by simpa using hc
    decide
  · obtain ⟨m, rfl⟩ : ∃ m, n = m + 1 := ⟨n - 1, by omega⟩
    obtain ⟨s, hs, hvalue⟩ : ∃ s, s.value = true
        ∧ (Rules.upTo (m + 1)).expression .statement (ts ++ rest) = some (s, rest) :=
      h.expression htypes (by omega) (.inl ⟨rfl, hrest⟩)
    have hcontinues : continues true "," rest = some (false, rest) := by simp [hrest]
    simp [-continues_apply, Grammar.values, commaSeparated, rounds_apply, commaSeparatedWithin,
      hvalue, hs, show Grammar.Place.statement.tail = true from rfl, hcontinues]

/-! ## Declarations -/

/-- A declaration at the top level of a file. -/
inductive Decl where
  | imports (b : Block ImportForm)
  | types (b : Block TypeForm)
  | values (kind : ValueKind) (b : Block ValueForm)
  | function (fn : Function)
  | method (receiver : List Group) (fn : Function)

namespace Decl

/-- What is kept of the declaration. -/
def item : Decl → Item
  | .imports b => .imports (b.elements.map ImportForm.decl)
  | .types b => .types (b.elements.map TypeForm.decl)
  | .values _ _ => .skipped
  | .function fn => .function fn.decl
  | .method _ _ => .skipped

/-- The word in front. -/
def word : Decl → String
  | .imports _ => "import"
  | .types _ => "type"
  | .values kind _ => kind.word
  | .function _ => "func"
  | .method _ _ => "func"

/-- The text behind the word. -/
def tailText : Decl → String
  | .imports b => b.text fun _ => ImportForm.text
  | .types b => b.text TypeForm.text
  | .values _ b => b.text fun _ => ValueForm.text
  | .function fn => " " ++ fn.text
  | .method receiver fn => " " ++ paramsText receiver ++ " " ++ fn.text

/-- The tokens behind the word. -/
def tailTokens : Decl → List Token
  | .imports b => b.tokens fun _ => ImportForm.tokens
  | .types b => b.tokens TypeForm.tokens
  | .values _ b => b.tokens fun _ => ValueForm.tokens
  | .function fn => fn.tokens
  | .method receiver fn => paramsTokens " " false receiver ++ fn.tokens

def text (d : Decl) : String := d.word ++ d.tailText

def tokens (l : String) (f : Bool) (d : Decl) : List Token :=
  ⟨.name, d.word, l, f⟩ :: d.tailTokens

def Legible : Decl → Prop
  | .imports b => b.Legible ImportForm.Legible
  | .types b => b.Legible TypeForm.Legible
  | .values kind b => b.Legible (ValueForm.Legible kind)
  | .function fn => fn.Legible
  | .method receiver fn => LegibleParams receiver ∧ fn.Legible

variable {d : Decl}

theorem Legible.tail (h : d.Legible) :
    (∀ rest, spell d.tailTokens rest = d.tailText.toList ++ rest)
      ∧ ∀ rest, EndsLine rest → FitAll d.tailTokens rest := by
  cases d with
  | imports b =>
    exact Block.Legible.lexes (b := b) h fun _ hi _ _ => hi.lexes.line
  | types b =>
    exact Block.Legible.lexes (b := b) h fun _ hd _ hindent => (hd.lexes hindent).line
  | values kind b =>
    exact Block.Legible.lexes (b := b) h fun _ hd _ _ => hd.lexes
  | function fn =>
    have hlegible : fn.Legible := h
    refine ⟨fun rest => ?_, fun rest hrest => hlegible.fitAll hrest.endsWord⟩
    simp [tailTokens, tailText, Function.spell_tokens]
  | method receiver fn =>
    refine ⟨fun rest => ?_, fun rest hrest =>
      Token.fitAll_append.2 ⟨?_, h.2.fitAll hrest.endsWord⟩⟩
    · simp [tailTokens, tailText, Token.spell_append, Function.spell_tokens, spell_paramsTokens]
    · refine (lexes_params h.1).fitAll " " false Token.gap_space _ ?_
      rw [Function.spell_tokens]
      exact endsWord_cons (by decide) _

/-- A space is behind the word. -/
theorem endsWord_tailText (d : Decl) (rest : List Char) :
    EndsWord (d.tailText.toList ++ rest) := by
  cases d with
  | imports b | types b | values kind b =>
    cases b with
    | single | group =>
      simp only [tailText, Block.text, String.toList_append, List.append_assoc]
      exact endsWord_cons (by decide) _
  | function | method =>
    simp only [tailText, String.toList_append, List.append_assoc]
    exact endsWord_cons (by decide) _

theorem isWord_word (d : Decl) : IsWord d.word := by
  have hall : ∀ w ∈ ["import", "type", "const", "var", "func"], IsWord w := by decide
  cases d with
  | values kind b => cases kind <;> exact hall _ (by simp [word, ValueKind.word])
  | imports | types | function | method => exact hall _ (by simp [word])

theorem Legible.lexes (h : d.Legible) : LexesLine d.text fun l f => d.tokens l f := by
  refine ⟨fun l f rest => ?_, fun l f hl rest hrest => ?_⟩
  · simp [tokens, text, spell, h.tail.1]
  · refine ⟨⟨hl, Token.front_word d.isWord_word ?_⟩, h.tail.2 rest hrest⟩
    rw [h.tail.1]
    exact d.endsWord_tailText _

section blocks

variable (hrest : rest.head?.all (·.fresh) = true)
include hrest

/-- Imports are read behind the keyword. -/
theorem imports_block {b : Block ImportForm} (h : b.Legible ImportForm.Legible)
    (hn : (b.tokens fun _ => ImportForm.tokens).length ≤ n) (l : String) :
    Grammar.imports (⟨.name, "import", l, true⟩ :: ((b.tokens fun _ => ImportForm.tokens) ++ rest))
      = some (b.elements.map ImportForm.decl, rest) := by
  rw [Grammar.imports, bind_apply, word_cons, resume_some]
  refine Block.Legible.reads h (fun i hi _ => hi.isEntry) hn hrest ?_ ?_
  · intro ts hlines
    exact hlines.apply
  · intro ts v hv hread
    simp [hread, hv]

/-- Types are read behind the keyword. -/
theorem typeDecls_block {b : Block TypeForm} (h : b.Legible TypeForm.Legible)
    (hn : (b.tokens TypeForm.tokens).length ≤ n) (l : String) :
    Grammar.typeDecls (Rules.upTo n) (⟨.name, "type", l, true⟩ :: (b.tokens TypeForm.tokens ++ rest))
      = some (b.elements.map TypeForm.decl, rest) := by
  rw [Grammar.typeDecls, bind_apply, word_cons, resume_some]
  refine Block.Legible.reads h (fun d hd _ => hd.isEntry) hn hrest ?_ ?_
  · intro ts hlines
    exact hlines.group
  · intro ts v hv hread
    simp [hread, hv]

/-- Constants or variables are read, and nothing of them is kept. -/
theorem specs_block {kind : ValueKind} {b : Block ValueForm}
    (h : b.Legible (ValueForm.Legible kind))
    (hn : (b.tokens fun _ => ValueForm.tokens).length ≤ n) :
    Grammar.specs (kind.spec (Rules.upTo n)) ((b.tokens fun _ => ValueForm.tokens) ++ rest)
      = some ((), rest) := by
  rw [Grammar.specs]
  refine Block.Legible.reads h (fun d hd _ => hd.isEntry) hn hrest ?_ ?_
  · intro ts hlines
    simp [hlines.group]
  · intro ts v _ hread
    exact hread

end blocks

/-- **Declarations are read as items.** -/
theorem Legible.isItem (h : d.Legible) (l : String) : IsItem d.item (d.tokens l true) := by
  refine ⟨⟨_, _, rfl, rfl⟩, fun n hn rest hrest => ?_⟩
  rw [tokens, List.length_cons] at hn
  rw [tokens, List.cons_append]
  have htail := Nat.le_of_succ_le hn
  cases d with
  | imports b =>
    have hread := imports_block hrest h htail l
    simp [Grammar.item, item, word, tailTokens, hread]
  | types b =>
    have hread := typeDecls_block hrest h htail l
    simp [Grammar.item, Grammar.statement, item, word, tailTokens, hread]
  | values kind b =>
    have hspecs := specs_block hrest h htail
    cases kind <;> rw [ValueKind.spec] at hspecs <;>
      simp [Grammar.item, Grammar.statement, item, word, ValueKind.word, tailTokens, hspecs]
  | function fn =>
    have hlegible : fn.Legible := h
    have hread := hlegible.reads (l := l) (f := true) htail hrest
    have hor := orElse_of_eq_some (q := Grammar.statement (Rules.upTo n)) hread
    simp [Grammar.item, item, word, tailTokens, hor]
  | method receiver fn =>
    have hread := h.2.reads_method h.1 (l := l) (f := true) (n := n) htail hrest
    have hor := orElse_of_eq_some (q := Grammar.statement (Rules.upTo n)) hread
    simp only [item, word, tailTokens, List.append_assoc]
    simp [Grammar.item, hor]

/-! ### What is kept -/

def importList : Decl → List Import
  | .imports b => b.elements.map ImportForm.decl
  | _ => []

def typeList : Decl → List TypeDecl
  | .types b => b.elements.map TypeForm.decl
  | _ => []

def functionList : Decl → List FuncDecl
  | .function fn => [fn.decl]
  | _ => []

/-- Declarations are added in order. -/
theorem foldl_add (ds : List Decl) (d : FileDecls) :
    (ds.map item).foldl FileDecls.add d
      = ⟨d.package, d.imports ++ ds.flatMap importList, d.types ++ ds.flatMap typeList,
        d.functions ++ ds.flatMap functionList⟩ := by
  induction ds generalizing d with
  | nil => simp
  | cons decl ds ih =>
    rw [List.map_cons, List.foldl_cons, ih]
    cases decl <;> simp [item, FileDecls.add, importList, typeList, functionList]

end Decl

/-! ## Files -/

/-- A file: lines that are blank or comments, the package clause, and declarations. -/
structure File where
  header : List String
  package : String
  decls : List (Line Decl)

namespace File

variable {file : File}

/-- What is declared, in source order. -/
def declared (file : File) : FileDecls :=
  ⟨file.package, (entries file.decls).flatMap Decl.importList,
    (entries file.decls).flatMap Decl.typeList, (entries file.decls).flatMap Decl.functionList⟩

def text (file : File) : String :=
  String.join (file.header.map fun s => s ++ "\n") ++ "package " ++ file.package ++ "\n"
    ++ linesText "" Decl.text file.decls

structure Legible (file : File) : Prop where
  header : ∀ s ∈ file.header, IsNote s
  package : IsName file.package
  decls : LegibleLines Decl.Legible file.decls

/-- The lines in front of the package clause are a gap. -/
theorem exists_gap_header {header : List String} (h : ∀ s ∈ header, IsNote s) :
    ∃ f, Gap (String.join (header.map fun s => s ++ "\n")).toList f := by
  induction header with
  | nil => exact ⟨false, .nil⟩
  | cons s header ih =>
    obtain ⟨f, hf⟩ := ih fun s hs => h s (List.mem_cons_of_mem _ hs)
    refine ⟨true || f, ?_⟩
    simpa using (h s List.mem_cons_self).gap.append hf

/-- A gap does not begin with a byte order mark. -/
theorem head?_ne_of_gap {g : List Char} {f : Bool} (h : Gap g f) (rest : List Char)
    (hrest : rest.head? ≠ some '\ufeff') : (g ++ rest).head? ≠ some '\ufeff' := by
  cases h with
  | nil => exact hrest
  | @blank c g fresh hc _ =>
    intro hhead
    obtain rfl : c = '\ufeff' := by simpa using hhead
    exact absurd hc (by decide)
  | comment => simp

theorem areItems_linesTokens {ls : List (Line Decl)} (h : LegibleLines Decl.Legible ls)
    (l : String) : AreItems ((entries ls).map Decl.item) (linesTokens "" Decl.tokens l ls) := by
  induction ls generalizing l with
  | nil => exact .nil
  | cons line ls ih =>
    cases line with
    | note s => exact ih h.2 _
    | entry d trail => exact .cons (h.1.isItem _) (ih h.2.2 _)

/-- The tokens of the package clause and the items behind it are found. -/
theorem items?_package {is : List Item} {ts : List Token} (h : AreItems is ts) (package l : String)
    (f : Bool) : Grammar.items? (⟨.name, "package", l, f⟩ :: ⟨.name, package, " ", false⟩ :: ts)
      = some (.package package :: is) := by
  have hclause : ∀ r k, Grammar.itemsWithin r k ts = some (is, []) →
      Grammar.itemsWithin r (k + 1)
          (⟨.name, "package", l, f⟩ :: ⟨.name, package, " ", false⟩ :: ts)
        = some (.package package :: is, []) := by
    intro r k hk
    simp [Grammar.itemsWithin, Grammar.item, terminator_of_fresh h.fresh, hk]
  rw [Grammar.items?, rounds_apply, List.length_cons, List.length_cons,
    hclause _ _ (h.within (by omega) (by omega))]
  rfl

/-- **The declarations of a file are found**, in source order. -/
theorem Legible.declarations? (h : file.Legible) :
    Grammar.declarations? file.text = some file.declared := by
  have hlexes : ∀ d : Decl, d.Legible → LexesLine d.text fun l f => d.tokens l f :=
    fun d hd => hd.lexes
  obtain ⟨f, hheader⟩ := exists_gap_header h.header
  -- Everything behind the last declaration belongs to no token: blank lines and comments are a lead
  -- with nothing to lead. It is named `behind`, and the tokens are spelled in front of it.
  let lead := String.join (file.header.map fun s => s ++ "\n")
  let clause : List Token := [⟨.name, "package", lead, f⟩, ⟨.name, file.package, " ", false⟩]
  let decls := linesTokens "" Decl.tokens "\n" file.decls
  let behind := (linesLead "\n" file.decls).toList
  have hdecls : spell decls behind = '\n' :: (linesText "" Decl.text file.decls).toList := by
    have hlines : spell decls (behind ++ [])
        = "\n".toList ++ ((linesText "" Decl.text file.decls).toList ++ []) :=
      spell_linesTokens h.decls hlexes "\n" []
    simpa using hlines
  have hspell : spell (clause ++ decls) behind = file.text.toList := by
    rw [Token.spell_append, hdecls]
    simp [clause, lead, spell, text]
  have hfit : FitAll (clause ++ decls) behind := by
    have hpackage : IsWord "package" := by decide
    have hlines : FitAll decls (behind ++ []) :=
      fitAll_linesTokens h.decls hlexes gap_none (l := "\n") Token.gap_break []
    rw [List.append_nil] at hlines
    refine Token.fitAll_append.2 ⟨⟨⟨hheader, Token.front_word hpackage Token.spell_space_ends⟩,
      ⟨Token.gap_space, Token.front_word h.package.1 ?_⟩, trivial⟩, hlines⟩
    change EndsWord (spell decls behind)
    rw [hdecls]
    exact endsWord_cons (by decide) _
  have hscans := hfit.scans (gap_linesLead h.decls (l := "\n") Token.gap_break).scans
  rw [hspell, List.append_nil] at hscans
  have hscan := hscans.scan? (by
    simp only [text, String.toList_append, List.append_assoc]
    exact head?_ne_of_gap hheader _ (by simp))
  have hitems := items?_package (areItems_linesTokens h.decls "\n") file.package lead f
  have hfold := Decl.foldl_add (entries file.decls) ⟨file.package, [], [], []⟩
  rw [Grammar.declarations?, hscan]
  simp only [Option.bind_eq_bind, Option.bind_some]
  rw [show clause ++ decls = ⟨.name, "package", lead, f⟩ :: ⟨.name, file.package, " ", false⟩
    :: decls from rfl, hitems]
  simpa [FileDecls.ofItems, FileDecls.add, FileDecls.empty, declared] using hfold

end File

end Written
end StructFill.Source

namespace StructFill.Package

open Source.Written (File)

/-- **What is written is what is read.** The text of a file in source form declares the imports, the
types and the functions that are written, in order. Each field and each parameter of a group has the
type and the tag of the group; an embedded field is named after its base; types have lost their
parentheses; nothing is kept of methods, constants and variables. -/
theorem parseSource_written [Source.Recovery] (path : Path) {file : File} (h : file.Legible) :
    parseSource path file.text = .ok file.declared := by
  have hne : file.package ≠ "" := by
    intro hpackage
    exact absurd (hpackage ▸ h.package.1) (by decide)
  rw [parseSource, h.declarations?]
  exact if_neg hne

end StructFill.Package

/-! ### A file with a declaration of each kind -/

namespace StructFill.Sample

open Source
open Source.Written

/-- `obj, err` are returned. -/
def returning : List Token :=
  Emission.returnTokens "\n\t" ++ [⟨.mark, "\x7d", "\n", true⟩]

def catalogTypes : List (Line TypeForm) :=
  [.entry ⟨"Kind", "  ", false, .named (.name "int")⟩ " // kinds of shelves",
    .note "",
    .entry ⟨"Label", " ", true, .named (.parens (.pointer (.name "string")))⟩ "",
    .entry ⟨"Mark", " ", false, .emptyStruct⟩ ""]

def catalogFields : List (Line FieldLine) :=
  [.entry ⟨.named ["A", "B"] "  " (.pointer (.qualified "m" "Book")), some ⟨" ", "json:\"a\""⟩⟩ "",
    .note "\t// parts",
    .entry ⟨.named ["Parts"] " " (.parens (.map (.name "string") .openInterface)), none⟩ "",
    .entry ⟨.embedded ⟨true, some "m", "Base"⟩, some ⟨" ", "json:\"base\""⟩⟩ "",
    .entry ⟨.embedded ⟨false, none, "Other"⟩, none⟩ " // embedded"]

def openShelf : Function :=
  ⟨"Open", [⟨["a", "b"], .name "string"⟩,
      ⟨["x"], .map (.name "Kind") (.pointer (.qualified "m" "Book"))⟩],
    .list [⟨["obj"], .pointer (.name "Shelf")⟩, ⟨["err"], .name "error"⟩], some returning⟩

def pairShelves : Function :=
  ⟨"pair", [⟨[], .name "Kind"⟩, ⟨[], .name "Label"⟩, ⟨[], .pointer (.qualified "m" "Book")⟩],
    .single (.parens (.name "bool")), none⟩

def closeShelf : Function := ⟨"Close", [], .none, none⟩

def catalog : File :=
  ⟨["// Shelves of books.", ""], "shelf",
    [.note "",
      .entry (.imports (.single ⟨none, .quoted "fmt"⟩)) "",
      .entry (.imports (.group [.entry ⟨some "m", .quoted "example.com/model"⟩ "",
        .entry ⟨some "_", .raw "embed"⟩ ""])) "",
      .entry (.types (.single ⟨"Shelf", " ", false, .struct catalogFields⟩)) "",
      .entry (.values .var (.single ⟨["total"], none,
        some [⟨.name, "count", " ", false⟩]⟩)) "",
      .entry (.types (.group catalogTypes)) "",
      .entry (.values .const (.group [.entry ⟨["size", "limit"], some (.parens (.name "int")),
        some [⟨.name, "count", " ", false⟩]⟩ "", .entry ⟨["more"], none, none⟩ ""])) "",
      .entry (.function openShelf) "",
      .entry (.method [⟨["s"], .pointer (.name "Shelf")⟩] closeShelf) "",
      .entry (.function pairShelves) ""]⟩

def catalogLines : List String :=
  ["// Shelves of books.",
    "",
    "package shelf",
    "",
    "import \"fmt\"",
    "import (",
    "\tm \"example.com/model\"",
    "\t_ " ++ Token.rawLiteral "embed",
    ")",
    "type Shelf struct \x7b",
    "\tA, B  *m.Book " ++ Token.rawLiteral "json:\"a\"",
    "\t// parts",
    "\tParts (map[string]interface\x7b\x7d)",
    "\t*m.Base " ++ Token.rawLiteral "json:\"base\"",
    "\tOther // embedded",
    "\x7d",
    "var total = count",
    "type (",
    "\tKind  int // kinds of shelves",
    "",
    "\tLabel = (*string)",
    "\tMark struct\x7b\x7d",
    ")",
    "const (",
    "\tsize, limit (int) = count",
    "\tmore",
    ")",
    "func Open(a, b string, x map[Kind]*m.Book) (obj *Shelf, err error) \x7b",
    "\treturn obj, err",
    "\x7d",
    "func (s *Shelf) Close()",
    "func pair(Kind, Label, *m.Book) (bool)"]

def catalogDecls : FileDecls :=
  ⟨"shelf",
    [⟨"fmt", none⟩, ⟨"example.com/model", some "m"⟩, ⟨"embed", some "_"⟩],
    [⟨"Shelf", .struct
        [⟨"A", .pointer (.qualified "m" "Book"), ⟨[("json", "a")]⟩, false⟩,
          ⟨"B", .pointer (.qualified "m" "Book"), ⟨[("json", "a")]⟩, false⟩,
          ⟨"Parts", .map (.name "string") (.interface true), .empty, false⟩,
          ⟨"Base", .pointer (.qualified "m" "Base"), ⟨[("json", "base")]⟩, true⟩,
          ⟨"Other", .name "Other", .empty, true⟩], false⟩,
      ⟨"Kind", .named (.name "int"), false⟩, ⟨"Label", .named (.pointer (.name "string")), true⟩,
      ⟨"Mark", .struct [], false⟩],
    [⟨"Open", [⟨some "a", .name "string"⟩, ⟨some "b", .name "string"⟩,
          ⟨some "x", .map (.name "Kind") (.pointer (.qualified "m" "Book"))⟩],
        [⟨some "obj", .pointer (.name "Shelf")⟩, ⟨some "err", .name "error"⟩]⟩,
      ⟨"pair", [⟨none, .name "Kind"⟩, ⟨none, .name "Label"⟩,
        ⟨none, .pointer (.qualified "m" "Book")⟩], [⟨none, .name "bool"⟩]⟩]⟩

end StructFill.Sample

namespace StructFill.Package

open Source
open Source.Written

theorem text_catalog : Sample.catalog.text = Emission.unlines Sample.catalogLines := by
  decide +kernel

theorem declared_catalog : Sample.catalog.declared = Sample.catalogDecls := by
  decide

theorem isBody_returning : IsBody Sample.returning :=
  isBody_of_areStatements (Emission.isStatement_return "\n\t").areStatements
    (fun rest => Emission.isLine_return.fitAll "\n\t" (by
      exact Token.gap_break.append Token.gap_tab) rest) Token.gap_break

theorem isValue_count : IsValue [⟨.name, "count", " ", false⟩] :=
  isValue_of_spells (e := .var "count") (.var (by decide)) trivial

theorem legible_catalogFields : LegibleLines FieldLine.Legible Sample.catalogFields := by
  have hempty : IsTrail "" := .none rfl
  have hspace : Token.IsPad " " := by decide
  have htag : LegibleTag (some ⟨" ", "json:\"a\""⟩) := ⟨hspace, by decide⟩
  have hbase : LegibleTag (some ⟨" ", "json:\"base\""⟩) := ⟨hspace, by decide⟩
  have hparts : IsNote "\t// parts" := .comment ['\t'] _ rfl rfl (by decide)
  have hembedded : IsTrail " // embedded" := .comment " " _ rfl hspace (by decide)
  exact ⟨⟨by decide, htag⟩, hempty, hparts, ⟨by decide, trivial⟩, hempty,
    ⟨by decide, hbase⟩, hempty, ⟨by decide, trivial⟩, hembedded, trivial⟩

theorem legible_catalogTypes : LegibleLines TypeForm.Legible Sample.catalogTypes := by
  have hempty : IsTrail "" := .none rfl
  have hkinds : IsTrail " // kinds of shelves" :=
    .comment " " _ rfl (by decide) (by decide)
  have hint : (BodyForm.named (.name "int")).Legible :=
    show IsName "int" by decide
  have hstring : (BodyForm.named (.parens (.pointer (.name "string")))).Legible :=
    show IsName "string" by decide
  exact ⟨⟨by decide, by decide, hint⟩, hkinds, .blank rfl,
    ⟨by decide, by decide, hstring⟩, hempty,
    ⟨by decide, by decide, trivial⟩, hempty, trivial⟩

theorem legible_openShelf : Sample.openShelf.Legible := by
  refine ⟨by decide, by decide, by decide, fun ts hts => ?_⟩
  obtain rfl : Sample.returning = ts := by simpa [Sample.openShelf] using hts
  exact isBody_returning

theorem legible_catalog : Sample.catalog.Legible := by
  have hempty : IsTrail "" := .none rfl
  have hblank : IsNote "" := .blank rfl
  have hshelves : IsNote "// Shelves of books." := .comment [] _ rfl rfl (by decide)
  have hfmt : ImportForm.Legible ⟨none, .quoted "fmt"⟩ := ⟨by simp, by decide⟩
  have hmodel : ImportForm.Legible ⟨some "m", .quoted "example.com/model"⟩ :=
    ⟨by simpa using (by decide : IsName "m"), by decide⟩
  have hembed : ImportForm.Legible ⟨some "_", .raw "embed"⟩ :=
    ⟨by simpa using (by decide : IsName "_"), by decide⟩
  have hshelf : TypeForm.Legible ⟨"Shelf", " ", false, .struct Sample.catalogFields⟩ :=
    ⟨by decide, by decide, legible_catalogFields⟩
  have hvalue : ∀ ts ∈ some [(⟨.name, "count", " ", false⟩ : Token)], IsValue ts := by
    intro ts hts
    obtain rfl := Option.some.inj hts
    exact isValue_count
  have htotal : ValueForm.Legible .var ⟨["total"], none, some [⟨.name, "count", " ", false⟩]⟩ :=
    ⟨by simp, by decide, by simp, hvalue, .inr rfl⟩
  have hsize : ValueForm.Legible .const ⟨["size", "limit"], some (.parens (.name "int")),
      some [⟨.name, "count", " ", false⟩]⟩ :=
    ⟨by simp, by decide, by decide, hvalue,
      fun _ => rfl⟩
  have hmore : ValueForm.Legible .const ⟨["more"], none, none⟩ :=
    ⟨by simp, by decide, by simp, by simp, by simp [ValueForm.Complete]⟩
  have hclose : Sample.closeShelf.Legible :=
    ⟨by decide, by decide, trivial, by simp [Sample.closeShelf]⟩
  have hpair : Sample.pairShelves.Legible :=
    ⟨by decide, by decide, by decide, by simp [Sample.pairShelves]⟩
  refine ⟨?_, by decide, hblank, hfmt, hempty, ⟨hmodel, hempty, hembed, hempty, trivial⟩,
    hempty, hshelf, hempty, htotal, hempty, legible_catalogTypes, hempty,
    ⟨hsize, hempty, hmore, hempty, trivial⟩, hempty, legible_openShelf, hempty,
    ⟨by decide, hclose⟩, hempty, hpair, hempty, trivial⟩
  simpa [Sample.catalog] using And.intro hshelves hblank

theorem parseSource_written_catalog :
    Sample.catalog.Legible
      ∧ Sample.catalog.text = Emission.unlines Sample.catalogLines
      ∧ parseSource ⟨"shelf.go"⟩ Sample.catalog.text = .ok Sample.catalogDecls := by
  have hread := parseSource_written ⟨"shelf.go"⟩ legible_catalog
  rw [declared_catalog] at hread
  exact ⟨legible_catalog, text_catalog, hread⟩

end StructFill.Package
