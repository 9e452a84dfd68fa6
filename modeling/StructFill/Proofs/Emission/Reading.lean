import StructFill.Package.Directory
import StructFill.Proofs.Emission.Signatures
import StructFill.Proofs.Source.Quoting

/-! # What is written is read back

  A file that is put together from a header and functions is read as the
  package, the imports and the signatures that it was made from.

  **Items.** The package clause, the imports and each function are items, one
  after the other. The lines of each item are read as one whatever follows, so
  the items of a file are found by putting these lines together.

  **Imports.** An import has a name of its own where its path does not suggest
  the name. A path without control characters is read as it was written; in
  keys of a map every character may occur, as their values are not kept.
-/

namespace StructFill.Emission

open Source
open Source.Token (Gap FitAll Scans spell)
open Source.Grammar (Rules)
open Source.Parse (Lines)

/-! ## Items -/

/-- The tokens are an item on lines of its own. -/
structure IsItem (i : Item) (ts : List Token) : Prop where
  exists_cons : ∃ t us, ts = t :: us ∧ t.fresh = true
  reads : ∀ n, ts.length ≤ n → ∀ rest : List Token, rest.head?.all (·.fresh) = true →
    Grammar.item (Rules.upTo n) (ts ++ rest) = some (i, rest)

/-- The tokens are items one after the other. -/
inductive AreItems : List Item → List Token → Prop where
  | nil : AreItems [] []
  | cons {i is ts ts'} (h : IsItem i ts) (hs : AreItems is ts') : AreItems (i :: is) (ts ++ ts')

theorem IsItem.areItems {i : Item} {ts : List Token} (h : IsItem i ts) : AreItems [i] ts := by
  simpa using AreItems.cons h .nil

namespace AreItems

variable {is is' : List Item} {ts ts' : List Token}

theorem append (h : AreItems is ts) (h' : AreItems is' ts') : AreItems (is ++ is') (ts ++ ts') := by
  induction h with
  | nil => exact h'
  | cons hfirst _ ih =>
    rw [List.cons_append, List.append_assoc]
    exact .cons hfirst ih

theorem fresh (h : AreItems is ts) : ts.head?.all (·.fresh) = true := by
  cases h with
  | nil => rfl
  | cons hfirst _ =>
    obtain ⟨t, us, rfl, ht⟩ := hfirst.exists_cons
    simpa using ht

theorem within (h : AreItems is ts) {n : Nat} (hn : ts.length ≤ n) {k : Nat} (hk : ts.length < k) :
    Grammar.itemsWithin (Rules.upTo n) k ts = some (is, []) := by
  -- Each item has a token, so the rounds do not run out.
  induction h generalizing k with
  | nil =>
    obtain ⟨m, rfl⟩ : ∃ m, k = m + 1 := ⟨k - 1, by omega⟩
    simp [Grammar.itemsWithin]
  | @cons i is ts ts' hfirst hs ih =>
    obtain ⟨m, rfl⟩ : ∃ m, k = m + 1 := ⟨k - 1, by omega⟩
    simp only [List.length_append] at hn hk
    have hread := hfirst.reads n (by omega) ts' hs.fresh
    obtain ⟨t, us, rfl, -⟩ := hfirst.exists_cons
    simp only [List.length_cons] at hk
    have hagain := ih (show ts'.length ≤ n by omega) (show ts'.length < m by omega)
    rw [List.cons_append] at hread ⊢
    simp [Grammar.itemsWithin, hread, Parse.terminator_of_fresh hs.fresh, hagain]

/-- The items of a list of tokens are found. -/
theorem items? (h : AreItems is ts) : Grammar.items? ts = some is := by
  have hitems := h.within (Nat.le_succ _) (Nat.lt_succ_self _)
  rw [Grammar.items?, Parse.rounds_apply, hitems]
  rfl

end AreItems

/-! ## Functions -/

/-- The names and types of a plan are those of a signature that can be read. -/
structure Plan.Follows (p : Plan) (s : Prototype) : Prop where
  legible : s.Legible
  name : p.name = s.name
  paramName : p.paramName = s.param
  paramType : p.paramType = (TypeExpr.map (.name s.key) s.value).text
  outputType : p.outputType = s.out.text

/-- The whole function of a plan can be read. -/
structure Plan.Declares (p : Plan) (s : Prototype) : Prop extends p.Follows s where
  /-- The output type can be the type of a literal. -/
  head : s.out.head ∉ valueNames
  assigned : ∀ f ∈ p.buckets.assigned, IsWord f.name ∧ Legible f.strategy
  unsupported : ∀ f ∈ p.buckets.unsupported, Token.InLine f.name.toList ∧ Legible f.strategy

/-- The whole function of a plan follows the grammar: no function that allocates is called on a
value. -/
structure Plan.Parses (p : Plan) (s : Prototype) : Prop extends p.Declares s where
  helpers : ∀ f ∈ p.buckets.direct, ∀ c ∈ f.strategy.conversion?, c ∉ Grammar.allocators
  casts : ∀ f ∈ p.buckets.enumerations ++ p.buckets.assign, ∀ cast c i,
    f.strategy = .enumeration cast c i → cast ∉ Grammar.allocators

variable {p : Plan} {s : Prototype}

/-- The sections of a function are statements. -/
theorem Plan.Parses.linesRead_sections (h : p.Parses s) :
    LinesRead AreStatements
      (section? "assigned directly" p.buckets.direct (directLines p.paramName)
        ++ section? "enum types" p.buckets.enumerations (guardedLines p.paramName)
        ++ section? "pointer types" p.buckets.assign (guardedLines p.paramName)
        ++ section? "complete by hand" p.buckets.unsupported placeholderLines) := by
  have hparam : IsName p.paramName := h.paramName ▸ h.legible.param
  have hfield : ∀ f, f ∈ p.buckets.direct ∨ f ∈ p.buckets.enumerations ∨ f ∈ p.buckets.assign →
      IsWord f.name ∧ Legible f.strategy := by
    intro f hf
    refine h.assigned f ?_
    simp only [Buckets.assigned, List.mem_append]
    rcases hf with hf | hf | hf <;> simp [hf]
  have hdirect := linesRead_section "assigned directly" (by decide) fun f hf =>
    linesRead_directLines hparam (hfield f (.inl hf)).1 (hfield f (.inl hf)).2 (h.helpers f hf)
  have henumerations := linesRead_section "enum types" (by decide) fun f hf =>
    linesRead_guardedLines hparam (hfield f (.inr (.inl hf))).1 (hfield f (.inr (.inl hf))).2
      (h.casts f (List.mem_append_left _ hf))
  have hassign := linesRead_section "pointer types" (by decide) fun f hf =>
    linesRead_guardedLines hparam (hfield f (.inr (.inr hf))).1 (hfield f (.inr (.inr hf))).2
      (h.casts f (List.mem_append_right _ hf))
  have hunsupported := linesRead_section "complete by hand" (by decide) fun f hf =>
    linesRead_placeholder .nil (h.unsupported f hf).1 (h.unsupported f hf).2
  exact ((hdirect.append henumerations fun _ _ => AreStatements.append).append hassign
    fun _ _ => AreStatements.append).append hunsupported fun _ _ => AreStatements.append

/-- A function is an item. -/
theorem isItem_function (h : s.Legible) {l l' : String} {body : List Token}
    (hbody : AreStatements body) :
    IsItem (.function s.decl) (s.tokens l ++ body ++ [⟨.mark, "\x7d", l', true⟩]) := by
  refine ⟨⟨_, _, rfl, rfl⟩, fun n hn rest _ => ?_⟩
  simp only [Prototype.tokens, List.length_append, List.length_cons] at hn
  obtain ⟨m, rfl⟩ : ∃ m, n = m + 2 := ⟨n - 2, by omega⟩
  have hread := h.function hbody (show body.length ≤ m + 1 by omega) l l' rest
  have hor := Parse.orElse_of_eq_some (q := Grammar.statement (Rules.upTo (m + 2))) hread
  simp only [Prototype.tokens, List.cons_append, List.nil_append, List.append_assoc] at hor ⊢
  simp [Grammar.item, hor]

/-- The lines of a function: its signature, what makes the result, the sections, and the return. -/
theorem Plan.Follows.functionLines_eq (h : p.Follows s) :
    functionLines p = [""] ++ ([s.text]
      ++ (["\t" ++ ("obj = &" ++ s.out.text ++ "\x7b\x7d")]
        ++ (section? "assigned directly" p.buckets.direct (directLines p.paramName)
          ++ section? "enum types" p.buckets.enumerations (guardedLines p.paramName)
          ++ section? "pointer types" p.buckets.assign (guardedLines p.paramName)
          ++ section? "complete by hand" p.buckets.unsupported placeholderLines)
        ++ [""] ++ ["\t" ++ "return obj, err"]) ++ ["\x7d"]) := by
  simp [functionLines, Prototype.text, h.name, h.paramName, h.paramType, h.outputType,
    ← String.append_assoc]

/-- **The lines of a function are read as what the plan declares.** -/
theorem Plan.Parses.linesRead (h : p.Parses s) :
    LinesRead (AreItems [.function s.decl]) (functionLines p) := by
  have hempty : LinesRead (· = []) [""] := .gap gap_empty rfl
  have hsignature : LinesRead (fun ts => ∃ l, ts = s.tokens l) [s.text] :=
    .line h.legible.isLine fun l => ⟨l, rfl⟩
  have hresult : LinesRead AreStatements ["\t" ++ ("obj = &" ++ s.out.text ++ "\x7b\x7d")] :=
    .line ((isLine_result h.legible.out).indent Token.gap_tab)
      fun l => (isStatement_result h.legible.out h.head _).areStatements
  have hreturn : LinesRead AreStatements ["\t" ++ "return obj, err"] :=
    .line (isLine_return.indent Token.gap_tab) fun l => (isStatement_return _).areStatements
  have hclose : LinesRead (fun ts => ∃ l, ts = [⟨.mark, "\x7d", l, true⟩]) ["\x7d"] :=
    .line isLine_brace fun l => ⟨l, rfl⟩
  have hblank : LinesRead AreStatements [""] := .gap gap_empty .nil
  -- The statements make a body only between the signature and the brace, so the lines of the body
  -- are put together first.
  have hbody := ((hresult.append h.linesRead_sections fun _ _ => AreStatements.append).append hblank
    fun _ _ => AreStatements.append).append hreturn fun _ _ => AreStatements.append
  have hopen : LinesRead (fun ts => ∃ l body, AreStatements body ∧ ts = s.tokens l ++ body) _ :=
    hsignature.append hbody (by
      rintro as bs ⟨l, rfl⟩ hbs
      exact ⟨l, bs, hbs, rfl⟩)
  have hclosed : LinesRead (AreItems [.function s.decl]) _ :=
    hopen.append hclose (by
      rintro as bs ⟨l, body, hbody, rfl⟩ ⟨l', rfl⟩
      exact (isItem_function h.legible hbody).areItems)
  have hfunction : LinesRead (AreItems [.function s.decl]) _ :=
    hempty.append hclosed (by
      rintro as bs rfl hbs
      exact hbs)
  rw [h.toFollows.functionLines_eq]
  exact hfunction

/-! ## Header -/

/-- The package clause. -/
theorem linesRead_package {package : String} (h : IsName package) :
    LinesRead (AreItems [.package package]) ["package " ++ package] := by
  have hpackage : IsWord "package" := by decide
  have hline : IsLine ("package " ++ package)
      fun l => [⟨.name, "package", l, true⟩, ⟨.name, package, " ", false⟩] := by
    refine ⟨fun l rest => by simp [Token.spell], fun l hl rest => ?_⟩
    refine ⟨⟨hl, Token.front_word hpackage Token.spell_space_ends⟩,
      ⟨Token.gap_space, Token.front_word h.1 ?_⟩, trivial⟩
    rintro c ⟨⟩
    decide
  refine .line hline fun l => IsItem.areItems ⟨⟨_, _, rfl, rfl⟩, fun n _ rest _ => ?_⟩
  simp [Grammar.item]

/-- An import can be read: its name is an identifier, and no control character is in its
path. -/
structure Readable (i : PackageImport) : Prop where
  name : IsName i.name
  path : ∀ c ∈ i.path.toList, Token.IsPlain c

/-- The import that is declared: it has a name of its own unless its path suggests the name. -/
def declared (i : PackageImport) : Import :=
  ⟨i.path, if Package.defaultName i.path = i.name then none else some i.name⟩

/-- The tokens of the specification of an import. -/
def specTokens (i : PackageImport) (l : String) (fresh : Bool) : List Token :=
  if Package.defaultName i.path = i.name then [⟨.string, Quoted.quote i.path, l, fresh⟩]
  else [⟨.name, i.name, l, fresh⟩, ⟨.string, Quoted.quote i.path, " ", false⟩]

section specs

variable {i : PackageImport} (l : String) (fresh : Bool)

/-- A name that the path suggests is not written. -/
theorem specTokens_of_eq (h : Package.defaultName i.path = i.name) :
    specTokens i l fresh = [⟨.string, Quoted.quote i.path, l, fresh⟩] :=
  if_pos h

theorem specTokens_of_ne (h : Package.defaultName i.path ≠ i.name) :
    specTokens i l fresh = [⟨.name, i.name, l, fresh⟩, ⟨.string, Quoted.quote i.path, " ", false⟩] :=
  if_neg h

-- The equations are to be used instead of the definition: to unfold it is to compute the name that
-- the path suggests.
attribute [irreducible] specTokens

theorem spell_specTokens (rest : List Char) :
    Token.spell (specTokens i l fresh) rest = l.toList ++ ((importLine i).toList ++ rest) := by
  by_cases h : Package.defaultName i.path = i.name
  · rw [specTokens_of_eq l fresh h, importLine, if_pos h]
    simp [Token.spell]
  · rw [specTokens_of_ne l fresh h, importLine, if_neg h]
    simp [Token.spell]

theorem fitAll_specTokens {l : String} {fresh : Bool} (hi : Readable i) (hl : Gap l.toList fresh)
    (rest : List Char) :
    FitAll (specTokens i l fresh) rest := by
  by_cases h : Package.defaultName i.path = i.name
  · rw [specTokens_of_eq l fresh h]
    exact ⟨⟨hl, Token.front_quote _ _⟩, trivial⟩
  · rw [specTokens_of_ne l fresh h]
    exact ⟨⟨hl, Token.front_word hi.name.1 Token.spell_space_ends⟩,
      ⟨Token.gap_space, Token.front_quote _ _⟩, trivial⟩

/-- The specification of an import is read as the import. -/
theorem importSpec_specTokens (hi : Readable i) (rest : List Token) :
    Grammar.importSpec (specTokens i l fresh ++ rest) = some (declared i, rest) := by
  have hvalue := Quoted.literalValue_quote hi.path
  by_cases h : Package.defaultName i.path = i.name
  · simp [specTokens_of_eq l fresh h, declared, h, Grammar.importSpec, hvalue]
  · simp [specTokens_of_ne l fresh h, declared, h, Grammar.importSpec, hvalue]

theorem specTokens_eq_cons (i : PackageImport) (l : String) (fresh : Bool) :
    ∃ t us, specTokens i l fresh = t :: us ∧ t.fresh = fresh ∧ Parse.isMark ")" t = false
      ∧ Parse.isMark "(" t = false := by
  by_cases h : Package.defaultName i.path = i.name
  · exact ⟨_, _, specTokens_of_eq l fresh h, rfl, by simp, by simp⟩
  · exact ⟨_, _, specTokens_of_ne l fresh h, rfl, by simp, by simp⟩

end specs

/-- The tokens of imports on lines of their own. -/
inductive AreSpecs : List PackageImport → List Token → Prop where
  | nil : AreSpecs [] []
  | cons {i is l ts} (h : Readable i) (hs : AreSpecs is ts) :
    AreSpecs (i :: is) (specTokens i l true ++ ts)

/-- A group of imports is read up to its closing parenthesis. -/
theorem AreSpecs.lines {is : List PackageImport} {ts : List Token} (h : AreSpecs is ts) (l : String)
    (rest : List Token) :
    (ts ++ ⟨.mark, ")", l, true⟩ :: rest).head?.all (·.fresh) = true
      ∧ Lines Grammar.importSpec ")" (ts ++ ⟨.mark, ")", l, true⟩ :: rest) (is.map declared)
        rest := by
  induction h with
  | nil => exact ⟨rfl, .done⟩
  | @cons i is l' ts h hs ih =>
    obtain ⟨hfresh, hlines⟩ := ih
    obtain ⟨t, us, htokens, ht, hclose, -⟩ := specTokens_eq_cons i l' true
    have hread := importSpec_specTokens l' true h
      (ts ++ ⟨.mark, ")", l, true⟩ :: rest)
    rw [List.append_assoc]
    rw [htokens] at hread ⊢
    refine ⟨by simpa using ht, .more (by simpa using hclose) hread hfresh ?_ hlines⟩
    simp only [List.length_append, List.length_cons]
    omega

theorem linesRead_specs {is : List PackageImport} (h : ∀ i ∈ is, Readable i) :
    LinesRead (AreSpecs is) (is.map fun i => "\t" ++ importLine i) := by
  induction is with
  | nil => exact .nil .nil
  | cons i is ih =>
    have hi := h i List.mem_cons_self
    have hline : IsLine (importLine i) (fun l => specTokens i l true) :=
      ⟨fun l rest => spell_specTokens l true rest, fun l hl rest => fitAll_specTokens hi hl _⟩
    have hfirst : LinesRead (fun ts => ∃ l, ts = specTokens i l true) ["\t" ++ importLine i] :=
      .line (hline.indent Token.gap_tab) fun l => ⟨_, rfl⟩
    rw [List.map_cons, ← List.singleton_append]
    refine hfirst.append (ih fun i hi => h i (List.mem_cons_of_mem _ hi)) ?_
    rintro as bs ⟨l, rfl⟩ hbs
    exact .cons hi hbs

theorem isWord_import : IsWord "import" := by decide

/-- A single import. -/
theorem linesRead_import {i : PackageImport} (h : Readable i) :
    LinesRead (AreItems [.imports [declared i]]) ["import " ++ importLine i] := by
  have hline : IsLine ("import " ++ importLine i)
      fun l => ⟨.name, "import", l, true⟩ :: specTokens i " " false := by
    refine ⟨fun l rest => by simp [Token.spell, spell_specTokens], fun l hl rest => ?_⟩
    refine ⟨⟨hl, Token.front_word isWord_import ?_⟩, fitAll_specTokens h Token.gap_space _⟩
    rw [spell_specTokens]
    rintro c ⟨⟩
    decide
  refine .line hline fun l => IsItem.areItems ⟨⟨_, _, rfl, rfl⟩, fun n _ rest _ => ?_⟩
  have hread := importSpec_specTokens " " false h rest
  obtain ⟨t, us, htokens, -, -, hopen⟩ := specTokens_eq_cons i " " false
  rw [htokens, List.cons_append] at hread
  simp [Grammar.item, Grammar.imports, htokens, hopen, hread]

/-- A group of imports. -/
theorem linesRead_imports {is : List PackageImport} (h : ∀ i ∈ is, Readable i) :
    LinesRead (AreItems [.imports (is.map declared)])
      (["import ("] ++ is.map (fun i => "\t" ++ importLine i) ++ [")"]) := by
  have hopen : LinesRead
      (fun ts => ∃ l, ts = [⟨.name, "import", l, true⟩, ⟨.mark, "(", " ", false⟩])
      ["import ("] := by
    have hline : IsLine "import ("
        fun l => [⟨.name, "import", l, true⟩, ⟨.mark, "(", " ", false⟩] :=
      ⟨fun l rest => by simp [Token.spell], fun l hl rest =>
        ⟨⟨hl, Token.front_word isWord_import Token.spell_space_ends⟩,
          Token.fits_bracket Token.gap_space (by decide) _, trivial⟩⟩
    exact .line hline fun l => ⟨l, rfl⟩
  have hclose : LinesRead (fun ts => ∃ l, ts = [⟨.mark, ")", l, true⟩]) [")"] := by
    have hline : IsLine ")" fun l => [⟨.mark, ")", l, true⟩] :=
      ⟨fun l rest => by simp [Token.spell], fun l hl rest =>
        ⟨Token.fits_bracket hl (by decide) _, trivial⟩⟩
    exact .line hline fun l => ⟨l, rfl⟩
  have hspecs : LinesRead (fun ts => ∃ l specs, AreSpecs is specs
      ∧ ts = [⟨.name, "import", l, true⟩, ⟨.mark, "(", " ", false⟩] ++ specs) _ :=
    hopen.append (linesRead_specs h) (by
      rintro as bs ⟨l, rfl⟩ hbs
      exact ⟨l, bs, hbs, rfl⟩)
  refine hspecs.append hclose ?_
  rintro as bs ⟨l, specs, hspecs, rfl⟩ ⟨l', rfl⟩
  refine IsItem.areItems ⟨⟨_, _, rfl, rfl⟩, fun n _ rest _ => ?_⟩
  have hlines := (hspecs.lines l' rest).2.apply
  simp [Grammar.item, Grammar.imports, hlines]

/-- The item of imports, if there are any. -/
def importItems : List PackageImport → List Item
  | [] => []
  | is => [.imports (is.map declared)]

theorem linesRead_importLines {is : List PackageImport} (h : ∀ i ∈ is, Readable i) :
    LinesRead (AreItems (importItems is)) (importLines is) := by
  have hempty : LinesRead (AreItems []) [""] := .gap gap_empty .nil
  match is with
  | [] => exact .nil .nil
  | [i] =>
    exact hempty.append (linesRead_import (h i List.mem_cons_self)) fun _ _ => AreItems.append
  | i :: j :: is => exact hempty.append (linesRead_imports h) fun _ _ => AreItems.append

/-! ## Files -/

theorem linesRead_functions {plans : List Plan} {prototypes : List Prototype}
    (h : List.Forall₂ Plan.Parses plans prototypes) :
    LinesRead (AreItems (prototypes.map fun s => .function s.decl))
      (plans.flatMap functionLines) := by
  induction h with
  | nil => exact .nil .nil
  | cons hfirst _ ih =>
    rw [List.flatMap_cons, List.map_cons]
    exact hfirst.linesRead.append ih fun _ _ => AreItems.append

/-- The functions are added in order. -/
theorem foldl_add_functions (d : FileDecls) (fs : List FuncDecl) :
    (fs.map Item.function).foldl FileDecls.add d = { d with functions := d.functions ++ fs } := by
  induction fs generalizing d with
  | nil => simp
  | cons f fs ih =>
    rw [List.map_cons, List.foldl_cons, ih]
    simp [FileDecls.add]

/-- The text of a file is the marker and the lines behind it. -/
theorem toList_file (package : String) (is : List PackageImport) (plans : List Plan) :
    (header package is ++ String.join (plans.map function)).toList
      = (marker ++ "\n").toList
        ++ (unlines ([""] ++ ["package " ++ package] ++ importLines is
          ++ plans.flatMap functionLines)).toList := by
  have hjoin : (String.join (plans.map function)).toList
      = (unlines (plans.flatMap functionLines)).toList := by
    induction plans with
    | nil => rfl
    | cons p plans ih =>
      simp [function, toList_unlines, ih]
  simp [header, hjoin, toList_unlines]

/-- The items of a file are found. -/
theorem declarations?_file {package : String} {is : List PackageImport} {plans : List Plan}
    {prototypes : List Prototype} (hpackage : IsName package) (himports : ∀ i ∈ is, Readable i)
    (hplans : List.Forall₂ Plan.Parses plans prototypes) :
    Grammar.declarations? (header package is ++ String.join (plans.map function))
      = some ⟨package, is.map declared, [], prototypes.map Prototype.decl⟩ := by
  have hempty : LinesRead (AreItems []) [""] := .gap gap_empty .nil
  have hlines := ((hempty.append (linesRead_package hpackage) fun _ _ => AreItems.append).append
    (linesRead_importLines himports) fun _ _ => AreItems.append).append
      (linesRead_functions hplans) fun _ _ => AreItems.append
  -- The marker is a comment in front of the package clause; behind the last line is nothing.
  obtain ⟨front, lead, hbehind, hitems⟩ := hlines [] (fun _ => []) fun l hl => by
    rw [List.append_nil]
    exact hl.scans
  have hmarker : Gap (marker ++ "\n").toList true := by
    rw [String.toList_append]
    exact Token.gap_comment (t := " Code generated by map2struct. DO NOT EDIT.".toList)
      (by decide)
  have hscans := hbehind (marker ++ "\n") hmarker
  simp only [List.append_nil] at hscans
  rw [← toList_file] at hscans
  have hhead : (marker ++ "\n").toList.head? = some '/' := rfl
  have hscan := hscans.scan? (by
    rw [toList_file, List.head?_append, hhead, Option.some_or]
    decide)
  have hall := (hitems (marker ++ "\n")).items?
  have hfold : FileDecls.ofItems ([] ++ [Item.package package] ++ importItems is
      ++ prototypes.map fun s => Item.function s.decl)
      = ⟨package, is.map declared, [], prototypes.map Prototype.decl⟩ := by
    have hmap : prototypes.map (fun s => Item.function s.decl)
        = (prototypes.map Prototype.decl).map Item.function := by simp
    have himport : ∀ d : FileDecls, (importItems is).foldl FileDecls.add d
        = { d with imports := d.imports ++ is.map declared } := by
      intro d
      cases is <;> simp [importItems, FileDecls.add]
    rw [FileDecls.ofItems, List.foldl_append, List.foldl_append, himport, hmap,
      foldl_add_functions]
    simp [FileDecls.add, FileDecls.empty]
  rw [Grammar.declarations?, hscan]
  simp only [Option.bind_eq_bind, Option.bind_some, hall, hfold]

/-- **What is written is read back.** A header with any functions is a source file, and what is
declared in it are the package, the imports and the signatures of the plans, in order. -/
theorem parseSource_file [Source.Recovery] {path : Path} {package : String}
    {is : List PackageImport}
    {plans : List Plan} {prototypes : List Prototype} (hpackage : IsName package)
    (himports : ∀ i ∈ is, Readable i) (hplans : List.Forall₂ Plan.Parses plans prototypes) :
    Package.parseSource path (header package is ++ String.join (plans.map function))
      = .ok ⟨package, is.map declared, [], prototypes.map Prototype.decl⟩ := by
  have hne : package ≠ "" := by
    rintro rfl
    exact absurd hpackage (by decide)
  rw [Package.parseSource, declarations?_file hpackage himports hplans]
  exact if_neg hne

end StructFill.Emission

/-! ### A file with a field in each section -/

namespace StructFill.Sample

open Source
open Emission

def shelfImports : List PackageImport :=
  [⟨"example.com/cast", "cast"⟩, ⟨"example.com/shop/v2", "model"⟩]

def shelfField (name key : String) (isPointer : Bool) (strategy : Strategy) : FilledField :=
  ⟨name, key, "", ⟨.struct, .imported "model", name⟩, isPointer, false, strategy⟩

def shelfPlan : Plan :=
  ⟨"genMapToShelf", "src", "map[string]interface\x7b\x7d", "model.Shelf",
    ⟨[shelfField "Any" "a\"\n" false (.direct none),
        shelfField "Rows" "rows" false (.direct (some "cast.ToInt"))],
      [shelfField "Kind" "kind" true (.enumeration "model.Kind" "cast.ToString" none)],
      [shelfField "Name" "name" true (.assign "cast.ToString")],
      [shelfField "Parts" "parts" false (.unsupported "type []Part")], []⟩⟩

def shelfPrototype : Prototype :=
  ⟨"genMapToShelf", "src", "string", .interface true, .qualified "model" "Shelf"⟩

end StructFill.Sample

namespace StructFill.Emission

open Source

theorem parseSource_file_shelf :
    Package.parseSource ⟨"gen.go"⟩
        (header "gen" Sample.shelfImports ++ String.join ([Sample.shelfPlan].map function))
      = .ok ⟨"gen", [⟨"example.com/cast", none⟩, ⟨"example.com/shop/v2", some "model"⟩], [],
        [⟨"genMapToShelf", [⟨some "src", .map (.name "string") (.interface true)⟩],
          [⟨some "obj", .pointer (.qualified "model" "Shelf")⟩,
            ⟨some "err", .name "error"⟩]⟩]⟩ := by
  have hmodel : IsName "model" := by decide
  have hcast : IsName "cast" := by decide
  have hstring : IsReference "cast.ToString" := .qualified (n := "ToString") hcast (by decide) rfl
  have hint : IsReference "cast.ToInt" := .qualified (n := "ToInt") hcast (by decide) rfl
  have hkind : IsReference "model.Kind" := .qualified (n := "Kind") hmodel (by decide) rfl
  have hplan : Sample.shelfPlan.Declares Sample.shelfPrototype := by
    refine ⟨⟨⟨by decide, by decide, by decide, .openInterface,
      .qualified hmodel (by decide)⟩, rfl, rfl, rfl, rfl⟩, by decide, ?_, ?_⟩
    · simp only [Sample.shelfPlan, Buckets.assigned, List.cons_append, List.nil_append,
        List.forall_mem_cons]
      exact ⟨⟨by decide, by simp [Sample.shelfField, Legible]⟩,
        ⟨by decide, by simpa [Sample.shelfField, Legible] using hint⟩,
        ⟨by decide, hkind, hstring⟩, ⟨by decide, hstring⟩, List.forall_mem_nil _⟩
    · have hpart : Token.InLine "Parts".toList ∧ Token.InLine "type []Part".toList := by decide
      exact List.forall_mem_cons.2 ⟨hpart, List.forall_mem_nil _⟩
  have hhelpers : ∀ f ∈ Sample.shelfPlan.buckets.direct, ∀ c ∈ f.strategy.conversion?,
      c ∉ Grammar.allocators := by decide
  have hcasts : ∀ f ∈ Sample.shelfPlan.buckets.enumerations ++ Sample.shelfPlan.buckets.assign,
      ∀ cast c i, f.strategy = .enumeration cast c i → cast ∉ Grammar.allocators := by
    simp [Sample.shelfPlan, Sample.shelfField, Grammar.allocators]
  have hpaths : ∀ i ∈ Sample.shelfImports,
      i.path.toList.all (fun c => decide (Token.IsPlain c)) = true := by decide
  have himports : ∀ i ∈ Sample.shelfImports, Readable i := by
    intro i hi
    refine ⟨?_, fun c hc => of_decide_eq_true (List.all_eq_true.1 (hpaths i hi) c hc)⟩
    simp only [Sample.shelfImports, List.mem_cons, List.not_mem_nil, or_false] at hi
    rcases hi with rfl | rfl
    · exact hcast
    · exact hmodel
  have hdeclared : Sample.shelfImports.map declared
      = [⟨"example.com/cast", none⟩, ⟨"example.com/shop/v2", some "model"⟩] := by decide
  rw [← hdeclared]
  exact parseSource_file (by decide) himports (.cons ⟨hplan, hhelpers, hcasts⟩ .nil)

end StructFill.Emission

/-! ### Names and reasons that are not read -/

namespace StructFill.Sample

open Source
open Emission

def nilPlan : Plan :=
  ⟨"genMapToNil", "src", "map[string]any", "nil", .empty⟩

def nilPrototype : Prototype :=
  ⟨"genMapToNil", "src", "string", .name "any", .name "nil"⟩

def nilLines : List String :=
  ["// Code generated by map2struct. DO NOT EDIT.", "", "package gen", "",
    "func genMapToNil(src map[string]any) (obj *nil, err error) \x7b", "\tobj = &nil\x7b\x7d", "",
    "\treturn obj, err", "\x7d"]

def bookPrototype : Prototype :=
  ⟨"genMapToBook", "src", "string", .name "any", .name "Book"⟩

def bookPlan (b : Buckets) : Plan :=
  ⟨bookPrototype.name, bookPrototype.param, "map[string]any", "Book", b⟩

/-- The lines of a function with these lines in its body. -/
def bookLines (body : List String) : List String :=
  ["// Code generated by map2struct. DO NOT EDIT.", "", "package gen", "",
    "func genMapToBook(src map[string]any) (obj *Book, err error) \x7b",
    "\tobj = &Book\x7b\x7d", ""]
    ++ body ++ ["", "\treturn obj, err", "\x7d"]

def blankPlan : Plan :=
  bookPlan ⟨[shelfField "A B" "a" false (.direct none)], [], [], [], []⟩

def castPlan : Plan :=
  bookPlan ⟨[], [shelfField "Kind" "kind" false (.enumeration "new" "cast.ToInt64" none)], [], [],
    []⟩

def helperPlan : Plan :=
  bookPlan ⟨[shelfField "Id" "id" false (.direct (some "make"))], [], [], [], []⟩

def nullPlan : Plan :=
  bookPlan ⟨[], [], [], [shelfField "Parts" "parts" false (.unsupported "type \x00")], []⟩

end StructFill.Sample

namespace StructFill.Emission

open Source

/-- A text that breaks the grammar is no source file. -/
theorem parseSource_of_lines {path : Path} {text : String} (ls : List String)
    (htext : text = unlines ls)
    (hnone : (Token.scan? (ls.flatMap fun l => l.toList ++ ['\n'])).bind Grammar.items? = none) :
    Package.parseSource path text = .error (.unparsable path "syntax error") := by
  have hdeclarations : Grammar.declarations? text = none := by
    rw [Grammar.declarations?, htext, toList_unlines]
    cases hscan : Token.scan? (ls.flatMap fun l => l.toList ++ ['\n']) with
    | none => rfl
    | some ts => simp_all
  rw [Package.parseSource, hdeclarations]
  rfl

theorem follows_book (b : Buckets) : (Sample.bookPlan b).Follows Sample.bookPrototype :=
  ⟨⟨by decide, by decide, by decide, .name (by decide),
    .name (by decide)⟩, rfl, rfl, rfl, rfl⟩

theorem declares_cast : Sample.castPlan.Declares Sample.bookPrototype := by
  have hnew : IsReference "new" := .name (by decide)
  have hhelper : IsReference "cast.ToInt64" :=
    .qualified (q := "cast") (n := "ToInt64") (by decide) (by decide) rfl
  refine ⟨follows_book _, by decide, ?_, List.forall_mem_nil _⟩
  exact List.forall_mem_cons.2 ⟨⟨by decide, hnew, hhelper⟩, List.forall_mem_nil _⟩

theorem declares_helper : Sample.helperPlan.Declares Sample.bookPrototype := by
  have hmake : IsReference "make" := .name (by decide)
  refine ⟨follows_book _, by decide, ?_, List.forall_mem_nil _⟩
  exact List.forall_mem_cons.2
    ⟨⟨by decide, by simpa [Sample.shelfField, Legible] using hmake⟩, List.forall_mem_nil _⟩

/-- The function of a plan, alone behind a header, breaks the grammar. -/
def Breaks (p : Plan) : Prop :=
  Package.parseSource ⟨"gen.go"⟩ (header "gen" [] ++ String.join ([p].map function))
    = .error (.unparsable ⟨"gen.go"⟩ "syntax error")

section breaks

set_option maxRecDepth 10000

theorem breaks_nil : Breaks Sample.nilPlan := by
  refine parseSource_of_lines Sample.nilLines (by decide) ?_
  simp only [Sample.nilLines, List.flatMap_cons, List.flatMap_nil]
  repeat rw [String.toList_ofList]
  decide

theorem breaks_book :
    Breaks Sample.blankPlan ∧ Breaks Sample.castPlan ∧ Breaks Sample.helperPlan
      ∧ Breaks Sample.nullPlan := by
  refine ⟨
    parseSource_of_lines
      (Sample.bookLines ["\t// assigned directly", "\tobj.A B = src[\"a\"]"]) (by decide) ?_,
    parseSource_of_lines
      (Sample.bookLines ["\t// enum types", "\tif tmp, ok := src[\"kind\"]; ok \x7b",
        "\t\tobj.Kind = new(cast.ToInt64(tmp))", "\t\x7d"]) (by decide) ?_,
    parseSource_of_lines
      (Sample.bookLines ["\t// assigned directly", "\tobj.Id = make(src[\"id\"])"])
      (by decide) ?_,
    parseSource_of_lines
      (Sample.bookLines ["\t// complete by hand", "\t// obj.Parts = ? // type \x00"])
      (by decide) ?_⟩
  -- The characters of the lines are written out before the scanner runs on them.
  all_goals
    simp only [Sample.bookLines, List.cons_append, List.nil_append, List.flatMap_cons,
      List.flatMap_nil]
    repeat rw [String.toList_ofList]
    decide

end breaks

/-- Names that are no keywords, and reasons on one line, are not enough for a file to be read back:
the literal of a type `nil` is no expression, and neither is the selection of a field whose name is
no identifier; `new` and `make` take a type where a cast or a helper takes a value; and the null
character ends a comment. -/
theorem not_parseSource_names :
    (Sample.nilPlan.Follows Sample.nilPrototype ∧ Sample.nilPlan.buckets = .empty
      ∧ Breaks Sample.nilPlan)
      ∧ (Sample.blankPlan.Follows Sample.bookPrototype
        ∧ (∀ f ∈ Sample.blankPlan.buckets.assigned, Token.InLine f.name.toList ∧ Legible f.strategy)
        ∧ Sample.blankPlan.buckets.unsupported = [] ∧ Breaks Sample.blankPlan)
      ∧ (Sample.castPlan.Declares Sample.bookPrototype ∧ Breaks Sample.castPlan)
      ∧ (Sample.helperPlan.Declares Sample.bookPrototype ∧ Breaks Sample.helperPlan)
      ∧ (Sample.nullPlan.Follows Sample.bookPrototype ∧ Sample.nullPlan.buckets.assigned = []
        ∧ (∀ f ∈ Sample.nullPlan.buckets.unsupported, '\n' ∉ f.name.toList
          ∧ ∀ reason, f.strategy = .unsupported reason → '\n' ∉ reason.toList)
        ∧ Breaks Sample.nullPlan) := by
  have hfollows : Sample.nilPlan.Follows Sample.nilPrototype :=
    ⟨⟨by decide, by decide, by decide, .name (by decide),
      .name (by decide)⟩, rfl, rfl, rfl, rfl⟩
  have hblank : ∀ f ∈ Sample.blankPlan.buckets.assigned,
      Token.InLine f.name.toList ∧ Legible f.strategy := by
    have hname : Token.InLine "A B".toList := by decide
    exact List.forall_mem_cons.2
      ⟨⟨hname, by simp [Sample.shelfField, Legible]⟩, List.forall_mem_nil _⟩
  have hnull : ∀ f ∈ Sample.nullPlan.buckets.unsupported, '\n' ∉ f.name.toList
      ∧ ∀ reason, f.strategy = .unsupported reason → '\n' ∉ reason.toList := by
    refine List.forall_mem_cons.2 ⟨⟨by decide, ?_⟩, List.forall_mem_nil _⟩
    rintro reason ⟨⟩
    decide
  obtain ⟨hbreaks, hbreaksCast, hbreaksHelper, hbreaksNull⟩ := breaks_book
  exact ⟨⟨hfollows, rfl, breaks_nil⟩, ⟨follows_book _, hblank, rfl, hbreaks⟩,
    ⟨declares_cast, hbreaksCast⟩, ⟨declares_helper, hbreaksHelper⟩,
    ⟨follows_book _, rfl, hnull, hbreaksNull⟩⟩

end StructFill.Emission
