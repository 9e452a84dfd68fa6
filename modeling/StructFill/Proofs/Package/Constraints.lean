import Mathlib.Data.List.DropRight
import StructFill.Proofs.Package.Bindings
import StructFill.Proofs.Package.Selection
import StructFill.Proofs.Text.Pieces

/-! # What a build constraint hides

  A build constraint is a condition on tags. Whether a file counts is not
  decided by its truth: a file keeps itself out as soon as its constraint names
  the tag `ignore`, whatever stands around the name.

  **Truth and mention.** A condition that does not name the tag never hides its
  file, be it true or not. One that names it always does, also where it is true
  without the tag, as `!ignore` is.
-/

namespace StructFill

open Files (Disk Tree Entry)
open Source (FileDecls)

namespace Source

/-! ## Conditions -/

/-- A condition on build tags. -/
inductive Condition where
  | tag (name : List Char)
  | not (c : Condition)
  | and (c d : Condition)
  | or (c d : Condition)
deriving DecidableEq

namespace Condition

/-- Whether a condition is true, given the tags that hold. -/
def eval (holds : List Char → Bool) : Condition → Bool
  | tag name => holds name
  | not c => !c.eval holds
  | and c d => c.eval holds && d.eval holds
  | or c d => c.eval holds || d.eval holds

/-- The tags that a condition names, from left to right. -/
def tags : Condition → List (List Char)
  | tag name => [name]
  | not c => c.tags
  | and c d => c.tags ++ d.tags
  | or c d => c.tags ++ d.tags

/-- The tag that marks files to be ignored. -/
def ignore : List Char := "ignore".toList

/-- A condition that some choice of the tags makes true, without the tag for ignored files. -/
def Live (c : Condition) : Prop := ∃ holds, holds ignore = false ∧ c.eval holds = true

/-- How a condition is written. The rank tells what may stand there without parentheses: at rank 0 a
choice, at rank 1 a conjunction, at rank 2 a negation, and at rank 3 a tag. -/
inductive Written : Nat → Condition → List Char → Prop
  | tag {name} (hne : name ≠ []) (hname : ∀ x ∈ name, isTagChar x = true) :
      Written 3 (.tag name) name
  | parens {c cs} (h : Written 0 c cs) : Written 3 c ('(' :: (cs ++ [')']))
  | not {c cs} (h : Written 2 c cs) : Written 2 (.not c) ('!' :: cs)
  | and {c d cs ds} (hc : Written 1 c cs) (hd : Written 2 d ds) :
      Written 1 (.and c d) (cs ++ '&' :: '&' :: ds)
  | or {c d cs ds} (hc : Written 0 c cs) (hd : Written 1 d ds) :
      Written 0 (.or c d) (cs ++ '|' :: '|' :: ds)
  | looser {n c cs} (h : Written (n + 1) c cs) : Written n c cs
  | before {n c cs x} (hx : Unicode.isBlank x = true) (h : Written n c cs) : Written n c (x :: cs)
  | behind {n c cs x} (hx : Unicode.isBlank x = true) (h : Written n c cs) :
      Written n c (cs ++ [x])

end Condition

/-! ## The words of a constraint -/

/-- The words that a constraint is cut into. -/
def words (cs : List Char) : List (List Char) :=
  (Text.splitOn (fun x => !isTagChar x) cs).filter (· ≠ [])

theorem mentionsIgnore_iff {cs : List Char} :
    mentionsIgnore cs = true ↔ Condition.ignore ∈ words cs := by
  unfold mentionsIgnore words
  rw [List.contains_iff_mem, List.mem_filter]
  exact ⟨fun h => ⟨h, by decide⟩, And.left⟩

/-- A character that no tag has ends a word. -/
theorem words_append {x : Char} (hx : isTagChar x = false) (as bs : List Char) :
    words (as ++ x :: bs) = words as ++ words bs := by
  unfold words
  rw [Text.splitOn_append (by simp [hx]), List.filter_append]

theorem words_cons {x : Char} (hx : isTagChar x = false) (cs : List Char) :
    words (x :: cs) = words cs :=
  words_append hx [] cs

theorem words_concat {x : Char} (hx : isTagChar x = false) (cs : List Char) :
    words (cs ++ [x]) = words cs := by
  rw [words_append hx]
  exact List.append_nil _

theorem words_tag {name : List Char} (hne : name ≠ []) (hname : ∀ x ∈ name, isTagChar x = true) :
    words name = [name] := by
  unfold words
  rw [Text.splitOn_of_forall fun x hx => by simp [hname x hx]]
  simp [hne]

/-- The blank characters, by their numbers. -/
def blankPoints : List Nat :=
  List.range' 9 5 ++ [0x20, 0x85, 0xa0, 0x1680] ++ List.range' 0x2000 11
    ++ [0x2028, 0x2029, 0x202f, 0x205f, 0x3000]

theorem toNat_mem_blankPoints {x : Char} (hx : Unicode.isBlank x = true) :
    x.toNat ∈ blankPoints := by
  simp only [Unicode.isBlank, Bool.or_eq_true, Bool.and_eq_true, decide_eq_true_eq,
    beq_iff_eq] at hx
  simp only [blankPoints, List.mem_append, List.mem_range'_1, List.mem_cons, List.not_mem_nil]
  omega

/-- A blank is no character of a tag. -/
theorem isTagChar_of_isBlank {x : Char} (hx : Unicode.isBlank x = true) : isTagChar x = false := by
  have hall : ∀ n ∈ blankPoints, isTagChar (Char.ofNat n) = false := by decide +kernel
  have hpoint := hall x.toNat (toNat_mem_blankPoints hx)
  rwa [Char.ofNat_toNat] at hpoint

/-- The words of a condition are its tags: operators, parentheses and blanks only separate them. -/
theorem Condition.Written.words_eq {n : Nat} {c : Condition} {cs : List Char}
    (h : c.Written n cs) : words cs = c.tags := by
  induction h with
  | tag hne hname => exact words_tag hne hname
  | parens _ ih => rw [words_cons (by decide), words_concat (by decide), ih]
  | not _ ih =>
    rw [words_cons (by decide), ih]
    rfl
  | and _ _ ihc ihd =>
    rw [words_append (by decide), words_cons (by decide), ihc, ihd]
    rfl
  | or _ _ ihc ihd =>
    rw [words_append (by decide), words_cons (by decide), ihc, ihd]
    rfl
  | looser _ ih => exact ih
  | before hx _ ih => rw [words_cons (isTagChar_of_isBlank hx), ih]
  | behind hx _ ih => rw [words_concat (isTagChar_of_isBlank hx), ih]

end Source

/-! ## Blanks at the end of a line -/

namespace Text

variable {drop : Char → Bool}

theorem trim_cons {x : Char} (hx : drop x = false) (cs : List Char) :
    trim drop (x :: cs) = (x :: cs).rdropWhile drop := by
  unfold trim
  rw [List.dropWhile_cons_of_neg (by simp [hx])]
  rfl

/-- Up to a character that stays, nothing is dropped. -/
theorem rdropWhile_append {x : Char} (hx : drop x = false) (as bs : List Char) :
    (as ++ x :: bs).rdropWhile drop = as ++ x :: bs.rdropWhile drop := by
  induction bs using List.reverseRecOn with
  | nil => exact List.rdropWhile_concat_neg drop as x (by simp [hx])
  | append_singleton bs y ih =>
    have hlast : as ++ x :: (bs ++ [y]) = (as ++ x :: bs) ++ [y] := by simp
    rw [hlast]
    by_cases hy : drop y = true
    · rw [List.rdropWhile_concat_pos drop _ y hy, List.rdropWhile_concat_pos drop _ y hy, ih]
    · rw [List.rdropWhile_concat_neg drop _ y hy, List.rdropWhile_concat_neg drop _ y hy, hlast]

end Text

namespace Source

/-- Blanks behind a text add no word. -/
theorem words_rdropWhile (cs : List Char) : words (cs.rdropWhile Unicode.isBlank) = words cs := by
  induction cs using List.reverseRecOn with
  | nil => rfl
  | append_singleton cs x ih =>
    by_cases hx : Unicode.isBlank x = true
    · rw [List.rdropWhile_concat_pos _ cs x hx, ih, words_concat (isTagChar_of_isBlank hx)]
    · rw [List.rdropWhile_concat_neg _ cs x hx]

/-! ## The lines above the package clause -/

/-- A line that the search for a constraint ends at. -/
def OpensPackage (line : List Char) : Prop :=
  "package ".toList.isPrefixOf (Text.trimBlanks line) = true

instance (line : List Char) : Decidable (OpensPackage line) :=
  inferInstanceAs (Decidable (_ = true))

/-- A line that the search for a constraint passes over. -/
structure Passed (line : List Char) : Prop where
  unconstrained : constraint? (Text.trimBlanks line) = none
  inside : ¬ OpensPackage line

/-- A text has one line that looks like a constraint, up to the line that opens its package. -/
structure Constrained (source : String) (expression : List Char) : Prop where
  lines : ∃ above between below,
    Text.splitOn (· == '\n') source.toList
        = above ++ ("//go:build ".toList ++ expression) :: (between ++ below)
      ∧ (∀ line ∈ above, Passed line) ∧ (∀ line ∈ between, Passed line)
      ∧ ∀ line ∈ below.head?, OpensPackage line

theorem ignoredLines_append {above : List (List Char)} (h : ∀ line ∈ above, Passed line)
    (rest : List (List Char)) : ignoredLines (above ++ rest) = ignoredLines rest := by
  induction above with
  | nil => rfl
  | cons line above ih =>
    obtain ⟨hconstraint, hinside⟩ := h line List.mem_cons_self
    have hrest := ih fun l hl => h l (List.mem_cons_of_mem _ hl)
    calc ignoredLines (line :: (above ++ rest))
        = (((constraint? (Text.trimBlanks line)).any mentionsIgnore)
            || ignoredLines (above ++ rest)) := if_neg hinside
      _ = ignoredLines rest := by rw [hconstraint, hrest, Option.any_none, Bool.false_or]

theorem ignoredLines_of_opens {below : List (List Char)}
    (h : ∀ line ∈ below.head?, OpensPackage line) : ignoredLines below = false := by
  cases below with
  | nil => rfl
  | cons line below =>
    have hopens : OpensPackage line := h line rfl
    exact if_pos hopens

/-- The line of a constraint, without the blanks around it. -/
theorem trimBlanks_constraint (expression : List Char) :
    Text.trimBlanks ("//go:build ".toList ++ expression)
      = "//go:build".toList ++ (' ' :: expression).rdropWhile Unicode.isBlank := by
  have hline : "//go:build ".toList ++ expression
      = '/' :: ("/go:buil".toList ++ 'd' :: ' ' :: expression) := rfl
  rw [hline, Text.trimBlanks, Text.trim_cons (by decide)]
  exact Text.rdropWhile_append (by decide) "//go:buil".toList (' ' :: expression)

theorem ignoredLines_constraint (expression : List Char) (rest : List (List Char)) :
    ignoredLines (("//go:build ".toList ++ expression) :: rest)
      = (mentionsIgnore ((' ' :: expression).rdropWhile Unicode.isBlank)
        || ignoredLines rest) := by
  rw [ignoredLines, trimBlanks_constraint]
  generalize (' ' :: expression).rdropWhile Unicode.isBlank = tail
  have hclause : "package ".toList.isPrefixOf ("//go:build".toList ++ tail) = false := rfl
  have hconstraint : constraint? ("//go:build".toList ++ tail) = some tail := rfl
  simp only [hclause, hconstraint]
  rfl

/-- **What hides a file.** A file whose only constraint is a condition on tags keeps itself out if and
only if the condition names the tag for ignored files. -/
theorem isIgnored_iff {source : String} {c : Condition} {expression : List Char}
    (hwritten : c.Written 0 expression) (hlines : Constrained source expression) :
    isIgnored source = true ↔ Condition.ignore ∈ c.tags := by
  obtain ⟨above, between, below, hsource, habove, hbetween, hbelow⟩ := hlines.lines
  have hblank : isTagChar ' ' = false := by decide
  rw [isIgnored, hsource, ignoredLines_append habove, ignoredLines_constraint,
    ignoredLines_append hbetween, ignoredLines_of_opens hbelow, Bool.or_false,
    mentionsIgnore_iff, words_rdropWhile, words_cons hblank, hwritten.words_eq]

end Source

/-! ## The file in its directory -/

namespace Package

/-- What a file declares and imports has its place in a package. Of several declarations of a type
the first one counts, and of several imports of a name the last one. -/
structure Covers (p : Package) (decls : FileDecls) : Prop where
  functions : ∀ f ∈ decls.functions, f ∈ p.functions
  types : ∀ t ∈ decls.types, ∃ t', p.findType? t.name = some t'
  imports : ∀ b ∈ decls.bindings, ∃ path, p.importPathOf? b.1 = some path

theorem covers_ofFiles {name importPath : String} {dir : Path} {files : List (Path × FileDecls)}
    {f : Path × FileDecls} (hf : f ∈ files) : (ofFiles name importPath dir files).Covers f.2 where
  functions g hg := by
    rw [functions_ofFiles]
    exact List.mem_flatMap.2 ⟨f, hf, hg⟩
  types t ht := by
    rw [findType?_ofFiles, ← Option.isSome_iff_exists, List.find?_isSome]
    exact ⟨t, List.mem_flatMap.2 ⟨f, hf, ht⟩, by simp⟩
  imports b hb := by
    obtain ⟨i, hi, hb⟩ := List.mem_flatMap.1 hb
    have hmem : b ∈ ((importsOf files).flatMap Source.Import.bindings).reverse :=
      List.mem_reverse.2 (List.mem_flatMap.2 ⟨i, List.mem_flatMap.2 ⟨f, hf, hi⟩, hb⟩)
    rw [importPathOf?_ofFiles, ← Option.isSome_iff_exists, List.lookup_isSome_iff]
    exact ⟨b, hmem, by simp⟩

/-- Files that are read are read one by one. -/
theorem exists_readFile_of_readFiles [Source.Recovery] {d : Disk} {paths : List Path}
    {files : List (Path × FileDecls)} (h : readFiles d paths = .ok files) {path : Path}
    (hpath : path ∈ paths) :
    ∃ decls?, readFile d path = .ok decls? ∧ ∀ decls ∈ decls?, (path, decls) ∈ files := by
  induction paths generalizing files with
  | nil => cases hpath
  | cons first rest ih =>
    obtain ⟨first?, others, hfirst, hrest, rfl⟩ := readFiles_cons_eq_ok_iff.1 h
    by_cases hhere : path ∈ rest
    · obtain ⟨decls?, hread, hmem⟩ := ih hrest hhere
      exact ⟨decls?, hread, fun decls hdecls => List.mem_append_right _ (hmem decls hdecls)⟩
    · obtain rfl : path = first := (List.mem_cons.1 hpath).resolve_right hhere
      refine ⟨first?, hfirst, ?_⟩
      intro decls hdecls
      obtain rfl := Option.mem_def.1 hdecls
      exact List.mem_append_left _ (by simp)

theorem mem_sourcePaths {dir : Path} {entries : List (String × Entry)} {n : String}
    {content : Files.Content} {executable : Bool} (h : (n, Entry.file content executable) ∈ entries)
    (hsource : isSourceFile ⟨n⟩ = true) : dir.joinName n ∈ sourcePaths dir entries := by
  refine List.mem_map.2 ⟨_, List.mem_filter.2 ⟨h, ?_⟩, rfl⟩
  exact isSourceEntry_iff.2 ⟨⟨content, executable, rfl⟩, hsource⟩

/-- **Constraints and packages.** Let a source of a directory have a condition on tags as its only
constraint. It keeps itself out if and only if the condition names the tag for ignored files. If so,
it is not among the files of the package. If not, it can be parsed, and if the package has its name,
the file and all that it declares are part of the package. -/
theorem ofDirectory_constrained [Source.Recovery] {d : Disk} {dir : Path}
    {importPath n text : String} {p : Package} {c : Source.Condition} {expression : List Char}
    (hp : ofDirectory d dir importPath = .ok p) (hsource : HasSource d dir n)
    (htext : d.readText (dir.joinName n) = .ok text) (hwritten : c.Written 0 expression)
    (hlines : Source.Constrained text expression) :
    (Source.isIgnored text = true ↔ Source.Condition.ignore ∈ c.tags)
      ∧ (Source.Condition.ignore ∈ c.tags → dir.joinName n ∉ p.files)
      ∧ (Source.Condition.ignore ∉ c.tags →
        ∃ decls, parseSource (dir.joinName n) text = .ok decls
          ∧ (decls.package = p.name → dir.joinName n ∈ p.files ∧ p.Covers decls)) := by
  have hiff := Source.isIgnored_iff hwritten hlines
  obtain ⟨entries, content, executable, hlist, hentry, hname⟩ := hsource
  obtain ⟨files, hfiles, -, hpackage⟩ := ofDirectory_eq_ok hlist hp
  obtain ⟨decls?, hread, hmem⟩ :=
    exists_readFile_of_readFiles hfiles (mem_sourcePaths hentry hname)
  refine ⟨hiff, ?_, ?_⟩
  · intro hmentioned hfile
    rw [hpackage, files_ofFiles] at hfile
    obtain ⟨⟨path, decls⟩, hf, rfl⟩ := List.mem_map.1 hfile
    -- A file of the package was read, and did not keep itself out.
    have hkept := readFile_of_mem_readFiles hfiles (List.mem_filter.1 hf).1
    obtain ⟨text', htext', hkept, -⟩ := readFile_eq_ok_some_iff.1 hkept
    obtain rfl : text' = text := Except.ok.inj (htext'.symm.trans htext)
    simp [hiff.2 hmentioned] at hkept
  · intro hnot
    have hkept : Source.isIgnored text = false := by
      rw [Bool.eq_false_iff]
      exact fun h => hnot (hiff.1 h)
    rw [readFile, htext] at hread
    simp only [hkept] at hread
    cases hparse : parseSource (dir.joinName n) text with
    | error e => simp [hparse, Except.map] at hread
    | ok decls =>
      obtain rfl : some decls = decls? := by simpa [hparse, Except.map] using hread
      refine ⟨decls, rfl, ?_⟩
      intro hsame
      have hf : (dir.joinName n, decls) ∈ files.filter fun f => f.2.package == p.name :=
        List.mem_filter.2 ⟨hmem decls rfl, by simp [hsame]⟩
      rw [hpackage]
      refine ⟨?_, covers_ofFiles hf⟩
      rw [files_ofFiles]
      exact List.mem_map.2 ⟨_, hf, rfl⟩

end Package

/-! ## A condition that names other tags, and one that is true without the tag -/

namespace Sample

open Source (Condition)

def portableText : String :=
  "// Shelves.\n\n//go:build !ignored && (linux || go1.18)\n\npackage shelf\ntype Shelf int\n"

def portable : Condition :=
  .and (.not (.tag "ignored".toList)) (.or (.tag "linux".toList) (.tag "go1.18".toList))

def portableDisk : Disk :=
  ⟨Tree.empty.plant ["m", "a.go"] (.file (.text portableText) false), []⟩

def portablePackage : Package :=
  Package.ofFiles "shelf" "m" ⟨"/m"⟩ [(⟨"/m/a.go"⟩, shelfDecls)]

theorem written_portable :
    portable.Written 0 "!ignored && (linux || go1.18)".toList := by
  have hlinux : Condition.Written 3 (.tag "linux".toList) "linux".toList :=
    .tag (by decide) (List.all_eq_true.1 (by decide))
  have hversion : Condition.Written 3 (.tag "go1.18".toList) "go1.18".toList :=
    .tag (by decide) (List.all_eq_true.1 (by decide))
  have hignored : Condition.Written 3 (.tag "ignored".toList) "ignored".toList :=
    .tag (by decide) (List.all_eq_true.1 (by decide))
  have hblank : Unicode.isBlank ' ' = true := by decide
  exact .looser (.and (.behind hblank (.looser (.not (.looser hignored))))
    (.before hblank (.looser (.parens (.or (.behind hblank (.looser (.looser (.looser hlinux))))
      (.before hblank (.looser (.looser hversion))))))))

theorem constrained_portable :
    Source.Constrained portableText "!ignored && (linux || go1.18)".toList where
  lines := by
    refine ⟨["// Shelves.".toList, []], [[]],
      ["package shelf".toList, "type Shelf int".toList, []], by decide, ?_, ?_, ?_⟩
    · intro line hline
      rcases List.mem_pair.1 hline with rfl | rfl
      · exact ⟨by decide, by decide⟩
      · exact ⟨by decide, by decide⟩
    · intro line hline
      obtain rfl := List.mem_singleton.1 hline
      exact ⟨by decide, by decide⟩
    · intro line hline
      obtain rfl := Option.mem_some.1 hline
      decide

theorem declares_portable : Package.Declares portableText "shelf" shelfDecls := by
  have hchars : portableText.toList = portableText.toList := rfl
  conv_rhs at hchars => rw [portableText, String.toList_ofList]
  exact .of_toList hchars (by decide) (by decide) rfl

theorem ofDirectory_portable :
    Package.ofDirectory portableDisk ⟨"/m"⟩ "m" = .ok portablePackage := by
  have hsources : Package.sourceFiles portableDisk ⟨"/m"⟩ = .ok [⟨"/m/a.go"⟩] := by
    decide +kernel
  exact Package.ofDirectory_of_file rfl hsources rfl declares_portable (by decide)

theorem hasSource_portable : Package.HasSource portableDisk ⟨"/m"⟩ "a.go" :=
  ⟨[("a.go", .file (.text portableText) false)], .text portableText, false, by decide +kernel,
    by simp, by decide⟩

/-- True where the tag for ignored files does not hold. -/
def negatedText : String := "//go:build !ignore\n\npackage m\n\ntype A int\n"

end Sample

namespace Package

open Sample

/-- The condition names a tag that begins like the one for ignored files. Its file is kept. -/
theorem ofDirectory_constrained_portable :
    ofDirectory portableDisk ⟨"/m"⟩ "m" = .ok portablePackage
      ∧ HasSource portableDisk ⟨"/m"⟩ "a.go"
      ∧ portableDisk.readText ((Path.mk "/m").joinName "a.go") = .ok portableText
      ∧ portable.Written 0 "!ignored && (linux || go1.18)".toList
      ∧ Source.Constrained portableText "!ignored && (linux || go1.18)".toList
      ∧ portable.Live
      ∧ Source.isIgnored portableText = false
      ∧ ⟨"/m/a.go"⟩ ∈ portablePackage.files := by
  have htext : portableDisk.readText ((Path.mk "/m").joinName "a.go") = .ok portableText := rfl
  have hnot : Source.Condition.ignore ∉ portable.tags := by decide
  obtain ⟨hiff, -, hkept⟩ := ofDirectory_constrained ofDirectory_portable hasSource_portable htext
    written_portable constrained_portable
  obtain ⟨decls, hparse, hcovers⟩ := hkept hnot
  have hdecls : decls = shelfDecls := by
    obtain ⟨text', htext', -, hparse'⟩ := readFile_eq_ok_some_iff.1
      (declares_portable.readFile (by decide) htext)
    obtain rfl : text' = portableText := Except.ok.inj (htext'.symm.trans htext)
    exact Except.ok.inj (hparse.symm.trans hparse')
  refine ⟨ofDirectory_portable, hasSource_portable, htext, written_portable, constrained_portable,
    ⟨fun name => name == "linux".toList, by decide, by decide⟩, ?_, ?_⟩
  · rw [Bool.eq_false_iff]
    exact fun h => hnot (hiff.1 h)
  · exact (hcovers (by rw [hdecls]; rfl)).1

end Package

namespace Source

open Sample

/-- The condition holds where no tag does, and still hides the file. -/
theorem isIgnored_negated :
    (Condition.not (.tag Condition.ignore)).Live
      ∧ (Condition.not (.tag Condition.ignore)).Written 0 "!ignore".toList
      ∧ Constrained negatedText "!ignore".toList
      ∧ isIgnored negatedText = true := by
  refine ⟨⟨fun _ => false, rfl, rfl⟩, ?_, ⟨?_⟩, by decide⟩
  · have hignore : Condition.Written 3 (.tag Condition.ignore) Condition.ignore :=
      .tag (by decide) (List.all_eq_true.1 (by decide))
    exact .looser (.looser (.not (.looser hignore)))
  · refine ⟨[], [[]], ["package m".toList, [], "type A int".toList, []], by decide, ?_, ?_, ?_⟩
    · simp
    · intro line hline
      obtain rfl := List.mem_singleton.1 hline
      exact ⟨by decide, by decide⟩
    · intro line hline
      obtain rfl := Option.mem_some.1 hline
      decide

end Source
end StructFill
