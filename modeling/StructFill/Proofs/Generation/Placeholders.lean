import StructFill.Proofs.Generation.Regeneration
import StructFill.Proofs.Text.Pieces

/-! # The fields that are left to be filled by hand

  A function lists the fields that it does not fill as comments at its end.
  Each of them is written on what is meant to be one line, behind slashes, with
  the reason why it is not filled.

  **Line breaks.** The text of a reason is written as it is. It quotes types as
  their sources spell them, and messages of the packages that were looked at,
  and either can go over several lines. What comes behind a line break is a
  line of its own, which is a comment only if the text happens to make it one.
  So the comments hold together exactly if the name and the reason of each
  field do.
-/

namespace StructFill

open Source (Field)
open Session (Run)

/-! ## Reasons -/

namespace Classification

variable {w : Surroundings} {style : Naming.Style} {struct : OutputStruct} {map : MapParam}
  {p : Package} {s : Session} {f : Field}

/-- Why a field of a struct of `owner` is left to be filled by hand. -/
inductive Reason (w : Surroundings) (s : Session) (owner : Package) (map : MapParam) (f : Field) :
    String → Prop where
  | embedded (hembedded : f.embedded = true) :
    Reason w s owner map f ("embedded field " ++ f.type.text)
  /-- The type has no name, and is quoted as it is written. -/
  | shape (hembedded : f.embedded = false)
    (hbase : (Descriptor.ofType owner.name f.type).kind ≠ .base)
    (hstruct : (Descriptor.ofType owner.name f.type).kind ≠ .struct) :
    Reason w s owner map f ("type " ++ f.type.text ++ " has no generation strategy")
  | values (hembedded : f.embedded = false)
    (hbase : (Descriptor.ofType owner.name f.type).kind = .base) :
    Reason w s owner map f ("map value type " ++ map.valueType ++ " differs from field type "
      ++ (Descriptor.ofType owner.name f.type).name)
  /-- The package of the type is not imported, or has given an error message. -/
  | unavailable {reason} (hembedded : f.embedded = false)
    (hresolve : (Enumeration.resolve w (Descriptor.ofType owner.name f.type) owner).answer s
      = .ok (.unavailable reason)) : Reason w s owner map f reason
  | chained {underlying} (hembedded : f.embedded = false)
    (hresolve : (Enumeration.resolve w (Descriptor.ofType owner.name f.type) owner).answer s
      = .ok (.chained underlying)) :
    Reason w s owner map f ((Descriptor.ofType owner.name f.type).name ++ " is declared over "
      ++ underlying ++ "; only one level is followed")

theorem reason_of_fieldVerdict {reason : String}
    (h : (fieldVerdict w style struct map p f).answer s = .ok (unsupported reason)) :
    Reason w s struct.owner map f reason := by
  unfold fieldVerdict verdict at h
  cases hembedded : f.embedded with
  | true =>
    rw [hembedded] at h
    obtain rfl := Strategy.unsupported.inj (Verdict.keep.inj (Except.ok.inj h))
    exact .embedded hembedded
  | false =>
    rw [hembedded] at h
    simp only [Bool.false_eq_true, if_false] at h
    cases hkind : (Descriptor.ofType struct.owner.name f.type).kind with
    | base =>
      rw [hkind] at h
      have hprimitive := Except.ok.inj h
      unfold primitive at hprimitive
      -- Only of the last branch comes a field that is not filled.
      split_ifs at hprimitive
      · cases hprimitive
      · cases hprimitive
      · cases hprimitive
      · obtain rfl := Strategy.unsupported.inj (Verdict.keep.inj hprimitive)
        exact .values hembedded hkind
    | struct =>
      rw [hkind] at h
      obtain ⟨e, he, hnamed⟩ := Run.answer_map_eq_ok.1 h
      cases e with
      | unavailable r =>
        obtain rfl := Strategy.unsupported.inj (Verdict.keep.inj hnamed)
        exact .unavailable hembedded he
      | chained underlying =>
        obtain rfl := Strategy.unsupported.inj (Verdict.keep.inj hnamed)
        exact .chained hembedded he
      | found _ _ | undeclared | other _ => cases hnamed
    | interface | pointer | unknown =>
      rw [hkind] at h
      obtain rfl := Strategy.unsupported.inj (Verdict.keep.inj (Except.ok.inj h))
      exact .shape hembedded (by simp [hkind]) (by simp [hkind])

end Classification

/-! ## Lines -/

namespace Emission

/-- The lines of a text each of whose lines is ended. -/
def linesOf (t : String) : List (List Char) :=
  (Text.splitOn (· == '\n') t.toList).dropLast

/-- The line is a comment of the body of a function. -/
def IsComment (l : List Char) : Prop := "\t//".toList <+: l

instance (l : List Char) : Decidable (IsComment l) :=
  inferInstanceAs (Decidable (_ <+: _))

/-- Behind slashes the text stays a comment: each of its line breaks has slashes behind it. -/
def StaysComment (t : String) : Prop :=
  ∀ l ∈ (Text.splitOn (· == '\n') t.toList).tail, IsComment l

instance (t : String) : Decidable (StaysComment t) :=
  inferInstanceAs (Decidable (∀ l ∈ _, _))

/-- The lines of a list of texts, each ended by a line break, are those of each text. -/
theorem linesOf_unlines (ls : List String) :
    linesOf (unlines ls) = ls.flatMap fun l => Text.splitOn (· == '\n') l.toList := by
  rw [linesOf, toList_unlines]
  induction ls with
  | nil => rfl
  | cons l ls ih =>
    rw [List.flatMap_cons, List.append_assoc, List.singleton_append,
      Text.splitOn_append (by decide), List.dropLast_append_of_ne_nil (Text.splitOn_ne_nil _ _), ih,
      List.flatMap_cons]

/-- Only the first line of a text changes with what is in front of it. -/
theorem splitOn_append_of_forall {as : List Char} (h : ∀ c ∈ as, c ≠ '\n') (bs : List Char) :
    ∃ l, Text.splitOn (· == '\n') (as ++ bs)
      = (as ++ l) :: (Text.splitOn (· == '\n') bs).tail := by
  induction as with
  | nil =>
    obtain ⟨l, ls, hbs⟩ := List.exists_cons_of_ne_nil (Text.splitOn_ne_nil (· == '\n') bs)
    exact ⟨l, by simp [hbs]⟩
  | cons a as ih =>
    obtain ⟨l, hl⟩ := ih fun c hc => h c (List.mem_cons_of_mem _ hc)
    have ha : (a == '\n') = false := by simpa using h a List.mem_cons_self
    exact ⟨l, by rw [List.cons_append, Text.splitOn, hl]; simp [ha]⟩

/-! ## Placeholders -/

/-- What a placeholder says behind its slashes. -/
def placeholder (f : FilledField) : String :=
  match f.strategy with
  | .unsupported reason => f.name ++ " = ? // " ++ reason
  | _ => f.name ++ " = ?"

/-- The text of the fields that are left to be filled by hand. -/
def byHand (b : Buckets) : String := unlines (b.unsupported.flatMap placeholderLines)

/-- The text of a function up to these fields. -/
def filled (p : Plan) : String :=
  unlines (["", "func " ++ p.name ++ "(" ++ p.paramName ++ " " ++ p.paramType ++ ") (obj *"
      ++ p.outputType ++ ", err error) \x7b", "\tobj = &" ++ p.outputType ++ "\x7b\x7d"]
    ++ section? "assigned directly" p.buckets.direct (directLines p.paramName)
    ++ section? "enum types" p.buckets.enumerations (guardedLines p.paramName)
    ++ section? "pointer types" p.buckets.assign (guardedLines p.paramName))

theorem unlines_append (ls ls' : List String) : unlines (ls ++ ls') = unlines ls ++ unlines ls' := by
  rw [← String.toList_inj]
  simp [toList_unlines]

/-- The fields stand between their title and the empty line before the return. -/
theorem function_eq_byHand {p : Plan} (h : p.buckets.unsupported ≠ []) :
    function p = filled p ++ "\n\t// complete by hand\n" ++ byHand p.buckets
      ++ "\n\treturn obj, err\n\x7d\n" := by
  have htitle : unlines ["", "\t// complete by hand"] = "\n\t// complete by hand\n" := rfl
  have hreturn : unlines ["", "\treturn obj, err", "\x7d"] = "\n\treturn obj, err\n\x7d\n" := rfl
  have hsection : section? "complete by hand" p.buckets.unsupported placeholderLines
      = ["", "\t// complete by hand"] ++ p.buckets.unsupported.flatMap placeholderLines := by
    rw [section?, if_neg h]
    rfl
  rw [function, functionLines, hsection]
  simp only [filled, byHand, unlines_append, htitle, hreturn, String.append_assoc]

theorem placeholderLines_eq (f : FilledField) :
    placeholderLines f = ["\t// obj." ++ placeholder f] := by
  cases hs : f.strategy <;> simp [placeholderLines, placeholder, hs, String.append_assoc]

/-- A placeholder is made of comments exactly if what it says stays one. -/
theorem comments_placeholder_iff (f : FilledField) :
    (∀ l ∈ Text.splitOn (· == '\n') ("\t// obj." ++ placeholder f).toList, IsComment l)
      ↔ StaysComment (placeholder f) := by
  have hbreak : '\n' ∉ "\t// obj.".toList := by decide
  have hfront : ∀ c ∈ "\t// obj.".toList, c ≠ '\n' := by
    rintro c hc rfl
    exact hbreak hc
  obtain ⟨l, hl⟩ := splitOn_append_of_forall hfront (placeholder f).toList
  have hfirst : IsComment ("\t// obj.".toList ++ l) :=
    (show IsComment "\t// obj.".toList by decide).trans (List.prefix_append _ _)
  rw [String.toList_append, hl, List.forall_mem_cons]
  exact and_iff_right hfirst

/-- The fields are listed as comments exactly if what is said of each of them stays one. -/
theorem comments_byHand_iff (b : Buckets) :
    (∀ l ∈ linesOf (byHand b), IsComment l)
      ↔ ∀ f ∈ b.unsupported, StaysComment (placeholder f) := by
  simp only [byHand, linesOf_unlines, placeholderLines_eq, List.flatMap_assoc, List.flatMap_cons,
    List.flatMap_nil, List.append_nil, List.mem_flatMap, ← comments_placeholder_iff]
  grind

end Emission

/-! ## The functions of a run -/

namespace Classification

variable {w : Surroundings} {style : Naming.Style} {struct : OutputStruct} {map : MapParam}
  {p : Package} {s : Session}

/-- What is said of the fields that are listed is what the verdicts on the fields of the struct
say. -/
theorem staysComment_iff_of_classify {b : Buckets}
    (h : (classify w style struct map p).answer s = .ok b) :
    (∀ e ∈ b.unsupported, Emission.StaysComment (Emission.placeholder e))
      ↔ ∀ f ∈ struct.fields, ∀ reason,
        (fieldVerdict w style struct map p f).answer s = .ok (unsupported reason) →
          Emission.StaysComment (f.name ++ " = ? // " ++ reason) := by
  obtain ⟨placed, hfields, hjudged, hpartition⟩ := classify_partition h
  -- An entry and its field say the same, since the strategy of the entry is the verdict.
  have hstates : ∀ {fv e reason}, Describes style struct.owner fv e → fv.2 = unsupported reason →
      Emission.placeholder e = fv.1.name ++ " = ? // " ++ reason := by
    intro fv e reason hdescribes hv
    have hstrategy : e.strategy = .unsupported reason :=
      Verdict.keep.inj (hdescribes.verdict.symm.trans hv)
    rw [Emission.placeholder, hstrategy, hdescribes.name]
  constructor
  · intro hentries f hf reason hverdict
    rw [← hfields] at hf
    obtain ⟨fv, hplaced, rfl⟩ := List.mem_map.1 hf
    have hv : fv.2 = unsupported reason := Except.ok.inj ((hjudged fv hplaced).symm.trans hverdict)
    obtain ⟨e, he, hdescribes⟩ := hpartition.exists_describes hplaced
      (show fv.2.slot? = some .unsupported by rw [hv]; rfl)
    exact hstates hdescribes hv ▸ hentries e he
  · intro hverdicts e he
    obtain ⟨fv, hplaced, hslot, hdescribes⟩ := hpartition.describes_of_mem (k := .unsupported) he
    obtain ⟨reason, hv⟩ : ∃ reason, fv.2 = unsupported reason := by
      rw [hdescribes.verdict] at hslot ⊢
      cases hs : e.strategy with
      | unsupported reason => exact ⟨reason, rfl⟩
      | direct _ | enumeration _ _ _ | assign _ => simp [hs, Verdict.slot?, Strategy.slot] at hslot
    rw [hstates hdescribes hv]
    refine hverdicts fv.1 ?_ reason (hv ▸ hjudged fv hplaced)
    rw [← hfields]
    exact List.mem_map_of_mem hplaced

end Classification

namespace Generation

open Classification (fieldVerdict unsupported Reason)
open Emission (IsComment StaysComment byHand linesOf)

variable {w : Surroundings} {c : Config} {s : Session}

/-- **Placeholders.** In a function that lists fields at its end, what stands between the title of
the list and the empty line before the return are these fields. All its lines are comments if and
only if the name and the reason of each field stay a comment behind slashes; and a reason is one
of a few sentences, which quote the type of the field, that of the values of the map, or a
message. -/
theorem generate_placeholders {input : Path} {g : Generated}
    (h : (generate w c input).answer s = .ok g) :
    ∃ p told, (Session.openFile w input).answer s = .ok p
      ∧ told.map Prod.fst = Signature.candidates p c.functionStart
      ∧ AllMeet w c p s told ∧ Ledger c told g
      ∧ ∀ d map output struct b, (d, .written map output struct b) ∈ told → b.unsupported ≠ [] →
        (Fate.written map output struct b).function? c d.name = some (c.generatedStart ++ d.name,
          Emission.filled ⟨c.generatedStart ++ d.name, c.paramName, map.typeText,
              output.qualifiedName, b⟩
            ++ "\n\t// complete by hand\n" ++ byHand b ++ "\n\treturn obj, err\n\x7d\n")
        ∧ ((∀ l ∈ linesOf (byHand b), IsComment l) ↔ ∀ f ∈ struct.fields, ∀ reason,
          (fieldVerdict w ⟨c.conversionStart, c.tagKey⟩ struct map p f).answer s
              = .ok (unsupported reason) →
            StaysComment (f.name ++ " = ? // " ++ reason))
        ∧ ∀ f ∈ struct.fields, ∀ reason,
          (fieldVerdict w ⟨c.conversionStart, c.tagKey⟩ struct map p f).answer s
              = .ok (unsupported reason) →
            Reason w s struct.owner map f reason := by
  obtain ⟨p, told, hp, hdecls, hmeets, hledger⟩ := ledger_of_generate h
  refine ⟨p, told, hp, hdecls, hmeets, hledger, ?_⟩
  intro d map output struct b hd hlisted
  have hfate := hmeets _ hd
  cases hfate with
  | written hshape hlocate hclassify =>
    refine ⟨?_, ?_, ?_⟩
    · rw [Fate.function?, Emission.function_eq_byHand hlisted]
    · exact (Emission.comments_byHand_iff b).trans
        (Classification.staysComment_iff_of_classify hclassify)
    · intro f _ reason hverdict
      exact Classification.reason_of_fieldVerdict hverdict

end Generation

/-! ## A type of several lines -/

namespace Sample

def shapeSourceLines : List String :=
  ["package gen", "type Book struct \x7b", "\tA struct \x7b", "\t\tX int", "\t\x7d", "\x7d",
    "func MapToBook(m map[string]any) *Book \x7b return nil \x7d"]

/-- The only field of the struct has a type without a name, which its source writes on three
lines. -/
def shapeModule : Surroundings := moduleOf [(["m", "gen", "gen.go"], shapeSourceLines)]

def shapeText : String := "struct \x7b\n\t\tX int\n\t\x7d"

def shapeFields : List Field := [⟨"A", .other shapeText, .empty, false⟩]

/-- The sources of the package, as they are read. -/
def shapeSource : Path × Source.FileDecls :=
  (⟨"/m/gen/gen.go"⟩, ⟨"gen", [], [⟨"Book", .struct shapeFields, false⟩], [mapToKind]⟩)

def shapeGen : Package := Package.ofFiles "gen" "/m/gen" ⟨"/m/gen"⟩ [shapeSource]

def shapeBuckets : Buckets :=
  ⟨[], [], [], [⟨"A", "", shapeText, ⟨.unknown, .builtin, shapeText⟩, false, false,
    .unsupported ("type " ++ shapeText ++ " has no generation strategy")⟩], []⟩

def shapeFate : Generation.Fate :=
  .written ⟨"string", "any", true⟩ ⟨none, "Book", true⟩ ⟨shapeGen, "Book", shapeFields⟩ shapeBuckets

def shapeFile : Generated := Generation.result {} shapeGen [(mapToKind, shapeFate)]

set_option maxRecDepth 10000 in
theorem openFile_shape :
    (Session.openFile shapeModule ⟨"/m/gen/gen.go"⟩).answer .fresh = .ok shapeGen := by
  have hdecls : Package.Declares (Emission.unlines shapeSourceLines) "gen" shapeSource.2 := by
    have hchars := Emission.toList_unlines shapeSourceLines
    rw [shapeSourceLines] at hchars ⊢
    simp only [List.flatMap_cons, List.flatMap_nil] at hchars
    repeat rw [String.toList_ofList] at hchars
    exact .of_toList hchars (by decide) (by decide) rfl
  have hread : shapeModule.disk.readText ⟨"/m/gen/gen.go"⟩
      = .ok (Emission.unlines shapeSourceLines) := rfl
  have hsources : Package.sourceFiles shapeModule.disk ⟨"/m/gen"⟩ = .ok [⟨"/m/gen/gen.go"⟩] := by
    decide +kernel
  exact Generation.openFile_fresh_iff.2
    ⟨⟨"/m/gen"⟩, rfl, Package.ofDirectory_of_file rfl hsources hread hdecls (by decide)⟩

theorem meets_shape :
    Generation.AllMeet shapeModule {} shapeGen .fresh [(mapToKind, shapeFate)] := by
  intro df hdf
  obtain rfl := List.mem_singleton.1 hdf
  exact .written rfl rfl (by decide)

theorem generate_shape :
    (Generation.generate shapeModule {} ⟨"/m/gen/gen.go"⟩).answer .fresh = .ok shapeFile :=
  Generation.generate_of_meets openFile_shape rfl meets_shape

end Sample

namespace Generation

open Emission (IsComment StaysComment byHand linesOf)

/-- The reason quotes the type. Behind its first line break there are no slashes. -/
theorem generate_placeholders_shape :
    (generate Sample.shapeModule {} ⟨"/m/gen/gen.go"⟩).answer .fresh = .ok Sample.shapeFile
      ∧ Sample.shapeBuckets.unsupported ≠ []
      ∧ ((∀ l ∈ linesOf (byHand Sample.shapeBuckets), IsComment l) ↔
        ∀ f ∈ Sample.shapeFields, ∀ reason,
          (Classification.fieldVerdict Sample.shapeModule ⟨"cast.To", "json"⟩
              ⟨Sample.shapeGen, "Book", Sample.shapeFields⟩ ⟨"string", "any", true⟩
              Sample.shapeGen f).answer .fresh = .ok (Classification.unsupported reason) →
            StaysComment (f.name ++ " = ? // " ++ reason))
      ∧ ¬ StaysComment ("A = ? // type " ++ Sample.shapeText ++ " has no generation strategy") := by
  obtain ⟨p, told, hp, hdecls, hmeets, -, hlisted⟩ := generate_placeholders Sample.generate_shape
  obtain rfl : Sample.shapeGen = p := Except.ok.inj (Sample.openFile_shape.symm.trans hp)
  obtain rfl : told = [(Sample.mapToKind, Sample.shapeFate)] :=
    hmeets.unique Sample.meets_shape hdecls
  have hne : Sample.shapeBuckets.unsupported ≠ [] := List.cons_ne_nil _ _
  exact ⟨Sample.generate_shape, hne, (hlisted _ _ _ _ _ (List.mem_singleton.2 rfl) hne).2.1,
    by decide⟩

/-- The function lists its field on three lines, and only the first one is a comment. -/
theorem byHand_not_comments :
    (generate Sample.shapeModule {} ⟨"/m/gen/gen.go"⟩).answer .fresh = .ok Sample.shapeFile
      ∧ Sample.shapeFile.text = Emission.header "gen" []
        ++ ("" ++ (Emission.filled ⟨"genMapToBook", "src", "map[string]any", "Book",
            Sample.shapeBuckets⟩
          ++ "\n\t// complete by hand\n" ++ byHand Sample.shapeBuckets
          ++ "\n\treturn obj, err\n\x7d\n"))
      ∧ linesOf (byHand Sample.shapeBuckets) =
        ["\t// obj.A = ? // type struct \x7b".toList, "\t\tX int".toList,
          "\t\x7d has no generation strategy".toList]
      ∧ ¬ ∀ l ∈ linesOf (byHand Sample.shapeBuckets), IsComment l := by
  have htext : Emission.function
        ⟨"genMapToBook", "src", "map[string]any", "Book", Sample.shapeBuckets⟩ = _ :=
    Emission.function_eq_byHand (List.cons_ne_nil _ _)
  have hlines : linesOf (byHand Sample.shapeBuckets) =
      ["\t// obj.A = ? // type struct \x7b".toList, "\t\tX int".toList,
        "\t\x7d has no generation strategy".toList] := by
    decide
  refine ⟨Sample.generate_shape, ?_, hlines, ?_⟩
  · rw [← htext]
    rfl
  · rw [hlines]
    decide

end Generation
end StructFill
