import StructFill.Proofs.Emission.Typing
import StructFill.Proofs.Source.Literal

/-! # The imports of the header, as a compiler reads them

  A line of the header that imports a package has a name, or none, and the path
  as a literal. Without a name the compiler takes the one that the package
  declares, of which the emitter knows nothing: it leaves a name out where the
  path suggests it.

  **Reading.** `importOf?` reads one line by the rules of the language. The
  lines of a header are read as the imports for which they were written, with
  the name of an import wherever the path does not suggest it. A line whose
  name is no identifier is no import, and least of all another one.
-/

namespace StructFill

namespace Text

theorem cutFirst?_append {sep : Char} {as : List Char} (h : sep ∉ as) (bs : List Char) :
    cutFirst? sep (as ++ sep :: bs) = some (as, bs) := by
  induction as with
  | nil => simp [cutFirst?]
  | cons a as ih =>
    obtain ⟨hne, hrest⟩ := not_or.1 (mt List.mem_cons.2 h)
    simp [cutFirst?, Ne.symm hne, ih hrest]

/-- A text is cut at its first separator, and what follows comes behind the second piece. -/
theorem cutFirst?_append_of_mem {sep : Char} {as : List Char} (h : sep ∈ as) (bs : List Char) :
    ∃ as₁ as₂, cutFirst? sep (as ++ bs) = some (as₁, as₂ ++ bs) := by
  induction as with
  | nil => cases h
  | cons a as ih =>
    by_cases ha : a = sep
    · exact ⟨[], as, by simp [cutFirst?, ha]⟩
    · obtain ⟨as₁, as₂, hcut⟩ := ih ((List.mem_cons.1 h).resolve_left (Ne.symm ha))
      exact ⟨a :: as₁, as₂, by simp [cutFirst?, ha, hcut]⟩

end Text

namespace Source

/-! ## Identifiers -/

/-- A name that a source can use for a package: letters and digits with a letter in front. It is
neither blank nor a word of the language. -/
def IsIdentifier (n : String) : Prop :=
  (∃ c cs, n.toList = c :: cs ∧ Token.isNameStart c = true ∧ cs.all Token.isNamePart = true)
    ∧ n ∉ "_" :: Typing.keywords

instance (n : String) : Decidable (IsIdentifier n) :=
  have : Decidable (∃ c cs, n.toList = c :: cs ∧ Token.isNameStart c = true
      ∧ cs.all Token.isNamePart = true) :=
    match h : n.toList with
    | [] => .isFalse (by simp)
    | c :: cs => decidable_of_iff (Token.isNameStart c = true ∧ cs.all Token.isNamePart = true)
        (by simp)
  inferInstanceAs (Decidable (_ ∧ _))

/-- Each character of an identifier is one of a name. -/
theorem IsIdentifier.isNamePart {n : String} (h : IsIdentifier n) {c : Char}
    (hc : c ∈ n.toList) : Token.isNamePart c = true := by
  obtain ⟨⟨c₀, cs, hn, hstart, hparts⟩, -⟩ := h
  rw [hn] at hc
  rcases List.mem_cons.1 hc with rfl | hc
  · simp [Token.isNamePart, hstart]
  · exact List.all_eq_true.1 hparts c hc

end Source

namespace PackageImport

theorem mem_insert {i a : PackageImport} {is : List PackageImport} :
    i ∈ insert a is ↔ i = a ∨ i ∈ is := by
  induction is with
  | nil => simp [insert]
  | cons b rest ih =>
    rw [insert]
    split
    next h => simp [h]
    next =>
      split
      · simp
      · simp only [List.mem_cons, ih]
        grind

/-- Putting imports in order loses none and adds none. -/
@[simp] theorem mem_ordered {i : PackageImport} {is : List PackageImport} :
    i ∈ ordered is ↔ i ∈ is := by
  induction is with
  | nil => simp [ordered]
  | cons a rest ih =>
    have hcons : ordered (a :: rest) = insert a (ordered rest) := rfl
    rw [hcons, mem_insert, ih, List.mem_cons]

end PackageImport

namespace Emission

open Source (IsIdentifier Token.isNamePart)
open Source.Literal (leading? scan? length_le_of_scan? leading?_encode)
open Source.Quoted (encode encodeChar quote)

theorem toList_unlines (ls : List String) :
    (unlines ls).toList = ls.flatMap fun l => l.toList ++ ['\n'] := by
  induction ls with
  | nil => rfl
  | cons l ls ih =>
    change (l ++ "\n" ++ unlines ls).toList = _
    simp [ih]

/-! ## Reading a line -/

/-- The value of a text that is one literal. -/
def literal? (cs : List Char) : Option String :=
  match leading? cs with
  | some (v, []) => some (String.ofList v)
  | _ => none

/-- The name of an import, if there is one, and its path. A blank name and a dot bind no name for
the package, so that they are left aside. -/
def spec? (cs : List Char) : Option (Option String × String) :=
  if cs.head? = some '"' then (literal? cs).map fun path => (none, path)
  else
    match Text.cutFirst? ' ' cs with
    | some (name, rest) =>
      if IsIdentifier (String.ofList name) then
        (literal? rest).map fun path => (some (String.ofList name), path)
      else none
    | none => none

/-- What a line of the header imports: the line has the keyword at its front, or is indented. -/
def importOf? (line : String) : Option (Option String × String) :=
  match line.toList with
  | '\t' :: cs => spec? cs
  | cs => ("import ".toList.isPrefixOf? cs).bind spec?

/-! ## Reading what is written -/

theorem literal?_encode (cs : List Char) : literal? (encode cs) = some (String.ofList cs) := by
  have hread := leading?_encode cs []
  rw [List.append_nil] at hread
  rw [literal?, hread]

/-- Nothing that comes before a blank and a literal makes one literal with it. -/
theorem literal?_append_encode (as cs : List Char) : literal? (as ++ ' ' :: encode cs) = none := by
  unfold literal?
  split
  next v h =>
    exfalso
    cases as with
    | nil => cases h
    | cons a as =>
      by_cases ha : a = '"'
      · -- The literal ends at the next quote at the latest, with more text behind it.
        subst ha
        have hlength := length_le_of_scan? (show scan? .text
          (as ++ ' ' :: '"' :: (cs.flatMap encodeChar ++ ['"'])) = some (v, []) from h)
        simp at hlength
      · simp [leading?, ha] at h
  next => rfl

/-- A name and a path are read as such if the name is an identifier, and not at all otherwise. -/
theorem spec?_named (n : String) (cs : List Char) :
    spec? (n.toList ++ ' ' :: encode cs)
      = if IsIdentifier n then some (some n, String.ofList cs) else none := by
  by_cases hn : IsIdentifier n
  · have hblank : ' ' ∉ n.toList := fun hc => absurd (hn.isNamePart hc) (by decide)
    have hquote : (n.toList ++ ' ' :: encode cs).head? ≠ some '"' := by
      obtain ⟨⟨c, rest, hlist, -⟩, -⟩ := id hn
      rintro hhead
      obtain rfl : c = '"' := by simpa [hlist] using hhead
      exact absurd (hn.isNamePart (by rw [hlist]; exact List.mem_cons_self)) (by decide)
    rw [spec?, if_neg hquote, Text.cutFirst?_append hblank]
    simp [hn, literal?_encode]
  · rw [if_neg hn, spec?]
    split
    · rw [literal?_append_encode]
      rfl
    · by_cases hblank : ' ' ∈ n.toList
      · -- The name is cut at its blank, and what follows it is no literal.
        obtain ⟨as₁, as₂, hcut⟩ := Text.cutFirst?_append_of_mem hblank (' ' :: encode cs)
        rw [hcut]
        simp [literal?_append_encode]
      · rw [Text.cutFirst?_append hblank]
        simp [hn]

/-- The name of an import that is written. -/
def writtenName? (i : PackageImport) : Option String :=
  if Package.defaultName i.path = i.name then none else some i.name

/-- An import is read as what is written, unless its name is written and is no identifier. -/
theorem spec?_importLine (i : PackageImport) :
    spec? (importLine i).toList
      = if ∀ n, writtenName? i = some n → IsIdentifier n then some (writtenName? i, i.path)
        else none := by
  unfold importLine writtenName?
  split
  · have hliteral : (quote i.path).toList = encode i.path.toList := String.toList_ofList
    have hhead : (encode i.path.toList).head? = some '"' := rfl
    rw [hliteral, spec?, if_pos hhead, literal?_encode]
    simp
  · have hline : (i.name ++ " " ++ quote i.path).toList
        = i.name.toList ++ ' ' :: encode i.path.toList := by
      simp [quote]
    rw [hline, spec?_named]
    simp

/-- The lines of a header are read as its imports, in order. -/
theorem filterMap_importOf?_importLines (is : List PackageImport) :
    (importLines is).filterMap importOf? = is.filterMap fun i => spec? (importLine i).toList := by
  have htab : ∀ t : String, importOf? ("\t" ++ t) = spec? t.toList := by
    intro t
    rw [importOf?, String.toList_append]
    rfl
  have hkeyword : ∀ t : String, importOf? ("import " ++ t) = spec? t.toList := by
    intro t
    have hrest : "import ".toList.isPrefixOf? ("import ".toList ++ t.toList) = some t.toList :=
      List.isPrefixOf?_eq_some_iff_append_eq.2 rfl
    rw [importOf?, String.toList_append]
    exact congrArg (Option.bind · spec?) hrest
  -- A header has no import, one on a line of its own, or a group. The brackets and the empty line
  -- are read as none.
  rcases is with _ | ⟨i, _ | ⟨j, rest⟩⟩
  · rfl
  · have hfirst : importOf? "" = none := rfl
    simp only [importLines, List.filterMap_cons, List.filterMap_nil, hfirst, hkeyword]
  · have hfirst : importOf? "" = none := rfl
    have hopen : importOf? "import (" = none := by decide
    have hclose : importOf? ")" = none := by decide
    simp only [importLines, List.filterMap_append, List.filterMap_cons, List.filterMap_nil, hfirst,
      hopen, hclose, List.filterMap_map, List.nil_append, List.append_nil]
    simp [htab]

/-! ## Lines and imports -/

/-- The name of an import is what is written, or else what the path suggests. -/
theorem getD_writtenName? (i : PackageImport) :
    (writtenName? i).getD (Package.defaultName i.path) = i.name := by
  unfold writtenName?
  split
  next h => exact h
  next => rfl

/-- A line of a header is read as one of the imports. -/
theorem exists_of_importOf? {is : List PackageImport} {line path : String} {name? : Option String}
    (hline : line ∈ importLines is) (hread : importOf? line = some (name?, path)) :
    ∃ i ∈ is, writtenName? i = name? ∧ i.path = path := by
  have hmem := List.mem_filterMap.2 ⟨line, hline, hread⟩
  rw [filterMap_importOf?_importLines] at hmem
  obtain ⟨i, hi, hspec⟩ := List.mem_filterMap.1 hmem
  rw [spec?_importLine] at hspec
  split at hspec
  · exact ⟨i, hi, by simpa using hspec⟩
  · cases hspec

/-- An import whose name is an identifier is read from one of the lines. -/
theorem exists_importOf? {is : List PackageImport} {i : PackageImport} (hi : i ∈ is)
    (hname : IsIdentifier i.name) :
    ∃ line ∈ importLines is, importOf? line = some (writtenName? i, i.path) := by
  have hwritten : ∀ n, writtenName? i = some n → IsIdentifier n := by
    intro n hn
    unfold writtenName? at hn
    split at hn
    · cases hn
    · rwa [← Option.some.inj hn]
  have hspec : spec? (importLine i).toList = some (writtenName? i, i.path) := by
    rw [spec?_importLine, if_pos hwritten]
  rw [← List.mem_filterMap, filterMap_importOf?_importLines]
  exact List.mem_filterMap.2 ⟨i, hi, hspec⟩

end Emission
end StructFill
