import Mathlib.Data.List.Forall2
import StructFill.Proofs.Session.Transparency

/-! # Every field lands in one list

  Classification puts the fields of a struct into five lists. Here each
  position of the struct is paired with its **verdict**, and the lists are
  shown to be the positions with the verdicts that belong to them, in the order
  of the declaration: no field is lost, none is put down twice, and what is put
  down describes the field that stands at the position.

  Verdicts are answers of the session in which classification starts. That
  fields are classified one after the other, each with the memory that the
  fields before it left behind, makes no difference.
-/

namespace StructFill

open Source (Field)
open Session (Run Transparent)

/-! ## Lists of fields -/

/-- The lists of fields that have a strategy. -/
inductive Slot where
  | direct
  | enumeration
  | assign
  /-- The fields that are left to be filled by hand. -/
  | unsupported
deriving DecidableEq

/-- The list to which a strategy belongs. -/
def Strategy.slot : Strategy → Slot
  | .direct _ => .direct
  | .enumeration .. => .enumeration
  | .assign _ => .assign
  | .unsupported _ => .unsupported

namespace Buckets

/-- The fields of one list. -/
def entries (b : Buckets) : Slot → List FilledField
  | .direct => b.direct
  | .enumeration => b.enumerations
  | .assign => b.assign
  | .unsupported => b.unsupported

@[simp] theorem entries_empty (k : Slot) : empty.entries k = [] := by
  cases k <;> rfl

@[simp] theorem dropped_empty : empty.dropped = [] := rfl

/-- A field that is added goes behind the others of its strategy, and to no other list. -/
theorem entries_add (b : Buckets) (e : FilledField) (k : Slot) :
    (b.add e).entries k = b.entries k ++ if e.strategy.slot = k then [e] else [] := by
  rcases e with ⟨_, _, _, _, _, _, s⟩
  cases s <;> cases k <;> simp [add, entries, Strategy.slot]

@[simp] theorem dropped_add (b : Buckets) (e : FilledField) : (b.add e).dropped = b.dropped := by
  rcases e with ⟨_, _, _, _, _, _, s⟩
  cases s <;> rfl

@[simp] theorem entries_drop (b : Buckets) (d : DroppedField) (k : Slot) :
    (b.drop d).entries k = b.entries k := by
  cases k <;> rfl

@[simp] theorem dropped_drop (b : Buckets) (d : DroppedField) :
    (b.drop d).dropped = b.dropped ++ [d] := rfl

/-- The fields that are assigned are those of all lists but one. -/
theorem mem_assigned_iff {b : Buckets} {e : FilledField} :
    e ∈ b.assigned ↔ ∃ k, k ≠ .unsupported ∧ e ∈ b.entries k := by
  unfold assigned
  rw [List.mem_append, List.mem_append]
  constructor
  · intro he
    rcases he with (he | he) | he
    · exact ⟨.direct, by decide, he⟩
    · exact ⟨.enumeration, by decide, he⟩
    · exact ⟨.assign, by decide, he⟩
  · intro ⟨k, hk, he⟩
    cases k with
    | direct => exact .inl (.inl he)
    | enumeration => exact .inl (.inr he)
    | assign => exact .inr he
    | unsupported => exact absurd rfl hk

end Buckets

namespace Classification

/-! ## Verdicts -/

/-- The list for a verdict; a field that is dropped belongs to none with a strategy. -/
def Verdict.slot? : Verdict → Option Slot
  | .keep s => some s.slot
  | .drop _ => none

/-- What becomes of a field of a struct. -/
def fieldVerdict (w : Surroundings) (style : Naming.Style) (struct : OutputStruct) (map : MapParam)
    (p : Package) (f : Field) : Run Verdict :=
  verdict w style struct map p f (Descriptor.ofType struct.owner.name f.type)

/-- The buckets with one more field, whose verdict is known. -/
def putField (style : Naming.Style) (map : MapParam) (owner : Package) (b : Buckets)
    (fv : Field × Verdict) : Buckets :=
  place style map fv.1 (Descriptor.ofType owner.name fv.1.type) b fv.2

variable {w : Surroundings} {style : Naming.Style} {struct : OutputStruct} {map : MapParam}
  {p : Package} {s : Session}

/-- The fields `placed` stand with the verdicts that the session gives on them. -/
def Judged (w : Surroundings) (style : Naming.Style) (struct : OutputStruct) (map : MapParam)
    (p : Package) (s : Session) (placed : List (Field × Verdict)) : Prop :=
  ∀ fv ∈ placed, (fieldVerdict w style struct map p fv.1).answer s = .ok fv.2

/-- Fields are put into buckets one after the other, each by the verdict that the session gives
on it at the start. -/
theorem classifyFields_eq_ok {fields : List Field} {b b' : Buckets}
    (h : (classifyFields w style struct map p fields b).answer s = .ok b') :
    ∃ placed : List (Field × Verdict), placed.map Prod.fst = fields
      ∧ Judged w style struct map p s placed
      ∧ b' = placed.foldl (putField style map struct.owner) b := by
  -- The buckets change with every field, the session that is asked does not.
  induction fields generalizing b with
  | nil =>
    refine ⟨[], rfl, ?_, ?_⟩
    · intro fv hfv
      simp at hfv
    · simpa [classifyFields, eq_comm] using h
  | cons f rest ih =>
    rw [classifyFields, (transparent_verdict f _).answer_bind_eq_ok
      fun v => transparent_classifyFields rest _] at h
    obtain ⟨v, hv, hrest⟩ := h
    obtain ⟨placed, hfields, hjudged, rfl⟩ := ih hrest
    refine ⟨(f, v) :: placed, by simp [hfields], ?_, rfl⟩
    intro fv hfv
    rcases List.mem_cons.1 hfv with rfl | hfv
    · exact hv
    · exact hjudged fv hfv

/-- What `classify` answers is determined by the verdicts on the fields. -/
theorem classify_eq_ok {b : Buckets}
    (h : (classify w style struct map p).answer s = .ok b) :
    ∃ placed : List (Field × Verdict), placed.map Prod.fst = struct.fields
      ∧ Judged w style struct map p s placed
      ∧ b = placed.foldl (putField style map struct.owner) .empty :=
  classifyFields_eq_ok h

theorem classifyFields_of_judged {placed : List (Field × Verdict)} {fields : List Field}
    (hfields : placed.map Prod.fst = fields) (h : Judged w style struct map p s placed)
    (b : Buckets) : (classifyFields w style struct map p fields b).answer s
      = .ok (placed.foldl (putField style map struct.owner) b) := by
  subst hfields
  induction placed generalizing b with
  | nil => rfl
  | cons fv rest ih =>
    have hrest := ih (fun fv' hfv' => h fv' (List.mem_cons_of_mem _ hfv'))
      (putField style map struct.owner b fv)
    rw [List.map_cons, classifyFields, (transparent_verdict fv.1 _).answer_bind_eq_ok
      fun v => transparent_classifyFields _ _]
    exact ⟨fv.2, h fv List.mem_cons_self, hrest⟩

/-- The verdicts on the fields determine what `classify` answers. -/
theorem classify_of_judged {placed : List (Field × Verdict)}
    (hfields : placed.map Prod.fst = struct.fields) (h : Judged w style struct map p s placed) :
    (classify w style struct map p).answer s
      = .ok (placed.foldl (putField style map struct.owner) .empty) :=
  classifyFields_of_judged hfields h .empty

/-! ## The partition -/

/-- The positions that land in one list (`none` for the dropped ones), in order. -/
def landing (k : Option Slot) (placed : List (Field × Verdict)) : List (Field × Verdict) :=
  placed.filter fun fv => fv.2.slot? = k

@[simp] theorem landing_nil (k : Option Slot) : landing k [] = [] := rfl

theorem landing_snoc (k : Option Slot) (placed : List (Field × Verdict)) (fv : Field × Verdict) :
    landing k (placed ++ [fv]) = landing k placed ++ if fv.2.slot? = k then [fv] else [] := by
  rw [landing, List.filter_append]
  by_cases h : fv.2.slot? = k <;> simp [landing, h]

/-- An entry describes the field of a struct of `owner` that stands at a position, with the
strategy of its verdict. -/
structure Describes (style : Naming.Style) (owner : Package) (fv : Field × Verdict)
    (e : FilledField) : Prop where
  verdict : fv.2 = .keep e.strategy
  name : e.name = fv.1.name
  key : e.key = fv.1.tag.keyName style.tagKey
  typeText : e.typeText = fv.1.type.text
  descriptor : e.descriptor = Descriptor.ofType owner.name fv.1.type
  isPointer : e.isPointer = fv.1.type.isPointer

/-- The lists of `b` are the positions of `placed` by their verdicts. -/
structure Partition (style : Naming.Style) (owner : Package) (placed : List (Field × Verdict))
    (b : Buckets) : Prop where
  /-- Each list with a strategy has an entry for each of its positions, in order. -/
  entries : ∀ k, List.Forall₂ (Describes style owner) (landing (some k) placed) (b.entries k)
  /-- The dropped fields are those of the positions that remain. -/
  dropped : b.dropped.map (·.name) = (landing none placed).map (·.1.name)
  size : b.size = placed.length

theorem partition_empty : Partition style p [] .empty where
  entries k := by simp
  dropped := rfl
  size := rfl

/-- One more field goes to exactly one list, and there behind all others. -/
theorem partition_putField {placed : List (Field × Verdict)} {b : Buckets} {owner : Package}
    (fv : Field × Verdict) (h : Partition style owner placed b) :
    Partition style owner (placed ++ [fv]) (putField style map owner b fv) := by
  obtain ⟨f, v⟩ := fv
  cases v with
  | keep strategy =>
    refine ⟨?_, ?_, ?_⟩
    · intro k
      rw [landing_snoc, putField, place, Buckets.entries_add]
      refine List.rel_append (h.entries k) ?_
      -- The new entry stands in the list of its strategy, where it describes the new position.
      by_cases hk : strategy.slot = k
      · simpa [Verdict.slot?, hk] using Describes.mk rfl rfl rfl rfl rfl rfl
      · simp [Verdict.slot?, hk]
    · rw [landing_snoc, putField, place, Buckets.dropped_add]
      simpa [Verdict.slot?] using h.dropped
    · rw [putField, place, Buckets.size_add, h.size]
      simp
  | drop reason =>
    -- No list with a strategy grows, the one of the dropped fields does.
    refine ⟨?_, ?_, ?_⟩
    · intro k
      rw [landing_snoc, putField, place, Buckets.entries_drop]
      simpa [Verdict.slot?] using h.entries k
    · rw [landing_snoc, putField, place, Buckets.dropped_drop]
      simpa [Verdict.slot?] using h.dropped
    · rw [putField, place, Buckets.size_drop, h.size]
      simp

/-- Whole lists of fields are partitioned, whatever was put into the buckets before. -/
theorem partition_foldl {before : List (Field × Verdict)} {b : Buckets} {owner : Package}
    (h : Partition style owner before b) (placed : List (Field × Verdict)) :
    Partition style owner (before ++ placed) (placed.foldl (putField style map owner) b) := by
  induction placed generalizing before b with
  | nil => simpa using h
  | cons fv rest ih => simpa using ih (partition_putField fv h)

theorem classify_partition {b : Buckets}
    (h : (classify w style struct map p).answer s = .ok b) :
    ∃ placed : List (Field × Verdict), placed.map Prod.fst = struct.fields
      ∧ Judged w style struct map p s placed ∧ Partition style struct.owner placed b := by
  obtain ⟨placed, hfields, hjudged, rfl⟩ := classify_eq_ok h
  exact ⟨placed, hfields, hjudged, partition_foldl partition_empty placed⟩

/-- Each entry of a list describes one of the fields that landed there. -/
theorem Partition.describes_of_mem {placed : List (Field × Verdict)} {b : Buckets}
    {owner : Package} (h : Partition style owner placed b) {k : Slot} {e : FilledField}
    (he : e ∈ b.entries k) :
    ∃ fv ∈ placed, fv.2.slot? = some k ∧ Describes style owner fv e := by
  obtain ⟨i, hi, rfl⟩ := List.getElem_of_mem he
  have hi' : i < (landing (some k) placed).length := by rwa [(h.entries k).length_eq]
  have hlanded := List.getElem_mem hi'
  obtain ⟨hplaced, hslot⟩ := List.mem_filter.1 hlanded
  exact ⟨_, hplaced, by simpa using hslot, (h.entries k).get hi' hi⟩

/-- Each field that landed in a list is described by one of its entries. -/
theorem Partition.exists_describes {placed : List (Field × Verdict)} {b : Buckets}
    {owner : Package} (h : Partition style owner placed b) {k : Slot} {fv : Field × Verdict}
    (hfv : fv ∈ placed) (hslot : fv.2.slot? = some k) :
    ∃ e ∈ b.entries k, Describes style owner fv e := by
  have hlanded : fv ∈ landing (some k) placed := List.mem_filter.2 ⟨hfv, by simpa using hslot⟩
  obtain ⟨i, hi, rfl⟩ := List.getElem_of_mem hlanded
  have hi' : i < (b.entries k).length := by rwa [← (h.entries k).length_eq]
  exact ⟨_, List.getElem_mem hi', (h.entries k).get hi hi'⟩

/-! ## Positions -/

/-- The positions that land in one list, in increasing order. Each position lands in the one
list that `slot` gives it. -/
def positions {n : Nat} (slot : Fin n → Option Slot) (k : Option Slot) : List (Fin n) :=
  (List.finRange n).filter fun i => slot i = k

theorem slot_of_mem_positions {n : Nat} {slot : Fin n → Option Slot} {k : Option Slot} {i : Fin n}
    (h : i ∈ positions slot k) : slot i = k := by
  simpa [positions] using h

/-- An entry of the list `k` carries what a field declares. -/
structure Carries (style : Naming.Style) (k : Slot) (f : Field) (e : FilledField) : Prop where
  slot : e.strategy.slot = k
  name : e.name = f.name
  key : e.key = f.tag.keyName style.tagKey
  typeText : e.typeText = f.type.text
  isPointer : e.isPointer = f.type.isPointer

section positions

variable {placed : List (Field × Verdict)} {fields : List Field}

theorem lt_length_placed (h : placed.map Prod.fst = fields) (i : Fin fields.length) :
    i.val < placed.length := by
  rw [← List.length_map Prod.fst, h]
  exact i.isLt

/-- The field at a position, with the verdict on it. -/
def placedAt (h : placed.map Prod.fst = fields) (i : Fin fields.length) : Field × Verdict :=
  placed.get ⟨i.val, lt_length_placed h i⟩

theorem placedAt_mem (h : placed.map Prod.fst = fields) (i : Fin fields.length) :
    placedAt h i ∈ placed :=
  List.getElem_mem _

/-- The list in which a position lands: that of the verdict on its field. -/
def slotAt (h : placed.map Prod.fst = fields) (i : Fin fields.length) : Option Slot :=
  (placedAt h i).2.slot?

theorem landing_eq_map_positions (h : placed.map Prod.fst = fields) (k : Option Slot) :
    landing k placed = (positions (slotAt h) k).map (placedAt h) := by
  have hlength : fields.length = placed.length := by rw [← h, List.length_map]
  have hall : (List.finRange fields.length).map (placedAt h) = placed :=
    List.ext_getElem (by simp [hlength]) (by simp [placedAt])
  -- Read off the positions, the filter on verdicts is one on positions.
  conv_lhs => rw [← hall]
  rw [landing, List.filter_map]
  rfl

theorem fst_placedAt (h : placed.map Prod.fst = fields) (i : Fin fields.length) :
    (placedAt h i).1 = fields.get i := by
  simp [placedAt, ← h]

/-- Each list describes its positions, in order. -/
theorem Partition.describes_positions {b : Buckets} {owner : Package}
    (hpartition : Partition style owner placed b)
    (h : placed.map Prod.fst = fields) (k : Slot) :
    List.Forall₂ (fun i e => slotAt h i = some k
        ∧ Describes style owner (placedAt h i) e)
      (positions (slotAt h) (some k)) (b.entries k) := by
  have hentries := hpartition.entries k
  rw [landing_eq_map_positions h, List.forall₂_map_left_iff] at hentries
  exact (List.forall₂_and_left _ _).2 ⟨fun _ => slot_of_mem_positions, hentries⟩

theorem carries_of_describes {owner : Package} (h : placed.map Prod.fst = fields)
    {i : Fin fields.length} {k : Slot} {e : FilledField} (hslot : slotAt h i = some k)
    (he : Describes style owner (placedAt h i) e) :
    Carries style k (fields.get i) e := by
  rw [slotAt, he.verdict] at hslot
  have hfield := fst_placedAt h i
  exact ⟨Option.some.inj hslot, hfield ▸ he.name, hfield ▸ he.key, hfield ▸ he.typeText,
    hfield ▸ he.isPointer⟩

/-- Each list has an entry for each of its positions, in order. -/
theorem Partition.entries_positions {b : Buckets} {owner : Package}
    (hpartition : Partition style owner placed b)
    (h : placed.map Prod.fst = fields) (k : Slot) :
    List.Forall₂ (fun i e => Carries style k (fields.get i) e)
      (positions (slotAt h) (some k)) (b.entries k) :=
  (hpartition.describes_positions h k).imp fun _ _ ⟨hslot, he⟩ => carries_of_describes h hslot he

theorem Partition.dropped_positions {b : Buckets} {owner : Package}
    (hpartition : Partition style owner placed b)
    (h : placed.map Prod.fst = fields) :
    b.dropped.map (·.name) = (positions (slotAt h) none).map (fun i => (fields.get i).name) := by
  rw [hpartition.dropped, landing_eq_map_positions h, List.map_map]
  refine List.map_congr_left fun i _ => ?_
  rw [← fst_placedAt h i]
  rfl

end positions

end Classification

/-! ## A struct to look at -/

namespace Sample

open Source (FuncDecl)

/-- Surroundings in which nothing is found that a session does not remember. -/
def surroundings : Surroundings := ⟨⟨.empty, []⟩, ⟨fun _ => .ok none, none⟩, none⟩

def style : Naming.Style := ⟨"cast.To", "json"⟩

def kinds : Package :=
  { Package.bare "kinds" "m/kinds" ⟨"/m/kinds"⟩ with
    types := [⟨"Kind", .named (.name "uint8"), false⟩]
    typeIndex := [("Kind", 0)] }

/-- The fields of a struct, at least one for each of the five lists. -/
def bookFields : List Field :=
  [⟨"Title", .name "string", ⟨[("json", "title")]⟩, false⟩,
   ⟨"Pages", .pointer (.name "int"), ⟨[("json", "pages,omitempty")]⟩, false⟩,
   ⟨"Status", .name "Status", ⟨[("json", "status")]⟩, false⟩,
   ⟨"Kind", .pointer (.qualified "kinds" "Kind"), ⟨[("json", "kind")]⟩, false⟩,
   ⟨"Author", .name "Author", .empty, false⟩,
   ⟨"Notes", .map (.name "string") (.name "string"), .empty, false⟩,
   ⟨"Status", .name "Status", .empty, true⟩]

/-- Functions of every fate, and one that is no conversion function. -/
def functions : List FuncDecl :=
  [⟨"MapToBook", [⟨some "src", .map (.name "string") (.interface true)⟩],
    [⟨none, .pointer (.name "Book")⟩]⟩,
   ⟨"MapToGhost", [⟨some "src", .map (.name "string") (.name "any")⟩], [⟨none, .name "Ghost"⟩]⟩,
   ⟨"MapToNothing", [], []⟩,
   ⟨"MapToWreck", [⟨none, .map (.name "string") (.name "any")⟩],
    [⟨none, .qualified "broken" "Wreck"⟩]⟩,
   ⟨"check", [], []⟩]

def package : Package :=
  { Package.bare "gen" "/gen" ⟨"/gen"⟩ with
    imports := [("broken", "m/broken"), ("kinds", "m/kinds")]
    qualifiers := [("m/broken", "broken"), ("m/kinds", "kinds")]
    types := [⟨"Status", .named (.name "int64"), false⟩, ⟨"Author", .struct [], false⟩,
      ⟨"Book", .struct bookFields, false⟩]
    typeIndex := [("Author", 1), ("Book", 2), ("Status", 0)]
    functions := functions }

/-- A session that has read the package, and has failed to read one of its imports. -/
def session : Session :=
  { packages := [("/gen", package), ("m/kinds", kinds)]
    failures := [("m/broken", .unparsable ⟨"/m/broken"⟩ "syntax error")] }

def book : OutputStruct := ⟨package, "Book", bookFields⟩

def openMap : MapParam := ⟨"string", "any", true⟩

def buckets : Buckets where
  direct :=
    [⟨"Title", "title", "string", ⟨.base, .builtin, "string"⟩, false, false,
      .direct (some "cast.ToString")⟩]
  enumerations :=
    [⟨"Status", "status", "Status", ⟨.struct, .local "gen", "Status"⟩, false, false,
      .enumeration "Status" "cast.ToInt64" none⟩,
     ⟨"Kind", "kind", "*kinds.Kind", ⟨.struct, .imported "kinds", "Kind"⟩, true, false,
      .enumeration "kinds.Kind" "cast.ToUint8" (some ⟨"m/kinds", "kinds"⟩)⟩]
  assign :=
    [⟨"Pages", "pages", "*int", ⟨.base, .builtin, "int"⟩, true, false, .assign "cast.ToInt"⟩]
  unsupported :=
    [⟨"Notes", "", "map[string]string", ⟨.unknown, .builtin, "map[string]string"⟩, false, false,
      .unsupported "type map[string]string has no generation strategy"⟩,
     ⟨"Status", "", "Status", ⟨.struct, .local "gen", "Status"⟩, false, false,
      .unsupported "embedded field Status"⟩]
  dropped := [⟨"Author", "type Author is a struct, not a named primitive"⟩]

theorem classify_book :
    (Classification.classify surroundings style book openMap package).answer session
      = .ok buckets := by
  rfl

end Sample

namespace Classification

variable {w : Surroundings} {style : Naming.Style} {struct : OutputStruct} {map : MapParam}
  {p : Package} {s : Session}

/-- Every position of the struct lands in exactly one of the five lists, each list keeps the
order of the declaration, and its entries carry what the fields at their positions declare. -/
theorem classify_complete {b : Buckets}
    (h : (classify w style struct map p).answer s = .ok b) :
    ∃ slot : Fin struct.fields.length → Option Slot,
      (∀ k, List.Forall₂ (fun i e => Carries style k (struct.fields.get i) e)
        (positions slot (some k)) (b.entries k))
      ∧ b.dropped.map (·.name) = (positions slot none).map (fun i => (struct.fields.get i).name)
      ∧ b.size = struct.fields.length := by
  obtain ⟨placed, hfields, -, hpartition⟩ := classify_partition h
  refine ⟨slotAt hfields, hpartition.entries_positions hfields,
    hpartition.dropped_positions hfields, ?_⟩
  rw [hpartition.size, ← hfields, List.length_map]

theorem classify_complete_book :
    (classify Sample.surroundings Sample.style Sample.book Sample.openMap Sample.package).answer
        Sample.session = .ok Sample.buckets
      ∧ ∃ slot : Fin Sample.book.fields.length → Option Slot,
        (∀ k, List.Forall₂ (fun i e => Carries Sample.style k (Sample.book.fields.get i) e)
          (positions slot (some k)) (Sample.buckets.entries k))
        ∧ Sample.buckets.dropped.map (·.name)
          = (positions slot none).map (fun i => (Sample.book.fields.get i).name)
        ∧ Sample.buckets.size = Sample.book.fields.length :=
  ⟨Sample.classify_book, classify_complete Sample.classify_book⟩

end Classification
end StructFill
