import StructFill.Proofs.Emission.Execution

/-! # What is decided is done

  The buckets say how each field of a struct is to be filled. The function that
  is written for them is executed here, and the result is compared with the
  struct, field by field.

  **Names.** A field is stored by its name, so it keeps what it was filled with
  if no other field has the name. A field without a name cannot be stored at
  all.

  **The exception.** A function makes no sense if one of its own variables
  takes a name that its body needs. This happens: a type may be called `tmp`.
-/

namespace StructFill.Execution

open Classification
open Source (Field)

/-! ## Positions of a struct -/

section positions

variable {surroundings : Surroundings} {style : Naming.Style} {struct : OutputStruct}
  {map : MapParam} {p : Package} {session : Session} {placed : List (Field × Verdict)}
  {fields : List Field} {b : Buckets}

/-- Fields with different names are told apart by them. -/
theorem name_injective (hnames : (fields.map (·.name)).Nodup) {i j : Fin fields.length}
    (h : (fields.get i).name = (fields.get j).name) : i = j := by
  have hi : i.val < (fields.map (·.name)).length := by simp
  have hj : j.val < (fields.map (·.name)).length := by simp
  have hinj : (fields.map (·.name))[i.val] = (fields.map (·.name))[j.val] → i.val = j.val :=
    hnames.getElem_inj_iff.1
  apply Fin.ext
  apply hinj
  simpa using h

/-- The positions of the fields that are assigned, list by list. -/
def assignedPositions {n : Nat} (slot : Fin n → Option Slot) : List (Fin n) :=
  positions slot (some .direct) ++ positions slot (some .enumeration)
    ++ positions slot (some .assign)

theorem nodup_assignedPositions {n : Nat} (slot : Fin n → Option Slot) :
    (assignedPositions slot).Nodup := by
  have hone : ∀ k, (positions slot k).Nodup := fun k => (List.nodup_finRange n).filter _
  have htwo : ∀ {k k' : Option Slot}, k ≠ k' → (positions slot k).Disjoint (positions slot k') := by
    intro k k' hne i hi hi'
    exact hne ((slot_of_mem_positions hi).symm.trans (slot_of_mem_positions hi'))
  refine ((hone _).append (hone _) (htwo (by simp))).append (hone _) ?_
  exact List.disjoint_append_left.2 ⟨htwo (by simp), htwo (by simp)⟩

theorem Sorted.of_partition {owner : Package} (h : Partition style owner placed b) : Sorted b := by
  intro k e he
  obtain ⟨fv, -, hslot, hdescribes⟩ := h.describes_of_mem he
  rw [hdescribes.verdict] at hslot
  exact Option.some.inj hslot

section partition

variable {owner : Package} (hpartition : Partition style owner placed b)
  (h : placed.map Prod.fst = fields)

include hpartition in
theorem map_name_assigned :
    b.assigned.map (·.name)
      = (assignedPositions (slotAt h)).map fun i => (fields.get i).name := by
  have hentries : ∀ k, (b.entries k).map (·.name)
      = (positions (slotAt h) (some k)).map fun i => (fields.get i).name := by
    intro k
    have hcarries := (hpartition.entries_positions h k).imp fun _ _ hc => hc.name.symm
    rw [← List.forall₂_eq_eq_eq, List.forall₂_map_left_iff, List.forall₂_map_right_iff]
    exact hcarries.flip.imp fun _ _ hname => hname.symm
  have hassigned : b.assigned
      = b.entries .direct ++ b.entries .enumeration ++ b.entries .assign := rfl
  simp only [hassigned, assignedPositions, List.map_append, hentries]

include hpartition h in
/-- The names of the fields that are assigned are names of the struct, each once. -/
theorem nodup_assigned (hnames : (fields.map (·.name)).Nodup) :
    (b.assigned.map (·.name)).Nodup := by
  rw [map_name_assigned hpartition h]
  exact (nodup_assignedPositions _).map fun i j => name_injective hnames

include hpartition in
/-- A field that is not assigned has another name than those that are. -/
theorem not_mem_assigned (hnames : (fields.map (·.name)).Nodup) {i : Fin fields.length}
    (hi : slotAt h i = none ∨ slotAt h i = some .unsupported) :
    (fields.get i).name ∉ b.assigned.map (·.name) := by
  rw [map_name_assigned hpartition h]
  intro hmem
  obtain ⟨j, hj, hname⟩ := List.mem_map.1 hmem
  obtain rfl := name_injective hnames hname
  simp only [assignedPositions, List.mem_append] at hj
  rcases hj with (hj | hj) | hj
  all_goals
    rw [slot_of_mem_positions hj] at hi
    simp at hi

end partition

/-- No pointer is assigned without a guard. -/
theorem isPointer_of_direct {f : Field} {v : Verdict} {e : FilledField}
    (hv : (fieldVerdict surroundings style struct map p f).answer session = .ok v)
    (hdescribes : Describes style struct.owner (f, v) e) (hslot : e.strategy.slot = .direct) :
    f.type.isPointer = false := by
  have hkeep : v = .keep e.strategy := hdescribes.verdict
  have hassigned : e.strategy.slot ≠ .unsupported := by simp [hslot]
  rcases fieldVerdict_cases hv with ⟨-, hnone⟩ | ⟨-, n, -, -, hprimitive⟩ | ⟨-, -, hread⟩
  · rw [hkeep] at hnone
    exact absurd (Option.some.inj hnone) hassigned
  · rcases Typing.primitive_eq_keep (hprimitive.symm.trans hkeep) hassigned with
      ⟨-, hs⟩ | ⟨hpointer, -⟩ | ⟨hpointer, -⟩
    · simp [hs, Strategy.slot] at hslot
    · exact hpointer
    · exact hpointer
  · obtain ⟨o, base, -, -, -, -, hs⟩ := Typing.cast_of_readOff hdescribes hassigned hread
    simp [hs, Strategy.slot] at hslot

/-- In the end every field of the lists holds what it is filled with. -/
theorem foldl_put_entries (w : World α) (hsorted : Sorted b)
    (hnodup : (b.assigned.map (·.name)).Nodup) {k : Slot} {e : FilledField} (he : e ∈ b.entries k)
    (hother : k = .unsupported → e.name ∉ b.assigned.map (·.name)) :
    b.assigned.foldl (put w) (fun _ => .zero) e.name = filled w e := by
  have hput := foldl_put (w := w) hnodup fun _ => .zero
  by_cases hk : k = .unsupported
  · have hnone : filled? w e = none := by rw [filled?, hsorted k e he, hk]
    rw [hput.2 _ (hother hk), filled, hnone]
    rfl
  · exact hput.1 e (Buckets.mem_assigned_iff.2 ⟨k, hk, he⟩)

end positions

end StructFill.Execution

/-! ### Functions to look at -/

namespace StructFill.Sample

open Source
open Emission Execution

/-- The book without its embedded field. -/
def volume : OutputStruct := ⟨package, "Volume", bookFields.dropLast⟩

def volumePlan : Plan :=
  ⟨"genMapToVolume", "src", "map[string]any", "Volume",
    { buckets with unsupported := buckets.unsupported.dropLast }⟩

def volumePrototype : Prototype :=
  ⟨"genMapToVolume", "src", "string", .name "any", .name "Volume"⟩

/-- The plan for a function in which a variable takes the name of a type. -/
def clashPlan : Plan :=
  ⟨"genMapToBook", "src", "map[string]any", "Book", ⟨[], [clashingField], [], [], []⟩⟩

def clashPrototype : Prototype :=
  ⟨"genMapToBook", "src", "string", .name "any", .name "Book"⟩

/-- A map with one key. Helpers and conversions leave numbers as they are. -/
def world : World Nat := ⟨fun key => if key = "kind" then some 3 else none, 0, fun _ n => n⟩

theorem declares_volumePlan : volumePlan.Declares volumePrototype := by
  have hcast : IsName "cast" := by decide
  have hstring : IsReference "cast.ToString" := .qualified (n := "ToString") hcast (by decide) rfl
  have hint64 : IsReference "cast.ToInt64" := .qualified (n := "ToInt64") hcast (by decide) rfl
  have huint8 : IsReference "cast.ToUint8" := .qualified (n := "ToUint8") hcast (by decide) rfl
  have hint : IsReference "cast.ToInt" := .qualified (n := "ToInt") hcast (by decide) rfl
  have hstatus : IsReference "Status" := .name (by decide)
  have hkind : IsReference "kinds.Kind" :=
    .qualified (q := "kinds") (n := "Kind") (by decide) (by decide) rfl
  refine ⟨⟨⟨by decide, by decide, by decide, .name (by decide),
    .name (by decide)⟩, rfl, rfl, rfl, rfl⟩, by decide, ?_, ?_⟩
  · simp only [volumePlan, buckets, Buckets.assigned, List.cons_append, List.nil_append,
      List.forall_mem_cons]
    exact ⟨⟨by decide, by simpa [Legible] using hstring⟩,
      ⟨by decide, hstatus, hint64⟩, ⟨by decide, hkind, huint8⟩,
      ⟨by decide, hint⟩, List.forall_mem_nil _⟩
  · have hnotes : Token.InLine "Notes".toList
        ∧ Token.InLine "type map[string]string has no generation strategy".toList := by decide
    exact List.forall_mem_cons.2 ⟨hnotes, List.forall_mem_nil _⟩

theorem declares_clashPlan : clashPlan.Declares clashPrototype := by
  have htmp : IsReference "tmp" := .name (by decide)
  have hint64 : IsReference "cast.ToInt64" :=
    .qualified (q := "cast") (n := "ToInt64") (by decide) (by decide) rfl
  refine ⟨⟨⟨by decide, by decide, by decide, .name (by decide),
    .name (by decide)⟩, rfl, rfl, rfl, rfl⟩, by decide, ?_, List.forall_mem_nil _⟩
  exact List.forall_mem_cons.2 ⟨⟨by decide, htmp, hint64⟩, List.forall_mem_nil _⟩

end StructFill.Sample

namespace StructFill.Execution

open Classification

variable {α : Type} {surroundings : Surroundings} {style : Naming.Style} {struct : OutputStruct}
  {map : MapParam} {p : Package} {session : Session}

/-- **What is written does what was decided.** Take a function that is written for the fields of a
struct. Their names differ and are not blank; all names can be read, and each reason stays on its
line. Then the text can be executed exactly if no variable in it takes a name that it needs.

In the result every field holds what its strategy makes of the value that the map has for the key
of the field. A field that is assigned in any case holds that value, converted if there is a helper.
A field that is guarded holds the converted value, or its address for a pointer, if the map has the
key. All other fields are zero, and so is a pointer whose key the map does not have. -/
theorem classify_executes (w : World α) {plan : Emission.Plan} {s : Emission.Prototype}
    (hclassify : (classify surroundings style struct map p).answer session = .ok plan.buckets)
    (hnames : (struct.fields.map (·.name)).Nodup) (hblank : "_" ∉ struct.fields.map (·.name))
    (hplan : plan.Declares s) :
    ((execute? (struct.fields.map (·.name)) w (Emission.function plan)).isSome = true ↔
      Unobstructed plan)
    ∧ ∀ obj, execute? (struct.fields.map (·.name)) w (Emission.function plan) = some obj →
      ∃ slot : Fin struct.fields.length → Option Slot,
        (∀ k, List.Forall₂ (fun i e => Carries style k (struct.fields.get i) e
            ∧ obj (struct.fields.get i).name = filled w e)
          (positions slot (some k)) (plan.buckets.entries k))
        ∧ (∀ i, slot i = none → obj (struct.fields.get i).name = .zero)
        ∧ ∀ i, (struct.fields.get i).type.isPointer = true →
          w.entries ((struct.fields.get i).tag.keyName style.tagKey) = none →
          obj (struct.fields.get i).name = .zero := by
  obtain ⟨placed, hplaced, hjudged, hpartition⟩ := classify_partition hclassify
  have hsorted := Sorted.of_partition hpartition
  have hnodup := nodup_assigned hpartition hplaced hnames
  have hfields : ∀ f ∈ plan.buckets.assigned,
      f.name ∈ struct.fields.map (·.name) ∧ f.name ≠ "_" := by
    intro f hf
    have hmem := List.mem_map_of_mem (f := (·.name)) hf
    rw [map_name_assigned hpartition hplaced] at hmem
    obtain ⟨i, -, hi⟩ := List.mem_map.1 hmem
    have hname : f.name ∈ struct.fields.map (·.name) :=
      hi ▸ List.mem_map_of_mem (List.get_mem _ _)
    exact ⟨hname, fun hf => hblank (hf ▸ hname)⟩
  rw [execute?_function w hplan hsorted hfields]
  -- The text has a run exactly if no variable is in the way, and then the fields are what is left
  -- by putting the entries in order. Each field name is put at most once, so what was put stays.
  by_cases hclear : Unobstructed plan
  · rw [if_pos hclear]
    refine ⟨iff_of_true rfl hclear, ?_⟩
    intro obj hobj
    obtain rfl := Option.some.inj hobj
    have hzero : ∀ i, slotAt hplaced i = none → plan.buckets.assigned.foldl (put w)
        (fun _ => .zero) (struct.fields.get i).name = .zero := fun i hi =>
      (foldl_put hnodup _).2 _ (not_mem_assigned hpartition hplaced hnames (.inl hi))
    have hentry : ∀ {k i e}, e ∈ plan.buckets.entries k → slotAt hplaced i = some k →
        e.name = (struct.fields.get i).name → plan.buckets.assigned.foldl (put w)
          (fun _ => .zero) (struct.fields.get i).name = filled w e := by
      intro k i e he hi hname
      rw [← hname]
      refine foldl_put_entries w hsorted hnodup he ?_
      rintro rfl
      rw [hname]
      exact not_mem_assigned hpartition hplaced hnames (.inr hi)
    refine ⟨slotAt hplaced, ?_, hzero, ?_⟩
    · intro k
      have hdescribes := (hpartition.describes_positions hplaced k).flip
      refine ((List.forall₂_and_left _ _).2 ⟨fun e he => he, hdescribes⟩).flip.imp ?_
      intro i e ⟨he, hi, hdescribes⟩
      have hcarries := carries_of_describes hplaced hi hdescribes
      exact ⟨hcarries, hentry he hi hcarries.name⟩
    · intro i hpointer hkey
      cases hi : slotAt hplaced i with
      | none => exact hzero i hi
      | some k =>
        obtain ⟨e, he, hdescribes⟩ :=
          hpartition.exists_describes (placedAt_mem hplaced i) hi
        have hcarries := carries_of_describes hplaced hi hdescribes
        rw [hentry he hi hcarries.name, filled, filled?, hcarries.slot, hcarries.key, hkey]
        cases k with
        | enumeration | assign | unsupported => rfl
        | direct =>
          have hdirect := isPointer_of_direct (hjudged _ (placedAt_mem hplaced i)) hdescribes
            hcarries.slot
          rw [fst_placedAt, hpointer] at hdirect
          cases hdirect
  · rw [if_neg hclear]
    refine ⟨iff_of_false (by simp) hclear, ?_⟩
    intro obj hobj
    cases hobj

/-- The function for the volume can be executed: the map has a value for the pointer `Kind`, and
none for any other field. -/
theorem classify_executes_volume :
    (classify Sample.surroundings Sample.style Sample.volume Sample.openMap Sample.package).answer
        Sample.session = .ok Sample.volumePlan.buckets
      ∧ (Sample.volume.fields.map (·.name)).Nodup ∧ "_" ∉ Sample.volume.fields.map (·.name)
      ∧ Sample.volumePlan.Declares Sample.volumePrototype
      ∧ (execute? (Sample.volume.fields.map (·.name)) Sample.world
          (Emission.function Sample.volumePlan)).isSome = true := by
  have hclassify : (classify Sample.surroundings Sample.style Sample.volume Sample.openMap
      Sample.package).answer Sample.session = .ok Sample.volumePlan.buckets := rfl
  have hnames : (Sample.volume.fields.map (·.name)).Nodup := by decide
  have hblank : "_" ∉ Sample.volume.fields.map (·.name) := by decide
  refine ⟨hclassify, hnames, hblank, Sample.declares_volumePlan, ?_⟩
  exact (classify_executes Sample.world hclassify hnames hblank Sample.declares_volumePlan).1.2
    (by decide)

/-- The type of a field is called like the variable of a guard. The function for its struct cannot
be executed, with the map as little as with any other, although the map has a value for the
field. -/
theorem not_executes_tmp :
    (classify Sample.surroundings Sample.style Sample.clashing Sample.openMap
        Sample.clash).answer .fresh = .ok Sample.clashPlan.buckets
      ∧ (Sample.clashing.fields.map (·.name)).Nodup ∧ "_" ∉ Sample.clashing.fields.map (·.name)
      ∧ Sample.clashPlan.Declares Sample.clashPrototype
      ∧ filled Sample.world Sample.clashingField = .value 3
      ∧ execute? (Sample.clashing.fields.map (·.name)) Sample.world
        (Emission.function Sample.clashPlan) = none := by
  have hsorted : Sorted Sample.clashPlan.buckets := by
    intro k f hf
    cases k with
    | enumeration =>
      obtain rfl : f = Sample.clashingField := List.mem_singleton.1 hf
      rfl
    | direct | assign | unsupported => cases hf
  have hfields : ∀ f ∈ Sample.clashPlan.buckets.assigned,
      f.name ∈ Sample.clashing.fields.map (·.name) ∧ f.name ≠ "_" := by decide
  -- The call of `tmp` is one of the variable that the guard declares.
  have hobstructed : ¬ Unobstructed Sample.clashPlan := by decide
  refine ⟨rfl, by decide, by decide, Sample.declares_clashPlan, rfl, ?_⟩
  rw [execute?_function Sample.world Sample.declares_clashPlan hsorted hfields,
    if_neg hobstructed]

end StructFill.Execution
