/-! # Tables

  A table is a list of keys with values in the order of the keys, each key
  once. Setting a key replaces its value; adding a key leaves a value that is
  there.
-/

namespace StructFill

/-- Keys with values, in the order of the keys. -/
abbrev Table (α : Type) := List (String × α)

namespace Table

variable {α : Type}

/-- The value of a key. -/
def get? (t : Table α) (k : String) : Option α := t.lookup k

/-- The table in which a key has a value, whatever it had before. -/
def set (k : String) (v : α) : Table α → Table α
  | [] => [(k, v)]
  | (k', v') :: rest =>
    if k = k' then (k, v) :: rest
    else if k < k' then (k, v) :: (k', v') :: rest
    else (k', v') :: set k v rest

/-- The table in which a key has a value: the one it had, or else the given one. -/
def add (k : String) (v : α) (t : Table α) : Table α :=
  if (get? t k).isSome then t else set k v t

@[simp] theorem get?_nil (k : String) : get? ([] : Table α) k = none := rfl

/-- The key that was set has its new value. -/
@[simp] theorem get?_set_self (k : String) (v : α) (t : Table α) :
    get? (set k v t) k = some v := by
  induction t with
  | nil => simp [set, get?]
  | cons p rest ih =>
    obtain ⟨k', v'⟩ := p
    rw [set]
    split
    · simp [get?]
    · split
      · simp [get?]
      · rename_i h _
        have : (k == k') = false := by simpa using h
        simpa [get?, List.lookup_cons, this] using ih

/-- All other keys keep their values. -/
theorem get?_set_of_ne {k k₀ : String} (h : k₀ ≠ k) (v : α) (t : Table α) :
    get? (set k v t) k₀ = get? t k₀ := by
  have hk : (k₀ == k) = false := by simpa using h
  induction t with
  | nil => simp [set, get?, List.lookup_cons, hk]
  | cons p rest ih =>
    obtain ⟨k', v'⟩ := p
    rw [set]
    split
    · rename_i e
      subst e
      simp [get?, List.lookup_cons, hk]
    · split
      · simp [get?, List.lookup_cons, hk]
      · simp only [get?, List.lookup_cons] at ih ⊢
        split <;> simp_all

end Table

/-- The texts of a list in order, each once. -/
def sortedDistinct (ss : List String) : List String :=
  ss.foldr (fun s t =>
    let before := t.takeWhile fun s' => decide (s' < s)
    let after := t.dropWhile fun s' => decide (s' < s)
    if after.head? = some s then t else before ++ s :: after) []

end StructFill
