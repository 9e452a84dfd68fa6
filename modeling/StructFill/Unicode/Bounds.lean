/-! # Sets of code points

  A set of code points is given by its *bounds*: the increasing list of the
  points at which membership changes. The first bound is the first member,
  the second the first non-member after it, and so on. Membership of `n` is
  then the parity of the number of bounds up to `n`.
-/

namespace StructFill.Unicode

/-- The points at which membership of a set changes, in increasing order. -/
abbrev Bounds := List Nat

/-- `n` is a member when an odd number of bounds lies at or below it. -/
def Bounds.contains : Bounds → Nat → Bool
  | [], _ => false
  | b :: rest, n => if n < b then false else !contains rest n

/-- The characters below a bound are those of the numbers below it, so that they can be tried one by
one. -/
theorem exists_ofNat_of_lt {c : Char} {b : Nat} (h : c.toNat < b) : ∃ n < b, c = Char.ofNat n :=
  ⟨c.toNat, h, (Char.ofNat_toNat c).symm⟩

end StructFill.Unicode
