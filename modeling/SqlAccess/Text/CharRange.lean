/-
Sets of characters given by ranges of code points.

A class of characters of the Unicode standard is a list of `CharRange`s;
`CharRange.cover` is its membership test.
-/
namespace SqlAccess.Text

/-- The characters whose code points lie between `first` and `last`, both included. -/
structure CharRange where
  first : Nat
  last : Nat
  deriving DecidableEq, Repr

namespace CharRange

/-- Whether a character lies in the range. -/
def contains (r : CharRange) (c : Char) : Bool :=
  decide (r.first ≤ c.toNat) && decide (c.toNat ≤ r.last)

/-- Whether a character lies in one of the ranges. -/
def cover (ranges : List CharRange) (c : Char) : Bool :=
  ranges.any (·.contains c)

theorem contains_eq_true {r : CharRange} {c : Char} :
    r.contains c = true ↔ r.first ≤ c.toNat ∧ c.toNat ≤ r.last := by
  simp [contains]

theorem cover_eq_true {ranges : List CharRange} {c : Char} :
    cover ranges c = true ↔ ∃ r ∈ ranges, r.first ≤ c.toNat ∧ c.toNat ≤ r.last := by
  simp [cover, contains_eq_true]

end CharRange

end SqlAccess.Text
