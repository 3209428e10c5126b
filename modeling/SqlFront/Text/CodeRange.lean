/-!
# Sets of code points as interval lists

A character class of the Unicode character database is stored as a list of closed intervals of
code points, in increasing order and pairwise apart. Membership is a scan of the list: the
classes are fixed data, so the scan is also what a proof about a given character evaluates.
-/

namespace SqlFront.Text

/-- A set of code points, given by closed intervals `(lo, hi)` with `lo ≤ hi`. -/
abbrev RangeSet := List (Nat × Nat)

/-- Whether the code point `n` lies in one of the intervals. -/
def RangeSet.contains (rs : RangeSet) (n : Nat) : Bool :=
  rs.any fun r => r.1 ≤ n && n ≤ r.2

@[simp]
theorem RangeSet.contains_nil (n : Nat) : RangeSet.contains [] n = false := rfl

theorem RangeSet.contains_cons (r : Nat × Nat) (rs : RangeSet) (n : Nat) :
    RangeSet.contains (r :: rs) n = ((r.1 ≤ n && n ≤ r.2) || RangeSet.contains rs n) := rfl

end SqlFront.Text
