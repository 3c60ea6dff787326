/-! # Sets of characters given by code point ranges

A Unicode property is stored as the list of its code point ranges.  `CodeRanges.contains` is
membership; `mem_iff` says that it is membership of the code point in one of the ranges. -/

namespace FilterQuery.Text

/-- Inclusive ranges of code points, in ascending order. -/
abbrev CodeRanges := List (Nat × Nat)

namespace CodeRanges

/-- Whether one of the ranges holds the code point of `c`. -/
def contains (ranges : CodeRanges) (c : Char) : Bool :=
  ranges.any fun range => range.1 ≤ c.toNat && c.toNat ≤ range.2

theorem contains_iff {ranges : CodeRanges} {c : Char} :
    ranges.contains c = true ↔ ∃ range ∈ ranges, range.1 ≤ c.toNat ∧ c.toNat ≤ range.2 := by
  simp [contains]

end CodeRanges

end FilterQuery.Text
