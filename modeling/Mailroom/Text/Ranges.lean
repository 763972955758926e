/-!
# Tables of character ranges

A character property is a list of inclusive ranges of code points in increasing
order. Membership looks for the first range that reaches the code point.
-/

namespace Mailroom.Text

/-- Whether a code point lies in one of the ranges. -/
def inRanges (ranges : List (Nat × Nat)) (point : Nat) : Bool :=
  ranges.any fun range => range.1 ≤ point && point ≤ range.2

/-- A code point lies in a list of ranges exactly when one of them covers it. -/
theorem inRanges_iff (ranges : List (Nat × Nat)) (point : Nat) :
    inRanges ranges point = true ↔ ∃ range ∈ ranges, range.1 ≤ point ∧ point ≤ range.2 := by
  simp [inRanges]

end Mailroom.Text
