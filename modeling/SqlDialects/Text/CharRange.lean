/-!
# Sets of characters given by ranges

A property of characters is written down as a list of inclusive code point ranges;
`inRanges_iff` reads membership off such a list.
-/

namespace SqlDialects.Text

/-- Inclusive ranges of code points. -/
abbrev CharRanges := List (Nat × Nat)

/-- Some range holds the code point of the character. -/
def inRanges (ranges : CharRanges) (c : Char) : Bool :=
  ranges.any fun r => decide (r.1 ≤ c.toNat) && decide (c.toNat ≤ r.2)

theorem inRanges_iff {ranges : CharRanges} {c : Char} :
    inRanges ranges c = true ↔ ∃ r ∈ ranges, r.1 ≤ c.toNat ∧ c.toNat ≤ r.2 := by
  simp [inRanges]

end SqlDialects.Text
