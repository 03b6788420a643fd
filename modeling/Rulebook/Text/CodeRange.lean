/-!
# Sets of characters given by code point ranges

A character property of the Unicode standard is a set of code points, and the standard lists it as
ranges.  `CodeRange` is one such range with both ends included, and a property is a list of them;
`inRanges` is membership.  The property modules beside this one (`Text.Blank`, `Text.Digit`,
`Text.Word`, `Text.Printable`) give the lists, all of version 14 of the standard.
-/

set_option autoImplicit false

namespace Rulebook
namespace Text

/-- A range of code points, both ends included. -/
abbrev CodeRange := Nat × Nat

/-- Whether the code point of `c` lies in one of the ranges. -/
def inRanges (ranges : List CodeRange) (c : Char) : Bool :=
  ranges.any fun r ↦ decide (r.1 ≤ c.toNat) && decide (c.toNat ≤ r.2)

/-- Membership in a list of ranges is membership in one of them. -/
theorem inRanges_iff {ranges : List CodeRange} {c : Char} :
    inRanges ranges c = true ↔ ∃ r ∈ ranges, r.1 ≤ c.toNat ∧ c.toNat ≤ r.2 := by
  simp [inRanges, List.any_eq_true]

end Text
end Rulebook
