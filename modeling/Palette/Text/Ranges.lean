/-!
# Ranges of characters

A property of characters is kept as the ascending list of the closed ranges of
code points that have it.  Membership is a scan of that list.
-/

namespace Palette.Text

/-- A set of characters as ascending, disjoint, closed ranges of code points. -/
abbrev Ranges := List (Nat × Nat)

/-- Whether a character lies in one of the ranges. -/
def Ranges.contains (ranges : Ranges) (character : Char) : Bool :=
  ranges.any fun range => range.1 ≤ character.toNat && character.toNat ≤ range.2

/-- A character is in the set exactly when some range encloses it. -/
theorem Ranges.contains_iff {ranges : Ranges} {character : Char} :
    ranges.contains character = true ↔
      ∃ range ∈ ranges, range.1 ≤ character.toNat ∧ character.toNat ≤ range.2 := by
  simp [Ranges.contains]

end Palette.Text
