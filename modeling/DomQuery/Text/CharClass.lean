/-!
Classes of characters given as ranges of code points.

Main statement: `CharClass.contains_iff`, a character is in a class exactly when one of the
class's ranges holds its code point.
-/

namespace DomQuery.Text

/-- A set of characters, as ranges of code points with both ends included. -/
structure CharClass where
  ranges : List (Nat × Nat)

namespace CharClass

/-- Whether one of the ranges holds the code point of the character. -/
def contains (k : CharClass) (c : Char) : Bool :=
  k.ranges.any fun range => range.1 ≤ c.toNat && c.toNat ≤ range.2

theorem contains_iff {k : CharClass} {c : Char} :
    k.contains c = true ↔ ∃ range ∈ k.ranges, range.1 ≤ c.toNat ∧ c.toNat ≤ range.2 := by
  simp [contains]

end CharClass
end DomQuery.Text
