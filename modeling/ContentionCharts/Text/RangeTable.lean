/-!
Character properties given as ascending ranges of code points. A look-up stops at the first range
that begins after the character, so plain ASCII text costs one or two comparisons.
-/
namespace ContentionCharts.Text

abbrev RangeTable := List (Nat × Nat)

def RangeTable.contains : RangeTable → Nat → Bool
  | [], _ => false
  | (low, high) :: later, n => low ≤ n && (n ≤ high || contains later n)

end ContentionCharts.Text
