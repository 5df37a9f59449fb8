/-!
Keys of a table: natural numbers below 2^64 in decimal. One plus sign may stand in front, and any
number of zeros.
-/
namespace ContentionCharts.Number

def dropPlus : List Char → List Char
  | '+' :: digits => digits
  | digits => digits

/-- A number that does not fit is refused; it never wraps. -/
def word? (text : List Char) : Option UInt64 :=
  let digits := dropPlus text
  if digits ≠ [] ∧ digits.all Char.isDigit then
    let n := Nat.ofDigitChars 10 digits 0
    if n < UInt64.size then some (UInt64.ofNat n) else none
  else none

end ContentionCharts.Number
