/-!
Measured values as text: an optional sign, then `inf`, `infinity` or `nan` in any case, or ASCII
digits with at most one point and an optional decimal exponent. The value is the double nearest to
the written number, a tie going to the even neighbour.
-/
namespace ContentionCharts.Number

def infinity : Float := Float.ofBits 0x7FF0000000000000

def notANumber : Float := Float.ofBits 0x7FF8000000000000

/-- An exponent that has come this far is large enough: its further digits are passed over. -/
def largeExponent : Nat := 65536

def extendExponent (exponent : Nat) (digit : Char) : Nat :=
  if exponent < largeExponent then 10 * exponent + (digit.toNat - '0'.toNat) else exponent

def exponent? : List Char → Option Int
  | [] => some 0
  | mark :: text =>
    if mark = 'e' ∨ mark = 'E' then
      match text with
      | '-' :: digits => (digits? digits).map fun n => -(n : Int)
      | '+' :: digits => (digits? digits).map fun n => (n : Int)
      | digits => (digits? digits).map fun n => (n : Int)
    else none
where
  digits? (digits : List Char) : Option Nat :=
    if digits ≠ [] ∧ digits.all Char.isDigit then some (digits.foldl extendExponent 0) else none

def ofDecimal (mantissa : Nat) (exponent : Int) : Float :=
  Float.ofScientific mantissa (exponent < 0) exponent.natAbs

def fraction : List Char → List Char × List Char
  | '.' :: text => (text.takeWhile Char.isDigit, text.dropWhile Char.isDigit)
  | text => ([], text)

def decimal? (text : List Char) : Option Float :=
  let whole := text.takeWhile Char.isDigit
  let (parts, rest) := fraction (text.dropWhile Char.isDigit)
  if whole ++ parts = [] then none
  else (exponent? rest).map fun exponent =>
    ofDecimal (Nat.ofDigitChars 10 (whole ++ parts) 0) (exponent - parts.length)

def magnitude? (text : List Char) : Option Float :=
  match String.ofList (text.map Char.toLower) with
  | "inf" | "infinity" => some infinity
  | "nan" => some notANumber
  | _ => decimal? text

def real? : List Char → Option Float
  | '-' :: text => (magnitude? text).map fun x => -x
  | '+' :: text => magnitude? text
  | text => magnitude? text

end ContentionCharts.Number
