import ContentionCharts.Number.Real
import ContentionCharts.Number.Rounding

/-!
Doubles written with no more digits than it takes to read them back. Of the numbers with that many
digits the nearest one is written; very large and very small ones get an exponent.
-/
namespace ContentionCharts.Number

open Float.Model

structure Decimal where
  digits : Nat
  exponent : Int
  deriving DecidableEq, Repr

namespace Decimal

def value (decimal : Decimal) : Float := ofDecimal decimal.digits decimal.exponent

/-- The two decimals around a quotient whose last digit has the given place, the nearer one
first. -/
def around (numerator denominator : Nat) (exponent : Int) : List Decimal :=
  let units := numerator * Nat.pow 10 (-exponent).toNat
  let unit := denominator * Nat.pow 10 exponent.toNat
  let below : Decimal := ⟨units / unit, exponent⟩
  let above : Decimal := ⟨units / unit + 1, exponent⟩
  if 2 * (units % unit) < unit then [below, above] else [above, below]

/-- The places that the last digit of a double can have, highest first. -/
def places : List Int := (List.range 640).map fun i : Nat => 309 - (i : Int)

def plainText (decimal : Decimal) : String :=
  let digits := Nat.toDigits 10 decimal.digits
  let point := digits.length + decimal.exponent
  if point ≤ 0 then "0." ++ "".pushn '0' (-point).toNat ++ String.ofList digits
  else if 0 ≤ decimal.exponent then
    String.ofList digits ++ "".pushn '0' decimal.exponent.toNat ++ ".0"
  else String.ofList (digits.take point.toNat) ++ "." ++ String.ofList (digits.drop point.toNat)

def exponentText (decimal : Decimal) : String :=
  match Nat.toDigits 10 decimal.digits with
  | [] => ""
  | first :: rest =>
    let fraction := if rest = [] then "" else "." ++ String.ofList rest
    first.toString ++ fraction ++ "e" ++ toString (decimal.exponent + rest.length)

end Decimal

def shortest? (x : Float) : Option Decimal :=
  match x.toModel.unpack with
  | .finite _ mantissa exponent _ =>
    Decimal.places.findSome? fun place =>
      (Decimal.around (mantissa <<< exponent.toNat) (1 <<< (-exponent).toNat) place).find?
        fun decimal => decimal.value == x.abs
  | _ => none

def shortestText (x : Float) : String :=
  let magnitude :=
    match shortest? x with
    | none => "0.0"
    | some decimal =>
      if x.abs < 1e-4 || 1e16 ≤ x.abs then decimal.exponentText else decimal.plainText
  match x.toModel.unpack with
  | .notANumber => "NaN"
  | .infinity sign => signText sign ++ "inf"
  | .zero sign | .finite sign _ _ _ => signText sign ++ magnitude

end ContentionCharts.Number
