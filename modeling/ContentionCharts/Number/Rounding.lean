/-!
Exact rounding of doubles. A finite double is a mantissa times a power of two, so it is a quotient
of two natural numbers; the quotient is rounded once, and only here, to the grid that is asked for.
-/
namespace ContentionCharts.Number

open Float.Model

def nearestEven (numerator denominator : Nat) : Nat :=
  let floor := numerator / denominator
  match compare (2 * (numerator % denominator)) denominator with
  | .lt => floor
  | .eq => floor + floor % 2
  | .gt => floor + 1

def nearestUp (numerator denominator : Nat) : Nat :=
  (2 * numerator + denominator) / (2 * denominator)

def signText : UnpackedFloat.Sign → String
  | .positive => ""
  | .negative => "-"

def thousandths (x : Float) : String :=
  match x.toModel.unpack with
  | .notANumber => "NaN"
  | .infinity sign => signText sign ++ "inf"
  | .zero sign => signText sign ++ "0.000"
  | .finite sign mantissa exponent _ =>
    let n := nearestEven ((1000 * mantissa) <<< exponent.toNat) (1 <<< (-exponent).toNat)
    let fraction := toString (n % 1000)
    signText sign ++ toString (n / 1000) ++ "." ++
      "".pushn '0' (3 - fraction.length) ++ fraction

/-- The nearest number of pixels, half a pixel rounded up and what does not fit brought to the
nearest end of the range. -/
def toPixels (x : Float) : UInt32 :=
  match x.toModel.unpack with
  | .infinity .positive => UInt32.ofNatClamp (UInt32.size - 1)
  | .finite .positive mantissa exponent _ =>
    UInt32.ofNatClamp (nearestUp (mantissa <<< exponent.toNat) (1 <<< (-exponent).toNat))
  | _ => 0

end ContentionCharts.Number
