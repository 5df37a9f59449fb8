/-!
Numbers written short, as an axis shows them. On a linear axis a number has between one and five
decimals, no more than it needs; on a logarithmic one every number is a digit followed by zeros.
-/
namespace ContentionCharts.Number

open Float.Model

def wholePart (x : Float) : Nat :=
  match x.toModel.unpack with
  | .finite _ mantissa exponent _ => (mantissa <<< exponent.toNat) >>> (-exponent).toNat
  | _ => 0

/-- The number with no more decimals than it needs, and how many these are. A rest is dropped if it
is less than one unit of the last place that is left. -/
def shorten : Nat → Float → Float × Nat
  | 0, x => (x, 0)
  | places + 1, x =>
    let unit := Float.ofScientific 1 true (places + 1)
    if x - x.floor < unit then (x.floor, 0)
    else if x.ceil - x < unit then (x.ceil, 0)
    else
      let (rest, used) := shorten places ((x - x.floor) * 10)
      (x.floor + rest / 10, used + 1)

def dropLastZeros (digits : List Char) : List Char :=
  (digits.reverse.dropWhile (· == '0')).reverse

def decimals (places : Nat) (x : Float) : List Char :=
  let scaled := (x - x.floor) * Float.ofScientific 1 false places
  let digits := Nat.toDigits 10 scaled.round.toUInt32.toNat
  dropLastZeros (List.replicate (places - digits.length) '0' ++ digits)

def shortText (x : Float) : String :=
  let (value, places) := shorten 5 x
  let sign := if value < 0 then "-" else ""
  let fraction :=
    match decimals places value.abs with
    | [] => "0"
    | digits => String.ofList digits
  sign ++ toString (wholePart value) ++ "." ++ fraction

/-- A digit followed by zeros; many zeros are counted and not written. -/
def roundText (x : Float) : String :=
  match Nat.toDigits 10 (wholePart x) with
  | [] => ""
  | digit :: zeros =>
    if zeros.length < 16 then String.ofList (digit :: zeros) ++ ".0"
    else digit.toString ++ "e" ++ toString zeros.length

end ContentionCharts.Number
