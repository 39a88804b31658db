/-! Floating-point numbers as text, with the fewest digits that read back as the same number, and
the nearest of those. A finite number is a whole multiple of a power of two, so its neighbours are
known exactly, and so is the interval of reals that are nearer to it than to them. Of two candidates
at the same distance the even one is taken. -/
namespace Preimage.Json.Shortest

structure Ratio where
  num : Nat
  den : Nat

namespace Ratio

def le (left right : Ratio) : Bool := left.num * right.den ≤ right.num * left.den

def lt (left right : Ratio) : Bool := left.num * right.den < right.num * left.den

def scale (base : Nat) (exponent : Int) (ratio : Ratio) : Ratio :=
  if 0 ≤ exponent then ⟨ratio.num * base.pow exponent.toNat, ratio.den⟩
  else ⟨ratio.num, ratio.den * base.pow (-exponent).toNat⟩

/-- The power of ten of the leading digit. -/
def magnitude (ratio : Ratio) : Int :=
  if ratio.den ≤ ratio.num then ((Nat.toDigits 10 (ratio.num / ratio.den)).length : Int) - 1
  else
    let reaches (places : Nat) : Bool := ratio.den ≤ ratio.num * Nat.pow 10 places
    0 - (((List.range 400).find? reaches).getD 400 : Nat)

end Ratio

/-- The reals that round to one number. -/
structure Interval where
  low : Ratio
  value : Ratio
  high : Ratio
  closed : Bool

/-- How many numbers there are from a power of two up to the next. -/
def fractions : Nat := 0x10000000000000

/-- The bit that tells the sign. The magnitude is below it. -/
def signBit : Nat := 0x8000000000000000

/-- The interval round a finite number above zero, from the bits of its magnitude. Below a power of
two neighbours are half as far apart as above it. -/
def interval (bits : Nat) : Interval :=
  let exponent := bits / fractions
  let fraction := bits % fractions
  let significand := if exponent = 0 then fraction else fractions + fraction
  let power : Int := (if exponent = 0 then 1 else exponent : Nat) - 1077
  let below := if fraction = 0 ∧ 1 < exponent then 1 else 2
  { low := Ratio.scale 2 power ⟨4 * significand - below, 1⟩
    value := Ratio.scale 2 power ⟨4 * significand, 1⟩
    high := Ratio.scale 2 power ⟨4 * significand + 2, 1⟩
    closed := significand % 2 == 0 }

def Interval.contains (range : Interval) (ratio : Ratio) : Bool :=
  if range.closed then range.low.le ratio && ratio.le range.high
  else range.low.lt ratio && ratio.lt range.high

/-- A number of units of a power of ten. -/
structure Decimal where
  units : Nat
  power : Int

namespace Decimal

def ratio (decimal : Decimal) : Ratio := Ratio.scale 10 decimal.power ⟨decimal.units, 1⟩

/-- Without zeros at the end. -/
def trim (decimal : Decimal) : Nat → Decimal
  | 0 => decimal
  | budget + 1 =>
    if decimal.units % 10 = 0 ∧ decimal.units ≠ 0 then
      trim ⟨decimal.units / 10, decimal.power + 1⟩ budget
    else decimal

end Decimal

/-- The number on the grid of a power of ten that reads back and is nearest. -/
def Interval.onGrid? (range : Interval) (power : Int) : Option Decimal :=
  let scaled := Ratio.scale 10 (-power) range.value
  let floor := scaled.num / scaled.den
  let down : Decimal := ⟨floor, power⟩
  let up : Decimal := ⟨floor + 1, power⟩
  match range.contains down.ratio, range.contains up.ratio with
  | true, false => some down
  | false, true => some up
  | false, false => none
  | true, true =>
    match compare (2 * (scaled.num % scaled.den)) scaled.den with
    | .lt => some down
    | .gt => some up
    | .eq => some (if floor % 2 = 0 then down else up)

/-- The first grid that has such a number. Seventeen digits always have one. -/
def Interval.shortest (range : Interval) : Decimal :=
  let magnitude := range.value.magnitude
  let found := (List.range 17).findSome? fun (digits : Nat) => range.onGrid? (magnitude - digits)
  (found.getD ⟨0, 0⟩).trim 20

/-- Digits with a point from 1e-5 up to 1e16, and an exponent with its sign outside of that. -/
def layout (decimal : Decimal) : String :=
  let digits := toString decimal.units
  let size : Int := digits.length
  let point := size + decimal.power
  let zeros (count : Int) : String := .ofList (List.replicate count.toNat '0')
  if 0 ≤ decimal.power ∧ point ≤ 16 then digits ++ zeros decimal.power ++ ".0"
  else if 0 < point ∧ point ≤ 16 then
    let whole := digits.toList.take point.toNat
    let part := digits.toList.drop point.toNat
    .ofList (whole ++ '.' :: part)
  else if -5 < point ∧ point ≤ 0 then "0." ++ zeros (-point) ++ digits
  else
    let exponent := (if 0 < point then "e+" else "e") ++ toString (point - 1)
    match digits.toList with
    | first :: second :: rest => .ofList (first :: '.' :: second :: rest) ++ exponent
    | _ => digits ++ exponent

/-- The text of a finite number. -/
def text (number : Float) : String :=
  let bits := number.toBits.toNat
  let magnitude := bits % signBit
  let sign := if bits = magnitude then "" else "-"
  if magnitude = 0 then sign ++ "0.0" else sign ++ layout (interval magnitude).shortest

end Preimage.Json.Shortest
