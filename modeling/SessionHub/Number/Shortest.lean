import SessionHub.Number.Binary
import SessionHub.Text.Digits

/-!
# The shortest decimal that reads back

A double is written with the fewest significant digits that identify it: the first power of ten,
from coarse to fine, on whose grid some point rounds to the double again. Of the two neighbours of
the value on that grid the nearer one is taken. The interval of numbers that round to a double
includes its ends when the mantissa is even, as rounding to even demands.

Where the point goes is a decision of the format, and stands in one place, `doubleText`.
-/

namespace SessionHub.Number

/-- Decimal digits `digits`, read as an integer, times `10 ^ exponent`. -/
structure Decimal where
  digits : Nat
  exponent : Int
  deriving Repr, DecidableEq

/-- `num / den` scaled by `10 ^ e`. -/
def scaleByTen (num den : Nat) (e : Int) : Nat × Nat :=
  if e ≥ 0 then (num * tenTo e.toNat, den) else (num, den * tenTo (-e).toNat)

/-- Three fractions over one denominator: the value and the ends of the interval that rounds to
it, as numerators, with that denominator. -/
def Dyadic.interval (d : Dyadic) : Nat × Nat × Nat × Nat :=
  let (num, den) := d.fraction
  let unit := if d.exponent ≥ 0 then twoTo d.exponent.toNat else 1
  let below := if d.isBinadeStart then unit else 2 * unit
  (4 * num - below, 4 * num, 4 * num + 2 * unit, 4 * den)

/-- The point of the grid of step `10 ^ e` that lies in the interval, nearest to the value. -/
def Dyadic.onGrid? (d : Dyadic) (e : Int) : Option Nat :=
  let (low, mid, high, den) := d.interval
  let (low, scaled) := scaleByTen low den (-e)
  let (mid, _) := scaleByTen mid den (-e)
  let (high, _) := scaleByTen high den (-e)
  let fits (n : Nat) : Bool :=
    let at_ := n * scaled
    if d.mantissa % 2 = 0 then low ≤ at_ && at_ ≤ high else low < at_ && at_ < high
  let under := mid / scaled
  let nearer := roundHalfEven mid scaled
  let other := if nearer = under then under + 1 else under
  if fits nearer then some nearer else if fits other then some other else none

/-- The position of the leading digit of a positive fraction, counted from the units. -/
def leadingPlace (num den : Nat) : Int :=
  if num ≥ den then ((toString (num / den)).length : Int) - 1
  else
    let up : Nat := ((List.range 400).find? (fun k => num * tenTo k ≥ den)).getD 400
    Int.negOfNat up

/-- The shortest decimal of a positive double, from the coarsest grid down. -/
def Dyadic.shortest (d : Dyadic) : Decimal :=
  let (num, den) := d.fraction
  let top := leadingPlace num den
  let found := (List.range 18).findSome? fun (k : Nat) =>
    let e := top + 1 - Int.ofNat k
    (d.onGrid? e).bind fun n => if n = 0 then none else some { digits := n, exponent := e : Decimal }
  found.getD { digits := d.mantissa, exponent := 0 }

/-- A decimal without trailing zeros in its digits. -/
def Decimal.trimmed : Nat → Decimal → Decimal
  | 0, d => d
  | fuel + 1, d =>
    if d.digits ≠ 0 ∧ d.digits % 10 = 0 then
      Decimal.trimmed fuel { digits := d.digits / 10, exponent := d.exponent + 1 }
    else d

/-- A double as text: positional, with at least one digit after the point, while its leading digit
stands between the fifth place after the point and the sixteenth before it; else one digit, the
rest after the point, and a signed exponent of at least two digits. -/
def doubleText (bits : UInt64) : String :=
  let d := Dyadic.ofBits bits
  let sign := if d.negative then "-" else ""
  if d.mantissa = 0 then sign ++ "0.0"
  else
    let short := d.shortest.trimmed 20
    let digits := toString short.digits
    let place := short.exponent + (digits.length : Int) - 1
    let chars := digits.toList
    let body :=
      if -5 ≤ place ∧ place < 0 then
        "0." ++ String.ofList (List.replicate (-place - 1).toNat '0') ++ digits
      else if 0 ≤ place ∧ place < 16 then
        let whole := place.toNat + 1
        let padded := chars ++ List.replicate (whole - chars.length) '0'
        let tail := padded.drop whole
        String.ofList (padded.take whole) ++ "." ++ (if tail.isEmpty then "0" else String.ofList tail)
      else
        let tail := chars.drop 1
        String.ofList (chars.take 1) ++ (if tail.isEmpty then "" else "." ++ String.ofList tail)
          ++ "e" ++ (if place < 0 then "-" else "+") ++ Text.padded 2 place.natAbs
    sign ++ body

end SessionHub.Number
