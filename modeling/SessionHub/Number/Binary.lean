import SessionHub.Number.Power

/-!
# Binary floating point, exactly

A finite double of 64 bits is an integer times a power of two. This module takes the bits apart and
does the two exact things the rest needs with them: the nearest multiple of a fraction, and the
comparison of fractions. Nothing here rounds except where the name says so.
-/

namespace SessionHub.Number

/-- A non-negative dyadic number `mantissa · 2 ^ exponent`, with its sign apart. -/
structure Dyadic where
  negative : Bool
  mantissa : Nat
  exponent : Int
  deriving Repr, DecidableEq

/-- The number that the bits of a finite double denote. -/
def Dyadic.ofBits (bits : UInt64) : Dyadic :=
  let n : Nat := bits.toNat
  let field : Nat := n / twoTo 52 % 2048
  let fraction : Nat := n % twoTo 52
  { negative := n / twoTo 63 == 1
    mantissa := if field = 0 then fraction else twoTo 52 + fraction
    exponent := if field = 0 then -1074 else Int.ofNat field - 1075 }

/-- Whether the mantissa is the smallest of its binade, so that the double below lies nearer than
the double above. -/
def Dyadic.isBinadeStart (d : Dyadic) : Bool := d.mantissa == twoTo 52 && d.exponent > -1074

/-- The magnitude as a fraction of natural numbers. -/
def Dyadic.fraction (d : Dyadic) : Nat × Nat :=
  if d.exponent ≥ 0 then (d.mantissa * twoTo d.exponent.toNat, 1)
  else (d.mantissa, twoTo (-d.exponent).toNat)

/-- The integer nearest to `num / den`; a half goes to the even neighbour. -/
def roundHalfEven (num den : Nat) : Nat :=
  let q := num / den
  let r := num % den
  if 2 * r < den then q
  else if 2 * r > den then q + 1
  else if q % 2 = 0 then q else q + 1

end SessionHub.Number
