import SessionHub.Text.Digits

/-!
# Lengths of time in words

A length of time is a number of nanoseconds. In words it takes the largest unit of which it holds
at least one — seconds, milliseconds, microseconds, nanoseconds — with as many places after the
point as it needs.
-/

namespace SessionHub

/-- A length of time. -/
structure Span where
  nanos : Nat
  deriving Repr, DecidableEq, Inhabited

/-- A number of milliseconds. -/
def Span.ofMillis (n : Nat) : Span := ⟨n * 1000000⟩

/-- Seconds and nanoseconds. -/
def Span.ofParts (secs nanos : Nat) : Span := ⟨secs * 1000000000 + nanos⟩

/-- Whole seconds. -/
def Span.secs (s : Span) : Nat := s.nanos / 1000000000

/-- Nanoseconds beyond the whole seconds. -/
def Span.subsecNanos (s : Span) : Nat := s.nanos % 1000000000

/-- A whole part and a part of `10 ^ places`, without trailing zeros. -/
def decimalText (whole part places : Nat) : String :=
  let digits := (Text.padded places part).toList.reverse.dropWhile (· = '0') |>.reverse
  toString whole ++ (if digits.isEmpty then "" else "." ++ String.ofList digits)

/-- A length of time in words. -/
def Span.text (s : Span) : String :=
  let n := s.nanos
  if n ≥ 1000000000 then decimalText (n / 1000000000) (n % 1000000000) 9 ++ "s"
  else if n ≥ 1000000 then decimalText (n / 1000000) (n % 1000000) 6 ++ "ms"
  else if n ≥ 1000 then decimalText (n / 1000) (n % 1000) 3 ++ "µs"
  else decimalText n 0 0 ++ "ns"

end SessionHub
