import SessionHub.Number.Binary
import SessionHub.Span

/-!
# Growing delays

A loop that tries again waits a little longer each time. The delay starts at `initial`, grows by
half with every attempt and stops at `ceiling`; what is waited is up to a fifth shorter or longer,
so that many who failed together do not come back together. The schedule is worked out in seconds
as doubles and rounded to whole nanoseconds, a half to the even one.
-/

namespace SessionHub

/-- A length of time in seconds. -/
def Span.toSeconds (s : Span) : Float :=
  Float.ofNat s.secs + Float.ofNat s.subsecNanos / 1000000000

/-- The length of time nearest to a number of seconds; none if it is negative, or reaches the
2 ^ 64 seconds that no clock counts. -/
def Span.ofSeconds? (f : Float) : Option Span :=
  if f.isNaN || f.isInf || f < 0 then none
  else
    let (num, den) := (Number.Dyadic.ofBits f.toBits).fraction
    if num ≥ den * twoTo 64 then none
    else some ⟨Number.roundHalfEven (num * 1000000000) den⟩

/-- The state of a schedule. -/
structure Backoff where
  initial : Span
  ceiling : Span
  current : Span
  deriving Repr, DecidableEq, Inhabited

namespace Backoff

/-- A schedule from `initial` up to `ceiling`. -/
def starting (initial ceiling : Span) : Backoff := { initial, ceiling, current := initial }

/-- The schedule of a subscription that was lost: from half a second up to half a minute. -/
def standard : Backoff := starting (.ofMillis 500) (.ofMillis 30000)

/-- The smaller of two doubles. -/
def lesser (a b : Float) : Float := if b < a then b else a

/-- The share of the delay that is waited: between four fifths and six fifths. -/
def share (jitter : Float) : Float :=
  if jitter < 0.8 then 0.8 else if jitter > 1.2 then 1.2 else jitter

/-- The next delay and the schedule behind it. There is none when a delay is longer than any
clock counts. -/
def next (b : Backoff) (jitter : Float) : Option (Span × Backoff) := do
  let base := b.current.toSeconds
  let top := b.ceiling.toSeconds
  let delay ← Span.ofSeconds? (lesser (base * share jitter) top)
  let current ← Span.ofSeconds? (lesser (base * 1.5) top)
  return (delay, { b with current })

/-- Begins again, after an attempt that succeeded. -/
def restart (b : Backoff) : Backoff := { b with current := b.initial }

end Backoff

end SessionHub
