import Punctual.Config

/-!
How long to wait before the n-th retry. Exponential delays are computed in floating point; the
power is taken by repeated squaring, so that a large n costs no more than a few steps.
-/
namespace Punctual

namespace Backoff

/-- `result * base ^ exponent`, squaring the base for every binary digit of the exponent. -/
def power : Nat → Float → Float → Nat → Float
  | 0, result, _, _ => result
  | more + 1, result, base, exponent =>
    let result := if exponent % 2 = 1 then result * base else result
    if exponent / 2 = 0 then result else power more result (base * base) (exponent / 2)

/-- The whole milliseconds of a delay before its maximum is applied, if they are fewer. -/
def grownMs? (initialMs : Nat) (multiplier : Binary64) (maxMs attempt : Nat) : Option Nat :=
  let exponent := min (max attempt 1 - 1) maxInt32.toNat
  let scaled := (Binary64.ofNat initialMs).toFloat * power 32 1.0 multiplier.toFloat exponent
  if scaled.isFinite && scaled < (Binary64.ofNat maxMs).toFloat then some scaled.toUInt64.toNat
  else none

/-- A length of time in nanoseconds, after it has been kept as a floating-point number. -/
def roundedNanos (ms : Nat) : Nat :=
  let nanos := (Binary64.ofNat (ms / 1000)).toFloat * 1e9 +
    (Binary64.ofNat (ms % 1000 * nanosPerMilli)).toFloat
  (nanos / 1e9).toUInt64.toNat * nanosPerSecond + nanos.toUInt64.toNat % nanosPerSecond

/-- The operation `retry_delay`: the delay before the n-th retry, in nanoseconds; n counts from one. -/
def delay (b : Backoff) (attempt : Nat) : Nat :=
  match b with
  | fixed delayMs => delayMs * nanosPerMilli
  | exponential initialMs multiplier maxMs =>
    let grown := (grownMs? initialMs multiplier maxMs attempt).getD maxMs
    min (roundedNanos grown) (maxMs * nanosPerMilli)

end Backoff

end Punctual
