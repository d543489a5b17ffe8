import Punctual.Binary64.Shortest
import Punctual.Bounds
import Punctual.Instant

/-!
The scheduler's configuration: how far ahead jobs are armed (the chunk), how often the store is
scanned (the load interval), what becomes of jobs whose time has passed, and how failures are retried.
-/
namespace Punctual

/-- How long to wait before a retry, the type `BackoffKind`. -/
inductive Backoff
  /-- always equally long -/
  | fixed (delayMs : Nat)
  /-- `initialMs * multiplier ^ (n - 1)` before the n-th retry, at most `maxMs` -/
  | exponential (initialMs : Nat) (multiplier : Binary64) (maxMs : Nat)
deriving DecidableEq, Repr

/-- The built-in backoff: from a second on, doubled up to a minute. -/
def Backoff.initial : Backoff := .exponential 1000 (.ofInt 2) 60000

/-- The type `RetryPolicy`: what becomes of failures. -/
structure RetryPolicy where
  /-- as many failures in a row end a job -/
  maxRetries : Nat
  backoff : Backoff
deriving DecidableEq, Repr

/-- The built-in policy. -/
def RetryPolicy.initial : RetryPolicy := ⟨3, .initial⟩

/-- The type `SchedulerConfig`. -/
structure SchedulerConfig where
  chunkMinutes : Nat
  loadMinutes : Nat
  /-- fire a job whose time has passed instead of refusing it -/
  forceExpired : Bool
  /-- how long a firing may be late and still count as due -/
  toleranceMs : Nat
  retry : RetryPolicy
deriving DecidableEq, Repr

/-- What makes a configuration unusable. -/
inductive ConfigFault
  | zeroChunk
  | zeroLoadInterval
  | backoff (initialMs : Nat) (multiplier : Binary64) (maxMs : Nat)
  /-- the sources do not make up a configuration; why, is not told -/
  | unreadable
  /-- a fault in someone else's words -/
  | stated (text : String)
deriving DecidableEq, Repr

/-- The wording of a fault. -/
def ConfigFault.message : ConfigFault → String
  | zeroChunk => "scheduler_chunk_in_minutes must be > 0"
  | zeroLoadInterval => "load_job_interval_in_minutes must be > 0"
  | backoff initialMs multiplier maxMs =>
    "invalid exponential backoff: initial=" ++ String.ofList (Numeral.padded 1 initialMs) ++
      "ms multiplier=" ++ String.ofList multiplier.messageText ++
      " max=" ++ String.ofList (Numeral.padded 1 maxMs) ++ "ms"
  | unreadable => ""
  | stated text => text

/-- An exponential backoff must not start at zero, shrink, or start above its maximum. -/
def Backoff.validate : Backoff → Except ConfigFault Unit
  | fixed _ => .ok ()
  | exponential initialMs multiplier maxMs =>
    if initialMs = 0 || multiplier.isBelowOne || maxMs < initialMs then
      .error (.backoff initialMs multiplier maxMs)
    else .ok ()

namespace SchedulerConfig

/-- The built-in configuration. -/
def initial : SchedulerConfig := ⟨10, 10, false, 1000, .initial⟩

/-- The operation `validate`: the chunk and the load interval are not zero, and the backoff is usable. The
first fault is told. -/
def validate (c : SchedulerConfig) : Except ConfigFault Unit :=
  if c.chunkMinutes = 0 then .error .zeroChunk
  else if c.loadMinutes = 0 then .error .zeroLoadInterval
  else c.retry.backoff.validate

/-- The operation `load_interval_exceeds_chunk`: scans are further apart than jobs are armed ahead, so that
some jobs would be found too late. -/
def exceedsChunk (c : SchedulerConfig) : Bool := c.chunkMinutes < c.loadMinutes

/-- The operation `clamped`: with scans at most a chunk apart. -/
def clamped (c : SchedulerConfig) : SchedulerConfig :=
  { c with loadMinutes := min c.loadMinutes c.chunkMinutes }

/-- The operation `chunk`: the chunk in milliseconds; one too long for 64 bits is as long as they hold. -/
def chunkMs (c : SchedulerConfig) : Int :=
  let ms : Int := c.chunkMinutes * 60000
  if ms ≤ maxInt64 then ms else maxInt64

/-- The operation `expired_tolerance`: the tolerance in milliseconds, at most what 64 bits hold. -/
def toleranceHeldMs (c : SchedulerConfig) : Int := min (c.toleranceMs : Int) maxInt64

/-- The operation `load_interval`: the load interval in seconds, at most what 64 bits hold. -/
def loadSeconds (c : SchedulerConfig) : Nat := min (c.loadMinutes * 60) maxNat64

/-- The operation `chunk_horizon`: the last instant for which jobs are armed at once. -/
def chunkEnd (c : SchedulerConfig) (now : Instant) : Instant := now.after (c.chunkMs * nanosPerMilli)

/-- The operation `recovery_horizon`: the last instant for which a scan arms jobs. It lies one load interval
past the chunk, so that a job just beyond the chunk is armed by the next scan even if that is late. -/
def scanEnd (c : SchedulerConfig) (now : Instant) : Instant :=
  (c.chunkEnd now).after (c.loadSeconds * nanosPerSecond)

/-- The instant before which a firing counts as missed, if it lies in the range of instants. -/
def missedBefore? (c : SchedulerConfig) (now : Instant) : Option Instant :=
  now.shift? (-(c.toleranceHeldMs * nanosPerMilli))

/-- The operation `is_expired`: a firing at the instant has been missed. -/
def isExpired (c : SchedulerConfig) (now instant : Instant) : Bool :=
  (c.missedBefore? now).any (instant < ·)

end SchedulerConfig

end Punctual
