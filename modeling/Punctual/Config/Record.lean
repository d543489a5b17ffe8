import Punctual.Config
import Punctual.Json.Record

/-!
Configurations as records.
-/
namespace Punctual

namespace Backoff

/-- A backoff whose multiplier is read in a given way. -/
def readWith? (multiplier? : Json → Option Binary64) (j : Json) : Option Backoff := do
  let (kind, rest) ← j.tagged? "kind"
  match kind with
  | "fixed" =>
    let r ← rest.record? ["delay_ms"]
    return .fixed (← r.required "delay_ms" Json.nat64?)
  | "exponential" =>
    let r ← rest.record? ["initial_ms", "multiplier", "max_ms"]
    return .exponential (← r.required "initial_ms" Json.nat64?)
      (← r.required "multiplier" multiplier?) (← r.required "max_ms" Json.nat64?)
  | _ => none

/-- The backoff that a record spells. -/
def ofJson? (j : Json) : Option Backoff := readWith? Json.real? j

/-- The record of a backoff. -/
def toJson : Backoff → Json
  | fixed delayMs => .obj [("kind", .str "fixed"), ("delay_ms", .int delayMs)]
  | exponential initialMs multiplier maxMs =>
    .obj [("kind", .str "exponential"), ("initial_ms", .int initialMs),
      ("multiplier", .ofReal multiplier), ("max_ms", .int maxMs)]

end Backoff

namespace RetryPolicy

/-- The policy that a record spells; what is left out is built in. -/
def ofJson? (j : Json) : Option RetryPolicy := do
  let r ← j.record? ["max_retries", "backoff"]
  return {
    maxRetries := ← r.withDefault "max_retries" Json.nat32? initial.maxRetries
    backoff := ← r.withDefault "backoff" Backoff.ofJson? .initial }

/-- The record of a policy. -/
def toJson (p : RetryPolicy) : Json :=
  .obj [("max_retries", .int p.maxRetries), ("backoff", p.backoff.toJson)]

end RetryPolicy

namespace SchedulerConfig

/-- The configuration that a record spells; what is left out is built in. -/
def ofJson? (j : Json) : Option SchedulerConfig := do
  let r ← j.record?
    ["scheduler_chunk_in_minutes", "load_job_interval_in_minutes", "force_execute_expired_jobs",
     "expired_tolerance_ms", "retry"]
  return {
    chunkMinutes := ← r.withDefault "scheduler_chunk_in_minutes" Json.nat64? initial.chunkMinutes
    loadMinutes := ← r.withDefault "load_job_interval_in_minutes" Json.nat64? initial.loadMinutes
    forceExpired := ← r.withDefault "force_execute_expired_jobs" Json.bool? initial.forceExpired
    toleranceMs := ← r.withDefault "expired_tolerance_ms" Json.nat64? initial.toleranceMs
    retry := ← r.withDefault "retry" RetryPolicy.ofJson? .initial }

/-- The record of a configuration. -/
def toJson (c : SchedulerConfig) : Json :=
  .obj [
    ("scheduler_chunk_in_minutes", .int c.chunkMinutes),
    ("load_job_interval_in_minutes", .int c.loadMinutes),
    ("force_execute_expired_jobs", .bool c.forceExpired),
    ("expired_tolerance_ms", .int c.toleranceMs),
    ("retry", c.retry.toJson)]

end SchedulerConfig

end Punctual
