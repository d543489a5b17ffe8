import Punctual.Binary64.Shortest
import Punctual.Config.Record
import Punctual.Settings
import Punctual.Text.LowerCase

/-!
Reading settings from a tree of values of any kind. Texts, numbers and truth values stand for each
other where one is spelled by the other.
-/
namespace Punctual

/-- The nearest whole number, halves away from zero; at least zero and at most what 64 bits hold. -/
def Binary64.rounded (x : Binary64) : Nat :=
  if x.isNaN || x.isNegative then 0
  else if !x.isFinite then maxNat64
  else
    let (m, q) := x.magnitude
    let n :=
      if 0 ≤ q then m * Nat.pow 2 q.toNat
      else (m + Nat.pow 2 ((-q).toNat - 1)) / Nat.pow 2 (-q).toNat
    min n maxNat64

/-- The truth value that a word spells. -/
def truthOf? (word : String) : Option Bool :=
  if ["true", "on", "yes"].contains word then some true
  else if ["false", "off", "no"].contains word then some false
  else none

namespace Json

/-- A whole number from zero up, or what stands for one. -/
def asNat? : Json → Option Nat
  | .int n => if 0 ≤ n then some n.toNat else none
  | .real x => some x.rounded
  | .bool b => some b.toNat
  | .str s =>
    match truthOf? (Text.lowerCase s) with
    | some b => some b.toNat
    | none =>
      let digits := match s.toList with
        | '+' :: digits => digits
        | digits => digits
      (Numeral.whole? digits).bind fun n => if n ≤ maxNat64 then some n else none
  | _ => none

/-- The same, of which only the last 32 bits are taken. -/
def asNat32? (j : Json) : Option Nat := j.asNat?.map (· % Nat.pow 2 32)

/-- A truth value, or what stands for one; any number but zero is true. -/
def asBool? : Json → Option Bool
  | .bool b => some b
  | .int n => some (n ≠ 0)
  | .real x => some (x.magnitude.1 ≠ 0)
  | .str s =>
    match Text.lowerCase s with
    | "1" => some true
    | "0" => some false
    | word => truthOf? word
  | _ => none

/-- A text, or a value that can be written as one. -/
def asText? : Json → Option String
  | .str s => some s
  | .bool b => some (if b then "true" else "false")
  | .int n => some (String.ofList (Numeral.ofInt n))
  | .real x => some (String.ofList x.messageText)
  | _ => none

/-- Any number. -/
def asReal? : Json → Option Binary64
  | .int n => some (Binary64.ofInt n)
  | .real x => some x
  | _ => none

/-- The record with these field names; in an array, items after the last field are passed over. -/
def looseRecord? (names : List String) : Json → Option Record
  | .obj fields => some ⟨fun name => fields.lookup name, false⟩
  | .arr items => some ⟨fun name => (names.zip items).lookup name, true⟩
  | _ => none

end Json

/-- The word in any case, or a table with that word as its one name. -/
def TimerBackend.ofAny? : Json → Option TimerBackend
  | .str s => ofName? (Text.lowerCase s)
  | .obj [(name, _)] => ofName? (Text.lowerCase name)
  | _ => none

/-- The policy that a configuration value stands for; what is left out is built in. -/
def RetryPolicy.ofAny? (j : Json) : Option RetryPolicy := do
  let r ← j.looseRecord? ["max_retries", "backoff"]
  return {
    maxRetries := ← r.withDefault "max_retries" Json.asNat32? initial.maxRetries
    backoff := ← r.withDefault "backoff" (Backoff.readWith? Json.asReal?) .initial }

/-- The configuration that a value stands for; what is left out is built in. -/
def SchedulerConfig.ofAny? (j : Json) : Option SchedulerConfig := do
  let r ← j.looseRecord?
    ["scheduler_chunk_in_minutes", "load_job_interval_in_minutes", "force_execute_expired_jobs",
     "expired_tolerance_ms", "retry"]
  return {
    chunkMinutes := ← r.withDefault "scheduler_chunk_in_minutes" Json.asNat? initial.chunkMinutes
    loadMinutes := ← r.withDefault "load_job_interval_in_minutes" Json.asNat? initial.loadMinutes
    forceExpired := ← r.withDefault "force_execute_expired_jobs" Json.asBool? initial.forceExpired
    toleranceMs := ← r.withDefault "expired_tolerance_ms" Json.asNat? initial.toleranceMs
    retry := ← r.withDefault "retry" RetryPolicy.ofAny? .initial }

/-- The settings that a value stands for; what is left out is built in. -/
def Settings.ofAny? (j : Json) : Option Settings := do
  let r ← j.looseRecord? ["log_level", "timer_backend", "shutdown_timeout_secs", "scheduler"]
  return {
    logLevel := ← r.withDefault "log_level" Json.asText? initial.logLevel
    backend := ← r.withDefault "timer_backend" TimerBackend.ofAny? initial.backend
    shutdownSeconds := ← r.withDefault "shutdown_timeout_secs" Json.asNat? initial.shutdownSeconds
    scheduler := ← r.withDefault "scheduler" SchedulerConfig.ofAny? .initial }

end Punctual
