import Punctual.Config.Record
import Punctual.Json.Printer
import Punctual.Settings

/-!
Settings as records, and as they are shown.
-/
namespace Punctual

/-- The backend that a word in a record names. -/
def TimerBackend.ofJson? (j : Json) : Option TimerBackend := j.word?.bind ofName?

namespace Settings

/-- The settings that a record spells; what is left out is built in. -/
def ofJson? (j : Json) : Option Settings := do
  let r ← j.record? ["log_level", "timer_backend", "shutdown_timeout_secs", "scheduler"]
  return {
    logLevel := ← r.withDefault "log_level" Json.string? initial.logLevel
    backend := ← r.withDefault "timer_backend" TimerBackend.ofJson? initial.backend
    shutdownSeconds := ← r.withDefault "shutdown_timeout_secs" Json.nat64? initial.shutdownSeconds
    scheduler := ← r.withDefault "scheduler" SchedulerConfig.ofJson? .initial }

/-- The record of settings. -/
def toJson (s : Settings) : Json :=
  .obj [
    ("log_level", .str s.logLevel),
    ("timer_backend", .str s.backend.name),
    ("shutdown_timeout_secs", .int s.shutdownSeconds),
    ("scheduler", s.scheduler.toJson)]

/-- The settings over several lines. -/
def listing (s : Settings) : String := String.ofList (s.toJson.renderLines 0 ++ ['\n'])

end Settings

end Punctual
