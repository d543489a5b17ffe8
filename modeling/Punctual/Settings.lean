import Punctual.Config
import Punctual.Timers

/-!
Settings of the program: the scheduler's configuration, and what stands around it.
-/
namespace Punctual

/-- The timer service behind the scheduler. -/
inductive TimerBackend
  /-- each timer elapses at its own time -/
  | sleeping
  /-- timers are looked for twice a second -/
  | polling
deriving DecidableEq, Repr

namespace TimerBackend

/-- The service that a backend stands for. -/
def service : TimerBackend → TimerService
  | sleeping => .sleeping
  | polling => .polling

/-- The word for a backend in settings. -/
def name : TimerBackend → String
  | sleeping => "tokio"
  | polling => "cron"

/-- All backends. -/
def all : List TimerBackend := [sleeping, polling]

/-- The backend that a word names. -/
def ofName? (name : String) : Option TimerBackend := all.find? (·.name == name)

end TimerBackend

/-- The type `Settings`. -/
structure Settings where
  logLevel : String
  backend : TimerBackend
  /-- how long firings may still take after the program is told to end -/
  shutdownSeconds : Nat
  scheduler : SchedulerConfig
deriving DecidableEq, Repr

namespace Settings

/-- The built-in settings. -/
def initial : Settings := ⟨"info", .sleeping, 30, .initial⟩

/-- With another log level, if one is given. -/
def withLogLevel (s : Settings) (level? : Option String) : Settings :=
  { s with logLevel := level?.getD s.logLevel }

/-- With expired jobs fired at once, if that is asked for. -/
def forcing (s : Settings) (force : Bool) : Settings :=
  if force then { s with scheduler := { s.scheduler with forceExpired := true } } else s

end Settings

end Punctual
