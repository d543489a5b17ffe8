import Punctual.Armed
import Punctual.Executor
import Punctual.Retry
import Punctual.Store
import Punctual.Timers

/-!
The scheduler: a store of job records, the index of jobs armed here, and the timers that fire them.
Jobs due within the chunk are armed at once; later ones are stored without a timer and left to the
scan. Operations are functions from one state of the scheduler to the next; each is one step that no
other operation on the same job interrupts.
-/
namespace Punctual

/-- The type `TimerJobScheduler`, with what it shares with its surroundings. -/
structure Scheduler where
  config : SchedulerConfig
  store : Store
  armed : ArmedIndex
  timers : Timers JobId
  executors : List Executor

namespace Scheduler

variable {α : Type}

/-- The operation `new`: a scheduler that has armed nothing, if the configuration is usable. -/
def create (config : SchedulerConfig) (store : Store) (timers : Timers JobId)
    (executors : List Executor) : Except SchedulerError Scheduler :=
  match config.validate with
  | .ok () => .ok ⟨config.clamped, store, .empty, timers, executors⟩
  | .error fault => .error (.config fault)

/-- The operation `reconfigure`: replaces the configuration. Timers armed already are left as they are. -/
def reconfigure (s : Scheduler) (config : SchedulerConfig) : Except SchedulerError Scheduler :=
  match config.validate with
  | .ok () => .ok { s with config := config.clamped }
  | .error fault => .error (.config fault)

/-- The operation `scheduled`: the instant for which a job is armed here. -/
def scheduled? (s : Scheduler) (id : JobId) : Option Instant := s.armed.due? id

/-- How many jobs are armed here, and the executors. -/
def describe (s : Scheduler) : String :=
  "TimerJobScheduler \x7b armed: " ++ String.ofList (Numeral.padded 1 s.armed.size) ++
    ", executors: " ++ Executor.describe s.executors ++ " \x7d"

/-- Reads a record. -/
def read (s : Scheduler) (id : JobId) : Except SchedulerError (Option Job) × Scheduler :=
  match s.store.read id with
  | (.ok job?, store) => (.ok job?, { s with store })
  | (.error e, store) => (.error (.storage e), { s with store })

/-- Stores a job and answers it. -/
def write (s : Scheduler) (job : Job) : Except SchedulerError Job × Scheduler :=
  match s.store.write job with
  | (.ok (), store) => (.ok job, { s with store })
  | (.error e, store) => (.error (.storage e), { s with store })

/-- The handles under which a job may be armed: the one in the index, then the recorded one. -/
def handlesOf (s : Scheduler) (job : Job) : List Handle :=
  match s.armed.get? job.id, job.handle? with
  | some armed, some recorded =>
    if recorded = armed.handle then [armed.handle] else [armed.handle, recorded]
  | some armed, none => [armed.handle]
  | none, some recorded => [recorded]
  | none, none => []

/-- The operation `disarm`: ends whatever timers a job may be armed under. -/
def disarm (s : Scheduler) (job : Job) : Scheduler :=
  { s with
    armed := s.armed.erase job.id
    timers := (s.handlesOf job).foldl (fun timers handle => (timers.disarm handle).2) s.timers }

/-- Ends one timer. -/
def disarmHandle (s : Scheduler) (handle : Handle) : Scheduler :=
  { s with timers := (s.timers.disarm handle).2 }

/-- The operation `arm_and_save`: arms a job for an instant and stores it with the timer's handle. If it
cannot be stored, the timer is ended again. -/
def armAndWrite (s : Scheduler) (clock : Clock) (job : Job) (due : Instant) :
    Except SchedulerError Job × Scheduler :=
  match s.timers.arm clock (due.since clock.now).toNat job.id with
  | (.error fault, timers) => (.error (.timer fault), { s with timers })
  | (.ok n, timers) =>
    let handle := Handle.issued n
    let job := { job with handle? := some handle, lastUpdate? := some clock.now }
    match { s with timers }.write job with
    | (.ok saved, s) =>
      (.ok saved, { s with armed := s.armed.insert saved.id ⟨handle, due, false⟩ })
    | (.error e, s) => (.error e, s.disarmHandle handle)

/-- Stores a job that is not armed, as changed now. -/
def writeUnarmed (s : Scheduler) (clock : Clock) (job : Job) : Except SchedulerError Job × Scheduler :=
  s.write { job with handle? := none, lastUpdate? := some clock.now }

/-- The operation `admit`: arms a job due up to the horizon; a later one is stored without a timer. -/
def armOrDefer (s : Scheduler) (clock : Clock) (job : Job) (due horizon : Instant) :
    Except SchedulerError Job × Scheduler :=
  if horizon < due then { s with armed := s.armed.erase job.id }.writeUnarmed clock job
  else s.armAndWrite clock job due

end Scheduler

end Punctual
