import Punctual.Log
import Punctual.Settings
import Punctual.Simulation

/-!
Dry runs: jobs are submitted to a scheduler of their own, whose firings deliver nothing, until the run
is told to stop or no job is active any more. Firings under way are then given some time to end.
-/
namespace Punctual

/-- When a dry run ends. -/
structure DryRunEnd where
  /-- as soon as no job is active -/
  whenIdle : Bool
  /-- after so many milliseconds -/
  afterMs? : Option Nat
deriving DecidableEq, Repr

/-- A run as it stands. -/
structure DryRun where
  simulation : Simulation
  tasks : Tasks Work WorkResult
  /-- jobs that the scheduler has taken -/
  submitted : Nat
  /-- jobs that it has refused -/
  rejected : Nat

/-- What has become of a dry run, the type `RunSummary` with what else can be seen. -/
structure DryRunSummary where
  submitted : Nat
  rejected : Nat
  /-- firings delivered -/
  fired : Nat
  /-- the jobs as they are stored in the end -/
  jobs : List Job
  ended : Instant
  /-- the scans had come to an end in the time given -/
  inTime : Bool

namespace DryRun

/-- A run that has submitted nothing. -/
def create (start : Instant) (settings : Settings) : Except SchedulerError DryRun := do
  let timers := Timers.ofService settings.backend.service
  let scheduler ← Scheduler.create settings.scheduler .empty timers [Executor.dryRun]
  match settings.backend with
  | .sleeping => return ⟨.ofScheduler start scheduler, .empty, 0, 0⟩
  | .polling =>
    let (answer, timers) := timers.start timers.underneath
    answer
    return ⟨.ofScheduler start { scheduler with timers }, Tasks.empty.start [.polling 500], 0, 0⟩

/-- Within `run_with_settings`, submits a job. -/
def submit (r : DryRun) (job : Job) : DryRun :=
  let issued := r.simulation.scheduler.timers.issued
  let (answer, simulation) := r.simulation.apply fun scheduler clock => scheduler.schedule clock job
  let tasks := r.tasks.start (simulation.timerWorks issued)
  match answer with
  | .ok _ => { r with simulation, tasks, submitted := r.submitted + 1 }
  | .error _ => { r with simulation, tasks, rejected := r.rejected + 1 }

/-- Starts the scans, and the task that waits for the end. -/
def attend (r : DryRun) (stop : DryRunEnd) (graceSeconds : Nat) : Except SchedulerError DryRun := do
  let simulation := r.simulation
  let manager ← simulation.manager.start r.tasks.next
  let loop := Work.loop simulation.elapsedMs simulation.scheduler.config.loadSeconds
  let attending := Work.attending (stop.afterMs?.map (simulation.elapsedMs + ·))
    (if stop.whenIdle then some simulation.elapsedMs else none) (graceSeconds * 1000)
  return { r with
    simulation := { simulation with manager, keepers := simulation.keepers + 1 }
    tasks := (r.tasks.start [loop]).startMain attending }

/-- A run under way. -/
def begin (start : Instant) (settings : Settings) (jobs : List Job) (stop : DryRunEnd) :
    Except SchedulerError DryRun := do
  (jobs.foldl submit (← create start settings)).attend stop settings.shutdownSeconds

/-- Takes at most so many turns. -/
def proceed (r : DryRun) (turns : Nat) : DryRun :=
  let (tasks, simulation) := Simulation.rules.run turns r.tasks r.simulation
  { r with tasks, simulation }

/-- The clock reading that the run waits for, when nothing can go on before it. -/
def awaited? (r : DryRun) : Option Nat :=
  if r.tasks.pick?.isSome then none else r.tasks.nextReading?

/-- What has become of the run, once it has ended. -/
def summary? (r : DryRun) : Option DryRunSummary :=
  match r.tasks.main?.bind r.tasks.result? with
  | some (.closed fired jobs inTime) =>
    some ⟨r.submitted, r.rejected, fired, jobs, r.simulation.now, inTime⟩
  | _ => none

/-- The operation `run_with_settings`, run to its end. -/
def run? (start : Instant) (settings : Settings) (jobs : List Job) (stop : DryRunEnd) :
    Except SchedulerError (Option DryRunSummary) :=
  (begin start settings jobs stop).map fun r => (r.proceed TaskRules.turnLimit).summary?

end DryRun

namespace DryRunSummary

/-- How many jobs there are of each status; statuses that no job has are left out. -/
def byStatus (s : DryRunSummary) : List (JobStatus × Nat) :=
  (JobStatus.all.map fun status => (status, s.jobs.countP (·.status == status))).filter
    fun (_, count) => count ≠ 0

/-- A firing has failed. -/
def anyFailed (s : DryRunSummary) : Bool := s.jobs.any fun job => job.retries ≠ 0

/-- A job has ended in error. -/
def anyInError (s : DryRunSummary) : Bool := s.jobs.any (·.status == .error)

/-- The run in a few lines. -/
def report (s : DryRunSummary) : String :=
  let counts := [("submitted", s.submitted), ("rejected", s.rejected), ("fired", s.fired)] ++
    s.byStatus.map fun (status, count) => (status.name, count)
  String.join (counts.map fun (name, count) =>
    name ++ ": " ++ String.ofList (Numeral.padded 1 count) ++ "\n")

/-- The source of log lines about the run as a whole. -/
def runSource : String := "timer_daemon"

/-- The source of log lines about single firings and scans. -/
def firingSource : String := "timer_scheduler"

/-- The kinds of lines that a run with these settings logs. -/
def logLines (s : DryRunSummary) (settings : Settings) : List LogLine :=
  [⟨runSource, .info⟩, ⟨firingSource, .info⟩] ++
    (if s.rejected ≠ 0 || !s.inTime then [⟨runSource, .warn⟩] else []) ++
    (if settings.scheduler.exceedsChunk || s.anyFailed then [⟨firingSource, .warn⟩] else []) ++
    (if s.anyInError then [⟨firingSource, .error⟩] else [])

end DryRunSummary

end Punctual
