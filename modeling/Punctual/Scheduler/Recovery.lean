import Punctual.Scheduler

/-!
Recovery: a stored job that no timer here will fire is taken up again. Firings missed meanwhile are
passed over, unless the job was being retried or missed jobs are to fire; a job with no firing left
ends in error.
-/
namespace Punctual

/-- What became of a job that was to be recovered, the type `Recovery`. -/
inductive Recovery
  /-- armed, or left for a later scan -/
  | admitted (job : Job)
  /-- the same, after missed firings were passed over -/
  | fastForwarded (job : Job)
  /-- ended in error, as no firing was left -/
  | abandoned (job : Job)
  /-- there is no such active job, or it is armed here -/
  | skipped
deriving DecidableEq, Repr

namespace Recovery

/-- The word for the result. -/
def name : Recovery → String
  | admitted _ => "Admitted"
  | fastForwarded _ => "FastForwarded"
  | abandoned _ => "Abandoned"
  | skipped => "Skipped"

/-- The record as it was stored. -/
def job? : Recovery → Option Job
  | admitted job => some job
  | fastForwarded job => some job
  | abandoned job => some job
  | skipped => none

end Recovery

namespace Scheduler

/-- The operation `abandon`: ends a job in error without a firing. -/
def abandon (s : Scheduler) (clock : Clock) (job : Job) : Except SchedulerError Recovery × Scheduler :=
  match s.writeUnarmed clock { job with status := .error } with
  | (.ok saved, s) => (.ok (.abandoned saved), s)
  | (.error e, s) => (.error e, s)

/-- The operation `admit` for a recovery: the horizon is the scan's. -/
def resume (s : Scheduler) (clock : Clock) (job : Job) (due : Instant) (answer : Job → Recovery) :
    Except SchedulerError Recovery × Scheduler :=
  match s.armOrDefer clock job due (s.config.scanEnd clock.now) with
  | (.ok saved, s) => (.ok (answer saved), s)
  | (.error e, s) => (.error e, s)

/-- Within `recover`, passes over the firings that a job missed. Breaks off where the trigger has no
answer. -/
def fastForward (s : Scheduler) (clock : Clock) (job : Job) :
    Except SchedulerError Recovery × Scheduler :=
  let threshold := (s.config.missedBefore? clock.now).getD clock.now
  match job.trigger.skipUntil? threshold with
  | none => (.error (.stuck job.id), s)
  | some trigger =>
    match trigger.next? with
    | some fire => s.resume clock { job with trigger } fire .fastForwarded
    | none => s.abandon clock job

/-- Within `recover`, takes up a job that is active and not armed here. -/
def takeUp (s : Scheduler) (clock : Clock) (job : Job) : Except SchedulerError Recovery × Scheduler :=
  match job.next? with
  | none => s.abandon clock job
  | some fire =>
    if !s.config.isExpired clock.now fire then s.resume clock job fire .admitted
    else if job.status = .retry ∨ s.config.forceExpired then
      s.resume clock job clock.now .admitted
    else s.fastForward clock job

/-- The operation `recover`: takes up the job with an id, if it is stored, active and not armed here. -/
def recover (s : Scheduler) (clock : Clock) (id : JobId) :
    Except SchedulerError Recovery × Scheduler :=
  match s.read id with
  | (.error e, s) => (.error e, s)
  | (.ok none, s) => (.ok .skipped, s)
  | (.ok (some job), s) =>
    if !job.status.isActive || (s.armed.get? id).isSome then (.ok .skipped, s)
    else (s.disarm job).takeUp clock job

end Scheduler

end Punctual
