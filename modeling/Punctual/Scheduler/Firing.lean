import Punctual.Scheduler

/-!
Firings. When a timer elapses, its job is claimed if the record still names that timer; the executor
then runs without holding the job; and completion takes the outcome into the record, unless the
record changed meanwhile. Success moves the trigger on; failure is retried up to a number of times.
Completion breaks off, with the job claimed and its record as it was, where the trigger cannot be moved on.
-/
namespace Punctual.Scheduler

/-- The record is active and names the timer. -/
def isCurrent (job : Job) (handle : Handle) : Bool :=
  job.status.isActive && job.handle? = some handle

/-- The operation `claim`: takes a job for firing; nothing, if the timer is stale. -/
def claim (s : Scheduler) (id : JobId) (handle : Handle) :
    Except SchedulerError (Option Job) × Scheduler :=
  match s.read id with
  | (.error e, s) => (.error e, s)
  | (.ok job?, s) =>
    match job?.filter fun job => isCurrent job handle with
    | some job => (.ok (some job), { s with armed := s.armed.markFiring id handle })
    | none => (.ok none, { s with armed := s.armed.eraseIf id handle })

/-- Forgets that a job is armed under a handle, after `claim` or `complete` answered an error. A
completion that breaks off answers nothing, and so its job is not forgotten. -/
def release (s : Scheduler) (id : JobId) (handle : Handle) : Scheduler :=
  { s with armed := s.armed.eraseIf id handle }

/-- Within `on_success` and `on_failure`, ends a job in a final status. -/
def finalize (s : Scheduler) (clock : Clock) (job : Job) : Except SchedulerError Job × Scheduler :=
  match s.writeUnarmed clock job with
  | (.ok saved, s) => (.ok saved, { s with armed := s.armed.erase saved.id })
  | (.error e, s) => (.error e, s)

/-- The operation `on_success`: the record after a success, armed for the firing that comes next if there
is one. Where the trigger has no answer, completion breaks off, and nothing is stored. -/
def succeed (s : Scheduler) (clock : Clock) (job : Job) : Except SchedulerError Job × Scheduler :=
  match job.trigger.advance? with
  | none => (.error (.stuck job.id), s)
  | some (_, trigger) =>
    let job := { job with executions := nextNat32 job.executions, retries := 0, trigger }
    match job.next? with
    | some fire =>
      s.armOrDefer clock { job with status := .scheduled } fire (s.config.chunkEnd clock.now)
    | none => s.finalize clock { job with status := .executed }

/-- The operation `on_failure`: the record after a failure, armed for a retry if the policy grants one. -/
def fail (s : Scheduler) (clock : Clock) (job : Job) : Except SchedulerError Job × Scheduler :=
  let job := { job with retries := nextNat32 job.retries }
  let policy := s.config.retry
  if job.retries < policy.maxRetries then
    s.armAndWrite clock { job with status := .retry }
      (clock.now.after (policy.backoff.delay job.retries))
  else s.finalize clock { job with status := .error }

/-- The outcome is a success. -/
def hasSucceeded : ExecutionOutcome → Bool
  | .ok response => response.succeeded
  | .error _ => false

/-- The operation `complete`: takes the outcome of a firing into the record. -/
def complete (s : Scheduler) (clock : Clock) (id : JobId) (handle : Handle)
    (outcome : ExecutionOutcome) : Except SchedulerError (Option Job) × Scheduler :=
  match s.read id with
  | (.error e, s) => (.error e, s)
  | (.ok none, s) => (.ok none, s.release id handle)
  | (.ok (some job), s) =>
    if !isCurrent job handle then (.ok (some job), s.release id handle)
    else
      match if hasSucceeded outcome then s.succeed clock job else s.fail clock job with
      | (.ok saved, s) => (.ok (some saved), s)
      | (.error e, s) => (.error e, s)

end Punctual.Scheduler
