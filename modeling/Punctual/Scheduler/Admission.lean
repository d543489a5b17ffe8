import Punctual.Scheduler

/-!
Requests: jobs are scheduled, patched, looked up and canceled. How far a job has come is the
scheduler's knowledge: whatever status or counters a request carries, those of the stored record
stay, and a job without a record starts afresh.
-/
namespace Punctual.Scheduler

/-- What is stored for a request: its fields laid over the record. -/
def requested (stored? : Option Job) (incoming : Job) : Job :=
  match stored? with
  | some stored =>
    { stored.merge incoming.asPatch with
      status := stored.status
      retries := stored.retries
      executions := stored.executions }
  | none => { incoming with status := .scheduled, retries := 0, executions := 0, handle? := none }

/-- The instant to arm a requested job for: its next firing, or now if that was missed and the job is
being retried or missed jobs are to fire. -/
def dueOf (config : SchedulerConfig) (now : Instant) (job : Job) : Except SchedulerError Instant :=
  match job.next? with
  | none => .error (.invalid (.noFiringLeft job.id))
  | some fire =>
    if config.isExpired now fire then
      if job.status = .retry ∨ config.forceExpired then .ok now else .error (.expired job.id fire)
    else .ok fire

/-- The operation `schedule`: admits a job; one with a record is armed anew. -/
def schedule (s : Scheduler) (clock : Clock) (incoming : Job) :
    Except SchedulerError Job × Scheduler :=
  if Job.isBlankId incoming.id then (.error (.invalid .blankId), s)
  else
    match s.read incoming.id with
    | (.error e, s) => (.error e, s)
    | (.ok stored?, s) =>
      match stored?.filter (·.status.isTerminal) with
      | some stored => (.error (.finalized stored.id stored.status), s)
      | none =>
        let job := requested stored? incoming
        match dueOf s.config clock.now job with
        | .error e => (.error e, s)
        | .ok due =>
          let s := match stored? with
            | some stored => s.disarm stored
            | none => s
          s.armOrDefer clock job due (s.config.chunkEnd clock.now)

/-- The operation `cancel`: cancels a job and answers its record; a finished job is left as it is. -/
def cancel (s : Scheduler) (clock : Clock) (id : JobId) :
    Except SchedulerError (Option Job) × Scheduler :=
  match s.read id with
  | (.error e, s) => (.error e, s)
  | (.ok none, s) => (.ok none, s)
  | (.ok (some job), s) =>
    if job.status.isTerminal then (.ok (some job), s)
    else
      match (s.disarm job).writeUnarmed clock { job with status := .canceled } with
      | (.ok saved, s) => (.ok (some saved), s)
      | (.error e, s) => (.error e, s)

/-- The operation `cancel_job`: cancels a job that must be stored. -/
def cancelStored (s : Scheduler) (clock : Clock) (id : JobId) :
    Except SchedulerError Job × Scheduler :=
  match s.cancel clock id with
  | (.ok (some job), s) => (.ok job, s)
  | (.ok none, s) => (.error (.notFound id), s)
  | (.error e, s) => (.error e, s)

/-- The service's operation `get`: the record of a job, which must be stored. -/
def lookUp (s : Scheduler) (id : JobId) : Except SchedulerError Job × Scheduler :=
  match s.read id with
  | (.ok (some job), s) => (.ok job, s)
  | (.ok none, s) => (.error (.notFound id), s)
  | (.error e, s) => (.error e, s)

/-- The operation `cancel_pending`: cancels the job that a lookup finds. -/
def cancelFound (s : Scheduler) (clock : Clock) (id : JobId) :
    Except SchedulerError Job × Scheduler :=
  match s.lookUp id with
  | (.ok job, s) => s.cancelStored clock job.id
  | (.error e, s) => (.error e, s)

/-- The record of a job with a patch laid over it, which is then scheduled. The record is read before
the job is scheduled, as a step of its own. -/
def patched (s : Scheduler) (id : JobId) (patch : JobPatch) : Except SchedulerError Job × Scheduler :=
  match patch.id?.filter (· ≠ id) with
  | some patchId => (.error (.invalid (.otherJob patchId id)), s)
  | none =>
    match s.lookUp id with
    | (.error e, s) => (.error e, s)
    | (.ok stored, s) =>
      if stored.status.isTerminal then (.error (.finalized stored.id stored.status), s)
      else (.ok (stored.merge patch), s)

/-- The service's operation `patch`: lays a patch over the record of a job and schedules the result. -/
def patch (s : Scheduler) (clock : Clock) (id : JobId) (patch : JobPatch) :
    Except SchedulerError Job × Scheduler :=
  match s.patched id patch with
  | (.ok merged, s) => s.schedule clock merged
  | (.error e, s) => (.error e, s)

end Punctual.Scheduler
