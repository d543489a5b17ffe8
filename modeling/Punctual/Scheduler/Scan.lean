import Punctual.Scheduler.Recovery

/-!
The scan: it finds the active jobs due up to the scan's horizon and has those recovered that are not
armed here. Its report accounts for every job found.
-/
namespace Punctual

/-- The type `ScanReport`. -/
structure ScanReport where
  found : Nat
  alreadyArmed : Nat
  /-- of those, the ones firing at present -/
  inFlight : Nat
  /-- handed over for recovery -/
  submitted : Nat
  fastForwarded : Nat
  abandoned : Nat
  failed : Nat
deriving DecidableEq, Repr

namespace ScanReport

/-- The report on no job. -/
def empty : ScanReport := ⟨0, 0, 0, 0, 0, 0, 0⟩

/-- With one more job, which is armed here or handed over. -/
def count (r : ScanReport) (armed? : Option ArmedJob) : ScanReport :=
  match armed? with
  | some armed =>
    { r with
      found := r.found + 1
      alreadyArmed := r.alreadyArmed + 1
      inFlight := r.inFlight + if armed.firing then 1 else 0 }
  | none => { r with found := r.found + 1, submitted := r.submitted + 1 }

/-- With the result of one recovery. -/
def note (r : ScanReport) : Except SchedulerError Recovery → ScanReport
  | .ok (.fastForwarded _) => { r with fastForwarded := r.fastForwarded + 1 }
  | .ok (.abandoned _) => { r with abandoned := r.abandoned + 1 }
  | .ok _ => r
  | .error _ => { r with failed := r.failed + 1 }

end ScanReport

namespace Scheduler

/-- The jobs that a scan finds. -/
def scanned (s : Scheduler) (now : Instant) : Except SchedulerError (List Job) :=
  (s.store.find .earliest (s.config.scanEnd now) [.scheduled, .retry]).mapError .storage

/-- Of the jobs found, those not armed here. -/
def unarmed (s : Scheduler) (found : List Job) : List JobId :=
  (found.filter fun job => (s.armed.get? job.id).isNone).map (·.id)

/-- The report on the jobs found, before any is recovered. -/
def tally (s : Scheduler) (found : List Job) : ScanReport :=
  found.foldl (fun report job => report.count (s.armed.get? job.id)) .empty

/-- The operation `scan`, where nothing else interrupts it. -/
def scan (s : Scheduler) (clock : Clock) : Except SchedulerError ScanReport × Scheduler :=
  match s.scanned clock.now with
  | .error e => (.error e, s)
  | .ok found =>
    let (report, s) := (s.unarmed found).foldl
      (fun (report, s) id =>
        let (answer, s) := s.recover clock id
        (report.note answer, s))
      (s.tally found, s)
    (.ok report, s)

end Scheduler

end Punctual
