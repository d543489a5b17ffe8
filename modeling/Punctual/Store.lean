import Punctual.Error
import Std.Data.TreeMap
import Std.Data.TreeMap.Lemmas

/-!
The job store: records by id. It may be switched off, and failures can be staged for the reads and
writes that the scheduler makes. A call that fails changes no record.
-/
namespace Punctual

/-- A failure staged for one call. -/
inductive StagedFault
  | unavailable | conflict | notFound
deriving DecidableEq, Repr

/-- The error with which a call about a job fails. -/
def StagedFault.error (id : JobId) : StagedFault → StorageError
  | unavailable => .unavailable "scripted"
  | conflict => .conflict id
  | notFound => .notFound id

/-- The type `InMemoryJobRepository`, with the failures that are staged for its callers. -/
structure Store where
  jobs : Std.TreeMap JobId Job
  available : Bool
  /-- records written or removed so far -/
  writes : Nat
  /-- what becomes of the scheduler's next reads, `none` for success -/
  readFaults : List (Option StagedFault)
  /-- what becomes of the scheduler's next writes -/
  writeFaults : List (Option StagedFault)

namespace Store

/-- The operation `new`: no records. -/
def empty : Store := ⟨∅, true, 0, [], []⟩

/-- What every call answers while the store is switched off. -/
def switchedOff : StorageError := .unavailable "in-memory repository switched off"

/-- The operation `get`: the record under an id. -/
def get? (s : Store) (id : JobId) : Except StorageError (Option Job) :=
  if s.available then .ok s.jobs[id]? else .error switchedOff

/-- The operation `exists`: a record has the id. -/
def contains (s : Store) (id : JobId) : Except StorageError Bool :=
  if s.available then .ok (s.jobs.contains id) else .error switchedOff

/-- The operation `save`: puts a job in place of any record with its id. -/
def save (s : Store) (job : Job) : Except StorageError Store :=
  if s.available then .ok { s with jobs := s.jobs.insert job.id job, writes := s.writes + 1 }
  else .error switchedOff

/-- The operation `delete`: removes the record with the id and answers it. -/
def delete (s : Store) (id : JobId) : Except StorageError (Option Job × Store) :=
  if s.available then
    match s.jobs[id]? with
    | some job => .ok (some job, { s with jobs := s.jobs.erase id, writes := s.writes + 1 })
    | none => .ok (none, s)
  else .error switchedOff

/-- The operation `find_all`: all records, by id. -/
def all (s : Store) : Except StorageError (List Job) :=
  if s.available then .ok s.jobs.values else .error switchedOff

/-- The job comes before another that a query found: it has higher priority, or else fires earlier, or
else has the smaller id. -/
def precedes (a b : Job) (fireA fireB : Instant) : Bool :=
  if a.priority ≠ b.priority then b.priority < a.priority
  else if fireA ≠ fireB then fireA < fireB
  else a.id < b.id

/-- Puts a job into its place among jobs in order. -/
def place (job : Job) (fire : Instant) : List (Instant × Job) → List (Instant × Job)
  | [] => [(fire, job)]
  | (other, next) :: rest =>
    if precedes job next fire other then (fire, job) :: (other, next) :: rest
    else (other, next) :: place job fire rest

/-- The firing that comes next, if a query for these statuses and this window is to find the job. -/
def queried? (start stop : Instant) (statuses : List JobStatus) (job : Job) : Option Instant :=
  if statuses.contains job.status then
    job.next?.filter fun fire => start ≤ fire && fire ≤ stop
  else none

/-- The operation `find_by_status_between_dates_order_by_priority`: the jobs with one of the statuses whose
next firing lies in the window, in order. -/
def find (s : Store) (start stop : Instant) (statuses : List JobStatus) :
    Except StorageError (List Job) :=
  if s.available then
    .ok ((s.jobs.values.foldr (fun job found =>
      match queried? start stop statuses job with
      | some fire => place job fire found
      | none => found) []).map (·.2))
  else .error switchedOff

/-! ## Calls of the scheduler, which meet staged failures -/

/-- The record under an id. -/
def read (s : Store) (id : JobId) : Except StorageError (Option Job) × Store :=
  match s.readFaults with
  | some fault :: rest => (.error (fault.error id), { s with readFaults := rest })
  | none :: rest => (s.get? id, { s with readFaults := rest })
  | [] => (s.get? id, s)

/-- Saves without regard to failures staged for writes. -/
def writeThrough (s : Store) (job : Job) : Except StorageError Unit × Store :=
  match s.save job with
  | .ok saved => (.ok (), saved)
  | .error e => (.error e, s)

/-- Puts a job in place of any record with its id. -/
def write (s : Store) (job : Job) : Except StorageError Unit × Store :=
  match s.writeFaults with
  | some fault :: rest => (.error (fault.error job.id), { s with writeFaults := rest })
  | none :: rest => { s with writeFaults := rest }.writeThrough job
  | [] => s.writeThrough job

end Store

end Punctual
