import Punctual.Job
import Std.Data.TreeMap
import Std.Data.TreeMap.Lemmas

/-!
The index of jobs armed in this process: for each, the timer's handle, the instant it was armed for,
and whether it is firing at present. An operation that names a handle leaves an entry with another
handle alone.
-/
namespace Punctual

/-- An entry of the index, the type `ArmedJob`. -/
structure ArmedJob where
  handle : Handle
  due : Instant
  firing : Bool
deriving DecidableEq, Repr

/-- The type `ArmedJobs`: at most one entry for each job. -/
structure ArmedIndex where
  jobs : Std.TreeMap JobId ArmedJob

namespace ArmedIndex

/-- The operation `new`: nothing is armed. -/
def empty : ArmedIndex := ⟨∅⟩

/-- The operation `get`: the entry of a job. -/
def get? (a : ArmedIndex) (id : JobId) : Option ArmedJob := a.jobs[id]?

/-- The operation `fire_time`: the instant a job is armed for. -/
def due? (a : ArmedIndex) (id : JobId) : Option Instant := (a.get? id).map (·.due)

/-- The operation `insert`: puts an entry in place of any that the job has. -/
def insert (a : ArmedIndex) (id : JobId) (job : ArmedJob) : ArmedIndex := ⟨a.jobs.insert id job⟩

/-- The operation `remove`: a job is no longer armed, under whatever handle. -/
def erase (a : ArmedIndex) (id : JobId) : ArmedIndex := ⟨a.jobs.erase id⟩

/-- The job is armed under the handle. -/
def holds (a : ArmedIndex) (id : JobId) (handle : Handle) : Bool :=
  (a.get? id).any (·.handle = handle)

/-- The operation `mark_firing`: notes that the job is firing, if it is armed under the handle. -/
def markFiring (a : ArmedIndex) (id : JobId) (handle : Handle) : ArmedIndex :=
  match a.get? id with
  | some job => if job.handle = handle then a.insert id { job with firing := true } else a
  | none => a

/-- The operation `remove_if_handle`: removes the job, if it is armed under the handle. -/
def eraseIf (a : ArmedIndex) (id : JobId) (handle : Handle) : ArmedIndex :=
  if a.holds id handle then a.erase id else a

/-- The operation `len`: how many jobs are armed. -/
def size (a : ArmedIndex) : Nat := a.jobs.size

end ArmedIndex

end Punctual
