import Punctual.Job

/-!
One lock for each job. A lock is made when an operation on the job finds none in the table, and
removed from the table when the last operation that refers to it has ended. Every function here is one
indivisible step of an operation: it enters, acquires, does its work, releases, leaves and tidies up.
-/
namespace Punctual

/-- Operations are numbered, and so are locks. -/
structure JobLocks where
  /-- locks made so far -/
  made : Nat
  /-- the lock of a job, for the jobs that have one -/
  table : List (JobId × Nat)
  /-- operations that refer to a lock, each with its lock -/
  references : List (Nat × Nat)
  /-- locks that are held, each with the operation that holds it -/
  holders : List (Nat × Nat)
deriving DecidableEq, Repr

namespace JobLocks

/-- No lock was ever made. -/
def empty : JobLocks := ⟨0, [], [], []⟩

/-- The operation finds the job's lock, or makes one, and refers to it. -/
def enter (l : JobLocks) (operation : Nat) (id : JobId) : JobLocks :=
  match l.table.lookup id with
  | some lock => { l with references := (operation, lock) :: l.references }
  | none =>
    let lock := l.made + 1
    { l with
      made := lock
      table := (id, lock) :: l.table
      references := (operation, lock) :: l.references }

/-- The lock that the operation refers to is free. -/
def mayAcquire (l : JobLocks) (operation : Nat) : Bool :=
  (l.references.lookup operation).any fun lock => (l.holders.lookup lock).isNone

/-- The operation takes its lock if that is free. -/
def acquire (l : JobLocks) (operation : Nat) : JobLocks :=
  match l.references.lookup operation with
  | some lock =>
    if (l.holders.lookup lock).isNone then { l with holders := (lock, operation) :: l.holders } else l
  | none => l

/-- The operation lets go of its lock. -/
def release (l : JobLocks) (operation : Nat) : JobLocks :=
  { l with holders := l.holders.filter (·.2 != operation) }

/-- The operation no longer refers to its lock. -/
def leave (l : JobLocks) (operation : Nat) : JobLocks :=
  { l with references := l.references.filter (·.1 != operation) }

/-- Removes the job's lock from the table if no operation refers to it. -/
def tidy (l : JobLocks) (id : JobId) : JobLocks :=
  match l.table.lookup id with
  | some lock =>
    if l.references.any (·.2 == lock) then l
    else { l with table := l.table.filter (·.1 != id) }
  | none => l

end JobLocks

end Punctual
