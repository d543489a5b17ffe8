import Punctual.Error

/-!
The manager starts and stops the loop that scans again and again. A shutdown tells the loop to end
and waits until it has; these are two steps, between which other requests may come.
-/
namespace Punctual

/-- The type `JobSchedulerManager`, without its scheduler. Loops are numbered. -/
structure Manager where
  isRunning : Bool
  /-- the loop that a shutdown would tell to end -/
  loop? : Option Nat
  /-- loops told to end -/
  cancelled : List Nat
deriving DecidableEq, Repr

namespace Manager

/-- No loop is running, as the operation `new` leaves it. -/
def idle : Manager := ⟨false, none, []⟩

/-- The operation `start`: notes that a loop was started under a number, unless one is running. -/
def start (m : Manager) (loop : Nat) : Except SchedulerError Manager :=
  if m.isRunning then .error .alreadyRunning
  else .ok { m with isRunning := true, loop? := some loop }

/-- The operation `shutdown` up to its waiting: tells the loop to end, and answers which one to wait for. -/
def beginShutdown (m : Manager) : Except SchedulerError (Option Nat × Manager) :=
  if m.isRunning then
    .ok (m.loop?, { m with loop? := none, cancelled := m.loop?.toList ++ m.cancelled })
  else .error .notRunning

/-- The operation `shutdown` after its waiting: notes that the loop has ended. -/
def finishShutdown (m : Manager) : Manager := { m with isRunning := false }

/-- The loop was told to end. -/
def isCancelled (m : Manager) (loop : Nat) : Bool := m.cancelled.contains loop

end Manager

end Punctual
