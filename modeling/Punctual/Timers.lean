import Punctual.Clock
import Punctual.Error

/-!
Timer services. A service arms one-shot timers, each with something to hand over when it elapses, and
names them by handles that it never uses twice. A timer ends in one of three ways: it elapses or is
fired, it is disarmed, or the service is shut down.

There are three services. The recording one never elapses a timer by itself and keeps account of
what it was asked. The sleeping one elapses each timer at its own time. The polling one has a scheduler
underneath that looks twice a second for timers whose whole second has come. That scheduler is not part of
the service: what it answers to a request to start is given, and it is known not to start a second time.
-/
namespace Punctual

/-- The kinds of `TimerService`. -/
inductive TimerService
  | recording | sleeping | polling
deriving DecidableEq, Repr

/-- A timer that has not ended. -/
structure ArmedTimer (α : Type) where
  handle : Nat
  /-- the clock reading at which it elapses -/
  dueMs : Nat
  /-- the whole second at which a polling service elapses it -/
  dueSecond : Int
  payload : α
deriving Repr

/-- A timer service as it stands. -/
structure Timers (α : Type) where
  service : TimerService
  /-- timers armed so far -/
  issued : Nat
  /-- in the order in which they were armed -/
  pending : List (ArmedTimer α)
  /-- delays in nanoseconds, the latest first -/
  delays : List Nat
  /-- pending timers that were disarmed -/
  disarms : Nat
  /-- so many of the next requests to arm fail -/
  failures : Nat
  isShutDown : Bool
  /-- a polling service holds itself to be started -/
  isRunning : Bool
  /-- the scheduler under a polling service looks for timers -/
  isPolling : Bool
deriving Repr

namespace Timers

variable {α : Type}

/-- A service that has armed nothing. -/
def ofService (service : TimerService) : Timers α := ⟨service, 0, [], [], 0, 0, false, false, false⟩

/-- The pending timer of a handle. -/
def find? (t : Timers α) (handle : Nat) : Option (ArmedTimer α) :=
  t.pending.find? (·.handle == handle)

/-- The handle names a pending timer. -/
def isPending (t : Timers α) (handle : Nat) : Bool := (t.find? handle).isSome

/-- Takes a timer off the list. -/
def drop (t : Timers α) (handle : Nat) : Timers α :=
  { t with pending := t.pending.filter (·.handle != handle) }

/-- The operation `arm`: arms a timer and answers its handle. A sleeping service that was shut down
refuses. -/
def arm (t : Timers α) (clock : Clock) (delay : Nat) (payload : α) :
    Except TimerFault Nat × Timers α :=
  if t.failures ≠ 0 then (.error (.stated "scripted"), { t with failures := t.failures - 1 })
  else if t.service = .sleeping ∧ t.isShutDown then (.error .shutDown, t)
  else
    let handle := t.issued + 1
    let timer : ArmedTimer α :=
      { handle
        dueMs := clock.readingAfter delay
        dueSecond := clock.now.second + (delay / nanosPerSecond : Nat)
        payload }
    (.ok handle,
      { t with issued := handle, pending := t.pending ++ [timer], delays := delay :: t.delays })

/-- The operation `disarm`: ends a timer, and answers whether it was pending; a polling service cannot tell
and says so of any handle. -/
def disarm (t : Timers α) (handle : Handle) : Bool × Timers α :=
  match handle with
  | .foreign _ => (t.service = .polling, t)
  | .issued n =>
    if t.isPending n then (true, { t.drop n with disarms := t.disarms + 1 })
    else (t.service = .polling, t)

/-- Ends a timer by its elapsing or being fired, and answers what it hands over. A polling service
that was ever shut down hands nothing over. -/
def elapse (t : Timers α) (handle : Nat) : Option α × Timers α :=
  let payload? := (t.find? handle).map (·.payload)
  (if t.service = .polling ∧ t.isShutDown then none else payload?, t.drop handle)

/-- The operation `shutdown`: ends all timers. Of a polling service they stay on its list, but elapse without
effect; it must be running. -/
def shutDown (t : Timers α) : Except SchedulerError (Timers α) :=
  match t.service with
  | .polling =>
    if t.isRunning then .ok { t with isRunning := false, isShutDown := true, isPolling := false }
    else .error .notRunning
  | _ => .ok { t with pending := [], isShutDown := true }

/-- The operation `start` of a polling service, given what the scheduler underneath answers to it. The
service holds itself to be started before it asks, and does so still when the answer is a failure. -/
def start (t : Timers α) (underneath : Except TimerFault Unit) : Except SchedulerError Unit × Timers α :=
  if t.isRunning then (.error .alreadyRunning, t)
  else
    match underneath with
    | .ok () => (.ok (), { t with isRunning := true, isPolling := true })
    | .error fault => (.error (.timer fault), { t with isRunning := true })

/-- What the scheduler underneath is known to answer: it does not start again once it was shut down. -/
def underneath (t : Timers α) : Except TimerFault Unit :=
  if t.isShutDown then .error (.stated "StartScheduler") else .ok ()

/-- The timers whose whole second has come. -/
def reached (t : Timers α) (now : Instant) : List Nat :=
  (t.pending.filter (·.dueSecond ≤ now.second)).map (·.handle)

end Timers

end Punctual
