import Punctual.Tasks
import Punctual.Timers

/-!
A timer service by itself. Each timer notes when it fired and is then busy for a while.
-/
namespace Punctual

/-- A service with its clock, and what it has fired. -/
structure Trial where
  clock : Clock
  /-- each timer with the milliseconds it is busy for -/
  timers : Timers Nat
  /-- handles and clock readings of firings, the latest first -/
  firings : List (Nat × Nat)

/-- What a task of a trial has yet to do. -/
inductive TrialWork
  | pause (untilMs : Nat)
  | sleeping (handle : Nat) (dueMs : Nat)
  | fire (handle : Nat)
  | fireNext (count : Nat)
  | polling (nextMs : Nat)
deriving DecidableEq, Repr

/-- What a task of a trial leaves behind. -/
inductive TrialResult
  | fired (wasPending : Bool)
  | count (n : Nat)
deriving DecidableEq, Repr

namespace Trial

/-- A service that has armed nothing, at the start of a clock. -/
def ofService (start : Instant) (service : TimerService) : Trial := ⟨⟨start, 0⟩, .ofService service, []⟩

/-- What a task of a trial does in one turn. -/
abbrev TrialTurn := Turn Trial TrialWork TrialResult

/-- The turn with which a task ends. -/
def ended (t : Trial) (wasPending : Bool) : TrialTurn := ⟨t, [], [], [], .ended (.fired wasPending)⟩

/-- Waits for a reading of the clock. -/
def waitUntil (t : Trial) (reading : Nat) (rest : TrialWork) : TrialTurn :=
  ⟨t, [], [], [], .waiting ⟨[], some reading⟩ rest⟩

/-- Ends a pending timer, notes its firing, and answers how long it is busy. -/
def elapse (t : Trial) (handle : Nat) : Option Nat × Trial :=
  let (busyMs?, timers) := t.timers.elapse handle
  let t := { t with timers }
  match busyMs? with
  | some busyMs => (some busyMs, { t with firings := (handle, t.clock.elapsedMs) :: t.firings })
  | none => (none, t)

/-- Fires a timer, and waits as long as it is busy. -/
def fireTurn (t : Trial) (handle : Nat) : TrialTurn :=
  match t.elapse handle with
  | (some 0, t) => t.ended true
  | (some busyMs, t) => t.waitUntil (t.clock.elapsedMs + busyMs) (.pause 0)
  | (none, t) => t.ended false

/-- What each kind of work does in its turn. -/
def turn (work : TrialWork) (t : Trial) : TrialTurn :=
  let now := t.clock.elapsedMs
  match work with
  | .pause untilMs => if untilMs ≤ now then t.ended true else t.waitUntil untilMs work
  | .sleeping handle dueMs => if dueMs ≤ now then t.fireTurn handle else t.waitUntil dueMs work
  | .fire handle => t.fireTurn handle
  | .fireNext count =>
    match t.timers.pending.head? with
    | none => ⟨t, [], [], [], .ended (.count count)⟩
    | some timer =>
      let (busyMs?, t) := t.elapse timer.handle
      t.waitUntil (now + busyMs?.getD 0) (.fireNext (count + 1))
  | .polling nextMs =>
    if !t.timers.isPolling then t.ended false
    else if now < nextMs then t.waitUntil nextMs work
    else
      { t.waitUntil (nextMs + 500) (.polling (nextMs + 500)) with
        started := (t.timers.reached t.clock.now).map .fire }

/-- The rules under which a trial's tasks run. -/
def rules : TaskRules Trial TrialWork TrialResult where
  turn _ _ work t := t.turn work
  reading t := t.clock.elapsedMs
  moveTo t reading := { t with clock := t.clock.movedTo reading }

end Trial

/-- A trial with its tasks. -/
structure TrialRun where
  trial : Trial
  tasks : Tasks TrialWork TrialResult

/-- What a trial may be asked to do. -/
inductive TrialStep
  | arm (delay : Nat) (busyMs : Nat)
  | disarm (handle : Handle)
  | advance (ms : Nat)
  | fire (handle : Handle)
  | fireAll
  | shutDown
  | start
deriving DecidableEq, Repr

/-- What a step answers. -/
inductive TrialAnswer
  | nothing
  | armed (handle : Handle)
  | flag (flag : Bool)
  | count (n : Nat)
  | failure (e : SchedulerError)

namespace TrialRun

variable {α : Type}

/-- A service that has armed nothing, without tasks. -/
def ofService (start : Instant) (service : TimerService) : TrialRun := ⟨.ofService start service, .empty⟩

/-- The step is one that the service takes. -/
def suits (r : TrialRun) : TrialStep → Bool
  | .fire _ | .fireAll => r.trial.timers.service = .recording
  | .shutDown => r.trial.timers.service ≠ .recording
  | .start => r.trial.timers.service = .polling
  | _ => true

/-- Starts tasks and runs what can run. -/
def launch (r : TrialRun) (works : List TrialWork) : TrialRun :=
  let (tasks, trial) := Trial.rules.runReady (r.tasks.start works) r.trial
  { trial, tasks }

/-- With the service changed. -/
def withTimers (r : TrialRun) (timers : Timers Nat) : TrialRun :=
  { r with trial := { r.trial with timers } }

/-- Runs a main task to its end. -/
def runMain (r : TrialRun) (work : TrialWork) : Option TrialResult × TrialRun :=
  let (result?, tasks, trial) := Trial.rules.runMain r.tasks work r.trial
  (result?, { trial, tasks })

/-- Arms a timer; a sleeping service has a task for each. -/
def arm (r : TrialRun) (delay busyMs : Nat) : TrialAnswer × TrialRun :=
  match r.trial.timers.arm r.trial.clock delay busyMs with
  | (.error fault, timers) => (.failure (.timer fault), r.withTimers timers)
  | (.ok handle, timers) =>
    let works := if timers.service = .sleeping then
        [TrialWork.sleeping handle (r.trial.clock.readingAfter delay)]
      else []
    (.armed (.issued handle), (r.withTimers timers).launch works)

/-- Takes one step. -/
def step (r : TrialRun) : TrialStep → TrialAnswer × TrialRun
  | .arm delay busyMs => r.arm delay busyMs
  | .disarm handle =>
    let (wasPending, timers) := r.trial.timers.disarm handle
    (.flag wasPending, r.withTimers timers)
  | .advance ms => (.nothing, (r.runMain (.pause (r.trial.clock.elapsedMs + ms))).2)
  | .fire (.foreign _) => (.flag false, r)
  | .fire (.issued n) =>
    match r.runMain (.fire n) with
    | (some (.fired wasPending), r) => (.flag wasPending, r)
    | (_, r) => (.flag false, r)
  | .fireAll =>
    match r.runMain (.fireNext 0) with
    | (some (.count n), r) => (.count n, r)
    | (_, r) => (.count 0, r)
  | .shutDown =>
    match r.trial.timers.shutDown with
    | .ok timers => (.nothing, r.withTimers timers)
    | .error e => (.failure e, r)
  | .start =>
    match r.trial.timers.start r.trial.timers.underneath with
    | (.ok (), timers) =>
      (.nothing, (r.withTimers timers).launch [.polling (r.trial.clock.elapsedMs + 500)])
    | (.error e, timers) => (.failure e, r.withTimers timers)

/-- The firings noted since an earlier state, in order. -/
def firingsSince (r before : TrialRun) : List (Nat × Nat) :=
  (r.trial.firings.take (r.trial.firings.length - before.trial.firings.length)).reverse

end TrialRun

end Punctual
