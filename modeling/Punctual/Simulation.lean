import Punctual.Manager
import Punctual.Scheduler.Admission
import Punctual.Scheduler.Firing
import Punctual.Scheduler.Locks
import Punctual.Scheduler.Scan
import Punctual.Tasks

/-!
A scheduler at work in virtual time: its timers elapse, firings wait for executors, and the scan
loop comes round, all as cooperative tasks. Each operation on a job is one step under that job's
lock.
-/
namespace Punctual

/-- A scheduler with its clock, its executor's script and its manager. -/
structure Simulation where
  clock : Clock
  scheduler : Scheduler
  script : Script
  /-- dry runs so far -/
  dryRuns : Nat
  manager : Manager
  locks : JobLocks
  /-- the owner has let go of the scheduler -/
  isDropped : Bool
  /-- firings and loops that keep the scheduler in being -/
  keepers : Nat

/-- What happens when a firing ends. -/
inductive AfterFiring
  /-- its answer is the task's result -/
  | answer
  /-- nothing; the task says that the timer was pending -/
  | confirm
  /-- the first pending timer is fired next; so many were before -/
  | fireNext (count : Nat)
deriving DecidableEq, Repr

/-- Where a firing stands. -/
inductive FiringStage
  | claiming
  /-- the executor runs as a task of its own, until a reading of the clock at most -/
  | executing (execution : Nat) (limit? : Option Nat) (untilMs? : Option Nat)
deriving DecidableEq, Repr

/-- A call of `fire` under way. -/
structure Firing where
  id : JobId
  handle : Handle
  stage : FiringStage
  after : AfterFiring
deriving DecidableEq, Repr

/-- What a task has yet to do. -/
inductive Work
  /-- wait for a reading of the clock -/
  | pause (untilMs : Nat)
  /-- fire a timer of a sleeping service at a reading of the clock -/
  | sleeping (handle : Nat) (dueMs : Nat)
  /-- fire a timer that a polling service found -/
  | elapsed (handle : Nat)
  /-- look for timers whose second has come, at a reading of the clock -/
  | polling (nextMs : Nat)
  | firing (firing : Firing)
  /-- fire pending timers one after another; so many were before -/
  | firingAll (count : Nat)
  | execution (executor : Executor) (job : Job)
  /-- the rest of a scripted execution that waits -/
  | delivery (id : JobId) (outcome : ScriptedOutcome)
  | recovery (id : JobId)
  | scan
  /-- wait for recoveries, then add them to the report -/
  | collecting (recoveries : List Nat) (report : ScanReport)
  /-- scan at a reading of the clock, then once a period -/
  | loop (nextMs : Nat) (periodSeconds : Nat)
  /-- wait for the recoveries of a loop's scan -/
  | loopScan (recoveries : List Nat) (nextMs : Nat) (periodSeconds : Nat)
  /-- two scans at once -/
  | scanTwice
  /-- tell the loop to end -/
  | stop
  /-- wait for a loop to end -/
  | stopping (loop? : Option Nat)
  /-- wait for another task -/
  | joining (task : Nat)
  /-- wait for two others -/
  | joiningBoth (first second : Nat)
  /-- wait until a reading of the clock, or until no job is active, which is looked at now and then;
  then close down -/
  | attending (untilMs? : Option Nat) (lookMs? : Option Nat) (graceMs : Nat)
  /-- wait for a loop to end, until a reading of the clock at most; then end the timers -/
  | closing (loop? : Option Nat) (untilMs : Nat)

/-- What a task leaves behind. -/
inductive WorkResult
  | nothing
  | fired (answer : Except SchedulerError (Option Job))
  /-- a timer was pending and has been fired -/
  | timerFired (wasPending : Bool)
  | timersFired (count : Nat)
  | executed (outcome : ExecutionOutcome)
  | recovered (answer : Except SchedulerError Recovery)
  | scanned (answer : Except SchedulerError ScanReport)
  | both (first second : WorkResult)
  | stopped (answer : Except SchedulerError Unit)
  /-- dry runs made, the jobs as they are stored, and whether the loop had ended in time -/
  | closed (dryRuns : Nat) (jobs : List Job) (inTime : Bool)

namespace Simulation

variable {α : Type}

/-- A scheduler at the start of a clock. -/
def ofScheduler (start : Instant) (scheduler : Scheduler) : Simulation where
  clock := ⟨start, 0⟩
  scheduler
  script := .empty
  dryRuns := 0
  manager := .idle
  locks := .empty
  isDropped := false
  keepers := 0

/-- The instant that the clock shows. -/
def now (s : Simulation) : Instant := s.clock.now

/-- What the clock reads. -/
def elapsedMs (s : Simulation) : Nat := s.clock.elapsedMs

/-- Changes the scheduler by one of its operations. -/
def apply (s : Simulation) (operation : Scheduler → Clock → α × Scheduler) : α × Simulation :=
  let (answer, scheduler) := operation s.scheduler s.clock
  (answer, { s with scheduler })

/-- Does so under a job's lock, by the operation `with_job_lock`. -/
def applyLocked (s : Simulation) (task : Nat) (id : JobId)
    (operation : Scheduler → Clock → α × Scheduler) : α × Simulation :=
  let s := { s with locks := (s.locks.enter task id).acquire task }
  let (answer, s) := s.apply operation
  (answer, { s with locks := ((s.locks.release task).leave task).tidy id })

/-- The scheduler is still there for a timer that elapses. -/
def isKept (s : Simulation) : Bool := !s.isDropped || 0 < s.keepers

/-- What a task does in one turn. -/
abbrev WorkTurn := Turn Simulation Work WorkResult

/-- The turn with which a task ends. -/
def ended (s : Simulation) (result : WorkResult) : WorkTurn := ⟨s, [], [], [], .ended result⟩

/-- A turn that does nothing but wait. -/
def waiting (s : Simulation) (wait : Wait) (rest : Work) : WorkTurn :=
  ⟨s, [], [], [], .waiting wait rest⟩

/-- Waits for a reading of the clock. -/
def waitUntil (s : Simulation) (reading : Nat) (rest : Work) : WorkTurn :=
  s.waiting ⟨[], some reading⟩ rest

/-! ## Firings -/

/-- The work of the operation `fire`. -/
def beginFiring (id : JobId) (handle : Handle) (after : AfterFiring) : Work :=
  .firing ⟨id, handle, .claiming, after⟩

/-- The turn at whose end a firing has ended. -/
def endFiring (s : Simulation) (firing : Firing)
    (answer : Except SchedulerError (Option Job)) : WorkTurn :=
  let s := { s with keepers := s.keepers - 1 }
  match firing.after with
  | .answer => s.ended (.fired answer)
  | .confirm => s.ended (.timerFired true)
  | .fireNext count => s.waitUntil s.elapsedMs (.firingAll (count + 1))

/-- Takes the outcome into the record by `complete`. If that breaks off, the firing has no end: nothing is
released, and whatever was to follow is left undone. -/
def completeFiring (s : Simulation) (task : Nat) (firing : Firing) (outcome : ExecutionOutcome) :
    WorkTurn :=
  let (answer, s) := s.applyLocked task firing.id fun scheduler clock =>
    scheduler.complete clock firing.id firing.handle outcome
  match answer with
  | .ok _ => s.endFiring firing answer
  | .error (.stuck _) => { s with keepers := s.keepers - 1 }.ended (.fired answer)
  | .error _ =>
    { s with scheduler := s.scheduler.release firing.id firing.handle }.endFiring firing answer

/-- Claims the job and starts its execution, with which the operation `execute` begins. A limit of zero is
over before the executor starts. -/
def claimFiring (s : Simulation) (task next : Nat) (firing : Firing) : WorkTurn :=
  let s := { s with keepers := s.keepers + 1 }
  let (answer, s) := s.applyLocked task firing.id fun scheduler _ =>
    scheduler.claim firing.id firing.handle
  match answer with
  | .error e =>
    { s with scheduler := s.scheduler.release firing.id firing.handle }.endFiring firing (.error e)
  | .ok none => s.endFiring firing (.ok none)
  | .ok (some job) =>
    match Executor.resolve? s.scheduler.executors job.recipient with
    | none => s.completeFiring task firing (.error (.noExecutor job.recipient.kind))
    | some executor =>
      match job.timeoutMs? with
      | some 0 => s.completeFiring task firing (.error (.timeout 0))
      | limit? =>
        let untilMs? := limit?.map (s.elapsedMs + ·)
        { s.waiting ⟨[next], untilMs?⟩ (.firing { firing with
            stage := .executing next limit? untilMs? }) with
          started := [.execution executor job] }

/-- A turn of a firing: it claims its job, or waits for the executor, or completes. -/
def firingTurn (s : Simulation) (task : Nat) (tasks : Tasks Work WorkResult) (firing : Firing) :
    WorkTurn :=
  match firing.stage with
  | .claiming => s.claimFiring task tasks.next firing
  | .executing execution limit? untilMs? =>
    match tasks.result? execution, untilMs? with
    | some (.executed outcome), _ => s.completeFiring task firing outcome
    | _, some untilMs =>
      if untilMs ≤ s.elapsedMs then
        { s.completeFiring task firing
            (.error (.timeout (limit?.getD 0 * nanosPerMilli))) with
          stopped := [execution] }
      else s.waiting ⟨[execution], untilMs?⟩ (.firing firing)
    | _, none => s.waiting ⟨[execution], none⟩ (.firing firing)

/-- Ends a pending timer and fires its job, as long as the scheduler is there. -/
def fireTimer (s : Simulation) (task next : Nat) (handle : Nat) (after : AfterFiring)
    (otherwise : Bool → WorkResult) : WorkTurn :=
  let wasPending := s.scheduler.timers.isPending handle
  let (id?, s) := s.apply fun scheduler _ =>
    let (id?, timers) := scheduler.timers.elapse handle
    (id?, { scheduler with timers })
  match id? with
  | some id =>
    if s.isKept then s.claimFiring task next ⟨id, .issued handle, .claiming, after⟩
    else s.ended (otherwise wasPending)
  | none => s.ended (otherwise wasPending)

/-- Fires the first pending timer; ends when there is none. -/
def fireAllTurn (s : Simulation) (task next : Nat) (count : Nat) : WorkTurn :=
  match s.scheduler.timers.pending.head? with
  | none => s.ended (.timersFired count)
  | some timer =>
    if s.isKept then
      s.fireTimer task next timer.handle (.fireNext count) fun _ => .timersFired count
    else
      let count := count + s.scheduler.timers.pending.length
      { s with scheduler := { s.scheduler with timers :=
          { s.scheduler.timers with pending := [] } } }.ended (.timersFired count)

/-- Runs an executor. -/
def executionTurn (s : Simulation) (executor : Executor) (job : Job) : WorkTurn :=
  match executor.behavior with
  | .succeeding => s.ended (.executed (.ok (.success s.now job.id)))
  | .aborting => s.ended (.executed (.error (.failed "executor aborted")))
  | .dryRun =>
    { s with dryRuns := s.dryRuns + 1 }.ended
      (.executed (.ok ((ExecutionResponse.success s.now job.id).withMessage "dry run")))
  | .scripted =>
    let (outcome, script) := s.script.play job.id
    let s := { s with script }
    match outcome with
    | .sleep (ms + 1) => s.waitUntil (s.elapsedMs + (ms + 1)) (.delivery job.id outcome)
    | outcome => s.ended (.executed (outcome.result s.now job.id))

/-- Looks for timers whose second has come. -/
def pollingTurn (s : Simulation) (nextMs : Nat) : WorkTurn :=
  if !s.scheduler.timers.isPolling then s.ended .nothing
  else if s.elapsedMs < nextMs then s.waitUntil nextMs (.polling nextMs)
  else
    { s.waitUntil (nextMs + 500) (.polling (nextMs + 500)) with
      started := (s.scheduler.timers.reached s.now).map .elapsed }

/-! ## Scans -/

/-- Finds jobs and starts a recovery for each that is not armed here. -/
def startScan (s : Simulation) (next : Nat) :
    Except SchedulerError (ScanReport × List Nat × List Work) := do
  let found ← s.scheduler.scanned s.now
  let ids := s.scheduler.unarmed found
  return (s.scheduler.tally found, List.range' next ids.length, ids.map .recovery)

/-- The results of recoveries, if all have ended. -/
def recoveryResults? (tasks : Tasks Work WorkResult) (recoveries : List Nat) :
    Option (List (Except SchedulerError Recovery)) :=
  recoveries.mapM fun task =>
    match tasks.result? task with
    | some (.recovered answer) => some answer
    | _ => none

/-- The recoveries that have not ended. -/
def unfinished (tasks : Tasks Work WorkResult) (recoveries : List Nat) : List Nat :=
  recoveries.filter fun task => (tasks.result? task).isNone

/-- Waits for the recoveries of a scan, and answers the report. -/
def collectingTurn (s : Simulation) (tasks : Tasks Work WorkResult) (recoveries : List Nat)
    (report : ScanReport) : WorkTurn :=
  match recoveryResults? tasks recoveries with
  | some answers => s.ended (.scanned (.ok (answers.foldl ScanReport.note report)))
  | none => s.waiting ⟨unfinished tasks recoveries, none⟩ (.collecting recoveries report)

/-- The operation `scan_once`: finds jobs, and waits for their recoveries. -/
def scanTurn (s : Simulation) (tasks : Tasks Work WorkResult) : WorkTurn :=
  match s.startScan tasks.next with
  | .error e => s.ended (.scanned (.error e))
  | .ok (report, recoveries, works) =>
    { s.collectingTurn tasks recoveries report with started := works }

/-- Waits for the next scan of a loop. A period that was changed counts from now, any other from the
last scan. -/
def awaitScan (s : Simulation) (nextMs periodSeconds : Nat) : WorkTurn :=
  let configured := s.scheduler.config.loadSeconds
  let nextMs :=
    if configured = periodSeconds then nextMs + periodSeconds * 1000
    else s.elapsedMs + configured * 1000
  s.waitUntil nextMs (.loop nextMs configured)

/-- Within the operation `run_loop`, waits for the recoveries of a scan unless the loop was told to end. -/
def loopScanTurn (s : Simulation) (task : Nat) (tasks : Tasks Work WorkResult)
    (recoveries : List Nat) (nextMs periodSeconds : Nat) : WorkTurn :=
  if s.manager.isCancelled task then
    { { s with keepers := s.keepers - 1 }.ended .nothing with stopped := recoveries }
  else
    match unfinished tasks recoveries with
    | [] => s.awaitScan nextMs periodSeconds
    | others => s.waiting ⟨others, none⟩ (.loopScan recoveries nextMs periodSeconds)

/-- The operation `run_loop`: scans when it is time, unless the loop was told to end. -/
def loopTurn (s : Simulation) (task : Nat) (tasks : Tasks Work WorkResult)
    (nextMs periodSeconds : Nat) : WorkTurn :=
  if s.manager.isCancelled task then { s with keepers := s.keepers - 1 }.ended .nothing
  else if s.elapsedMs < nextMs then s.waitUntil nextMs (.loop nextMs periodSeconds)
  else
    match s.startScan tasks.next with
    | .error _ => s.awaitScan nextMs periodSeconds
    | .ok (_, recoveries, works) =>
      { s.loopScanTurn task tasks recoveries nextMs periodSeconds with started := works }

/-- The loop has ended, if there was one. -/
def hasEnded (tasks : Tasks Work WorkResult) (loop? : Option Nat) : Bool :=
  loop?.all fun loop => (tasks.result? loop).isSome

/-- The rest of the manager's operation `shutdown`: waits for the loop, then notes that it has ended. -/
def stoppingTurn (s : Simulation) (tasks : Tasks Work WorkResult) (loop? : Option Nat) : WorkTurn :=
  if hasEnded tasks loop? then
    { s with manager := s.manager.finishShutdown }.ended (.stopped (.ok ()))
  else s.waiting ⟨loop?.toList, none⟩ (.stopping loop?)

/-- The manager's operation `shutdown`: tells the loop to end, and wakes it. -/
def stopTurn (s : Simulation) (tasks : Tasks Work WorkResult) : WorkTurn :=
  match s.manager.beginShutdown with
  | .error e => s.ended (.stopped (.error e))
  | .ok (loop?, manager) =>
    { { s with manager }.stoppingTurn tasks loop? with woken := loop?.toList }

/-- What the operation `wait_until_idle` looks for: no stored job is active. -/
def isIdle (s : Simulation) : Bool :=
  match s.scheduler.store.all with
  | .ok jobs => jobs.all fun job => !job.status.isActive
  | .error _ => false

/-- Between two looks for active jobs, in milliseconds. -/
def lookPeriodMs : Nat := 200

/-- The end of the operation `run_with_settings`: waits for a loop, ends the timers, and answers what has
become of the jobs. -/
def closingTurn (s : Simulation) (tasks : Tasks Work WorkResult) (loop? : Option Nat)
    (untilMs : Nat) : WorkTurn :=
  if hasEnded tasks loop? || untilMs ≤ s.elapsedMs then
    let timers := s.scheduler.timers.shutDown.toOption.getD s.scheduler.timers
    { s with scheduler := { s.scheduler with timers } }.ended
      (.closed s.dryRuns s.scheduler.store.jobs.values (hasEnded tasks loop?))
  else s.waiting ⟨loop?.toList, some untilMs⟩ (.closing loop? untilMs)

/-- Within the operation `run_with_settings`, waits until the run is to end, then tells the loop so. -/
def attendingTurn (s : Simulation) (tasks : Tasks Work WorkResult) (untilMs? lookMs? : Option Nat)
    (graceMs : Nat) : WorkTurn :=
  let isLooking := lookMs?.any (· ≤ s.elapsedMs)
  if untilMs?.any (· ≤ s.elapsedMs) || (isLooking && s.isIdle) then
    match s.manager.beginShutdown with
    | .error _ => s.closingTurn tasks none (s.elapsedMs + graceMs)
    | .ok (loop?, manager) =>
      { { s with manager }.closingTurn tasks loop? (s.elapsedMs + graceMs) with
        woken := loop?.toList }
  else
    let lookMs? := if isLooking then some (s.elapsedMs + lookPeriodMs) else lookMs?
    let reading? := (untilMs?.toList ++ lookMs?.toList).min?
    s.waiting ⟨[], reading?⟩ (.attending untilMs? lookMs? graceMs)

/-! ## Tasks -/

/-- What each kind of work does in its turn. -/
def turn (task : Nat) (tasks : Tasks Work WorkResult) (work : Work) (s : Simulation) : WorkTurn :=
  match work with
  | .pause untilMs =>
    if untilMs ≤ s.elapsedMs then s.ended .nothing else s.waitUntil untilMs work
  | .sleeping handle dueMs =>
    if dueMs ≤ s.elapsedMs then
      s.fireTimer task tasks.next handle .confirm .timerFired
    else s.waitUntil dueMs work
  | .elapsed handle => s.fireTimer task tasks.next handle .confirm .timerFired
  | .polling nextMs => s.pollingTurn nextMs
  | .firing firing => s.firingTurn task tasks firing
  | .firingAll count => s.fireAllTurn task tasks.next count
  | .execution executor job => s.executionTurn executor job
  | .delivery id outcome => s.ended (.executed (outcome.result s.now id))
  | .recovery id =>
    let (answer, s) := s.applyLocked task id fun scheduler clock => scheduler.recover clock id
    s.ended (.recovered answer)
  | .scan => s.scanTurn tasks
  | .collecting recoveries report => s.collectingTurn tasks recoveries report
  | .loop nextMs periodSeconds => s.loopTurn task tasks nextMs periodSeconds
  | .loopScan recoveries nextMs periodSeconds =>
    s.loopScanTurn task tasks recoveries nextMs periodSeconds
  | .scanTwice =>
    { s.waiting ⟨[tasks.next, tasks.next + 1], none⟩ (.joiningBoth tasks.next (tasks.next + 1)) with
      started := [.scan, .scan] }
  | .stop => s.stopTurn tasks
  | .stopping loop? => s.stoppingTurn tasks loop?
  | .joining other =>
    match tasks.result? other with
    | some result => s.ended result
    | none => s.waiting ⟨[other], none⟩ work
  | .joiningBoth first second =>
    match tasks.result? first, tasks.result? second with
    | some a, some b => s.ended (.both a b)
    | _, _ => s.waiting ⟨[first, second], none⟩ work
  | .attending untilMs? lookMs? graceMs => s.attendingTurn tasks untilMs? lookMs? graceMs
  | .closing loop? untilMs => s.closingTurn tasks loop? untilMs

/-- The tasks of the timers that a sleeping service armed since it had armed so many. -/
def timerWorks (s : Simulation) (issued : Nat) : List Work :=
  if s.scheduler.timers.service = .sleeping then
    (s.scheduler.timers.pending.filter (issued < ·.handle)).map fun timer =>
      .sleeping timer.handle timer.dueMs
  else []

/-- The rules under which a simulation's tasks run. -/
def rules : TaskRules Simulation Work WorkResult where
  turn task tasks work s :=
    let issued := s.scheduler.timers.issued
    let turn := turn task tasks work s
    { turn with started := turn.started ++ turn.state.timerWorks issued }
  reading s := s.elapsedMs
  moveTo s reading := { s with clock := s.clock.movedTo reading }

end Simulation

end Punctual
