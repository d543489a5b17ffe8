import Punctual.Simulation

/-!
Sessions: a scheduler is driven step by step by requests, by faults staged in its surroundings, and
by time passing. After every step all tasks run that can without the clock moving.
-/
namespace Punctual

/-- A session as it stands. -/
structure Session where
  simulation : Simulation
  tasks : Tasks Work WorkResult
  /-- firings started in the background, by name -/
  background : List (String × Nat)

/-- A timer, by its handle or by its place among those pending. -/
inductive TimerChoice
  | handle (h : Handle)
  | first
  | last
deriving DecidableEq, Repr

/-- What a session may be asked to do. -/
inductive SessionStep
  | schedule (job : Job)
  | cancel (id : JobId)
  | cancelStored (id : JobId)
  | cancelFound (id : JobId)
  | recover (id : JobId)
  | fire (id : JobId) (timer : TimerChoice)
  | scheduled (id : JobId)
  | reconfigure (config : SchedulerConfig)
  | config
  | describe
  | lookUp (id : JobId)
  | patch (id : JobId) (patch : JobPatch)
  | scan
  | scanTwice
  | startManager
  | stopManager
  | isManagerRunning
  | save (job : Job)
  | get (id : JobId)
  | contains (id : JobId)
  | delete (id : JobId)
  | size
  | find (start stop : Instant) (statuses : List JobStatus)
  | ids
  | fireTimer (timer : TimerChoice)
  | fireTimers
  | disarm (timer : TimerChoice)
  | shutDownTimers
  | fireTimerAs (task : String) (timer : TimerChoice)
  | fireAs (task : String) (id : JobId) (timer : TimerChoice)
  | join (task : String)
  | advance (ms : Nat)
  | settle
  | drop
  | script (outcomes : List ScriptedOutcome)
  | failAlways (message : String)
  | setAvailable (available : Bool)
  | stageReads (faults : List (Option StagedFault))
  | stageWrites (faults : List (Option StagedFault))
  | failArms (count : Nat)

/-- What a step answers. -/
inductive SessionAnswer
  | nothing
  | job (job : Job)
  | jobOrNone (job? : Option Job)
  | recovery (recovery : Recovery)
  | instantOrNone (instant? : Option Instant)
  | config (config : SchedulerConfig)
  | text (text : String)
  | report (report : ScanReport)
  | reports (first second : ScanReport)
  | flag (flag : Bool)
  | count (count : Nat)
  | ids (ids : List JobId)
  | failure (e : SchedulerError)
  /-- the step needs a scheduler, and it was dropped -/
  | dropped
  /-- the step makes no sense here -/
  | misuse

/-- What can be seen of a session after a step. -/
structure SessionView where
  now : Instant
  jobs : List Job
  /-- nothing once the scheduler was dropped -/
  armed? : Option (List (JobId × ArmedJob))
  /-- of the timers armed during the step, in nanoseconds -/
  delays : List Nat
  /-- executed by the scripted executor during the step -/
  executed : List JobId
  executions : Nat
  writes : Nat
  timers : Timers JobId

namespace SessionAnswer

variable {α : Type}

/-- The answer of a scheduler's operation. -/
def ofExcept (answer : α → SessionAnswer) : Except SchedulerError α → SessionAnswer
  | .ok value => answer value
  | .error e => .failure e

/-- The answer of a store's operation. -/
def ofStorage (answer : α → SessionAnswer) : Except StorageError α → SessionAnswer
  | .ok value => answer value
  | .error e => .failure (.storage e)

/-- What a task left behind, as an answer. -/
def ofResult : Option WorkResult → SessionAnswer
  | some (.fired answer) => ofExcept jobOrNone answer
  | some (.timerFired wasPending) => .flag wasPending
  | some (.timersFired fired) => .count fired
  | some (.scanned answer) => ofExcept report answer
  | some (.both (.scanned (.ok a)) (.scanned (.ok b))) => .reports a b
  | some (.both (.scanned (.error e)) _) => .failure e
  | some (.both _ (.scanned (.error e))) => .failure e
  | _ => .nothing

end SessionAnswer

namespace Session

variable {α : Type}

/-- A session around a scheduler. A polling timer service is started at once. -/
def begin (start : Instant) (scheduler : Scheduler) : Session :=
  if scheduler.timers.service = .polling then
    let timers := (scheduler.timers.start scheduler.timers.underneath).2
    { simulation := .ofScheduler start { scheduler with timers }
      tasks := Tasks.empty.start [.polling 500]
      background := [] }
  else ⟨.ofScheduler start scheduler, .empty, []⟩

/-- The handle chosen; nothing pending is named by the identifier zero. -/
def choose (s : Session) (timer : TimerChoice) : Handle :=
  let pending := s.simulation.scheduler.timers.pending.map (·.handle)
  match timer with
  | .handle h => h
  | .first => (pending.head?.map .issued).getD (.foreign .zero)
  | .last => (pending.getLast?.map .issued).getD (.foreign .zero)

/-- Runs what can run. -/
def settled (s : Session) : Session :=
  let (tasks, simulation) := Simulation.rules.runReady s.tasks s.simulation
  { s with tasks, simulation }

/-- Changes the simulation at once; timers armed by that start to run. -/
def act (s : Session) (action : Simulation → α × Simulation) : α × Session :=
  let issued := s.simulation.scheduler.timers.issued
  let (answer, simulation) := action s.simulation
  (answer, { s with simulation, tasks := s.tasks.start (simulation.timerWorks issued) }.settled)

/-- An operation of the scheduler, which must not have been dropped. -/
def request (s : Session) (operation : Scheduler → Clock → α × Scheduler)
    (answer : α → SessionAnswer) : SessionAnswer × Session :=
  if s.simulation.isDropped then (.dropped, s)
  else
    let (value, s) := s.act fun simulation => simulation.apply operation
    (answer value, s)

/-- A call on the store that leaves it as it is. -/
def query (s : Session) (call : Store → Except StorageError α) (answer : α → SessionAnswer) :
    SessionAnswer × Session :=
  (.ofStorage answer (call s.simulation.scheduler.store), s)

/-- With the scheduler changed. -/
def withScheduler (s : Session) (change : Scheduler → Scheduler) : Session :=
  { s with simulation := { s.simulation with scheduler := change s.simulation.scheduler } }

/-- With the store changed. -/
def withStore (s : Session) (change : Store → Store) : Session :=
  s.withScheduler fun scheduler => { scheduler with store := change scheduler.store }

/-- With the script changed. -/
def withScript (s : Session) (change : Script → Script) : Session :=
  { s with simulation := { s.simulation with script := change s.simulation.script } }

/-- Runs a main task to its end, then what can run. -/
def runMain (s : Session) (work : Work) : SessionAnswer × Session :=
  let (result?, tasks, simulation) := Simulation.rules.runMain s.tasks work s.simulation
  (.ofResult result?, { s with tasks, simulation })

/-- The same, unless the scheduler was dropped. -/
def runRequest (s : Session) (work : Work) : SessionAnswer × Session :=
  if s.simulation.isDropped then (.dropped, s) else s.runMain work

/-- Starts a task in the background. -/
def launch (s : Session) (name : String) (work : Work) : SessionAnswer × Session :=
  let task := s.tasks.next
  let s := { s with
    background := (name, task) :: s.background
    tasks := s.tasks.start [work] }
  (.nothing, s.settled)

/-- Only a recording service fires timers on demand. -/
def firesOnDemand (s : Session) : Bool := s.simulation.scheduler.timers.service = .recording

/-- The work of firing a chosen timer. -/
def firingOf (s : Session) (timer : TimerChoice) : Option Work :=
  match s.choose timer with
  | .issued n => some (.elapsed n)
  | .foreign _ => none

/-- The manager's operation `start`: a loop of scans begins, unless one is running. -/
def startManager (s : Session) : SessionAnswer × Session :=
  if s.simulation.isDropped then (.dropped, s)
  else
    let simulation := s.simulation
    match simulation.manager.start s.tasks.next with
    | .error e => (.failure e, s)
    | .ok manager =>
      let loop := Work.loop simulation.elapsedMs simulation.scheduler.config.loadSeconds
      let s := { s with
        simulation := { simulation with manager, keepers := simulation.keepers + 1 }
        tasks := s.tasks.start [loop] }.settled
      (.flag s.simulation.manager.isRunning, s)

/-- The manager's operation `shutdown`, carried to its end. -/
def stopManager (s : Session) : SessionAnswer × Session :=
  if s.simulation.isDropped then (.dropped, s)
  else
    let (result?, tasks, simulation) := Simulation.rules.runMain s.tasks .stop s.simulation
    let s := { s with tasks, simulation }
    match result? with
    | some (.stopped (.error e)) => (.failure e, s)
    | _ => (.flag s.simulation.manager.isRunning, s)

/-- The operation `shutdown` of the timer service; the recording service has none. -/
def shutDownTimers (s : Session) : SessionAnswer × Session :=
  let timers := s.simulation.scheduler.timers
  if timers.service = .recording then (.misuse, s)
  else
    match timers.shutDown with
    | .ok timers => (.nothing, (s.withScheduler fun scheduler => { scheduler with timers }).settled)
    | .error e => (.failure e, s)

/-- Takes one step. -/
def step (s : Session) (step : SessionStep) : SessionAnswer × Session :=
  let store := s.simulation.scheduler.store
  match step with
  | .schedule job => s.request (·.schedule · job) (.ofExcept .job)
  | .cancel id => s.request (·.cancel · id) (.ofExcept .jobOrNone)
  | .cancelStored id => s.request (·.cancelStored · id) (.ofExcept .job)
  | .cancelFound id => s.request (·.cancelFound · id) (.ofExcept .job)
  | .recover id => s.request (·.recover · id) (.ofExcept .recovery)
  | .fire id timer => s.runRequest (Simulation.beginFiring id (s.choose timer) .answer)
  | .scheduled id => s.request (fun scheduler _ => (scheduler.scheduled? id, scheduler)) .instantOrNone
  | .reconfigure config =>
    s.request (fun scheduler _ =>
      match scheduler.reconfigure config with
      | .ok changed => (.ok changed.config, changed)
      | .error e => (.error e, scheduler)) (.ofExcept .config)
  | .config => s.request (fun scheduler _ => (scheduler.config, scheduler)) .config
  | .describe => s.request (fun scheduler _ => (scheduler.describe, scheduler)) .text
  | .lookUp id => s.request (fun scheduler _ => scheduler.lookUp id) (.ofExcept .job)
  | .patch id patch => s.request (·.patch · id patch) (.ofExcept .job)
  | .scan => s.runRequest .scan
  | .scanTwice => s.runRequest .scanTwice
  | .startManager => s.startManager
  | .stopManager => s.stopManager
  | .isManagerRunning =>
    if s.simulation.isDropped then (.dropped, s) else (.flag s.simulation.manager.isRunning, s)
  | .save job =>
    match store.save job with
    | .ok store => (.job job, s.withStore fun _ => store)
    | .error e => (.failure (.storage e), s)
  | .get id => s.query (·.get? id) .jobOrNone
  | .contains id => s.query (·.contains id) .flag
  | .delete id =>
    match store.delete id with
    | .ok (job?, store) => (.jobOrNone job?, s.withStore fun _ => store)
    | .error e => (.failure (.storage e), s)
  | .size => (.count store.jobs.size, s)
  | .find start stop statuses =>
    s.query (·.find start stop statuses) fun jobs => .ids (jobs.map (·.id))
  | .ids => s.query (·.all) fun jobs => .ids (jobs.map (·.id))
  | .fireTimer timer =>
    if s.firesOnDemand then
      match s.firingOf timer with
      | some work => s.runMain work
      | none => (.flag false, s)
    else (.misuse, s)
  | .fireTimers => if s.firesOnDemand then s.runMain (.firingAll 0) else (.misuse, s)
  | .disarm timer =>
    let handle := s.choose timer
    let (wasPending, s) := s.act fun simulation => simulation.apply fun scheduler _ =>
      let (wasPending, timers) := scheduler.timers.disarm handle
      (wasPending, { scheduler with timers })
    (.flag wasPending, s)
  | .shutDownTimers => s.shutDownTimers
  | .fireTimerAs task timer =>
    if s.firesOnDemand then s.launch task ((s.firingOf timer).getD (.elapsed 0)) else (.misuse, s)
  | .fireAs task id timer =>
    if s.simulation.isDropped then (.dropped, s)
    else s.launch task (Simulation.beginFiring id (s.choose timer) .answer)
  | .join task =>
    match s.background.lookup task with
    | some number =>
      let s := { s with background := s.background.filter (·.1 != task) }
      s.runMain (.joining number)
    | none => (.misuse, s)
  | .advance ms => s.runMain (.pause (s.simulation.elapsedMs + ms))
  | .settle => (.nothing, s)
  | .drop => (.nothing, { s with simulation := { s.simulation with isDropped := true } }.settled)
  | .script outcomes =>
    (.nothing, s.withScript fun script => { script with outcomes := script.outcomes ++ outcomes })
  | .failAlways message =>
    (.nothing, s.withScript fun script => { script with fallback := .fail message })
  | .setAvailable available => (.nothing, s.withStore fun store => { store with available })
  | .stageReads readFaults => (.nothing, s.withStore fun store => { store with readFaults })
  | .stageWrites writeFaults => (.nothing, s.withStore fun store => { store with writeFaults })
  | .failArms failures =>
    (.nothing, s.withScheduler fun scheduler =>
      { scheduler with timers := { scheduler.timers with failures } })

/-- What can be seen after a step, given the session before it. -/
def view (s : Session) (before : Session) : SessionView :=
  let simulation := s.simulation
  let timers := simulation.scheduler.timers
  let executed := simulation.script.executed
  { now := simulation.now
    jobs := simulation.scheduler.store.jobs.values
    armed? := if simulation.isDropped then none else some simulation.scheduler.armed.jobs.toList
    delays :=
      (timers.delays.take
        (timers.delays.length - before.simulation.scheduler.timers.delays.length)).reverse
    executed :=
      (executed.take (executed.length - before.simulation.script.executed.length)).reverse
    executions := executed.length
    writes := simulation.scheduler.store.writes
    timers }

end Session

end Punctual
