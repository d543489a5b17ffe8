import Punctual.Proofs.LockSections
import Punctual.Proofs.Occurrences

/-!
A process: a scheduler and the operations that have begun on it. An operation works on its job while
it holds the job's lock, and all it does until it lets go of the lock is one action here. Whatever an
operation does without a lock is an action of its own, so that any other may come before it: an
elapsed timer waits to claim its job, an executor runs, the entry of a firing that failed is yet to be
dropped, a patch was laid over a record and is yet to be scheduled, a scan has found jobs that are yet
to be recovered. Faults of the store and of the timer service may come and go at any time.
-/
namespace Punctual

/-- How far the handling of an elapsed timer has come. -/
inductive FirePhase
  /-- the job is yet to be claimed -/
  | waiting
  /-- the claim failed, for which the entry under the handle is yet to be dropped -/
  | unclaimed
  /-- the job was claimed and handed to its executor -/
  | executing
  /-- the completion failed, for which the entry under the handle is yet to be dropped -/
  | uncompleted
  /-- the completion broke off: the call is gone and its entry stays -/
  | stranded
  | ended
deriving DecidableEq, Repr

namespace FirePhase

/-- The claim is yet to come, or it answered an error and the entry is yet to be dropped for that. -/
def isClaiming : FirePhase → Bool
  | waiting | unclaimed => true
  | executing | uncompleted | stranded | ended => false

/-- The job was claimed and its completion is yet to come, or that answered an error and the entry is yet to
be dropped. A completion that broke off is not counted. -/
def isFiring : FirePhase → Bool
  | executing | uncompleted => true
  | waiting | unclaimed | stranded | ended => false

end FirePhase

/-- A call of the operation `fire`. -/
structure FireCall where
  id : JobId
  handle : Handle
  phase : FirePhase
  /-- the job that was handed to the executor, if the claim took it -/
  claimed? : Option Job
deriving DecidableEq, Repr

namespace FireCall

/-- A call that waits for its claim. -/
def begin (id : JobId) (handle : Handle) : FireCall := ⟨id, handle, .waiting, none⟩

/-- The call after its claim. -/
def afterClaim (c : FireCall) : Except SchedulerError (Option Job) → FireCall
  | .error _ => { c with phase := .unclaimed }
  | .ok none => { c with phase := .ended }
  | .ok (some job) => { c with phase := .executing, claimed? := some job }

/-- The call after its completion, which may have broken off. -/
def afterCompletion (c : FireCall) : Except SchedulerError (Option Job) → FireCall
  | .error (.stuck _) => { c with phase := .stranded }
  | .error _ => { c with phase := .uncompleted }
  | .ok _ => { c with phase := .ended }

theorem afterCompletion_fault (c : FireCall) {e : SchedulerError} (fault : e.isFault = true) :
    c.afterCompletion (.error e) = { c with phase := .uncompleted } := by
  cases e <;> first | rfl | cases fault

/-- An outcome that is taken into the record ends the call, unless something fails. -/
theorem afterCompletion_concluded (c : FireCall) {s : Scheduler} {clock : Clock} {job : Job}
    {succeeded : Bool} {answer : Except SchedulerError Job × Scheduler}
    (concludes : s.Concludes clock job succeeded answer) :
    (c.afterCompletion (Scheduler.answered answer).1).phase = .uncompleted ∨
    (c.afterCompletion (Scheduler.answered answer).1).phase = .ended := by
  obtain ⟨e | saved, t⟩ := answer
  · have phase := c.afterCompletion_fault (concludes.fault rfl)
    exact .inl (congrArg FireCall.phase phase)
  · exact .inr rfl

/-- The call has dropped its entry and is over. -/
def afterRelease (c : FireCall) : FireCall := { c with phase := .ended }

end FireCall

/-- What may happen next in a process. -/
inductive Action
  | operate (operation : Operation)
  /-- read the record that a patch is for -/
  | readPatch (id : JobId) (patch : JobPatch)
  /-- schedule the job that a patch made -/
  | schedulePatched (clock : Clock) (place : Nat)
  /-- find the jobs to be recovered -/
  | scan (now : Instant)
  /-- recover a job that a scan found -/
  | recoverFound (clock : Clock) (place : Nat)
  /-- the timer elapses and calls back -/
  | elapse (number : Nat)
  /-- handle a timer that need not have elapsed or exist -/
  | fire (id : JobId) (handle : Handle)
  | claim (call : Nat)
  | complete (call : Nat) (clock : Clock) (outcome : ExecutionOutcome)
  /-- drop the entry for a claim or completion that failed -/
  | release (call : Nat)
  | reconfigure (config : SchedulerConfig)
  /-- let calls of the store and requests to arm fail or succeed from now on -/
  | stage (available : Bool) (readFaults writeFaults : List (Option StagedFault)) (failures : Nat)

/-- A scheduler with its calls of `fire` and the jobs that patches have read. -/
structure Process where
  scheduler : Scheduler
  /-- every call there has been, in the order in which they began -/
  calls : List FireCall
  /-- jobs that patches made -/
  patched : List Job
  /-- jobs that scans found -/
  found : List JobId

/-- Faults are staged for the calls to come. -/
def Scheduler.stage (s : Scheduler) (available : Bool)
    (readFaults writeFaults : List (Option StagedFault)) (failures : Nat) : Scheduler :=
  { s with
    store := { s.store with available, readFaults, writeFaults }
    timers := { s.timers with failures } }

/-- A scheduler over an empty store that has armed nothing. -/
def Scheduler.vacant : Scheduler := ⟨.initial, .empty, .empty, .ofService .recording, []⟩

/-- The same, with missed jobs fired. -/
def Scheduler.forcing : Scheduler :=
  { vacant with config := { SchedulerConfig.initial with forceExpired := true } }

/-- A job that fires once. -/
def Job.once (id : JobId) (instant : Instant) : Job where
  id
  correlationId? := none
  status := .initial
  lastUpdate? := none
  retries := 0
  priority := 0
  executions := 0
  handle? := none
  recipient := .ofUrl "http://localhost"
  trigger := .pointInTime (some instant)
  timeout? := none
  timeoutUnit? := none

/-- A job that is due, and with whose trigger calculations break off. -/
def Job.dailyFromTheFirst (id : JobId) : Job :=
  { Job.once id .earliest with trigger := .simpleTimer Trigger.dailyFromTheFirst }

namespace Process

/-- A process at its beginning. -/
def ofScheduler (scheduler : Scheduler) : Process := ⟨scheduler, [], [], []⟩

/-- The operation that an action carries out. -/
def operation? (p : Process) : Action → Option Operation
  | .operate operation => some operation
  | .schedulePatched clock place => p.patched[place]?.map (.schedule clock)
  | .recoverFound clock place => p.found[place]?.map (.recover clock)
  | _ => none

/-- An operation under a job's lock, if there is one to carry out. -/
def operate (p : Process) (operation? : Option Operation) : Process :=
  match operation? with
  | some operation => { p with scheduler := operation.run p.scheduler }
  | none => p

/-- The call under a number, if it is in one of some phases. -/
def call? (p : Process) (phases : List FirePhase) (number : Nat) : Option FireCall :=
  p.calls[number]?.filter (phases.contains ·.phase)

/-- An action, if it is possible; any other is without effect. -/
def perform (p : Process) (action : Action) : Process :=
  match action with
  | .operate _ => p.operate (p.operation? action)
  | .readPatch id patch =>
    match p.scheduler.patched id patch with
    | (.ok job, scheduler) => { p with scheduler, patched := p.patched ++ [job] }
    | (.error _, scheduler) => { p with scheduler }
  | .schedulePatched _ place =>
    { p.operate (p.operation? action) with patched := p.patched.eraseIdx place }
  | .scan now =>
    match p.scheduler.scanned now with
    | .ok jobs => { p with found := p.found ++ p.scheduler.unarmed jobs }
    | .error _ => p
  | .recoverFound _ place =>
    { p.operate (p.operation? action) with found := p.found.eraseIdx place }
  | .elapse number =>
    let (id?, timers) := p.scheduler.timers.elapse number
    { p with
      scheduler := { p.scheduler with timers }
      calls := p.calls ++ id?.toList.map (.begin · (.issued number)) }
  | .fire id handle => { p with calls := p.calls ++ [.begin id handle] }
  | .claim number =>
    match p.call? [.waiting] number with
    | some call =>
      let (answer, scheduler) := p.scheduler.claim call.id call.handle
      { p with scheduler, calls := p.calls.set number (call.afterClaim answer) }
    | none => p
  | .complete number clock outcome =>
    match p.call? [.executing] number with
    | some call =>
      let (answer, scheduler) := p.scheduler.complete clock call.id call.handle outcome
      { p with scheduler, calls := p.calls.set number (call.afterCompletion answer) }
    | none => p
  | .release number =>
    match p.call? [.unclaimed, .uncompleted] number with
    | some call =>
      { p with
        scheduler := p.scheduler.release call.id call.handle
        calls := p.calls.set number call.afterRelease }
    | none => p
  | .reconfigure config =>
    match p.scheduler.reconfigure config with
    | .ok scheduler => { p with scheduler }
    | .error _ => p
  | .stage available readFaults writeFaults failures =>
    { p with scheduler := p.scheduler.stage available readFaults writeFaults failures }

/-- Runs of a process in which only some actions occur. -/
inductive Reaches (allowed : Action → Prop) (p : Process) : Process → Prop
  | refl : Reaches allowed p p
  | step {q : Process} {action : Action} (before : Reaches allowed p q) (permitted : allowed action) :
    Reaches allowed p (q.perform action)

/-- Runs of a process in which each action is one that is permitted at its time. -/
inductive Evolves (permitted : Process → Action → Bool) (p : Process) : Process → Prop
  | refl : Evolves permitted p p
  | step {q : Process} {action : Action} (before : Evolves permitted p q)
    (allowed : permitted q action = true) : Evolves permitted p (q.perform action)

variable {p q : Process} {allowed : Action → Prop} {number : Nat} {call : FireCall}
  {phases : List FirePhase}

/-- What holds at the beginning and after each permitted action always holds. -/
theorem Reaches.invariant (reaches : Reaches allowed p q) (holds : Process → Prop)
    (initially : holds p)
    (preserved : ∀ q action, allowed action → holds q → holds (q.perform action)) : holds q := by
  induction reaches with
  | refl => exact initially
  | step before permitted ih => exact preserved _ _ permitted ih

/-- Actions one after another. -/
def performAll (p : Process) (actions : List Action) : Process := actions.foldl perform p

/-- A list of permitted actions is a run. -/
theorem reaches_performAll (p : Process) (actions : List Action)
    (permitted : ∀ action ∈ actions, allowed action) : Reaches allowed p (p.performAll actions) := by
  have onward : ∀ q, Reaches allowed p q → Reaches allowed p (q.performAll actions) := by
    induction actions with
    | nil => exact fun q before => before
    | cons action rest ih =>
      intro q before
      have later := ih (fun other member => permitted other (List.mem_cons_of_mem action member))
      exact later (q.perform action) (before.step (permitted action List.mem_cons_self))
  exact onward p .refl

/-! ## What one action does -/

/-- The action stages faults. -/
def stages : Action → Bool
  | .stage .. => true
  | _ => false

/-- What an action does to the scheduler and to the calls. -/
inductive Moves (p : Process) : Action → Process → Prop
  | kept {action : Action} {q : Process} (keeps : p.scheduler.Keeps q.scheduler)
    (reliable : stages action = false → p.scheduler.Reliable → q.scheduler.Reliable)
    (calls : q.calls = p.calls) : Moves p action q
  | operated {action : Action} {operation : Operation} {q : Process}
    (carried : p.operation? action = some operation)
    (scheduler : q.scheduler = operation.run p.scheduler) (calls : q.calls = p.calls) :
    Moves p action q
  | elapsed {number : Nat} {id : JobId} {q : Process}
    (pending : p.scheduler.owner? (.issued number) = some id)
    (scheduler : q.scheduler = { p.scheduler with timers := p.scheduler.timers.drop number })
    (calls : q.calls = p.calls ++ [.begin id (.issued number)]) : Moves p (.elapse number) q
  | lost {number : Nat} {q : Process} (ended : p.scheduler.timers.isShutDown = true)
    (scheduler : q.scheduler = { p.scheduler with timers := p.scheduler.timers.drop number })
    (calls : q.calls = p.calls) : Moves p (.elapse number) q
  | called {id : JobId} {handle : Handle} {q : Process} (scheduler : q.scheduler = p.scheduler)
    (calls : q.calls = p.calls ++ [.begin id handle]) : Moves p (.fire id handle) q
  | unclaimed {number : Nat} {call : FireCall} {q : Process}
    (found : p.calls[number]? = some call) (waiting : call.phase = .waiting)
    (unchanged : p.scheduler.Unchanged q.scheduler) (fails : ¬ p.scheduler.Reliable)
    (calls : q.calls = p.calls.set number { call with phase := .unclaimed }) :
    Moves p (.claim number) q
  | claimed {number : Nat} {call : FireCall} {job : Job} {t : Scheduler} {q : Process}
    (found : p.calls[number]? = some call) (waiting : call.phase = .waiting)
    (unchanged : p.scheduler.Unchanged t) (record : p.scheduler.record? call.id = some job)
    (current : Scheduler.isCurrent job call.handle = true)
    (scheduler : q.scheduler = { t with armed := t.armed.markFiring call.id call.handle })
    (calls : q.calls =
      p.calls.set number { call with phase := .executing, claimed? := some job }) :
    Moves p (.claim number) q
  | stale {number : Nat} {call : FireCall} {t : Scheduler} {q : Process}
    (found : p.calls[number]? = some call) (waiting : call.phase = .waiting)
    (unchanged : p.scheduler.Unchanged t)
    (renamed : ∀ job, p.scheduler.record? call.id = some job →
      Scheduler.isCurrent job call.handle = false)
    (scheduler : q.scheduler = t.release call.id call.handle)
    (calls : q.calls = p.calls.set number { call with phase := .ended }) : Moves p (.claim number) q
  | uncompleted {number : Nat} {clock : Clock} {outcome : ExecutionOutcome} {call : FireCall}
    {q : Process} (found : p.calls[number]? = some call) (executing : call.phase = .executing)
    (unchanged : p.scheduler.Unchanged q.scheduler) (fails : ¬ p.scheduler.Reliable)
    (calls : q.calls = p.calls.set number { call with phase := .uncompleted }) :
    Moves p (.complete number clock outcome) q
  | stranded {number : Nat} {clock : Clock} {outcome : ExecutionOutcome} {call : FireCall} {job : Job}
    {q : Process} (found : p.calls[number]? = some call) (executing : call.phase = .executing)
    (unchanged : p.scheduler.Unchanged q.scheduler) (record : p.scheduler.record? call.id = some job)
    (current : Scheduler.isCurrent job call.handle = true)
    (succeeds : Scheduler.hasSucceeded outcome = true) (broken : job.trigger.advance? = none)
    (calls : q.calls = p.calls.set number { call with phase := .stranded }) :
    Moves p (.complete number clock outcome) q
  | overtaken {number : Nat} {clock : Clock} {outcome : ExecutionOutcome} {call : FireCall}
    {t : Scheduler} {q : Process} (found : p.calls[number]? = some call)
    (executing : call.phase = .executing) (unchanged : p.scheduler.Unchanged t)
    (renamed : ∀ job, p.scheduler.record? call.id = some job →
      Scheduler.isCurrent job call.handle = false)
    (scheduler : q.scheduler = t.release call.id call.handle)
    (calls : q.calls = p.calls.set number { call with phase := .ended }) :
    Moves p (.complete number clock outcome) q
  | concluded {number : Nat} {clock : Clock} {outcome : ExecutionOutcome} {call : FireCall}
    {job : Job} {t : Scheduler} {answer : Except SchedulerError Job × Scheduler} {q : Process}
    (found : p.calls[number]? = some call) (executing : call.phase = .executing)
    (unchanged : p.scheduler.Unchanged t) (record : p.scheduler.record? call.id = some job)
    (current : Scheduler.isCurrent job call.handle = true)
    (concludes : t.Concludes clock job (Scheduler.hasSucceeded outcome) answer)
    (scheduler : q.scheduler = answer.2)
    (calls : q.calls = p.calls.set number (call.afterCompletion (Scheduler.answered answer).1)) :
    Moves p (.complete number clock outcome) q
  | released {number : Nat} {call : FireCall} {q : Process}
    (found : p.calls[number]? = some call)
    (failed : call.phase = .unclaimed ∨ call.phase = .uncompleted)
    (scheduler : q.scheduler = p.scheduler.release call.id call.handle)
    (calls : q.calls = p.calls.set number { call with phase := .ended }) : Moves p (.release number) q

private theorem moves_same (p : Process) (action : Action) : Moves p action p :=
  .kept (.refl _) (fun _ reliable => reliable) rfl

private theorem moves_unchanged {action : Action} (unchanged : p.scheduler.Unchanged q.scheduler)
    (calls : q.calls = p.calls) : Moves p action q :=
  .kept unchanged.toKeeps (fun _ => unchanged.reliable) calls

private theorem moves_operate {action : Action}
    (scheduler : q.scheduler = (p.operate (p.operation? action)).scheduler)
    (calls : q.calls = p.calls) : Moves p action q := by
  cases carried : p.operation? action with
  | none =>
    rw [carried] at scheduler
    refine moves_unchanged ?_ calls
    rw [scheduler]
    exact .refl _
  | some operation =>
    rw [carried] at scheduler
    exact .operated carried scheduler calls

/-- An action that carries out an operation does so on the scheduler. -/
theorem perform_operation {action : Action} {operation : Operation}
    (carried : p.operation? action = some operation) :
    (p.perform action).scheduler = operation.run p.scheduler := by
  cases action with
  | operate _ =>
    cases carried
    rfl
  | schedulePatched _ _ =>
    simp only [perform, carried]
    rfl
  | recoverFound _ _ =>
    simp only [perform, carried]
    rfl
  | _ => cases carried

/-- A job is scheduled because that is asked, or because a patch made it. -/
theorem operation_schedules {action : Action} {clock : Clock} {job : Job}
    (carried : p.operation? action = some (.schedule clock job)) :
    action = .operate (.schedule clock job) ∨ job ∈ p.patched := by
  cases action with
  | operate operation =>
    cases carried
    exact .inl rfl
  | schedulePatched clock place =>
    obtain ⟨waiting, found, same⟩ := Option.map_eq_some_iff.mp carried
    cases same
    exact .inr (List.mem_of_getElem? found)
  | recoverFound clock place =>
    obtain ⟨id, _, same⟩ := Option.map_eq_some_iff.mp carried
    cases same
  | _ => cases carried

/-- The jobs that patches made were made before, but for the one that is made now. -/
theorem patched_perform {action : Action} {job : Job} (member : job ∈ (p.perform action).patched) :
    job ∈ p.patched ∨ ∃ id patch, action = .readPatch id patch ∧
      (p.scheduler.patched id patch).1 = .ok job := by
  have operated : ∀ operation?, (p.operate operation?).patched = p.patched := by
    intro operation?
    cases operation? <;> rfl
  cases action with
  | operate operation =>
    rw [perform, operated] at member
    exact .inl member
  | readPatch id patch =>
    simp only [perform] at member
    cases made : p.scheduler.patched id patch with
    | mk answer t =>
      rw [made] at member
      cases answer with
      | error e => exact .inl member
      | ok merged =>
        rcases List.mem_append.mp member with member | member
        · exact .inl member
        · rw [List.mem_singleton.mp member]
          exact .inr ⟨id, patch, rfl, by rw [made]⟩
  | schedulePatched clock place => exact .inl (List.mem_of_mem_eraseIdx member)
  | scan now =>
    simp only [perform] at member
    split at member <;> exact .inl member
  | recoverFound clock place =>
    simp only [perform, operated] at member
    exact .inl member
  | elapse number => exact .inl member
  | fire id handle => exact .inl member
  | claim number =>
    simp only [perform] at member
    split at member <;> exact .inl member
  | complete number clock outcome =>
    simp only [perform] at member
    split at member <;> exact .inl member
  | release number =>
    simp only [perform] at member
    split at member <;> exact .inl member
  | reconfigure config =>
    simp only [perform] at member
    split at member <;> exact .inl member
  | stage available readFaults writeFaults failures => exact .inl member

theorem call_found (found : p.call? phases number = some call) :
    p.calls[number]? = some call ∧ call.phase ∈ phases := by
  obtain ⟨same, within⟩ := Option.filter_eq_some_iff.mp found
  exact ⟨same, List.contains_iff_mem.mp within⟩

/-- A call that was claimed is completed with whatever outcome its executor reports. -/
theorem perform_complete (found : p.calls[number]? = some call) (executing : call.phase = .executing)
    (clock : Clock) (outcome : ExecutionOutcome) :
    p.perform (.complete number clock outcome) = { p with
      scheduler := (p.scheduler.complete clock call.id call.handle outcome).2
      calls := p.calls.set number
        (call.afterCompletion (p.scheduler.complete clock call.id call.handle outcome).1) } := by
  have callable : p.call? [.executing] number = some call := by
    simp [call?, found, executing]
  simp [perform, callable]

/-- A timer that elapses calls back, unless the timer service was shut down meanwhile. -/
private theorem moves_elapse (p : Process) (number : Nat) :
    Moves p (.elapse number) (p.perform (.elapse number)) := by
  have handed : (p.scheduler.timers.elapse number).1 =
      if p.scheduler.timers.service = .polling ∧ p.scheduler.timers.isShutDown then none
      else p.scheduler.owner? (.issued number) := rfl
  have dropped : (p.scheduler.timers.elapse number).2 = p.scheduler.timers.drop number := rfl
  simp only [perform]
  rw [handed, dropped]
  cases pending : p.scheduler.owner? (.issued number) with
  | none =>
    have shrinks := p.scheduler.timers.drop_shrinks number
    refine moves_unchanged ?_ (by simp)
    constructor
    case config => rfl
    case reliable => exact fun reliable => ⟨reliable.store, reliable.timers.shrink shrinks⟩
    constructor
    case record => rfl
    case entry => rfl
    case issued => exact Nat.le_of_eq shrinks.issued.symm
    case isShutDown => exact shrinks.isShutDown
    case numbered => exact fun numbered => numbered.shrink shrinks
    case owner =>
      funext handle
      refine (p.scheduler.timers.payload_drop number handle).trans ?_
      split
      · rename_i same
        rw [same, pending]
      · rfl
  | some id =>
    split
    · rename_i ended
      exact .lost ended.2 rfl (by simp)
    · exact .elapsed pending rfl rfl

theorem perform_moves (p : Process) (action : Action) : Moves p action (p.perform action) := by
  cases action with
  | operate operation => exact .operated rfl rfl rfl
  | readPatch id patch =>
    have unchanged := p.scheduler.patched_unchanged id patch
    simp only [perform]
    cases read : p.scheduler.patched id patch with
    | mk answer t =>
      rw [read] at unchanged
      cases answer <;> exact moves_unchanged unchanged rfl
  | schedulePatched clock place =>
    refine moves_operate rfl ?_
    simp only [perform, operate]
    split <;> rfl
  | scan now =>
    simp only [perform]
    cases p.scheduler.scanned now <;> exact moves_unchanged (.refl _) rfl
  | recoverFound clock place =>
    refine moves_operate rfl ?_
    simp only [perform, operate]
    split <;> rfl
  | elapse number => exact moves_elapse p number
  | fire id handle => exact .called rfl rfl
  | claim number =>
    simp only [perform]
    cases found : p.call? [.waiting] number with
    | none => exact moves_same p _
    | some call =>
      obtain ⟨found, waiting⟩ := call_found found
      have waiting : call.phase = .waiting := List.mem_singleton.mp waiting
      rcases p.scheduler.claim_cases call.id call.handle with
        ⟨e, t, same, unchanged, fails⟩ | ⟨t, job, unchanged, record, current, same⟩ |
        ⟨t, unchanged, renamed, same⟩
      all_goals dsimp only
      · rw [same]
        exact .unclaimed found waiting unchanged fails rfl
      · rw [same]
        exact .claimed found waiting unchanged record current rfl rfl
      · rw [same]
        exact .stale found waiting unchanged renamed rfl rfl
  | complete number clock outcome =>
    cases callable : p.call? [.executing] number with
    | none =>
      simp only [perform, callable]
      exact moves_same p _
    | some call =>
      obtain ⟨found, executing⟩ := call_found callable
      have executing : call.phase = .executing := List.mem_singleton.mp executing
      rw [perform_complete found executing]
      rcases p.scheduler.complete_cases clock call.id call.handle outcome with
        ⟨e, t, same, fault, unchanged, fails⟩ | ⟨t, unchanged, renamed, same⟩ |
        ⟨t, job, unchanged, record, current, succeeds, broken, same⟩ |
        ⟨t, job, answer, unchanged, record, current, concludes, same⟩
      · rw [same, call.afterCompletion_fault fault]
        exact .uncompleted found executing unchanged fails rfl
      · rw [same]
        exact .overtaken found executing unchanged renamed rfl rfl
      · rw [same]
        exact .stranded found executing unchanged record current succeeds broken rfl
      · rw [same]
        exact .concluded found executing unchanged record current concludes
          (Scheduler.answered_state answer) rfl
  | release number =>
    simp only [perform]
    cases found : p.call? [.unclaimed, .uncompleted] number with
    | none => exact moves_same p _
    | some call =>
      obtain ⟨found, failed⟩ := call_found found
      exact .released found (by simpa using failed) rfl rfl
  | reconfigure config =>
    simp only [perform, Scheduler.reconfigure]
    cases config.validate with
    | error fault => exact moves_same p _
    | ok _ =>
      refine .kept ?_ (fun _ reliable => ⟨reliable.store, reliable.timers⟩) rfl
      exact ⟨rfl, rfl, rfl, Nat.le_refl _, rfl, fun numbered => numbered⟩
  | stage available readFaults writeFaults failures =>
    refine .kept ?_ (fun unstaged => by cases unstaged) rfl
    exact ⟨rfl, rfl, rfl, Nat.le_refl _, rfl, fun numbered => ⟨numbered.issued, numbered.distinct⟩⟩

private theorem set_handles {place : Nat} {before changed : FireCall}
    (found : p.calls[place]? = some before) (same : changed.handle = before.handle) :
    (p.calls.set place changed).map (·.handle) = p.calls.map (·.handle) := by
  obtain ⟨bound, here⟩ := List.getElem?_eq_some_iff.mp found
  apply List.ext_getElem
  · simp
  · intro other _ _
    by_cases equal : place = other
    · subst equal
      simp [here, same]
    · simp [equal]

/-- Calls keep their handles; one more call may begin, under the handle of a timer that elapses. -/
theorem Moves.handles {action : Action} (moves : Moves p action q) :
    q.calls.map (·.handle) = p.calls.map (·.handle) ∨
    ∃ begun, q.calls.map (·.handle) = p.calls.map (·.handle) ++ [begun] ∧
      ((∃ id, p.scheduler.owner? begun = some id) ∨ ∃ id, action = .fire id begun) := by
  have same : q.calls = p.calls → q.calls.map (·.handle) = p.calls.map (·.handle) := fun calls => by
    rw [calls]
  cases moves with
  | kept _ _ calls => exact .inl (same calls)
  | operated _ _ calls => exact .inl (same calls)
  | @elapsed number id _ pending _ calls =>
    refine .inr ⟨.issued number, ?_, .inl ⟨id, pending⟩⟩
    rw [calls, List.map_append]
    rfl
  | lost _ _ calls => exact .inl (same calls)
  | @called id handle _ _ calls =>
    refine .inr ⟨handle, ?_, .inr ⟨id, rfl⟩⟩
    rw [calls, List.map_append]
    rfl
  | unclaimed found _ _ _ calls => exact .inl (calls ▸ set_handles found rfl)
  | claimed found _ _ _ _ _ calls => exact .inl (calls ▸ set_handles found rfl)
  | stale found _ _ _ _ calls => exact .inl (calls ▸ set_handles found rfl)
  | uncompleted found _ _ _ calls => exact .inl (calls ▸ set_handles found rfl)
  | stranded found _ _ _ _ _ _ calls => exact .inl (calls ▸ set_handles found rfl)
  | overtaken found _ _ _ _ calls => exact .inl (calls ▸ set_handles found rfl)
  | @concluded _ _ _ call _ _ answer _ found _ _ _ _ _ _ calls =>
    have named : (call.afterCompletion (Scheduler.answered answer).1).handle = call.handle := by
      unfold FireCall.afterCompletion
      split <;> rfl
    exact .inl (calls ▸ set_handles found named)
  | released found _ _ calls => exact .inl (calls ▸ set_handles found rfl)

/-- What an action does to one call: it is left alone; begun, as a timer elapses or by itself; brought
to execution by a record that names its handle; or stranded by one whose trigger cannot be moved on; or
brought to some other phase, which is its end unless something failed. -/
inductive CallMoves (s : Scheduler) (action : Action) : Option FireCall → FireCall → Prop
  | same {call : FireCall} : CallMoves s action (some call) call
  | elapsed {number : Nat} {id : JobId} (elapses : action = .elapse number)
    (pending : s.owner? (.issued number) = some id) :
    CallMoves s action none (.begin id (.issued number))
  | called {id : JobId} {handle : Handle} (fires : action = .fire id handle) :
    CallMoves s action none (.begin id handle)
  | claimed {call : FireCall} {job : Job} (waiting : call.phase = .waiting)
    (record : s.record? call.id = some job) (current : Scheduler.isCurrent job call.handle = true) :
    CallMoves s action (some call) { call with phase := .executing, claimed? := some job }
  | stranded {call : FireCall} {job : Job} (executing : call.phase = .executing)
    (record : s.record? call.id = some job) (current : Scheduler.isCurrent job call.handle = true)
    (broken : job.trigger.advance? = none) :
    CallMoves s action (some call) { call with phase := .stranded }
  | moved {call : FireCall} {phase : FirePhase}
    (onward : phase = .unclaimed ∨ phase = .uncompleted ∨ phase = .ended)
    (ends : s.Reliable → phase = .ended) : CallMoves s action (some call) { call with phase }

section

variable {action : Action}

private theorem call_same (now : p.calls[number]? = some call) :
    CallMoves p.scheduler action p.calls[number]? call := by
  rw [now]
  exact .same

private theorem call_appended {begun : FireCall} (now : (p.calls ++ [begun])[number]? = some call)
    (begins : CallMoves p.scheduler action none begun) :
    CallMoves p.scheduler action p.calls[number]? call := by
  rw [List.getElem?_append] at now
  split at now
  · exact call_same now
  · rename_i beyond
    rw [List.getElem?_eq_none (Nat.le_of_not_lt beyond)]
    have same := List.mem_of_getElem? now
    rw [List.mem_singleton.mp same]
    exact begins

private theorem call_changed {place : Nat} {before changed : FireCall}
    (found : p.calls[place]? = some before)
    (now : (p.calls.set place changed)[number]? = some call)
    (moved : CallMoves p.scheduler action (some before) changed) :
    CallMoves p.scheduler action p.calls[number]? call := by
  by_cases here : place = number
  · subst here
    obtain ⟨bound, _⟩ := List.getElem?_eq_some_iff.mp found
    rw [List.getElem?_set_self bound] at now
    cases now
    rw [found]
    exact moved
  · rw [List.getElem?_set_ne here] at now
    exact call_same now

private theorem call_moved {place : Nat} {before : FireCall} {phase : FirePhase}
    (found : p.calls[place]? = some before)
    (now : (p.calls.set place { before with phase })[number]? = some call)
    (onward : phase = .unclaimed ∨ phase = .uncompleted ∨ phase = .ended)
    (ends : p.scheduler.Reliable → phase = .ended) :
    CallMoves p.scheduler action p.calls[number]? call :=
  call_changed found now (.moved onward ends)

theorem Moves.call_moves (moves : Moves p action q) (numbered : p.scheduler.timers.Numbered)
    (now : q.calls[number]? = some call) : CallMoves p.scheduler action p.calls[number]? call := by
  cases moves with
  | kept _ _ calls => exact call_same (calls ▸ now)
  | operated _ _ calls => exact call_same (calls ▸ now)
  | elapsed pending _ calls => exact call_appended (calls ▸ now) (.elapsed rfl pending)
  | lost _ _ calls => exact call_same (calls ▸ now)
  | called _ calls => exact call_appended (calls ▸ now) (.called rfl)
  | unclaimed found _ _ fails calls =>
    exact call_moved found (calls ▸ now) (.inl rfl) fun reliable => absurd reliable fails
  | claimed found waiting _ record current _ calls =>
    exact call_changed found (calls ▸ now) (.claimed waiting record current)
  | stale found _ _ _ _ calls => exact call_moved found (calls ▸ now) (.inr (.inr rfl)) fun _ => rfl
  | uncompleted found _ _ fails calls =>
    exact call_moved found (calls ▸ now) (.inr (.inl rfl)) fun reliable => absurd reliable fails
  | stranded found executing _ record current _ broken calls =>
    exact call_changed found (calls ▸ now) (.stranded executing record current broken)
  | overtaken found _ _ _ _ calls => exact call_moved found (calls ▸ now) (.inr (.inr rfl)) fun _ => rfl
  | @concluded _ _ _ call _ _ answer _ found _ unchanged _ _ concludes _ calls =>
    obtain ⟨status, settles⟩ := concludes.settles (unchanged.numbered numbered)
    obtain ⟨result, after⟩ := answer
    cases result with
    | ok saved => exact call_moved found (calls ▸ now) (.inr (.inr rfl)) fun _ => rfl
    | error e =>
      have fails := settles.fails
      have phase := call.afterCompletion_fault (concludes.fault rfl)
      change q.calls = p.calls.set _ (call.afterCompletion (.error e)) at calls
      rw [phase] at calls
      exact call_moved found (calls ▸ now) (.inr (.inl rfl))
        fun reliable => absurd (unchanged.reliable reliable) fails
  | released found _ _ calls => exact call_moved found (calls ▸ now) (.inr (.inr rfl)) fun _ => rfl

/-- A call that has begun stays, and goes on at most. -/
theorem Moves.call_onward (moves : Moves p action q) (numbered : p.scheduler.timers.Numbered)
    (before : p.calls[number]? = some call) :
    ∃ after, q.calls[number]? = some after ∧ CallMoves p.scheduler action (some call) after := by
  obtain ⟨bound, _⟩ := List.getElem?_eq_some_iff.mp before
  have longer : p.calls.length ≤ q.calls.length := by
    rcases moves.handles with same | ⟨begun, added, _⟩
    · simpa using Nat.le_of_eq (congrArg List.length same).symm
    · have length := congrArg List.length added
      simp only [List.length_map, List.length_append] at length
      omega
  have now : q.calls[number]? = some q.calls[number] := List.getElem?_eq_getElem (by omega)
  have moved := moves.call_moves numbered now
  rw [before] at moved
  exact ⟨_, now, moved⟩

end

end Process

end Punctual
