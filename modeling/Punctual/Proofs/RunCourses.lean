import Mathlib.Algebra.BigOperators.Group.Finset.Piecewise
import Mathlib.Algebra.Order.BigOperators.Group.Finset
import Punctual.DryRun
import Punctual.Proofs.Finality
import Punctual.Proofs.RetryStates
import Punctual.Proofs.Scans
import Punctual.Proofs.SingleFiring

/-!
Dry runs in the steps between which others may come: jobs are submitted one after another, while timers
that were armed for earlier ones elapse, their firings are claimed, executed and completed or run out of
time, and scans recover jobs. What is submitted, executed and stored adds up at every time; and once all
jobs were submitted and none is active, it stays so.

A run is summed up while steps go on: first its executions are counted, then the records are read, each at
a time of its own.
-/
namespace Punctual

open Scheduler

/-- What a dry run's executor answers. -/
def DryRun.outcome (now : Instant) (id : JobId) : ExecutionOutcome :=
  .ok ((ExecutionResponse.success now id).withMessage "dry run")

/-- A dry run in progress. -/
structure Course where
  process : Process
  /-- jobs that are yet to be submitted -/
  left : List Job
  /-- the ids of the jobs that were taken, in order -/
  taken : List JobId
  rejected : Nat
  /-- executions so far -/
  fired : Nat
  /-- calls that were executed and are yet to be completed -/
  delivered : List Nat
  /-- calls that ran out of time before they were executed -/
  overdue : List Nat
  /-- executions for calls that ran out of time -/
  unheard : Nat

/-- What may happen next in a dry run. -/
inductive CourseStep
  /-- submit the next job -/
  | submit (clock : Clock)
  /-- recover a job, as a scan may do with any job at any time -/
  | recover (clock : Clock) (id : JobId)
  | elapse (number : Nat)
  | claim (call : Nat)
  /-- execute the job of a call that was claimed; one that runs out of time may be executed still -/
  | execute (call : Nat)
  /-- take the executor's answer into the record -/
  | complete (call : Nat) (clock : Clock) (answered : Instant)
  /-- the time for an execution is over -/
  | timeOut (call : Nat) (clock : Clock) (limit : Nat)
  | release (call : Nat)

/-! ## Requests and calls -/

/-- A request that is refused leaves all records as they are; after any other there is one. -/
theorem Scheduler.schedule_records {s : Scheduler} (numbered : s.timers.Numbered) (clock : Clock)
    (job : Job) :
    (∃ e, (s.schedule clock job).1 = .error e ∧ (s.schedule clock job).2.record? = s.record?) ∨
    ∃ stored, (s.schedule clock job).1 = .ok stored ∧
      (s.schedule clock job).2.record? job.id = some stored := by
  rcases schedule_cases s clock job with
    ⟨e, t, same, unchanged⟩ | ⟨t, due, unchanged, unfinished, _, same⟩
  · rw [same]
    exact .inl ⟨e, rfl, unchanged.record⟩
  · have settles : Settles (t.freed (s.record? job.id)) clock.now
        (requested (s.record? job.id) job) (s.schedule clock job) := by
      rw [same]
      exact requested_settles numbered unchanged unfinished
    rcases settles.answers with ⟨e, refused, kept⟩ | ⟨handle?, answer, stored⟩
    · refine .inl ⟨e, refused, ?_⟩
      rw [kept, (freed_loses t _).record, unchanged.record]
    · rw [requested_id] at stored
      exact .inr ⟨_, answer, stored⟩

namespace Process

variable {p q : Process} {action : Action} {number : Nat} {call : FireCall}

/-- A call is being executed until it is completed. -/
theorem Moves.call_kept (moves : Moves p action q) (found : p.calls[number]? = some call)
    (executing : call.phase = .executing)
    (uncompleted : ∀ clock outcome, action ≠ .complete number clock outcome) :
    q.calls[number]? = some call := by
  have elsewhere : ∀ {place : Nat} {after : FireCall}, place ≠ number →
      (p.calls.set place after)[number]? = some call := by
    intro place after apart
    rw [List.getElem?_set_ne apart, found]
  have unlike : ∀ {place : Nat} {other : FireCall}, p.calls[place]? = some other →
      other.phase ≠ .executing → place ≠ number := by
    rintro place other there different rfl
    rw [found] at there
    cases there
    exact different executing
  have appended : ∀ begun, (p.calls ++ [begun])[number]? = some call := by
    intro begun
    rw [List.getElem?_append_left (List.getElem?_eq_some_iff.mp found).1, found]
  cases moves with
  | kept _ _ calls | operated _ _ calls | lost _ _ calls => rw [calls, found]
  | elapsed _ _ calls | called _ calls => rw [calls, appended]
  | unclaimed there waiting _ _ calls | claimed there waiting _ _ _ _ calls
  | stale there waiting _ _ _ calls => rw [calls, elsewhere (unlike there (by simp [waiting]))]
  | released there failed _ calls =>
    rw [calls, elsewhere (unlike there (by rcases failed with same | same <;> simp [same]))]
  | uncompleted _ _ _ _ calls | overtaken _ _ _ _ _ calls | stranded _ _ _ _ _ _ _ calls
  | concluded _ _ _ _ _ _ _ calls =>
    rw [calls, elsewhere (by rintro rfl; exact uncompleted _ _ rfl)]

/-- The calls whose completions broke off. -/
def strandings (p : Process) : Nat := p.calls.countP (·.phase == .stranded)

theorem strandings_set (found : p.calls[number]? = some call) (before : call.phase ≠ .stranded)
    (after : FireCall) : (p.calls.set number after).countP (·.phase == .stranded) =
      p.strandings + if after.phase = .stranded then 1 else 0 := by
  obtain ⟨bound, same⟩ := List.getElem?_eq_some_iff.mp found
  rw [List.countP_set bound, same]
  simp [strandings, before]

/-- Only completions that succeed strand calls. -/
theorem Moves.strandings (moves : Moves p action q) : q.strandings = p.strandings ∨
    ∃ number clock outcome, action = .complete number clock outcome ∧ hasSucceeded outcome = true := by
  have kept : ∀ {number : Nat} {call after : FireCall}, p.calls[number]? = some call →
      call.phase ≠ .stranded → after.phase ≠ .stranded → q.calls = p.calls.set number after →
      q.strandings = p.strandings := by
    intro number call after found before now calls
    have same := strandings_set found before after
    rw [← calls, if_neg now] at same
    exact same
  cases moves with
  | kept _ _ calls | operated _ _ calls | lost _ _ calls =>
    exact .inl (congrArg (List.countP _) calls)
  | elapsed _ _ calls | called _ calls =>
    have appended := congrArg (List.countP (·.phase == .stranded)) calls
    rw [List.countP_append] at appended
    exact .inl appended
  | unclaimed found waiting _ _ calls | claimed found waiting _ _ _ _ calls
  | stale found waiting _ _ _ calls => exact .inl (kept found (by simp [waiting]) (by simp) calls)
  | uncompleted found executing _ _ calls | overtaken found executing _ _ _ calls =>
    exact .inl (kept found (by simp [executing]) (by simp) calls)
  | stranded _ _ _ _ _ succeeds _ _ => exact .inr ⟨_, _, _, rfl, succeeds⟩
  | @concluded _ _ _ call _ _ _ _ found executing _ _ _ concludes _ calls =>
    have ended := call.afterCompletion_concluded concludes
    exact .inl (kept found (by simp [executing]) (by rcases ended with same | same <;> simp [same]) calls)
  | released found failed _ calls =>
    exact .inl (kept found (by rcases failed with same | same <;> simp [same]) (by simp) calls)

/-- A success of a job whose record names the call is counted in the record, or its completion breaks off
and strands the call. -/
theorem counted_or_stranded {id : JobId} {initial : Trigger} {job : Job} (single : Single id initial p)
    (executes : Executes p id number call) (record : p.scheduler.record? id = some job)
    (uncanceled : job.status ≠ .canceled) (clock : Clock) (outcome : ExecutionOutcome)
    (succeeds : hasSucceeded outcome = true) :
    let q := p.perform (.complete number clock outcome)
    ∃ after, q.scheduler.record? id = some after ∧
      (after.executions = nextNat32 job.executions ∧ q.strandings = p.strandings ∨
        after.executions = job.executions ∧ q.strandings = p.strandings + 1) := by
  intro q
  have current := single.current executes.holds record uncanceled
  have keyed := single.sound.owned.toKeyed
  obtain ⟨found, named, executing⟩ := executes
  have stranding : q.strandings = p.strandings + if (call.afterCompletion
      (p.scheduler.complete clock call.id call.handle outcome).1).phase = .stranded then 1 else 0 := by
    simp only [q, perform_complete found executing]
    exact strandings_set found (by simp [executing]) _
  have scheduler : q.scheduler = (p.scheduler.complete clock call.id call.handle outcome).2 := by
    simp only [q, perform_complete found executing]
  rw [stranding, scheduler]
  rw [← named] at record ⊢
  rcases complete_cases p.scheduler clock call.id call.handle outcome with
    ⟨_, _, _, _, _, fails⟩ | ⟨_, _, renamed, _⟩ | ⟨t, job, unchanged, held, _, _, _, same⟩ |
    ⟨t, job, answer, unchanged, held, _, concludes, same⟩
  · exact absurd single.sound.reliable fails
  · simp [renamed job record] at current
  · rw [record] at held
    cases held
    rw [same]
    exact ⟨job, (congrFun unchanged.record call.id).trans record, .inr ⟨rfl, rfl⟩⟩
  · rw [record] at held
    cases held
    obtain ⟨status, settles⟩ := concludes.settles (unchanged.numbered keyed.numbered)
    obtain ⟨handle?, stored⟩ := settles.stored (unchanged.reliable single.sound.reliable)
    rw [Job.concluded_id, keyed.keyed call.id job record, succeeds] at stored
    have ended := call.afterCompletion_concluded concludes
    rw [same, answered_state, if_neg (by rcases ended with same | same <;> simp [same])]
    exact ⟨_, stored, .inl ⟨rfl, rfl⟩⟩

/-- Completions leave a job canceled or not. -/
theorem uncanceled_complete {id : JobId} (keyed : p.scheduler.Keyed) (clock : Clock)
    (outcome : ExecutionOutcome)
    (uncanceled : ∀ job, p.scheduler.record? id = some job → job.status ≠ .canceled) :
    ∀ job, (p.perform (.complete number clock outcome)).scheduler.record? id = some job →
      job.status ≠ .canceled := by
  intro job stored
  have completes := complete_completes keyed id number clock outcome
  generalize p.recorded? id (.complete number clock outcome) = taken at completes
  cases completes with
  | left same => exact uncanceled job (same ▸ stored)
  | @taken call before t answer _ named unchanged record _ concludes _ scheduler =>
    have settles := concludes.settles_status (unchanged.numbered keyed.numbered)
    rw [scheduler] at stored
    rcases settles.record with kept | ⟨handle?, told⟩
    · rw [kept, unchanged.record] at stored
      exact uncanceled job stored
    · have same := told id
      rw [if_pos (by simp [Job.concluded_id, keyed.keyed id before record])] at same
      rw [same] at stored
      cases stored
      simp only [Job.stamped, Job.concluded, Job.statusAfter]
      split_ifs <;> simp

end Process

namespace Course

/-- A dry run that has submitted nothing. -/
def ofScheduler (scheduler : Scheduler) (jobs : List Job) : Course :=
  ⟨.ofScheduler scheduler, jobs, [], 0, 0, [], [], 0⟩

/-- The call is being executed. -/
def isExecuting (c : Course) (call : Nat) : Bool := (c.process.call? [.executing] call).isSome

/-- What a step does in the process, if it is possible. -/
def action? (c : Course) : CourseStep → Option Action
  | .submit clock => c.left.head?.map fun job => .operate (.schedule clock job)
  | .recover clock id => some (.operate (.recover clock id))
  | .elapse number => some (.elapse number)
  | .claim call => some (.claim call)
  | .execute _ => none
  | .complete call clock answered =>
    if c.delivered.contains call then
      c.process.calls[call]?.map fun found =>
        .complete call clock (DryRun.outcome answered found.id)
    else none
  | .timeOut call clock limit =>
    if c.isExecuting call then some (.complete call clock (.error (.timeout limit))) else none
  | .release call => some (.release call)

/-- The course with the first of its jobs submitted. -/
def submitted (c : Course) (clock : Clock) : Course :=
  match c.left with
  | [] => c
  | job :: left =>
    match (c.process.scheduler.schedule clock job).1 with
    | .ok _ => { c with left, taken := c.taken ++ [job.id] }
    | .error _ => { c with left, rejected := c.rejected + 1 }

/-- What a step changes around the process. -/
def noted (c : Course) : CourseStep → Course
  | .submit clock => c.submitted clock
  | .execute call =>
    if c.isExecuting call && !c.delivered.contains call then
      { c with fired := c.fired + 1, delivered := call :: c.delivered }
    else if c.overdue.contains call then
      { c with fired := c.fired + 1, unheard := c.unheard + 1, overdue := c.overdue.erase call }
    else c
  | .complete call _ _ => { c with delivered := c.delivered.erase call }
  | .timeOut call _ _ =>
    if !c.isExecuting call then c
    else if c.delivered.contains call then
      { c with unheard := c.unheard + 1, delivered := c.delivered.erase call }
    else { c with overdue := call :: c.overdue }
  | _ => c

/-- The course after a step. -/
def perform (c : Course) (step : CourseStep) : Course :=
  { c.noted step with process := (c.action? step).elim c.process c.process.perform }

/-- Steps one after another. -/
def performAll (c : Course) (steps : List CourseStep) : Course := steps.foldl perform c

/-- The records as they are stored. -/
def stored (c : Course) : List Job := c.process.scheduler.store.jobs.values

/-- The calls whose completions broke off. -/
def stranded (c : Course) : Nat := c.process.strandings

/-- All jobs were submitted, and none is active. -/
structure Idle (c : Course) : Prop where
  submitted : c.left = []
  finished : ∀ id job, c.process.scheduler.record? id = some job → job.status.isTerminal = true

/-- The records of all jobs, each as it is read at some time while steps are taken. -/
structure Reads (c : Course) (between : List CourseStep) (jobs : List Job) : Prop where
  once : (jobs.map (·.id)).Nodup
  whole : ∀ id, id ∈ jobs.map (·.id) ↔ id ∈ c.taken
  current : ∀ job ∈ jobs, ∃ first rest, between = first ++ rest ∧
    (c.performAll first).process.scheduler.record? job.id = some job

/-- The run as it is summed up: the executions as they are now, and the records as they are read after
that. -/
def summary (c : Course) (jobs : List Job) (ended : Instant) (inTime : Bool) : DryRunSummary :=
  ⟨c.taken.length, c.rejected, c.fired, jobs, ended, inTime⟩

/-- The successes that a job's record counts. -/
def executionsOf (c : Course) (id : JobId) : Nat :=
  ((c.process.scheduler.record? id).map (·.executions)).getD 0

variable {c : Course} {step : CourseStep} {action : Action} {jobs : List Job} {id : JobId}
  {job : Job} {number : Nat} {call : FireCall}

theorem performAll_append (c : Course) (steps more : List CourseStep) :
    c.performAll (steps ++ more) = (c.performAll steps).performAll more :=
  List.foldl_append

/-! ## What one step does to one record -/

theorem ordinary_of_action (acts : c.action? step = some action) : Process.ordinary action = true := by
  cases step <;> simp only [action?, Option.map_eq_some_iff, Option.ite_none_right_eq_some,
    Option.some.injEq, reduceCtorEq] at acts <;> grind [Process.ordinary]

theorem unpatched_of_action (acts : c.action? step = some action) (id : JobId) (patch : JobPatch) :
    action ≠ .readPatch id patch := by
  cases step <;> simp only [action?, Option.map_eq_some_iff, Option.ite_none_right_eq_some,
    Option.some.injEq, reduceCtorEq] at acts <;> grind

/-- The operations of a run are requests for its jobs and recoveries. -/
theorem operation_of_action {operation : Operation} (acts : c.action? step = some action)
    (carried : c.process.operation? action = some operation) :
    (∃ clock job, step = .submit clock ∧ c.left.head? = some job ∧ operation = .schedule clock job) ∨
    ∃ clock id, step = .recover clock id ∧ operation = .recover clock id := by
  cases step <;> simp only [action?, Option.map_eq_some_iff, Option.ite_none_right_eq_some,
    Option.some.injEq, reduceCtorEq] at acts <;> grind [Process.operation?]

/-- Only completions complete, and those that succeed are of calls that were executed. -/
theorem complete_of_action {clock : Clock} {outcome : ExecutionOutcome}
    (acts : c.action? step = some (.complete number clock outcome)) :
    (number ∈ c.delivered ∧ hasSucceeded outcome = true ∧
      ∃ answered, step = .complete number clock answered) ∨
    (c.isExecuting number = true ∧ hasSucceeded outcome = false ∧
      ∃ limit, step = .timeOut number clock limit) := by
  cases step <;> simp only [action?, Option.map_eq_some_iff, Option.ite_none_right_eq_some,
    Option.some.injEq, reduceCtorEq, exists_false, and_false] at acts
  case complete call clock' answered =>
    obtain ⟨delivered, found, _, same⟩ := acts
    cases same
    exact .inl ⟨by simpa using delivered, rfl, _, rfl⟩
  case timeOut call clock' limit =>
    obtain ⟨executing, same⟩ := acts
    cases same
    exact .inr ⟨executing, rfl, _, rfl⟩

/-- A job's record after a step. -/
inductive RecordSteps (c : Course) (id : JobId) : CourseStep → Option Job → Prop
  | kept {step : CourseStep} : RecordSteps c id step (c.process.scheduler.record? id)
  | requested {clock : Clock} {job : Job} {handle? : Option Handle} {now : Instant}
    (next : c.left.head? = some job) (named : job.id = id) :
    RecordSteps c id (.submit clock)
      (some ((requested (c.process.scheduler.record? id) job).stamped handle? now))
  | recovered {clock : Clock} {stored : Job} {status : JobStatus} {trigger : Trigger}
    {handle? : Option Handle} {now : Instant} (record : c.process.scheduler.record? id = some stored)
    (active : stored.status.isActive = true) (uncanceled : status ≠ .canceled) :
    RecordSteps c id (.recover clock id)
      (some ({ stored with status, trigger }.stamped handle? now))
  | completed {step : CourseStep} {number : Nat} {clock : Clock} {outcome : ExecutionOutcome}
    {call : FireCall} {stored : Job} {status : JobStatus} {handle? : Option Handle} {now : Instant}
    (acts : c.action? step = some (.complete number clock outcome))
    (found : c.process.calls[number]? = some call) (named : call.id = id)
    (record : c.process.scheduler.record? id = some stored)
    (active : stored.status.isActive = true) :
    RecordSteps c id step
      (some ((stored.concluded (hasSucceeded outcome) status).stamped handle? now))

theorem record_steps (keyed : c.process.scheduler.Keyed) (id : JobId) (step : CourseStep) :
    RecordSteps c id step ((c.perform step).process.scheduler.record? id) := by
  cases acts : c.action? step with
  | none =>
    have same : (c.perform step).process = c.process := by simp [perform, acts]
    rw [same]
    exact .kept
  | some action =>
    have same : (c.perform step).process = c.process.perform action := by simp [perform, acts]
    have moved := (Process.perform_moves c.process action).record_moves keyed id
    rw [same]
    generalize (c.process.perform action).scheduler.record? id = after at moved ⊢
    cases moved with
    | kept => exact .kept
    | operated carried named makes =>
      rcases operation_of_action acts carried with
        ⟨clock, job, rfl, next, rfl⟩ | ⟨clock, other, rfl, rfl⟩
      · cases makes with
        | requested _ _ =>
          have named : job.id = id := named
          rw [named]
          exact .requested next named
      · have named : other = id := named
        subst named
        cases makes with
        | abandoned record active _ _ => exact .recovered record active nofun
        | resumed record active _ _ _ => exact .recovered record active (by
            rintro canceled
            rw [canceled] at active
            cases active)
    | concluded found named _ record current =>
      exact .completed acts found named record (isCurrent_iff.mp current).1

/-- The job whose execution a step takes into its record. -/
def answered? (c : Course) : CourseStep → Option JobId
  | .complete call _ _ =>
    if c.delivered.contains call then c.process.calls[call]?.map (·.id) else none
  | _ => none

/-- A record counts one success more if its job's execution is answered, and is never reset. -/
theorem executions_perform (keyed : c.process.scheduler.Keyed) (id : JobId) (step : CourseStep) :
    (c.perform step).executionsOf id = c.executionsOf id ∨
    c.answered? step = some id ∧
      (c.perform step).executionsOf id = nextNat32 (c.executionsOf id) := by
  have moved := record_steps keyed id step
  unfold executionsOf
  generalize (c.perform step).process.scheduler.record? id = after at moved ⊢
  cases moved with
  | kept => exact .inl rfl
  | requested _ _ =>
    left
    cases c.process.scheduler.record? id <;> rfl
  | recovered record _ _ =>
    rw [record]
    exact .inl rfl
  | completed acts found named record _ =>
    rw [record]
    rcases complete_of_action acts with ⟨delivered, succeeded, _, rfl⟩ | ⟨_, failed, _, rfl⟩
    · rw [succeeded]
      exact .inr ⟨by simp [answered?, delivered, found, named], rfl⟩
    · rw [failed]
      exact .inl rfl

/-- A record that is there stays there. -/
theorem stored_perform (keyed : c.process.scheduler.Keyed) (step : CourseStep)
    (stored : (c.process.scheduler.record? id).isSome = true) :
    ((c.perform step).process.scheduler.record? id).isSome = true := by
  have moved := record_steps keyed id step
  generalize (c.perform step).process.scheduler.record? id = after at moved ⊢
  cases moved with
  | kept => exact stored
  | requested _ _ => rfl
  | recovered _ _ _ => rfl
  | completed _ _ _ _ _ => rfl

/-- Only a request makes a record. -/
theorem unstored_perform (keyed : c.process.scheduler.Keyed)
    (unasked : ∀ clock job, step = .submit clock → c.left.head? = some job → job.id ≠ id)
    (unstored : c.process.scheduler.record? id = none) :
    (c.perform step).process.scheduler.record? id = none := by
  have moved := record_steps keyed id step
  generalize (c.perform step).process.scheduler.record? id = after at moved ⊢
  cases moved with
  | kept => exact unstored
  | requested next named => exact absurd named (unasked _ _ rfl next)
  | recovered record _ _ => simp [unstored] at record
  | completed _ _ _ record _ => simp [unstored] at record

/-! ## What becomes of the jobs that are left -/

/-- A step submits the next job, or leaves the jobs to be submitted as they are. -/
inductive QueueMoves (c : Course) : CourseStep → Course → Prop
  | kept {step : CourseStep} {d : Course} (left : d.left = c.left) (taken : d.taken = c.taken)
    (rejected : d.rejected = c.rejected)
    (unasked : ∀ clock, step = .submit clock → c.left.head? = none) : QueueMoves c step d
  | taken {clock : Clock} {job stored : Job} {d : Course} (left : c.left = job :: d.left)
    (answer : (c.process.scheduler.schedule clock job).1 = .ok stored)
    (process : d.process = c.process.perform (.operate (.schedule clock job)))
    (taken : d.taken = c.taken ++ [job.id]) (rejected : d.rejected = c.rejected) :
    QueueMoves c (.submit clock) d
  | refused {clock : Clock} {job : Job} {e : SchedulerError} {d : Course}
    (left : c.left = job :: d.left)
    (answer : (c.process.scheduler.schedule clock job).1 = .error e)
    (process : d.process = c.process.perform (.operate (.schedule clock job)))
    (taken : d.taken = c.taken) (rejected : d.rejected = c.rejected + 1) :
    QueueMoves c (.submit clock) d

theorem queue_moves (c : Course) (step : CourseStep) : QueueMoves c step (c.perform step) := by
  cases step with
  | submit clock =>
    cases queue : c.left with
    | nil =>
      refine .kept ?_ ?_ ?_ (fun _ _ => by simp [queue]) <;> simp [perform, noted, submitted, queue]
    | cons job left =>
      cases answer : (c.process.scheduler.schedule clock job).1 with
      | ok stored =>
        have next : c.left = job :: (c.perform (.submit clock)).left := by
          simp [perform, noted, submitted, queue, answer]
        refine .taken next answer ?_ ?_ ?_ <;>
          simp [perform, noted, submitted, action?, queue, answer]
      | error e =>
        have next : c.left = job :: (c.perform (.submit clock)).left := by
          simp [perform, noted, submitted, queue, answer]
        refine .refused next answer ?_ ?_ ?_ <;>
          simp [perform, noted, submitted, action?, queue, answer]
  | execute call => refine .kept ?_ ?_ ?_ nofun <;> simp only [perform, noted] <;> split_ifs <;> rfl
  | timeOut call clock limit =>
    refine .kept ?_ ?_ ?_ nofun <;> simp only [perform, noted] <;> split_ifs <;> rfl
  | _ => exact .kept rfl rfl rfl nofun

/-! ## What becomes of the calls -/

/-- A step executes a call, takes the answer of one that was executed, or ends its time, or leaves the
executions as they are. -/
inductive Tallies (c : Course) : CourseStep → Course → Prop
  | kept {step : CourseStep} {d : Course} (fired : d.fired = c.fired)
    (delivered : d.delivered = c.delivered) (unheard : d.unheard = c.unheard)
    (unanswered : ∀ number ∈ c.delivered, ∀ clock answered, step ≠ .complete number clock answered)
    (inTime : ∀ number ∈ c.delivered, c.isExecuting number = true →
      ∀ clock limit, step ≠ .timeOut number clock limit) : Tallies c step d
  | executed {number : Nat} {d : Course} (executing : c.isExecuting number = true)
    (fresh : number ∉ c.delivered) (fired : d.fired = c.fired + 1)
    (delivered : d.delivered = number :: c.delivered) (unheard : d.unheard = c.unheard) :
    Tallies c (.execute number) d
  | late {number : Nat} {d : Course} (fired : d.fired = c.fired + 1)
    (delivered : d.delivered = c.delivered) (unheard : d.unheard = c.unheard + 1) :
    Tallies c (.execute number) d
  | answered {number : Nat} {clock : Clock} {answered : Instant} {d : Course}
    (member : number ∈ c.delivered) (fired : d.fired = c.fired)
    (delivered : d.delivered = c.delivered.erase number) (unheard : d.unheard = c.unheard) :
    Tallies c (.complete number clock answered) d
  | overdue {number : Nat} {clock : Clock} {limit : Nat} {d : Course}
    (member : number ∈ c.delivered) (fired : d.fired = c.fired)
    (delivered : d.delivered = c.delivered.erase number) (unheard : d.unheard = c.unheard + 1) :
    Tallies c (.timeOut number clock limit) d

theorem tallies (c : Course) (step : CourseStep) : Tallies c step (c.perform step) := by
  cases step with
  | submit clock =>
    refine .kept ?_ ?_ ?_ nofun nofun <;> simp only [perform, noted, submitted] <;> split
    all_goals first | rfl | split <;> rfl
  | execute call =>
    by_cases executes : (c.isExecuting call && !c.delivered.contains call) = true
    · have both := executes
      simp only [Bool.and_eq_true, Bool.not_eq_true', List.contains_eq_mem,
        decide_eq_false_iff_not] at both
      refine .executed both.1 both.2 ?_ ?_ ?_ <;> simp only [perform, noted, if_pos executes]
    · by_cases late : c.overdue.contains call = true
      · refine .late ?_ ?_ ?_ <;> simp only [perform, noted, if_neg executes, if_pos late]
      · refine .kept ?_ ?_ ?_ nofun nofun <;> simp only [perform, noted, if_neg executes, if_neg late]
  | complete call clock answered =>
    by_cases member : call ∈ c.delivered
    · exact .answered member rfl rfl rfl
    · refine .kept rfl (List.erase_of_not_mem member) rfl ?_ nofun
      rintro number delivered _ _ ⟨⟩
      exact member delivered
  | timeOut call clock limit =>
    by_cases executing : c.isExecuting call = true
    · by_cases member : call ∈ c.delivered
      · have contained := List.contains_iff_mem.mpr member
        refine .overdue member ?_ ?_ ?_ <;>
          simp only [perform, noted, executing, contained, Bool.not_true, Bool.false_eq_true, if_true,
            if_false]
      · have missing : c.delivered.contains call = false := by simpa using member
        refine .kept ?_ ?_ ?_ nofun ?inTime
        case inTime =>
          rintro number delivered _ _ _ ⟨⟩
          exact member delivered
        all_goals simp only [perform, noted, executing, missing, Bool.not_true, Bool.false_eq_true,
          if_false]
    · refine .kept ?_ ?_ ?_ nofun ?inTime
      case inTime =>
        rintro number _ still _ _ ⟨⟩
        exact executing still
      all_goals simp only [perform, noted, executing, Bool.not_false, if_true]
  | recover _ _ | elapse _ | claim _ | release _ => exact .kept rfl rfl rfl nofun nofun

/-! ## What holds throughout a run -/

/-- What a run of the jobs has done so far adds up. -/
structure Sound (jobs : List Job) (c : Course) : Prop where
  process : c.process.Sound
  patched : c.process.patched = []
  distinct : (c.process.calls.map (·.handle)).Nodup
  given : c.taken.length + c.rejected + c.left.length = jobs.length
  within : (c.taken ++ c.left.map (·.id)).Sublist (jobs.map (·.id))
  stored : ∀ id, (c.process.scheduler.record? id).isSome = true ↔ id ∈ c.taken
  called : ∀ call ∈ c.process.calls, call.id ∈ c.taken
  uncanceled : ∀ id job, c.process.scheduler.record? id = some job → job.status ≠ .canceled
  executing : ∀ number ∈ c.delivered, c.isExecuting number = true
  delivered : c.delivered.Nodup
  bounded : ∀ id, c.executionsOf id ≤ maxNat32
  executions : ∑ id ∈ c.taken.toFinset, c.executionsOf id + c.delivered.length + c.unheard ≤ c.fired

theorem Sound.keyed (sound : Sound jobs c) : c.process.scheduler.Keyed := sound.process.owned.toKeyed

theorem isExecuting_iff : c.isExecuting number = true ↔
    ∃ call, c.process.calls[number]? = some call ∧ call.phase = .executing := by
  simp only [isExecuting, Process.call?, Option.isSome_iff_exists, Option.filter_eq_some_iff,
    List.contains_eq_mem, List.mem_singleton, decide_eq_true_eq]

theorem process_perform (c : Course) (step : CourseStep) :
    (c.perform step).process = (c.action? step).elim c.process c.process.perform := rfl

/-- What holds of a process, and after each action that a step may be, holds after the step. -/
theorem process_preserved (holds : Process → Prop) (now : holds c.process)
    (preserved : ∀ action, c.action? step = some action → holds (c.process.perform action)) :
    holds (c.perform step).process := by
  rw [process_perform]
  cases acts : c.action? step with
  | none => exact now
  | some action => exact preserved action acts

theorem Sound.stored_onward (sound : Sound jobs c) (step : CourseStep) (id : JobId) :
    ((c.perform step).process.scheduler.record? id).isSome = true ↔ id ∈ (c.perform step).taken := by
  have onward : id ∈ c.taken → ((c.perform step).process.scheduler.record? id).isSome = true :=
    fun taken => stored_perform sound.keyed step ((sound.stored id).mpr taken)
  have fresh : id ∉ c.taken →
      (∀ clock job, step = .submit clock → c.left.head? = some job → job.id ≠ id) →
      (c.perform step).process.scheduler.record? id = none := by
    intro untaken unasked
    refine unstored_perform sound.keyed unasked ?_
    rw [← sound.stored] at untaken
    simpa using untaken
  have moved := queue_moves c step
  generalize c.perform step = d at moved onward fresh ⊢
  cases moved with
  | kept _ taken _ unasked =>
    rw [taken]
    refine ⟨fun stored => ?_, onward⟩
    by_contra untaken
    have unstored := fresh untaken fun clock job same next => by simp [unasked clock same] at next
    simp [unstored] at stored
  | @taken clock job _ _ left answer process taken _ =>
    rw [taken, List.mem_append, List.mem_singleton]
    -- the job itself gets a record; of another id nothing was asked
    by_cases same : id = job.id
    · have record : (d.process.scheduler.record? job.id).isSome = true := by
        rcases schedule_records sound.keyed.numbered clock job with ⟨e, refused, _⟩ | ⟨stored, _, record⟩
        · simp [answer] at refused
        · rw [process]
          exact Option.isSome_of_eq_some record
      exact ⟨fun _ => .inr same, fun _ => same ▸ record⟩
    · refine ⟨fun stored => ?_, fun taken => onward (taken.resolve_right same)⟩
      by_contra untaken
      rw [not_or] at untaken
      have unstored := fresh untaken.1 fun clock other _ next => by
        simp only [left, List.head?_cons, Option.some.injEq] at next
        exact next ▸ Ne.symm same
      simp [unstored] at stored
  | @refused clock job _ _ left answer process taken _ =>
    have same : d.process.scheduler.record? = c.process.scheduler.record? := by
      rcases schedule_records sound.keyed.numbered clock job with ⟨e, _, same⟩ | ⟨stored, made, _⟩
      · rw [process]
        exact same
      · simp [answer] at made
    rw [taken, same, sound.stored]

theorem taken_onward (c : Course) (step : CourseStep) (taken : id ∈ c.taken) :
    id ∈ (c.perform step).taken := by
  have moved := queue_moves c step
  generalize c.perform step = d at moved ⊢
  cases moved with
  | kept _ same _ _ | refused _ _ _ same _ => exact same ▸ taken
  | taken _ _ _ same _ => exact same ▸ List.mem_append_left _ taken

/-- Timers call back for stored jobs only. -/
theorem Sound.called_onward (sound : Sound jobs c) (step : CourseStep) :
    ∀ call ∈ (c.perform step).process.calls, call.id ∈ (c.perform step).taken := by
  intro call member
  refine taken_onward c step ?_
  revert call
  refine process_preserved (fun p => ∀ call ∈ p.calls, call.id ∈ c.taken) sound.called ?_
  intro action acts call member
  obtain ⟨number, now⟩ := List.mem_iff_getElem?.mp member
  have moved := (Process.perform_moves c.process action).call_moves sound.keyed.numbered now
  generalize before : c.process.calls[number]? = earlier? at moved
  cases moved with
  | same => exact sound.called call (List.mem_of_getElem? before)
  | elapsed _ pending =>
    obtain ⟨entry, held, _, _⟩ := (sound.process.consistent _).pending _ pending
    obtain ⟨job, record, _, _⟩ := (sound.process.consistent _).armed entry held
    exact (sound.stored _).mp (Option.isSome_of_eq_some record)
  | called fires =>
    subst fires
    have ordinary := ordinary_of_action acts
    cases ordinary
  | @claimed earlier _ _ _ _ => exact sound.called earlier (List.mem_of_getElem? before)
  | @stranded earlier _ _ _ _ _ => exact sound.called earlier (List.mem_of_getElem? before)
  | @moved earlier _ _ _ => exact sound.called earlier (List.mem_of_getElem? before)

theorem Sound.uncanceled_onward (sound : Sound jobs c) (step : CourseStep) :
    ∀ id job, (c.perform step).process.scheduler.record? id = some job → job.status ≠ .canceled := by
  intro id
  have before := sound.uncanceled id
  have requested_uncanceled : ∀ job,
      (requested (c.process.scheduler.record? id) job).status ≠ .canceled := by
    intro job
    rw [requested_status]
    cases record : c.process.scheduler.record? id with
    | none => nofun
    | some stored => exact before stored record
  have completed : ∀ number clock outcome,
      c.action? step = some (.complete number clock outcome) → ∀ job,
        (c.perform step).process.scheduler.record? id = some job → job.status ≠ .canceled := by
    intro number clock outcome acts
    rw [process_perform, acts]
    exact Process.uncanceled_complete sound.keyed clock outcome before
  have moved := record_steps sound.keyed id step
  generalize (c.perform step).process.scheduler.record? id = after at moved completed ⊢
  cases moved with
  | kept => exact before
  | requested _ _ =>
    rintro job ⟨⟩
    exact requested_uncanceled _
  | recovered _ _ uncanceled =>
    rintro job ⟨⟩
    exact uncanceled
  | completed acts _ _ _ _ => exact completed _ _ _ acts

/-- A call is being executed until its answer is taken or its time is over. -/
theorem calls_perform (found : c.process.calls[number]? = some call) (executing : call.phase = .executing)
    (unanswered : ∀ clock answered, step ≠ .complete number clock answered)
    (inTime : ∀ clock limit, step ≠ .timeOut number clock limit) :
    (c.perform step).process.calls[number]? = some call := by
  refine process_preserved (fun p => p.calls[number]? = some call) found ?_
  intro action acts
  refine (Process.perform_moves c.process action).call_kept found executing ?_
  rintro clock outcome rfl
  rcases complete_of_action acts with ⟨_, _, _, same⟩ | ⟨_, _, _, same⟩
  · exact unanswered _ _ same
  · exact inTime _ _ same

theorem Sound.executing_onward (sound : Sound jobs c) (step : CourseStep) :
    ∀ number ∈ (c.perform step).delivered, (c.perform step).isExecuting number = true := by
  intro number delivered
  have onward : c.isExecuting number = true →
      (∀ clock answered, step ≠ .complete number clock answered) →
      (∀ clock limit, step ≠ .timeOut number clock limit) →
      (c.perform step).isExecuting number = true := by
    intro executing unanswered inTime
    obtain ⟨call, found, phase⟩ := isExecuting_iff.mp executing
    exact isExecuting_iff.mpr ⟨call, calls_perform found phase unanswered inTime, phase⟩
  have moved := tallies c step
  generalize c.perform step = d at moved onward delivered ⊢
  cases moved with
  | kept _ same _ unanswered inTime =>
    rw [same] at delivered
    have executing := sound.executing number delivered
    exact onward executing (unanswered number delivered) (inTime number delivered executing)
  | executed executing _ _ same _ =>
    rw [same] at delivered
    rcases List.mem_cons.mp delivered with rfl | before
    · exact onward executing nofun nofun
    · exact onward (sound.executing number before) nofun nofun
  | late _ same _ =>
    rw [same] at delivered
    exact onward (sound.executing number delivered) nofun nofun
  | answered _ _ same _ =>
    rw [same] at delivered
    obtain ⟨apart, before⟩ := sound.delivered.mem_erase_iff.mp delivered
    refine onward (sound.executing number before) ?_ nofun
    rintro _ _ ⟨⟩
    exact apart rfl
  | overdue _ _ same _ =>
    rw [same] at delivered
    obtain ⟨apart, before⟩ := sound.delivered.mem_erase_iff.mp delivered
    refine onward (sound.executing number before) nofun ?_
    rintro _ _ ⟨⟩
    exact apart rfl

theorem Sound.delivered_onward (sound : Sound jobs c) (step : CourseStep) :
    (c.perform step).delivered.Nodup := by
  have moved := tallies c step
  generalize c.perform step = d at moved ⊢
  cases moved with
  | kept _ same _ _ _ | late _ same _ => exact same ▸ sound.delivered
  | executed _ fresh _ same _ => exact same ▸ List.nodup_cons.mpr ⟨fresh, sound.delivered⟩
  | answered _ _ same _ | overdue _ _ same _ => exact same ▸ sound.delivered.erase _

/-- Each execution is yet to be answered, was answered, or came too late. -/
theorem Sound.balance (sound : Sound jobs c) (step : CourseStep) :
    (c.answered? step).toList.length + (c.perform step).delivered.length +
        (c.perform step).unheard + c.fired =
      c.delivered.length + c.unheard + (c.perform step).fired := by
  have unmet : (∀ number ∈ c.delivered, ∀ clock answered, step ≠ .complete number clock answered) →
      c.answered? step = none := by
    intro unanswered
    cases step with
    | complete call clock answered =>
      have missing : call ∉ c.delivered := fun member => unanswered call member clock answered rfl
      simp [answered?, missing]
    | _ => rfl
  have moved := tallies c step
  generalize c.perform step = d at moved ⊢
  cases moved with
  | kept fired delivered unheard unanswered _ =>
    rw [unmet unanswered, fired, delivered, unheard]
    simp
  | executed _ _ fired delivered unheard =>
    rw [unmet nofun, fired, delivered, unheard, List.length_cons]
    simp only [Option.toList_none, List.length_nil]
    omega
  | late fired delivered unheard =>
    rw [unmet nofun, fired, delivered, unheard]
    simp only [Option.toList_none, List.length_nil]
    omega
  | @answered number _ _ _ member fired delivered unheard =>
    obtain ⟨call, found, _⟩ := isExecuting_iff.mp (sound.executing number member)
    have length := List.length_erase_of_mem member
    have positive := List.length_pos_of_mem member
    simp only [answered?, List.contains_iff_mem.mpr member, found, fired, delivered, unheard, if_true,
      Option.map_some, Option.toList_some, List.length_singleton]
    omega
  | overdue member fired delivered unheard =>
    have length := List.length_erase_of_mem member
    have positive := List.length_pos_of_mem member
    rw [unmet nofun, fired, delivered, unheard]
    simp only [Option.toList_none, List.length_nil]
    omega

/-- A job that was not taken has no successes. -/
theorem Sound.executions_untaken (sound : Sound jobs c) (untaken : id ∉ c.taken) :
    c.executionsOf id = 0 := by
  rw [← sound.stored] at untaken
  have unstored : c.process.scheduler.record? id = none := by simpa using untaken
  simp [executionsOf, unstored]

theorem Sound.answered_taken (sound : Sound jobs c) (answered : c.answered? step = some id) :
    id ∈ c.taken := by
  cases step with
  | complete number clock answer =>
    simp only [answered?, Option.ite_none_right_eq_some, Option.map_eq_some_iff] at answered
    obtain ⟨_, call, found, rfl⟩ := answered
    exact sound.called call (List.mem_of_getElem? found)
  | _ => cases answered

/-- The ids that a step adds are of jobs without a record. -/
theorem sum_taken (c : Course) (step : CourseStep) (counts : JobId → Nat)
    (untaken : ∀ id, id ∉ c.taken → counts id = 0) :
    ∑ id ∈ (c.perform step).taken.toFinset, counts id = ∑ id ∈ c.taken.toFinset, counts id := by
  symm
  refine Finset.sum_subset ?_ ?_
  · intro id taken
    rw [List.mem_toFinset] at taken ⊢
    exact taken_onward c step taken
  · intro id _ fresh
    rw [List.mem_toFinset] at fresh
    exact untaken id fresh

theorem sum_answered (answered? : Option JobId) (ids : Finset JobId) :
    ∑ id ∈ ids, (if answered? = some id then 1 else 0) ≤ answered?.toList.length := by
  cases answered? with
  | none => simp
  | some id =>
    simp only [Option.some.injEq, Finset.sum_ite_eq, Option.toList_some, List.length_singleton]
    split <;> omega

theorem Sound.executions_onward (sound : Sound jobs c) (step : CourseStep) :
    ∑ id ∈ (c.perform step).taken.toFinset, (c.perform step).executionsOf id +
      (c.perform step).delivered.length + (c.perform step).unheard ≤ (c.perform step).fired := by
  -- a record counts one success more at most, and only that of the job that was answered for
  have each : ∀ id, (c.perform step).executionsOf id ≤
      c.executionsOf id + if c.answered? step = some id then 1 else 0 := by
    intro id
    rcases executions_perform sound.keyed id step with same | ⟨answered, next⟩
    · omega
    · rw [next, if_pos answered]
      exact Nat.min_le_left ..
  have sum : ∑ id ∈ (c.perform step).taken.toFinset, (c.perform step).executionsOf id ≤
      ∑ id ∈ c.taken.toFinset, c.executionsOf id + (c.answered? step).toList.length := by
    calc ∑ id ∈ (c.perform step).taken.toFinset, (c.perform step).executionsOf id
        ≤ ∑ id ∈ (c.perform step).taken.toFinset,
            (c.executionsOf id + if c.answered? step = some id then 1 else 0) :=
          Finset.sum_le_sum fun id _ => each id
      _ = ∑ id ∈ c.taken.toFinset, c.executionsOf id +
            ∑ id ∈ (c.perform step).taken.toFinset, (if c.answered? step = some id then 1 else 0) := by
          rw [Finset.sum_add_distrib, sum_taken c step _ fun _ => sound.executions_untaken]
      _ ≤ ∑ id ∈ c.taken.toFinset, c.executionsOf id + (c.answered? step).toList.length :=
          Nat.add_le_add_left (sum_answered _ _) _
  have balance := sound.balance step
  have before := sound.executions
  omega

theorem Sound.given_onward (sound : Sound jobs c) (step : CourseStep) :
    (c.perform step).taken.length + (c.perform step).rejected + (c.perform step).left.length =
      jobs.length := by
  have before := sound.given
  have moved := queue_moves c step
  generalize c.perform step = d at moved ⊢
  cases moved with
  | kept left taken rejected _ => rw [left, taken, rejected, before]
  | taken left _ _ taken rejected =>
    rw [left, List.length_cons] at before
    rw [taken, rejected, List.length_append, List.length_singleton]
    omega
  | refused left _ _ taken rejected =>
    rw [left, List.length_cons] at before
    rw [taken, rejected]
    omega

theorem Sound.within_onward (sound : Sound jobs c) (step : CourseStep) :
    ((c.perform step).taken ++ (c.perform step).left.map (·.id)).Sublist (jobs.map (·.id)) := by
  have before := sound.within
  have moved := queue_moves c step
  generalize c.perform step = d at moved ⊢
  cases moved with
  | kept left taken _ _ => rw [left, taken]; exact before
  | taken left _ _ taken _ =>
    rw [left, List.map_cons] at before
    rw [taken, List.append_assoc, List.singleton_append]
    exact before
  | refused left _ _ taken _ =>
    rw [left, List.map_cons] at before
    rw [taken]
    exact ((List.sublist_cons_self ..).append_left _).trans before

theorem Sound.perform (sound : Sound jobs c) (step : CourseStep) : Sound jobs (c.perform step) where
  process := process_preserved Process.Sound sound.process fun action acts =>
    sound.process.perform (ordinary_of_action acts)
  patched := by
    refine process_preserved (fun p => p.patched = []) sound.patched fun action acts => ?_
    refine List.eq_nil_iff_forall_not_mem.mpr fun job member => ?_
    rcases Process.patched_perform member with before | ⟨id, patch, reads, _⟩
    · simp [sound.patched] at before
    · exact unpatched_of_action acts id patch reads
  distinct := process_preserved (fun p => (p.calls.map (·.handle)).Nodup) sound.distinct
    fun action acts => sound.process.distinct (ordinary_of_action acts) sound.distinct
  given := sound.given_onward step
  within := sound.within_onward step
  stored := sound.stored_onward step
  called := sound.called_onward step
  uncanceled := sound.uncanceled_onward step
  executing := sound.executing_onward step
  delivered := sound.delivered_onward step
  bounded id := by
    rcases executions_perform sound.keyed id step with same | ⟨_, next⟩
    · exact same ▸ sound.bounded id
    · exact next ▸ Nat.min_le_right ..
  executions := sound.executions_onward step

theorem Sound.performAll (sound : Sound jobs c) (steps : List CourseStep) :
    Sound jobs (c.performAll steps) := by
  induction steps generalizing c with
  | nil => exact sound
  | cons step rest ih => exact ih (sound.perform step)

theorem sound_ofScheduler {s : Scheduler} (begins : Process.BeginsEmpty (.ofScheduler s))
    (jobs : List Job) : Sound jobs (ofScheduler s jobs) where
  process := begins.sound
  patched := rfl
  distinct := .nil
  given := Nat.zero_add _
  within := .refl _
  stored id := by simp [ofScheduler, begins.unstored id]
  called := fun _ member => absurd member List.not_mem_nil
  uncanceled id job record := by simp [ofScheduler, begins.unstored id] at record
  executing := fun _ member => absurd member List.not_mem_nil
  delivered := .nil
  bounded id := by simp [executionsOf, ofScheduler, begins.unstored id]
  executions := Nat.le_refl _

/-! ## Runs that have become idle -/

/-- Once all jobs were submitted, none is taken or refused any more. -/
theorem queue_submitted (c : Course) (step : CourseStep) (submitted : c.left = []) :
    (c.perform step).left = [] ∧ (c.perform step).taken = c.taken ∧
      (c.perform step).rejected = c.rejected := by
  have moved := queue_moves c step
  generalize c.perform step = d at moved ⊢
  cases moved with
  | kept left taken rejected _ => exact ⟨left.trans submitted, taken, rejected⟩
  | taken left _ _ _ _ | refused left _ _ _ _ => simp [submitted] at left

/-- Records of jobs that are not active stay as they are. -/
theorem Idle.record_perform (idle : Idle c) (sound : Sound jobs c) (step : CourseStep)
    (found : c.process.scheduler.record? id = some job) :
    (c.perform step).process.scheduler.record? id = some job :=
  process_preserved (fun p => p.scheduler.record? id = some job) found fun action _ =>
    (Process.perform_moves c.process action).record_finished sound.keyed found (idle.finished id job found)

theorem Idle.perform (idle : Idle c) (sound : Sound jobs c) (step : CourseStep) :
    Idle (c.perform step) := by
  obtain ⟨left, taken, _⟩ := queue_submitted c step idle.submitted
  refine ⟨left, fun id job record => ?_⟩
  have stored := (sound.stored_onward step id).mp (Option.isSome_of_eq_some record)
  rw [taken, ← sound.stored] at stored
  obtain ⟨before, found⟩ := Option.isSome_iff_exists.mp stored
  rw [idle.record_perform sound step found] at record
  cases record
  exact idle.finished id _ found

theorem Idle.performAll (idle : Idle c) (sound : Sound jobs c) (steps : List CourseStep) :
    Idle (c.performAll steps) := by
  induction steps generalizing c with
  | nil => exact idle
  | cons step rest ih => exact ih (idle.perform sound step) (sound.perform step)

theorem Idle.record_performAll (idle : Idle c) (sound : Sound jobs c) (steps : List CourseStep)
    (found : c.process.scheduler.record? id = some job) :
    (c.performAll steps).process.scheduler.record? id = some job := by
  induction steps generalizing c with
  | nil => exact found
  | cons step rest ih =>
    exact ih (idle.perform sound step) (sound.perform step) (idle.record_perform sound step found)

theorem queue_submittedAll (c : Course) (steps : List CourseStep) (submitted : c.left = []) :
    (c.performAll steps).left = [] ∧ (c.performAll steps).taken = c.taken ∧
      (c.performAll steps).rejected = c.rejected := by
  induction steps generalizing c with
  | nil => exact ⟨submitted, rfl, rfl⟩
  | cons step rest ih =>
    obtain ⟨left, taken, rejected⟩ := queue_submitted c step submitted
    obtain ⟨left', taken', rejected'⟩ := ih (c.perform step) left
    exact ⟨left', taken'.trans taken, rejected'.trans rejected⟩

/-! ## Runs of jobs with different ids -/

/-- Each job that was taken is fired singly, and each execution but those that came too late, or whose
completions broke off, is in its record or will be. -/
structure Exact (c : Course) : Prop where
  single : ∀ id ∈ c.taken, ∃ initial, Process.Single id initial c.process
  counted : ∃ counts : JobId → Nat, (∀ id, c.executionsOf id = min (counts id) maxNat32) ∧
    c.fired = ∑ id ∈ c.taken.toFinset, counts id + c.delivered.length + c.unheard + c.stranded

/-- No step but the request for a job itself is a request for it. -/
theorem leaves_of_action (acts : c.action? step = some action)
    (apart : ∀ job, c.left.head? = some job → job.id ≠ id) : Process.leaves id action = true := by
  cases step <;> simp only [action?, Option.map_eq_some_iff, Option.ite_none_right_eq_some,
    Option.some.injEq, reduceCtorEq] at acts <;> grind [Process.leaves, Process.ordinary]

theorem Sound.single_onward (sound : Sound jobs c) (distinct : (jobs.map (·.id)).Nodup)
    (single : ∀ id ∈ c.taken, ∃ initial, Process.Single id initial c.process) (step : CourseStep) :
    ∀ id ∈ (c.perform step).taken, ∃ initial, Process.Single id initial (c.perform step).process := by
  have apart : ∀ job, c.left.head? = some job → job.id ∉ c.taken := by
    intro job next taken
    obtain ⟨left, rest⟩ := List.head?_eq_some_iff.mp next
    have fresh := distinct.sublist sound.within
    rw [rest, List.map_cons, List.nodup_append] at fresh
    exact fresh.2.2 _ taken _ List.mem_cons_self rfl
  have kept : ∀ id ∈ c.taken, ∃ initial, Process.Single id initial (c.perform step).process := by
    intro id taken
    obtain ⟨initial, single⟩ := single id taken
    refine ⟨initial, process_preserved (Process.Single id initial) single fun action acts => ?_⟩
    refine single.perform (leaves_of_action acts fun job next same => ?_)
    exact apart job next (same ▸ taken)
  have moved := queue_moves c step
  generalize c.perform step = d at moved kept ⊢
  cases moved with
  | kept _ taken _ _ | refused _ _ _ taken _ => exact taken ▸ kept
  | @taken clock job _ _ left answer process taken _ =>
    -- ids differ, so that the job is scheduled for the first time
    have untaken := apart job (by rw [left]; rfl)
    have unstored : c.process.scheduler.record? job.id = none := by
      rw [← sound.stored] at untaken
      simpa using untaken
    intro id member
    rw [taken, List.mem_append, List.mem_singleton] at member
    rcases member with member | rfl
    · exact kept id member
    · refine ⟨job.trigger, ?_⟩
      rw [process]
      refine sound.process.single_scheduled job clock ?_ sound.distinct unstored ?_ ?_
      · exact fun other member => by simp [sound.patched] at member
      · exact fun call member same => untaken (same ▸ sound.called call member)
      · rw [answer]
        rfl

/-- An answer that is in time is counted, or its completion breaks off. -/
theorem Sound.answer_counted {initial : Trigger} (sound : Sound jobs c)
    (single : Process.Single id initial c.process) (answered : c.answered? step = some id) :
    (c.perform step).executionsOf id = nextNat32 (c.executionsOf id) ∧
        (c.perform step).stranded = c.stranded ∨
      (c.perform step).executionsOf id = c.executionsOf id ∧
        (c.perform step).stranded = c.stranded + 1 := by
  cases step with
  | complete number clock answer =>
    simp only [answered?, Option.ite_none_right_eq_some, Option.map_eq_some_iff,
      List.contains_iff_mem] at answered
    obtain ⟨member, call, found, named⟩ := answered
    obtain ⟨other, same, executing⟩ := isExecuting_iff.mp (sound.executing number member)
    rw [found] at same
    cases same
    obtain ⟨job, _, record, _⟩ := single.record
    have acts : c.action? (.complete number clock answer) =
        some (.complete number clock (DryRun.outcome answer call.id)) := by
      simp [action?, member, found]
    obtain ⟨after, stored, counts⟩ := Process.counted_or_stranded single ⟨found, named, executing⟩ record
      (sound.uncanceled id job record) clock (DryRun.outcome answer call.id) rfl
    simpa only [executionsOf, stranded, process_perform, acts, Option.elim_some, stored, record,
      Option.map_some, Option.getD_some] using counts
  | _ => cases answered

/-- No other step strands a call. -/
theorem stranded_unanswered (unanswered : c.answered? step = none) :
    (c.perform step).stranded = c.stranded := by
  refine process_preserved (fun p => p.strandings = c.stranded) rfl fun action acts => ?_
  refine (Process.perform_moves c.process action).strandings.resolve_right ?_
  rintro ⟨number, clock, outcome, rfl, succeeds⟩
  rcases complete_of_action acts with ⟨delivered, _, _, rfl⟩ | ⟨_, failed, _⟩
  · simp only [action?, Option.ite_none_right_eq_some, Option.map_eq_some_iff] at acts
    obtain ⟨_, call, found, _⟩ := acts
    simp [answered?, delivered, found] at unanswered
  · rw [failed] at succeeds
    cases succeeds

theorem Exact.perform (exact : Exact c) (sound : Sound jobs c)
    (distinct : (jobs.map (·.id)).Nodup) (step : CourseStep) : Exact (c.perform step) := by
  refine ⟨sound.single_onward distinct exact.single step, ?_⟩
  obtain ⟨counts, counted, fired⟩ := exact.counted
  have uncounted : ∀ id, id ∉ c.taken → counts id = 0 := by
    intro id untaken
    have none := sound.executions_untaken untaken
    have same := counted id
    unfold maxNat32 at same
    omega
  have sum := sum_taken c step counts uncounted
  have balance := sound.balance step
  cases answered : c.answered? step with
  | none =>
    refine ⟨counts, fun other => ?_, ?_⟩
    · rw [← counted]
      exact (executions_perform sound.keyed other step).resolve_right fun ⟨same, _⟩ => by
        simp [answered] at same
    · have stranded := stranded_unanswered answered
      rw [answered, Option.toList_none, List.length_nil] at balance
      omega
  | some id =>
    have taken : id ∈ c.taken := sound.answered_taken answered
    obtain ⟨initial, single⟩ := exact.single id taken
    have others : ∀ other, other ≠ id → (c.perform step).executionsOf other = c.executionsOf other := by
      intro other apart
      refine (executions_perform sound.keyed other step).resolve_right fun ⟨same, _⟩ => ?_
      rw [answered, Option.some.injEq] at same
      exact apart same.symm
    rw [answered, Option.toList_some, List.length_singleton] at balance
    rcases sound.answer_counted single answered with ⟨executions, stranded⟩ | ⟨executions, stranded⟩
    · refine ⟨fun other => counts other + if other = id then 1 else 0, fun other => ?_, ?_⟩
      · dsimp only
        by_cases same : other = id
        · subst same
          rw [executions, counted, if_pos rfl]
          exact Process.next_of_min _
        · rw [others other same, counted, if_neg same, Nat.add_zero]
      · have onward := taken_onward c step taken
        have one : ∑ other ∈ (c.perform step).taken.toFinset, (if other = id then 1 else 0) = 1 := by
          simp [Finset.sum_ite_eq', onward]
        rw [Finset.sum_add_distrib, one]
        omega
    · refine ⟨counts, fun other => ?_, by omega⟩
      by_cases same : other = id
      · subst same
        exact executions.trans (counted other)
      · exact (others other same).trans (counted other)

theorem exact_ofScheduler {s : Scheduler} (begins : Process.BeginsEmpty (.ofScheduler s))
    (jobs : List Job) : Exact (ofScheduler s jobs) where
  single := fun _ member => absurd member List.not_mem_nil
  counted := by
    refine ⟨fun _ => 0, fun id => ?_, rfl⟩
    simp [executionsOf, ofScheduler, begins.unstored id]

theorem Exact.performAll (exact : Exact c) (sound : Sound jobs c)
    (distinct : (jobs.map (·.id)).Nodup) (steps : List CourseStep) : Exact (c.performAll steps) := by
  induction steps generalizing c with
  | nil => exact exact
  | cons step rest ih => exact ih (exact.perform sound distinct step) (sound.perform step)

/-- A job that was claimed is active, until its call ends. -/
theorem Exact.unclaimed_idle (exact : Exact c) (sound : Sound jobs c) (idle : Idle c)
    (found : c.process.calls[number]? = some call) : ¬ (call.phase = .executing ∨ call.phase = .stranded) := by
  intro claimed
  obtain ⟨initial, single⟩ := exact.single call.id (sound.called call (List.mem_of_getElem? found))
  obtain ⟨job, record, canceled | current⟩ := single.held number call ⟨found, rfl, claimed⟩
  · exact sound.uncanceled _ job record canceled
  · have finished := idle.finished _ job record
    simp [not_current finished] at current

/-- No answer is awaited once no job is active. -/
theorem Exact.delivered_idle (exact : Exact c) (sound : Sound jobs c) (idle : Idle c) :
    c.delivered = [] := by
  refine List.eq_nil_iff_forall_not_mem.mpr fun number member => ?_
  obtain ⟨call, found, executing⟩ := isExecuting_iff.mp (sound.executing number member)
  exact exact.unclaimed_idle sound idle found (.inl executing)

/-- No completion has broken off when no job is active. -/
theorem Exact.stranded_idle (exact : Exact c) (sound : Sound jobs c) (idle : Idle c) : c.stranded = 0 := by
  refine List.countP_eq_zero.mpr fun call member => ?_
  obtain ⟨number, found⟩ := List.mem_iff_getElem?.mp member
  have unclaimed := exact.unclaimed_idle sound idle found
  simp_all

end Course

end Punctual
