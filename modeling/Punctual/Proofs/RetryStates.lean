import Mathlib.Data.List.DropRight
import Punctual.Proofs.Agreement
import Punctual.Proofs.Records

/-!
What a record says of its job's failures. Only completions count: a failure adds one and leaves the
trigger alone, a success sets the count back to zero, and whatever a request carries, it leaves the
count as it is. The status of an active job follows from the count, and a job that was given up has
neither an entry nor a timer.
-/
namespace Punctual

open Scheduler

/-- How many failures there have been since the last success, of outcomes in their order. -/
def failuresSince (succeeded : List Bool) : Nat := (succeeded.rtakeWhile (! ·)).length

theorem failuresSince_success (outcomes : List Bool) : failuresSince (outcomes ++ [true]) = 0 := by
  simp [failuresSince]

theorem failuresSince_failure (outcomes : List Bool) :
    failuresSince (outcomes ++ [false]) = failuresSince outcomes + 1 := by
  simp [failuresSince]

/-! ## Status and count of one job -/

namespace Job

variable {job : Job} {maxRetries : Nat}

/-- The status that a job takes when a firing of it is over. -/
def statusAfter (job : Job) (maxRetries : Nat) (succeeded : Bool) : JobStatus :=
  if succeeded then
    if job.advanced.next?.isSome then .scheduled else .executed
  else if job.failed.retries < maxRetries then .retry else .error

/-- An active job has a firing ahead, and is to be retried if and only if it has failed. -/
inductive Paced (maxRetries : Nat) (job : Job) : Prop
  | scheduled (status : job.status = .scheduled) (ahead : job.next?.isSome = true)
    (unfailed : job.retries = 0)
  | retried (status : job.status = .retry) (ahead : job.next?.isSome = true) (failed : 1 ≤ job.retries)
    (granted : job.retries < maxRetries)
  | finished (terminal : job.status.isTerminal = true)

theorem Paced.ahead (paced : job.Paced maxRetries) (active : job.status.isActive = true) :
    job.next?.isSome = true := by
  cases paced with
  | scheduled _ ahead _ => exact ahead
  | retried _ ahead _ _ => exact ahead
  | finished terminal => simp [JobStatus.isActive, terminal] at active

theorem Paced.status_retry_iff (paced : job.Paced maxRetries) (active : job.status.isActive = true) :
    job.status = .retry ↔ 1 ≤ job.retries ∧ job.retries < maxRetries := by
  cases paced with
  | scheduled status _ unfailed => simp [status, unfailed]
  | retried status _ failed granted => simp [status, failed, granted]
  | finished terminal => simp [JobStatus.isActive, terminal] at active

theorem Paced.status_scheduled_iff (paced : job.Paced maxRetries)
    (active : job.status.isActive = true) : job.status = .scheduled ↔ job.retries = 0 := by
  cases paced with
  | scheduled status _ unfailed => simp [status, unfailed]
  | retried status _ failed _ =>
    have nonzero : job.retries ≠ 0 := by omega
    simp [status, nonzero]
  | finished terminal => simp [JobStatus.isActive, terminal] at active

/-- The count of a job that is still retried is far from its bound. -/
theorem Paced.retries_failed (paced : job.Paced maxRetries) (active : job.status.isActive = true)
    (bounded : maxRetries ≤ maxNat32) : job.failed.retries = job.retries + 1 := by
  have room : job.retries + 1 ≤ maxNat32 := by
    cases paced with
    | scheduled _ _ unfailed => simp [unfailed, maxNat32]
    | retried _ _ _ granted => omega
    | finished terminal => simp [JobStatus.isActive, terminal] at active
  exact Nat.min_eq_left room

theorem Paced.concluded (paced : job.Paced maxRetries) (active : job.status.isActive = true)
    (succeeded : Bool) (handle? : Option Handle) (now : Instant) :
    ((job.concluded succeeded (job.statusAfter maxRetries succeeded)).stamped handle? now).Paced
      maxRetries := by
  cases succeeded with
  | true =>
    by_cases ahead : job.advanced.next?.isSome = true
    · exact .scheduled (by simp [Job.concluded, stamped, statusAfter, ahead]) ahead rfl
    · exact .finished (by simp [Job.concluded, stamped, statusAfter, ahead, JobStatus.isTerminal])
  | false =>
    have ahead : job.failed.next?.isSome = true := paced.ahead active
    have failed : 1 ≤ job.failed.retries := by
      simp only [Job.failed, nextNat32, maxNat32]
      omega
    by_cases granted : job.failed.retries < maxRetries
    · exact .retried (by simp [Job.concluded, stamped, statusAfter, granted]) ahead failed granted
    · exact .finished (by simp [Job.concluded, stamped, statusAfter, granted, JobStatus.isTerminal])

end Job

namespace Scheduler

variable {s t : Scheduler} {id : JobId} {job result : Job} {clock : Clock} {now due : Instant}
  {succeeded : Bool} {operation : Operation} {answer : Except SchedulerError Job × Scheduler}

theorem dueOf_ahead {config : SchedulerConfig} (dated : dueOf config now job = .ok due) :
    job.next?.isSome = true := by
  unfold dueOf at dated
  split at dated
  · cases dated
  · rename_i next
    simp [next]

/-- A request takes the count of the record, and a job without one has not failed. -/
theorem requested_retries (stored? : Option Job) (incoming : Job) :
    (requested stored? incoming).retries = (stored?.map (·.retries)).getD 0 := by
  cases stored? <;> rfl

/-- No request, cancellation or recovery touches the count. -/
theorem Makes.retries (makes : Makes s operation result) :
    result.retries = ((s.record? operation.id).map (·.retries)).getD 0 := by
  cases makes with
  | requested _ _ => exact requested_retries _ _
  | canceled record _ => simp [Operation.id, record]
  | abandoned record _ _ _ => simp [Operation.id, record]
  | resumed record _ _ _ _ => simp [Operation.id, record]

/-- Each of them leaves the status to the count, or ends the job. -/
theorem Makes.paced {maxRetries : Nat} (makes : Makes s operation result)
    (paced : ∀ job, s.record? operation.id = some job → job.Paced maxRetries) :
    result.Paced maxRetries := by
  cases makes with
  | @requested clock incoming due unfinished dated =>
    have ahead := dueOf_ahead dated
    have status := requested_status (s.record? incoming.id) incoming
    have retries := requested_retries (s.record? incoming.id) incoming
    cases record : s.record? incoming.id with
    | none =>
      rw [record] at status retries ahead
      exact .scheduled status ahead retries
    | some stored =>
      have before := paced stored record
      have unfinished := unfinished stored record
      rw [record] at status retries ahead
      cases before with
      | scheduled same _ unfailed => exact .scheduled (status.trans same) ahead (retries.trans unfailed)
      | retried same _ failed granted =>
        have retries : (Scheduler.requested (some stored) incoming).retries = stored.retries := retries
        exact .retried (status.trans same) ahead (by omega) (by omega)
      | finished terminal => simp [terminal] at unfinished
  | canceled _ _ => exact .finished rfl
  | abandoned _ _ _ _ => exact .finished rfl
  | resumed record active _ _ ahead =>
    have before := paced _ record
    cases before with
    | scheduled same _ unfailed => exact .scheduled same ahead unfailed
    | retried same _ failed granted => exact .retried same ahead failed granted
    | finished terminal => simp [JobStatus.isActive, terminal] at active

/-- The job is stored as the outcome has it, in the status that follows from the count. -/
theorem Concludes.settles_status (numbered : s.timers.Numbered)
    (concludes : Concludes s clock job succeeded answer) :
    Settles s clock.now
      (job.concluded succeeded (job.statusAfter s.config.retry.maxRetries succeeded)) answer := by
  cases concludes with
  | rearmed succeeds _ next =>
    have status : job.statusAfter s.config.retry.maxRetries true = .scheduled := by
      simp [Job.statusAfter, next]
    rw [succeeds, status]
    exact armOrDefer_settles numbered rfl
  | executed succeeds _ last =>
    have status : job.statusAfter s.config.retry.maxRetries true = .executed := by
      simp [Job.statusAfter, last]
    rw [succeeds, status]
    exact finalize_settles
  | retried fails granted =>
    have status : job.statusAfter s.config.retry.maxRetries false = .retry := by
      simp [Job.statusAfter, granted]
    rw [fails, status]
    exact armAndWrite_settles numbered rfl
  | ended fails refused =>
    have status : job.statusAfter s.config.retry.maxRetries false = .error := by
      simp [Job.statusAfter, Nat.not_lt.mpr refused]
    rw [fails, status]
    exact finalize_settles

/-- A job that is stored in a final status is parked. -/
theorem Settles.parks (settles : Settles s now job answer) (saved : answer.1.isOk = true)
    (terminal : job.status.isTerminal = true) : Parks s (job.stamped none now) answer.2 := by
  cases settles with
  | failed _ _ => cases saved
  | dropped _ _ => cases saved
  | parked parks => exact parks
  | armed active _ => simp [JobStatus.isActive, terminal] at active

/-! ## Pending timers -/

/-- A pending timer of the job is the one that its record names. -/
def Named (s : Scheduler) (id : JobId) : Prop :=
  ∀ handle, s.owner? handle = some id → ∃ job, s.record? id = some job ∧ job.handle? = some handle

theorem Named.of_loses (named : Named s id) (loses : Loses s t) : Named t id := by
  intro handle held
  rw [loses.record]
  exact named handle (loses.owner handle id held)

theorem Named.of_spares {other : JobId} (named : Named s id) (spares : Spares other s t)
    (different : id ≠ other) : Named t id := by
  intro handle held
  rw [spares.record id different]
  exact named handle ((spares.owner handle id different).mp held)

/-- Once the job's timers are ended, none of them is pending. -/
theorem Named.freed (named : Named s id) (handle : Handle) :
    (s.freed (s.record? id)).owner? handle ≠ some id := by
  intro held
  have before := (freed_loses s (s.record? id)).owner handle id held
  obtain ⟨job, record, recorded⟩ := named handle before
  rw [record] at held
  have ended := disarm_owner s job handle
  rw [if_pos (mem_handlesOf.mpr (.inr recorded))] at ended
  exact nomatch ended.symm.trans held

/-- A job of which no timer is pending names the one that it is armed under. -/
theorem Settles.named (settles : Settles s now job answer)
    (ended : ∀ handle, s.owner? handle ≠ some job.id) : Named answer.2 job.id := by
  intro handle held
  cases settles with
  | failed unchanged _ => exact absurd (unchanged.loses.owner handle job.id held) (ended handle)
  | dropped unchanged _ =>
    have loses := (forget_loses s job.id).trans unchanged.loses
    exact absurd (loses.owner handle job.id held) (ended handle)
  | parked parks =>
    unfold owner? at held ended
    rw [parks.timers] at held
    exact absurd held (ended handle)
  | armed _ arms =>
    rw [arms.owner] at held
    split at held
    · rename_i next
      exact ⟨_, (arms.record job.id).trans (if_pos rfl), next ▸ arms.named⟩
    · exact absurd held (ended handle)

theorem Named.operated (named : Named s operation.id) (operates : Operates s operation t) :
    Named t operation.id := by
  have freed : ∀ {u}, Unchanged s u → ∀ handle,
      (u.freed (s.record? operation.id)).owner? handle ≠ some operation.id := by
    intro u unchanged
    have still := named.of_loses unchanged.loses
    rw [← unchanged.record]
    exact still.freed
  cases operates with
  | kept unchanged => exact named.of_loses unchanged.loses
  | freed unchanged _ _ => exact fun handle held => absurd held (freed unchanged handle)
  | settled unchanged _ same settles =>
    have settled := settles.named (by rw [same]; exact freed unchanged)
    rw [same] at settled
    exact settled

end Scheduler

namespace Process

variable {p q : Process} {id : JobId} {action : Action} {number : Nat} {clock : Clock}
  {outcome : ExecutionOutcome} {before : List Bool} {job : Job}

/-- The action handles a timer that need not have elapsed. -/
def fires : Action → Bool
  | .fire .. => true
  | _ => false

/-- What holds throughout a run in which only elapsed timers are handled, whatever fails. -/
structure Elapsing (p : Process) : Prop where
  owned : p.scheduler.Owned
  past : ∀ call ∈ p.calls, Past p.scheduler call.handle
  named : ∀ id, p.scheduler.Named id

/-- While an elapsed timer is the one that the record names, no timer of the job is pending. -/
theorem Elapsing.ended (elapsing : Elapsing p) {call : FireCall} (member : call ∈ p.calls)
    (record : p.scheduler.record? call.id = some job) (current : isCurrent job call.handle = true)
    (handle : Handle) : p.scheduler.owner? handle ≠ some call.id := by
  intro held
  obtain ⟨stored, held', recorded⟩ := elapsing.named call.id handle held
  rw [record] at held'
  cases held'
  obtain ⟨_, same⟩ := isCurrent_iff.mp current
  rw [recorded] at same
  cases same
  have past := (elapsing.past call member).ended
  rw [held] at past
  cases past

theorem Moves.named (moves : Moves p action q) (elapsing : Elapsing p) (id : JobId) :
    q.scheduler.Named id := by
  have named := elapsing.named id
  have owned := elapsing.owned
  cases moves with
  | kept keeps _ _ => exact named.of_loses keeps.loses
  | @operated _ operation _ _ scheduler _ =>
    have operates := Operation.operates owned.toKeyed operation
    rw [scheduler]
    by_cases same : id = operation.id
    · subst same
      exact named.operated operates
    · exact named.of_spares (operates.spares owned) same
  | elapsed _ scheduler _ => exact scheduler ▸ named.of_loses (drop_loses ..)
  | lost _ scheduler _ => exact scheduler ▸ named.of_loses (drop_loses ..)
  | called scheduler _ => exact scheduler ▸ named
  | unclaimed _ _ unchanged _ _ => exact named.of_loses unchanged.loses
  | claimed _ _ unchanged _ _ scheduler _ =>
    exact scheduler ▸ named.of_loses (unchanged.loses.trans (markFiring_loses ..))
  | stale _ _ unchanged _ scheduler _ =>
    exact scheduler ▸ named.of_loses (unchanged.loses.trans (release_loses ..))
  | uncompleted _ _ unchanged _ _ => exact named.of_loses unchanged.loses
  | stranded _ _ unchanged _ _ _ _ _ => exact named.of_loses unchanged.loses
  | overtaken _ _ unchanged _ scheduler _ =>
    exact scheduler ▸ named.of_loses (unchanged.loses.trans (release_loses ..))
  | @concluded _ _ _ call fired t answer _ found _ unchanged record current concludes scheduler _ =>
    have numbered := unchanged.numbered owned.numbered
    have settles := concludes.settles_status numbered
    have keyed := owned.keyed call.id fired record
    rw [scheduler]
    by_cases same : id = call.id
    · have ended : ∀ handle, t.owner? handle ≠ some call.id := by
        rw [unchanged.owner]
        exact elapsing.ended (List.mem_of_getElem? found) record current
      have settled := settles.named (by rw [Job.concluded_id, keyed]; exact ended)
      rw [Job.concluded_id, keyed] at settled
      rw [same]
      exact settled
    · have spares := settles.spares numbered
      rw [Job.concluded_id, keyed] at spares
      exact (named.of_loses unchanged.loses).of_spares spares same
  | released _ _ scheduler _ => exact scheduler ▸ named.of_loses (release_loses ..)

theorem Elapsing.perform (elapsing : Elapsing p) (permitted : fires action = false) :
    Elapsing (p.perform action) where
  owned := perform_owned elapsing.owned action
  past := by
    refine past_perform elapsing.owned.toKeyed elapsing.past ?_
    intro id handle same
    subst same
    cases permitted
  named := (perform_moves p action).named elapsing

theorem BeginsEmpty.elapsing (begins : BeginsEmpty p) : Elapsing p where
  owned := begins.begins.owned
  past := begins.sound.past
  named id handle held := by
    rw [begins.ended] at held
    cases held

/-! ## Outcomes that are recorded -/

/-- Whether a success or a failure, if the action takes the outcome of a firing into the record of the
job: the record names the timer that fired, neither the store nor the timer service fails, and the
completion does not break off. -/
def recorded? (p : Process) (id : JobId) : Action → Option Bool
  | .complete number clock outcome =>
    (p.call? [.executing] number).bind fun call =>
      if call.id = id ∧ (p.scheduler.record? id).any (isCurrent · call.handle) ∧
        (p.scheduler.complete clock call.id call.handle outcome).1.isOk then
        some (hasSucceeded outcome)
      else none
  | _ => none

/-- The outcomes that are recorded of a job in the course of a run. -/
def outcomes (p : Process) (id : JobId) : List Action → List Bool
  | [] => []
  | action :: rest => (p.recorded? id action).toList ++ (p.perform action).outcomes id rest

/-- A completion leaves the job's record alone, or records the outcome. -/
inductive Completes (p : Process) (id : JobId) (clock : Clock) (outcome : ExecutionOutcome)
    (q : Process) : Option Bool → Prop
  | left (record : q.scheduler.record? id = p.scheduler.record? id) : Completes p id clock outcome q none
  | taken {call : FireCall} {job : Job} {t : Scheduler}
    {answer : Except SchedulerError Job × Scheduler} (member : call ∈ p.calls) (named : call.id = id)
    (unchanged : p.scheduler.Unchanged t) (record : p.scheduler.record? id = some job)
    (current : isCurrent job call.handle = true)
    (concludes : t.Concludes clock job (hasSucceeded outcome) answer) (saved : answer.1.isOk = true)
    (scheduler : q.scheduler = answer.2) : Completes p id clock outcome q (some (hasSucceeded outcome))

theorem answered_isOk (answer : Except SchedulerError Job × Scheduler) :
    (answered answer).1.isOk = answer.1.isOk := by
  rcases answer with ⟨_ | _, _⟩ <;> rfl

theorem complete_completes (keyed : p.scheduler.Keyed) (id : JobId) (number : Nat) (clock : Clock)
    (outcome : ExecutionOutcome) :
    Completes p id clock outcome (p.perform (.complete number clock outcome))
      (p.recorded? id (.complete number clock outcome)) := by
  cases callable : p.call? [.executing] number with
  | none =>
    have unrecorded : p.recorded? id (.complete number clock outcome) = none := by
      simp [recorded?, callable]
    have same : p.perform (.complete number clock outcome) = p := by simp [perform, callable]
    rw [unrecorded, same]
    exact .left rfl
  | some call =>
    obtain ⟨found, executing⟩ := call_found callable
    have executing : call.phase = .executing := List.mem_singleton.mp executing
    have performed := perform_complete found executing clock outcome
    by_cases named : call.id = id
    · subst named
      rw [performed]
      rcases p.scheduler.complete_cases clock call.id call.handle outcome with
        ⟨e, t, same, _, unchanged, _⟩ | ⟨t, unchanged, renamed, same⟩ |
        ⟨t, job, unchanged, _, _, _, _, same⟩ |
        ⟨t, job, answer, unchanged, record, current, concludes, same⟩
      · have unrecorded : p.recorded? call.id (.complete number clock outcome) = none := by
          simp [recorded?, callable, same, Except.isOk, Except.toBool]
        rw [unrecorded, same]
        exact .left (congrFun unchanged.record call.id)
      · have unrecorded : p.recorded? call.id (.complete number clock outcome) = none := by
          cases record : p.scheduler.record? call.id with
          | none => simp [recorded?, callable, record]
          | some job => simp [recorded?, callable, record, renamed job record]
        rw [unrecorded, same]
        exact .left (congrFun unchanged.record call.id)
      · have unrecorded : p.recorded? call.id (.complete number clock outcome) = none := by
          simp [recorded?, callable, same, Except.isOk, Except.toBool]
        rw [unrecorded, same]
        exact .left (congrFun unchanged.record call.id)
      · have taken : p.recorded? call.id (.complete number clock outcome) =
            if answer.1.isOk then some (hasSucceeded outcome) else none := by
          simp [recorded?, callable, record, current, same, answered_isOk]
        have settles := concludes.settles_status (unchanged.numbered keyed.numbered)
        rw [taken, same]
        rcases settles.answers with ⟨e, unsaved, kept⟩ | ⟨handle?, saved, _⟩
        · rw [unsaved]
          refine .left ?_
          rw [answered_state, kept, unchanged.record]
        · have saved : answer.1.isOk = true := by rw [saved]; rfl
          rw [saved]
          exact .taken (List.mem_of_getElem? found) rfl unchanged record current concludes saved
            (answered_state answer)
    · have unrecorded : p.recorded? id (.complete number clock outcome) = none := by
        simp [recorded?, callable, named]
      have moved := (perform_moves p (.complete number clock outcome)).record_moves keyed id
      rw [unrecorded]
      generalize after : (p.perform (.complete number clock outcome)).scheduler.record? id = after? at moved
      cases moved with
      | kept => exact .left after
      | operated carried _ _ => cases carried
      | concluded found' named' _ _ _ _ =>
        rw [found] at found'
        cases found'
        exact absurd named' named

/-- What an action makes of a job's record, with the outcome that it records. -/
inductive CountMoves (p : Process) (id : JobId) : Option Bool → Option Job → Prop
  | kept : CountMoves p id none (p.scheduler.record? id)
  | operated {operation : Operation} {result : Job} {handle? : Option Handle} {now : Instant}
    (named : operation.id = id) (makes : p.scheduler.Makes operation result) :
    CountMoves p id none (some (result.stamped handle? now))
  | concluded {succeeded : Bool} {job : Job} {handle? : Option Handle} {now : Instant}
    (record : p.scheduler.record? id = some job) (active : job.status.isActive = true) :
    CountMoves p id (some succeeded) (some ((job.concluded succeeded
      (job.statusAfter p.scheduler.config.retry.maxRetries succeeded)).stamped handle? now))

theorem count_moves (keyed : p.scheduler.Keyed) (id : JobId) (action : Action) :
    CountMoves p id (p.recorded? id action) ((p.perform action).scheduler.record? id) := by
  have moved := (perform_moves p action).record_moves keyed id
  cases action with
  | complete number clock outcome =>
    have completes := complete_completes keyed id number clock outcome
    generalize p.recorded? id (.complete number clock outcome) = recorded at completes ⊢
    cases completes with
    | left record =>
      rw [record]
      exact .kept
    | @taken call job t answer member named unchanged record current concludes saved scheduler =>
      have settles := concludes.settles_status (unchanged.numbered keyed.numbered)
      rcases settles.answers with ⟨e, unsaved, _⟩ | ⟨handle?, _, stored⟩
      · rw [unsaved] at saved
        cases saved
      · rw [Job.concluded_id, keyed.keyed id job record, unchanged.config] at stored
        rw [scheduler, stored]
        exact .concluded record (isCurrent_iff.mp current).1
  | _ =>
    generalize (Process.perform p _).scheduler.record? id = after at moved ⊢
    cases moved with
    | kept => exact .kept
    | operated _ named makes => exact .operated named makes

/-! ## Counting along a run -/

/-- The record agrees with the outcomes that were recorded, up to now. -/
structure InStep (id : JobId) (outcomes : List Bool) (p : Process) : Prop where
  keyed : p.scheduler.Keyed
  bounded : p.scheduler.config.retry.maxRetries ≤ maxNat32
  paced : ∀ job, p.scheduler.record? id = some job → job.Paced p.scheduler.config.retry.maxRetries
  counted : ((p.scheduler.record? id).map (·.retries)).getD 0 = failuresSince outcomes

/-- One more failure makes one more of the count. -/
theorem InStep.counts_failure (inStep : InStep id before p)
    (record : p.scheduler.record? id = some job) (active : job.status.isActive = true) :
    job.failed.retries = failuresSince (before ++ [false]) := by
  have counted : job.retries = failuresSince before := by simpa [record] using inStep.counted
  rw [(inStep.paced job record).retries_failed active inStep.bounded, counted]
  exact (failuresSince_failure before).symm

theorem InStep.perform (inStep : InStep id before p) (kept : reconfigures action = false) :
    InStep id (before ++ (p.recorded? id action).toList) (p.perform action) := by
  have config := perform_config inStep.keyed kept
  have moved := count_moves inStep.keyed id action
  refine ⟨perform_keyed inStep.keyed action, by rw [config]; exact inStep.bounded, ?_, ?_⟩
  · rw [config]
    intro after stored
    rw [stored] at moved
    generalize p.recorded? id action = recorded at moved
    generalize same : some after = after? at moved
    cases moved with
    | kept => exact inStep.paced after same.symm
    | operated named makes =>
      subst named
      cases same
      have result := makes.paced inStep.paced
      cases result with
      | scheduled status ahead unfailed => exact .scheduled status ahead unfailed
      | retried status ahead failed granted => exact .retried status ahead failed granted
      | finished terminal => exact .finished terminal
    | concluded record active =>
      cases same
      exact (inStep.paced _ record).concluded active _ _ _
  · generalize p.recorded? id action = recorded at moved ⊢
    generalize (p.perform action).scheduler.record? id = after? at moved ⊢
    cases moved with
    | kept => simpa using inStep.counted
    | operated named makes =>
      subst named
      have retries := makes.retries
      simpa [Job.stamped, retries] using inStep.counted
    | @concluded succeeded job handle? now record active =>
      cases succeeded with
      | true =>
        have reset := failuresSince_success before
        simpa [Job.concluded, Job.stamped, Job.advanced] using reset.symm
      | false =>
        have counted := inStep.counts_failure record active
        simpa [Job.concluded, Job.stamped] using counted

theorem InStep.performAll (inStep : InStep id before p) (actions : List Action)
    (kept : ∀ action ∈ actions, reconfigures action = false) :
    InStep id (before ++ p.outcomes id actions) (p.performAll actions) := by
  induction actions generalizing p before with
  | nil => simpa [outcomes, Process.performAll] using inStep
  | cons action rest ih =>
    have first := inStep.perform (kept action List.mem_cons_self)
    have later := ih first fun other member => kept other (List.mem_cons_of_mem action member)
    rw [List.append_assoc] at later
    exact later

theorem Elapsing.performAll (elapsing : Elapsing p) (actions : List Action)
    (permitted : ∀ action ∈ actions, fires action = false) : Elapsing (p.performAll actions) :=
  (reaches_performAll p actions permitted).invariant Elapsing elapsing
    fun _ _ allowed elapsing => elapsing.perform allowed

/-- The job has ended in error: nothing is armed for it, and if only elapsed timers were handled, none
of its timers is pending. -/
structure GivenUp (id : JobId) (elapsed : Prop) (q : Process) : Prop where
  record : ∃ job, q.scheduler.record? id = some job ∧ job.status = .error ∧ job.handle? = none
  entry : q.scheduler.armed? id = none
  pending : elapsed → ∀ handle, q.scheduler.owner? handle ≠ some id

/-- How the outcomes that were recorded of a job, and those to come, show in its record. -/
structure FollowsFailures (id : JobId) (outcomes : List Bool) (elapsed : Prop) (q : Process) : Prop where
  counted : ∀ job, q.scheduler.record? id = some job → job.retries = failuresSince outcomes
  retry : ∀ job, q.scheduler.record? id = some job → job.status.isActive = true →
    (job.status = .retry ↔ 1 ≤ job.retries ∧ job.retries < q.scheduler.config.retry.maxRetries)
  scheduled : ∀ job, q.scheduler.record? id = some job → job.status.isActive = true →
    (job.status = .scheduled ↔ job.retries = 0)
  /-- a failure, recorded or not, moves nothing on -/
  failed : ∀ number clock outcome, hasSucceeded outcome = false →
    ((q.perform (.complete number clock outcome)).scheduler.record? id).map
        (fun job => (job.trigger, job.executions)) =
      (q.scheduler.record? id).map fun job => (job.trigger, job.executions)
  retried : ∀ number clock outcome, q.recorded? id (.complete number clock outcome) = some false →
    failuresSince (outcomes ++ [false]) < max 1 q.scheduler.config.retry.maxRetries →
    ∃ job, (q.perform (.complete number clock outcome)).scheduler.record? id = some job ∧
      job.status = .retry
  givenUp : ∀ number clock outcome, q.recorded? id (.complete number clock outcome) = some false →
    max 1 q.scheduler.config.retry.maxRetries ≤ failuresSince (outcomes ++ [false]) →
    GivenUp id elapsed (q.perform (.complete number clock outcome))
  succeeded : ∀ number clock outcome, q.recorded? id (.complete number clock outcome) = some true →
    ∃ job, (q.perform (.complete number clock outcome)).scheduler.record? id = some job ∧ job.retries = 0
  /-- recovery does not give up a job that is to be retried -/
  recovered : ∀ clock job, q.scheduler.record? id = some job → job.status = .retry →
    (∀ abandoned, (q.scheduler.recover clock id).1 ≠ .ok (.abandoned abandoned)) ∧
      ∃ after, (q.scheduler.recover clock id).2.record? id = some after ∧ after.status = .retry

/-- What is recorded of a completion is its own outcome. -/
theorem Completes.has_outcome {succeeded : Bool}
    (completes : Completes p id clock outcome q (some succeeded)) : hasSucceeded outcome = succeeded := by
  generalize same : some succeeded = recorded at completes
  cases completes with
  | left record => cases same
  | taken _ _ _ _ _ _ _ _ => exact (Option.some.inj same).symm

/-- A completion that records its outcome finds an active job and stores it as the outcome has it. -/
theorem recorded_stores (keyed : p.scheduler.Keyed) {succeeded : Bool}
    (recorded : p.recorded? id action = some succeeded) :
    ∃ job handle? now, p.scheduler.record? id = some job ∧ job.status.isActive = true ∧
      (p.perform action).scheduler.record? id = some ((job.concluded succeeded
        (job.statusAfter p.scheduler.config.retry.maxRetries succeeded)).stamped handle? now) := by
  have moved := count_moves keyed id action
  rw [recorded] at moved
  generalize (p.perform action).scheduler.record? id = after? at moved ⊢
  cases moved with
  | concluded record active => exact ⟨_, _, _, record, active, rfl⟩

/-- A failure moves neither the trigger nor the number of successes on. -/
theorem failure_moves_nothing (keyed : p.scheduler.Keyed) (id : JobId) (number : Nat) (clock : Clock)
    (fails : hasSucceeded outcome = false) :
    ((p.perform (.complete number clock outcome)).scheduler.record? id).map
        (fun job => (job.trigger, job.executions)) =
      (p.scheduler.record? id).map fun job => (job.trigger, job.executions) := by
  have completes := complete_completes keyed id number clock outcome
  cases recorded : p.recorded? id (.complete number clock outcome) with
  | none =>
    rw [recorded] at completes
    cases completes with
    | left record => rw [record]
  | some succeeded =>
    rw [recorded] at completes
    have same : succeeded = false := completes.has_outcome.symm.trans fails
    obtain ⟨job, handle?, now, record, _, stored⟩ := recorded_stores keyed recorded
    rw [stored, record, same]
    rfl

/-- The failure after which no retry is granted parks the job for good. -/
theorem InStep.givenUp (inStep : InStep id before p)
    (recorded : p.recorded? id (.complete number clock outcome) = some false)
    (reached : max 1 p.scheduler.config.retry.maxRetries ≤ failuresSince (before ++ [false])) :
    GivenUp id (Elapsing p) (p.perform (.complete number clock outcome)) := by
  have completes := complete_completes inStep.keyed id number clock outcome
  rw [recorded] at completes
  have fails := completes.has_outcome
  generalize same : some false = recorded' at completes
  cases completes with
  | left _ => cases same
  | @taken call job t answer member named unchanged record current concludes saved scheduler =>
    subst named
    have keyed := inStep.keyed.keyed call.id job record
    have active := (isCurrent_iff.mp current).1
    have count := inStep.counts_failure record active
    have status : job.statusAfter t.config.retry.maxRetries false = .error := by
      have refused : ¬ job.failed.retries < t.config.retry.maxRetries := by
        rw [unchanged.config]
        omega
      simp [Job.statusAfter, refused]
    have settles := concludes.settles_status (unchanged.numbered inStep.keyed.numbered)
    rw [fails, status] at settles
    have parks := settles.parks saved rfl
    have stored : (job.concluded false .error).id = call.id := keyed
    rw [← scheduler] at parks
    have ended := (parks.record call.id).trans (if_pos stored.symm)
    refine ⟨⟨_, ended, rfl, rfl⟩, ?_, ?_⟩
    · exact (parks.entry call.id).trans (if_pos stored.symm)
    · intro elapsing handle held
      have owner : (p.perform (.complete number clock outcome)).scheduler.owner? = p.scheduler.owner? := by
        unfold owner?
        rw [parks.timers]
        exact unchanged.owner
      rw [owner] at held
      exact elapsing.ended member record current handle held

/-- A job that is to be retried is admitted by a recovery as it is. -/
theorem InStep.recovered (inStep : InStep id before p) (record : p.scheduler.record? id = some job)
    (retried : job.status = .retry) (clock : Clock) :
    (∀ abandoned, (p.scheduler.recover clock id).1 ≠ .ok (.abandoned abandoned)) ∧
      ∃ after, (p.scheduler.recover clock id).2.record? id = some after ∧ after.status = .retry := by
  have active : job.status.isActive = true := by rw [retried]; rfl
  have ahead := (inStep.paced job record).ahead active
  constructor
  · intro abandoned answered
    rcases recover_cases p.scheduler clock id with
      ⟨e, t, same, _⟩ | ⟨t, same, _⟩ | ⟨t, found, _, held, _, _, same⟩
    · simp [same] at answered
    · simp [same] at answered
    · rw [record] at held
      cases held
      obtain ⟨fire, next⟩ := Option.isSome_iff_exists.mp ahead
      obtain ⟨due, resumed⟩ := takeUp_retried (t.disarm job) clock retried next
      rw [same, resumed] at answered
      unfold resume at answered
      split at answered <;> cases answered
  · have moved := (perform_moves p (.operate (.recover clock id))).record_moves inStep.keyed id
    have recovered : (p.perform (.operate (.recover clock id))).scheduler =
        (p.scheduler.recover clock id).2 := rfl
    rw [recovered] at moved
    generalize (p.scheduler.recover clock id).2.record? id = after? at moved ⊢
    cases moved with
    | kept => exact ⟨job, record, retried⟩
    | operated carried _ makes =>
      cases carried
      cases makes with
      | abandoned held _ _ spent =>
        rw [record] at held
        cases held
        simp [spent retried] at ahead
      | resumed held _ _ _ _ =>
        rw [record] at held
        cases held
        exact ⟨_, rfl, retried⟩

/-- From an empty store on, under one configuration, whatever fails and whatever is requested: the
record counts the failures since the last success, and the count decides what becomes of the job. -/
theorem retries_follow_failures (begins : BeginsEmpty p)
    (bounded : p.scheduler.config.retry.maxRetries ≤ maxNat32) (id : JobId) (actions : List Action)
    (kept : ∀ action ∈ actions, reconfigures action = false) :
    FollowsFailures id (p.outcomes id actions) (∀ action ∈ actions, fires action = false)
      (p.performAll actions) := by
  have initially : InStep id [] p := by
    refine ⟨begins.begins.owned.toKeyed, bounded, ?_, ?_⟩
    · intro job record
      simp [begins.unstored] at record
    · simp [begins.unstored, failuresSince]
  have inStep : InStep id (p.outcomes id actions) (p.performAll actions) :=
    initially.performAll actions kept
  constructor
  case counted =>
    intro job record
    simpa [record] using inStep.counted
  case retry => exact fun job record active => (inStep.paced job record).status_retry_iff active
  case scheduled => exact fun job record active => (inStep.paced job record).status_scheduled_iff active
  case failed =>
    intro number clock outcome fails
    exact failure_moves_nothing inStep.keyed id number clock fails
  case retried =>
    intro number clock outcome recorded granted
    obtain ⟨job, handle?, now, record, active, stored⟩ := recorded_stores inStep.keyed recorded
    have count := inStep.counts_failure record active
    refine ⟨_, stored, ?_⟩
    have room : job.failed.retries < (p.performAll actions).scheduler.config.retry.maxRetries := by
      rw [failuresSince_failure] at count granted
      omega
    simp [Job.concluded, Job.stamped, Job.statusAfter, room]
  case givenUp =>
    intro number clock outcome recorded reached
    obtain ⟨record, entry, pending⟩ := inStep.givenUp recorded reached
    exact ⟨record, entry, fun elapsed => pending (begins.elapsing.performAll actions elapsed)⟩
  case succeeded =>
    intro number clock outcome recorded
    obtain ⟨job, handle?, now, _, _, stored⟩ := recorded_stores inStep.keyed recorded
    exact ⟨_, stored, rfl⟩
  case recovered => exact fun clock job record retried => inStep.recovered record retried clock

/-- A job that has failed and is scheduled again under a count and a status of the request's own is
given up at its third failure. -/
theorem retries_follow_failures_through_rescheduling :
    let p := ofScheduler .vacant
    let actions : List Action := [
      .operate (.schedule ⟨⟨0, 0⟩, 0⟩ (.once "job" ⟨60, 0⟩)), .elapse 1, .claim 0,
      .complete 0 ⟨⟨60, 0⟩, 0⟩ (.error (.failed "refused")),
      .operate (.schedule ⟨⟨61, 0⟩, 0⟩ { Job.once "job" ⟨120, 0⟩ with status := .executed, retries := 9 }),
      .elapse 3, .claim 1, .complete 1 ⟨⟨120, 0⟩, 0⟩ (.error (.failed "refused")), .elapse 4, .claim 2]
    let q := p.performAll actions
    let r := q.perform (.complete 2 ⟨⟨122, 0⟩, 0⟩ (.error (.failed "refused")))
    FollowsFailures "job" (p.outcomes "job" actions) (∀ action ∈ actions, fires action = false) q ∧
      p.outcomes "job" actions = [false, false] ∧
      (q.scheduler.record? "job").map (fun job => (job.status, job.retries)) = some (.retry, 2) ∧
      (r.scheduler.record? "job").map (fun job => (job.status, job.retries)) = some (.error, 3) := by
  refine ⟨retries_follow_failures begins_empty_vacant (by decide) "job" _ (by decide), ?_, ?_, ?_⟩
  · decide +kernel
  · decide +kernel
  · decide +kernel

end Process

end Punctual
