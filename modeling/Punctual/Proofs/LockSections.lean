import Punctual.Proofs.Bookkeeping

/-!
The operations on a job, each of which holds the job's lock from its first call to its last. A theorem
for each says all that it can do: which refusals leave everything as it was, and which record it tries
to store with what timer. `Settles` is what can come of such a try.
-/
namespace Punctual

/-- The trigger that is left when the firing that comes next is taken, where taking it has an answer. -/
def Trigger.rest (t : Trigger) : Trigger := (t.advance?.map (·.2)).getD t

theorem Trigger.rest_eq {t after : Trigger} {taken? : Option Instant}
    (advances : t.advance? = some (taken?, after)) : t.rest = after := by
  rw [rest, advances]
  rfl

/-- The job after a successful firing, but for its status. -/
def Job.advanced (job : Job) : Job :=
  { job with
    executions := nextNat32 job.executions
    retries := 0
    trigger := job.trigger.rest }

/-- The job after a failed firing, but for its status. -/
def Job.failed (job : Job) : Job := { job with retries := nextNat32 job.retries }

/-- The job after a firing, in the status that it takes. -/
def Job.concluded (job : Job) (succeeded : Bool) (status : JobStatus) : Job :=
  { if succeeded then job.advanced else job.failed with status }

theorem Job.concluded_id (job : Job) (succeeded : Bool) (status : JobStatus) :
    (job.concluded succeeded status).id = job.id := by
  cases succeeded <;> rfl

/-- The trigger is left as it was, or firings before an instant were passed over. -/
def Trigger.PassedOver (before after : Trigger) : Prop :=
  after = before ∨ ∃ threshold, before.skipUntil? threshold = some after

/-- The store or the timer service failed. Any other error is a refusal, or no answer at all. -/
def SchedulerError.isFault : SchedulerError → Bool
  | .storage _ | .timer _ => true
  | .invalid _ | .finalized .. | .expired .. | .notFound _ | .config _ | .alreadyRunning
  | .notRunning | .stuck _ => false

/-- What holds its job's lock from beginning to end. -/
inductive Operation
  | schedule (clock : Clock) (job : Job)
  | cancel (clock : Clock) (id : JobId)
  | recover (clock : Clock) (id : JobId)

namespace Operation

/-- The job whose lock an operation needs. -/
def id : Operation → JobId
  | schedule _ job => job.id
  | cancel _ id => id
  | recover _ id => id

/-- The clock by which an operation goes. -/
def clock : Operation → Clock
  | schedule clock _ => clock
  | cancel clock _ => clock
  | recover clock _ => clock

/-- The scheduler after an operation. -/
def run (s : Scheduler) : Operation → Scheduler
  | schedule clock job => (s.schedule clock job).2
  | cancel clock id => (s.cancel clock id).2
  | recover clock id => (s.recover clock id).2

end Operation

namespace Scheduler

variable {s t : Scheduler} {id : JobId} {job : Job} {clock : Clock} {due horizon now : Instant}
  {answer : Except SchedulerError Job × Scheduler}

/-! ## Errors of the calls -/

section

variable {e : SchedulerError}

theorem write_fault (failed : (s.write job).1 = .error e) : e.isFault = true := by
  unfold write at failed
  split at failed <;> cases failed
  rfl

theorem read_fault (failed : (s.read id).1 = .error e) : e.isFault = true := by
  unfold read at failed
  split at failed <;> cases failed
  rfl

theorem armAndWrite_fault (failed : (s.armAndWrite clock job due).1 = .error e) :
    e.isFault = true := by
  unfold armAndWrite at failed
  split at failed
  · cases failed
    rfl
  · dsimp only at failed
    split at failed <;> rename_i written <;> cases failed
    exact write_fault (congrArg Prod.fst written)

theorem armOrDefer_fault (failed : (s.armOrDefer clock job due horizon).1 = .error e) :
    e.isFault = true := by
  unfold armOrDefer at failed
  split at failed
  · exact write_fault failed
  · exact armAndWrite_fault failed

theorem finalize_fault (failed : (s.finalize clock job).1 = .error e) : e.isFault = true := by
  unfold finalize at failed
  split at failed <;> rename_i written <;> cases failed
  exact write_fault (congrArg Prod.fst written)

end

/-! ## Storing a job -/

/-- What can come of storing a job with a timer or without one: an error, before which at most the
job's entry was dropped; or the job is parked; or, being active, it is armed. -/
inductive Settles (s : Scheduler) (now : Instant) (job : Job) :
    Except SchedulerError Job × Scheduler → Prop
  | failed {e : SchedulerError} {t : Scheduler} (unchanged : Unchanged s t) (fails : ¬ s.Reliable) :
    Settles s now job (.error e, t)
  | dropped {e : SchedulerError} {t : Scheduler} (unchanged : Unchanged (s.forget job.id) t)
    (fails : ¬ s.Reliable) : Settles s now job (.error e, t)
  | parked {t : Scheduler} (parks : Parks s (job.stamped none now) t) :
    Settles s now job (.ok (job.stamped none now), t)
  | armed {t : Scheduler} (active : job.status.isActive = true)
    (arms : Arms s (job.stamped (some s.nextHandle) now) t) :
    Settles s now job (.ok (job.stamped (some s.nextHandle) now), t)

theorem armAndWrite_settles (numbered : s.timers.Numbered) (active : job.status.isActive = true) :
    Settles s clock.now job (s.armAndWrite clock job due) := by
  rcases armAndWrite_cases numbered clock job due with
    ⟨e, t, same, unchanged, fails⟩ | ⟨t, same, arms⟩
  · rw [same]
    exact .failed unchanged fails
  · rw [same]
    exact .armed active arms

private theorem parks_of_write {store : Store}
    (record : ∀ other, { s with store }.record? other =
      if other = job.id then some (job.stamped none now) else s.record? other)
    (reliable : s.store.Reliable → store.Reliable)
    (entry : ∀ other, t.armed? other = if other = job.id then none else s.armed? other)
    (same : t = { s with store, armed := t.armed }) : Parks s (job.stamped none now) t := by
  rw [same] at entry ⊢
  exact ⟨record, rfl, entry, rfl, rfl, fun before => ⟨reliable before.store, before.timers⟩⟩

/-- A job that has no entry stays without one when it is stored without a timer. -/
theorem writeUnarmed_settles (unarmed : s.armed? job.id = none) :
    Settles s clock.now job (s.writeUnarmed clock job) := by
  rcases writeUnarmed_cases s clock job with
    ⟨e, t, same, unchanged, fails⟩ | ⟨store, same, record, reliable⟩
  · rw [same]
    exact .failed unchanged fails
  · rw [same]
    refine .parked (parks_of_write record reliable ?_ rfl)
    intro other
    split
    · rename_i named
      rw [named]
      exact unarmed
    · rfl

theorem finalize_settles : Settles s clock.now job (s.finalize clock job) := by
  unfold finalize
  rcases writeUnarmed_cases s clock job with
    ⟨e, t, same, unchanged, fails⟩ | ⟨store, same, record, reliable⟩
  · rw [same]
    exact .failed unchanged fails
  · rw [same]
    exact .parked (parks_of_write record reliable (forget_entry { s with store } job.id) rfl)

/-- Deferring drops the entry first, so that also a failure leaves none. -/
theorem armOrDefer_settles (numbered : s.timers.Numbered) (active : job.status.isActive = true) :
    Settles s clock.now job (s.armOrDefer clock job due horizon) := by
  unfold armOrDefer
  split
  · change Settles s clock.now job ((s.forget job.id).writeUnarmed clock job)
    rcases writeUnarmed_cases (s.forget job.id) clock job with
      ⟨e, t, same, unchanged, fails⟩ | ⟨store, same, record, reliable⟩
    · rw [same]
      exact .dropped unchanged fun reliable => fails ⟨reliable.store, reliable.timers⟩
    · rw [same]
      exact .parked (parks_of_write record reliable (forget_entry s job.id) rfl)
  · exact armAndWrite_settles numbered active

theorem Settles.fails {e : SchedulerError} (settles : Settles s now job (.error e, t)) :
    ¬ s.Reliable := by
  cases settles with
  | failed _ fails => exact fails
  | dropped _ fails => exact fails

theorem Settles.reliable (reliable : s.Reliable) (settles : Settles s now job answer) :
    answer.2.Reliable := by
  cases settles with
  | failed _ fails => exact absurd reliable fails
  | dropped _ fails => exact absurd reliable fails
  | parked parks => exact parks.reliable reliable
  | armed _ arms => exact arms.reliable reliable

theorem Settles.config (settles : Settles s now job answer) : answer.2.config = s.config := by
  cases settles with
  | failed unchanged _ => exact unchanged.config
  | dropped unchanged _ => exact unchanged.config
  | parked parks => exact parks.config
  | armed _ arms => exact arms.config

/-- Of all records only the job's can change, and only to the job. -/
theorem Settles.record (settles : Settles s now job answer) :
    answer.2.record? = s.record? ∨ ∃ handle?, ∀ other, answer.2.record? other =
      if other = job.id then some (job.stamped handle? now) else s.record? other := by
  cases settles with
  | failed unchanged _ => exact .inl unchanged.record
  | dropped unchanged _ => exact .inl unchanged.record
  | parked parks => exact .inr ⟨_, parks.record⟩
  | armed _ arms => exact .inr ⟨_, arms.record⟩

/-- Without a failure the job is stored. -/
theorem Settles.stored (settles : Settles s now job answer) (reliable : s.Reliable) :
    ∃ handle?, answer.2.record? job.id = some (job.stamped handle? now) := by
  cases settles with
  | failed _ fails => exact absurd reliable fails
  | dropped _ fails => exact absurd reliable fails
  | parked parks => exact ⟨_, (parks.record _).trans (if_pos rfl)⟩
  | armed _ arms => exact ⟨_, (arms.record _).trans (if_pos rfl)⟩

/-- Either an error leaves all records as they were, or the answer is the job as it is stored. -/
theorem Settles.answers (settles : Settles s now job answer) :
    (∃ e, answer.1 = .error e ∧ answer.2.record? = s.record?) ∨
    (∃ handle?, answer.1 = .ok (job.stamped handle? now) ∧
      answer.2.record? job.id = some (job.stamped handle? now)) := by
  cases settles with
  | failed unchanged _ => exact .inl ⟨_, rfl, unchanged.record⟩
  | dropped unchanged _ => exact .inl ⟨_, rfl, unchanged.record⟩
  | parked parks => exact .inr ⟨none, rfl, (parks.record job.id).trans (if_pos rfl)⟩
  | armed _ arms => exact .inr ⟨_, rfl, (arms.record job.id).trans (if_pos rfl)⟩

/-! ## Requests -/

/-- The scheduler from which a request arms its job: a job that has a record is disarmed first. -/
def freed (s : Scheduler) : Option Job → Scheduler
  | some stored => s.disarm stored
  | none => s

/-- A request takes the status of the record, and a job without one is scheduled. -/
theorem requested_status (stored? : Option Job) (incoming : Job) :
    (requested stored? incoming).status = (stored?.map (·.status)).getD .scheduled := by
  cases stored? <;> rfl

theorem requested_id (stored? : Option Job) (incoming : Job) :
    (requested stored? incoming).id = incoming.id := by
  cases stored? <;> rfl

/-- A request is refused and changes nothing, or its job is armed or deferred over its record. -/
theorem schedule_cases (s : Scheduler) (clock : Clock) (incoming : Job) :
    (∃ e t, s.schedule clock incoming = (.error e, t) ∧ Unchanged s t) ∨
    (∃ t due, Unchanged s t ∧
      (∀ stored, s.record? incoming.id = some stored → stored.status.isTerminal = false) ∧
      dueOf s.config clock.now (requested (s.record? incoming.id) incoming) = .ok due ∧
      s.schedule clock incoming = (t.freed (s.record? incoming.id)).armOrDefer clock
        (requested (s.record? incoming.id) incoming) due (s.config.chunkEnd clock.now)) := by
  unfold schedule
  split
  · exact .inl ⟨_, _, rfl, .refl s⟩
  have unchanged := read_unchanged s incoming.id
  cases readable : s.read incoming.id with
  | mk found t =>
    rw [readable] at unchanged
    cases found with
    | error e => exact .inl ⟨e, t, rfl, unchanged⟩
    | ok stored? =>
      have same : stored? = s.record? incoming.id := read_found (by rw [readable])
      rw [← same]
      dsimp only
      cases finished : stored?.filter (·.status.isTerminal) with
      | some stored => exact .inl ⟨_, t, rfl, unchanged⟩
      | none =>
        dsimp only
        have config : t.config = s.config := unchanged.config
        rw [config]
        cases dated : dueOf s.config clock.now (requested stored? incoming) with
        | error e => exact .inl ⟨e, t, rfl, unchanged⟩
        | ok due =>
          refine .inr ⟨t, due, unchanged, ?_, rfl, ?_⟩
          · intro stored held
            subst held
            simpa [Option.filter] using finished
          · cases stored? with
            | none => simp [freed, config]
            | some stored => simp [freed, disarm, config]

/-- An answer that must be there, as one that may be missing. -/
def answered : Except SchedulerError Job × Scheduler →
    Except SchedulerError (Option Job) × Scheduler
  | (.ok saved, s) => (.ok (some saved), s)
  | (.error e, s) => (.error e, s)

theorem answered_state (answer : Except SchedulerError Job × Scheduler) :
    (answered answer).2 = answer.2 := by
  rcases answer with ⟨_ | _, _⟩ <;> rfl

/-- Canceling finds nothing to cancel, or disarms the job and stores it as canceled. -/
theorem cancel_cases (s : Scheduler) (clock : Clock) (id : JobId) :
    (∃ e t, s.cancel clock id = (.error e, t) ∧ Unchanged s t) ∨
    (∃ t, s.cancel clock id = (.ok (s.record? id), t) ∧ Unchanged s t ∧
      ∀ job, s.record? id = some job → job.status.isTerminal = true) ∨
    (∃ t job, Unchanged s t ∧ s.record? id = some job ∧ job.status.isTerminal = false ∧
      s.cancel clock id =
        answered ((t.disarm job).writeUnarmed clock { job with status := .canceled })) := by
  unfold cancel
  have unchanged := read_unchanged s id
  cases readable : s.read id with
  | mk found t =>
    rw [readable] at unchanged
    cases found with
    | error e => exact .inl ⟨e, t, rfl, unchanged⟩
    | ok job? =>
      have same : job? = s.record? id := read_found (by rw [readable])
      rw [← same]
      cases job? with
      | none => exact .inr (.inl ⟨t, rfl, unchanged, by simp⟩)
      | some job =>
        dsimp only
        cases finished : job.status.isTerminal with
        | true => exact .inr (.inl ⟨t, rfl, unchanged, by simpa using finished⟩)
        | false =>
          refine .inr (.inr ⟨t, job, unchanged, rfl, finished, ?_⟩)
          simp only [Bool.false_eq_true, ↓reduceIte]
          rcases (t.disarm job).writeUnarmed clock { job with status := .canceled } with ⟨_ | _, _⟩ <;>
            rfl

theorem lookUp_unchanged (s : Scheduler) (id : JobId) : Unchanged s (s.lookUp id).2 := by
  have unchanged := read_unchanged s id
  unfold lookUp
  split <;> rename_i readable <;> rw [readable] at unchanged <;> exact unchanged

/-- A lookup answers the record. -/
theorem lookUp_found (found : (s.lookUp id).1 = .ok job) : s.record? id = some job := by
  unfold lookUp at found
  split at found <;> cases found
  rename_i readable
  exact (read_found (by rw [readable])).symm

/-- A lookup that succeeds is a read. -/
theorem lookUp_read (found : s.lookUp id = (.ok job, t)) :
    (s.read id).1.isOk = true ∧ t = (s.read id).2 := by
  unfold lookUp at found
  split at found <;> cases found
  rename_i readable
  exact ⟨by rw [readable]; rfl, by rw [readable]⟩

/-- Reading a record for a patch changes nothing. -/
theorem patched_unchanged (s : Scheduler) (id : JobId) (patch : JobPatch) :
    Unchanged s (s.patched id patch).2 := by
  have looked := lookUp_unchanged s id
  unfold patched
  split
  · exact .refl s
  split <;> rename_i found <;> rw [found] at looked
  · exact looked
  split <;> exact looked

/-- A patch for the job is laid over the job's record. -/
theorem patched_made {patch : JobPatch} (made : (s.patched id patch).1 = .ok job) :
    (patch.id? = none ∨ patch.id? = some id) ∧
      ∃ stored, s.record? id = some stored ∧ job = stored.merge patch := by
  unfold patched at made
  split at made
  · cases made
  rename_i own
  have named : patch.id? = none ∨ patch.id? = some id := by
    cases named : patch.id? with
    | none => exact .inl rfl
    | some other => simpa [named, Option.filter] using own
  split at made
  · cases made
  rename_i stored t found
  split at made <;> cases made
  exact ⟨named, stored, lookUp_found (by rw [found]), rfl⟩

/-- What a patch makes of a record keeps its id. -/
theorem patched_id {patch : JobPatch} (keyed : ∀ job, s.record? id = some job → job.id = id)
    (made : (s.patched id patch).1 = .ok job) : job.id = id := by
  obtain ⟨named, stored, record, rfl⟩ := patched_made made
  have same : stored.id = id := keyed stored record
  rcases named with named | named <;> simp [Job.merge, named, same]

/-! ## Recovery -/

/-- Recovery leaves a job alone that is gone, finished or entered in the index; any other is disarmed
and taken up. -/
theorem recover_cases (s : Scheduler) (clock : Clock) (id : JobId) :
    (∃ e t, s.recover clock id = (.error e, t) ∧ Unchanged s t ∧ s.read id = (.error e, t)) ∨
    (∃ t, s.recover clock id = (.ok .skipped, t) ∧ Unchanged s t ∧
      ∀ job, s.record? id = some job → job.status.isActive = true → s.armed? id ≠ none) ∨
    (∃ t job, Unchanged s t ∧ s.record? id = some job ∧ job.status.isActive = true ∧
      s.armed? id = none ∧ s.recover clock id = (t.disarm job).takeUp clock job) := by
  unfold recover
  have unchanged := read_unchanged s id
  cases readable : s.read id with
  | mk found t =>
    rw [readable] at unchanged
    cases found with
    | error e => exact .inl ⟨e, t, rfl, unchanged, rfl⟩
    | ok job? =>
      have same : job? = s.record? id := read_found (by rw [readable])
      rw [← same]
      cases job? with
      | none => exact .inr (.inl ⟨t, rfl, unchanged, by simp⟩)
      | some job =>
        dsimp only
        have entry : t.armed.get? id = s.armed? id := congrFun unchanged.entry id
        rw [entry]
        split
        · rename_i left
          refine .inr (.inl ⟨t, rfl, unchanged, ?_⟩)
          intro other same active
          cases same
          simpa [active, Option.isSome_iff_ne_none] using left
        · rename_i taken
          simp only [Bool.or_eq_true, Bool.not_eq_true', not_or, Bool.not_eq_false,
            Option.not_isSome_iff_eq_none] at taken
          exact .inr (.inr ⟨t, job, unchanged, rfl, taken.1, taken.2, rfl⟩)

/-- Without a failing call, that is what recovering such a job is. -/
theorem recover_reliable (reliable : s.Reliable) (record : s.record? id = some job)
    (active : job.status.isActive = true) (unarmed : s.armed? id = none) :
    s.recover clock id = (s.disarm job).takeUp clock job := by
  have entry : s.armed.get? id = none := unarmed
  simp [recover, read_reliable reliable, record, active, entry]

theorem abandon_state (s : Scheduler) (clock : Clock) (job : Job) :
    (s.abandon clock job).1 ≠ .ok .skipped ∧ (s.abandon clock job).2 =
      (s.writeUnarmed clock { job with status := .error }).2 := by
  unfold abandon
  rcases s.writeUnarmed clock { job with status := .error } with ⟨_ | _, _⟩ <;> simp

theorem resume_state (s : Scheduler) (clock : Clock) (job : Job) (due : Instant)
    (answer : Job → Recovery) (told : ∀ saved, answer saved ≠ .skipped) :
    (s.resume clock job due answer).1 ≠ .ok .skipped ∧ (s.resume clock job due answer).2 =
      (s.armOrDefer clock job due (s.config.scanEnd clock.now)).2 := by
  unfold resume
  rcases s.armOrDefer clock job due (s.config.scanEnd clock.now) with ⟨_ | saved, _⟩
  · simp
  · simpa using told saved

/-- A job whose next firing has not been missed is taken up for that firing. -/
theorem takeUp_unmissed {fire : Instant} (next : job.next? = some fire)
    (unmissed : s.config.isExpired clock.now fire = false) :
    s.takeUp clock job = s.resume clock job fire .admitted := by
  simp [takeUp, next, unmissed]

/-- A job that is to be retried is taken up with its trigger as it is, however long ago it was due. -/
theorem takeUp_retried (s : Scheduler) (clock : Clock) {fire : Instant} (retried : job.status = .retry)
    (next : job.next? = some fire) : ∃ due, s.takeUp clock job = s.resume clock job due .admitted := by
  unfold takeUp
  rw [next]
  dsimp only
  split
  · exact ⟨_, rfl⟩
  · exact ⟨_, if_pos (.inl retried)⟩

/-- A job that is taken up is stuck; or ends in error, having no firing left that it could be retried
for; or is armed or deferred for a firing, with its trigger as it was or past the firings that were
missed. It is never skipped. -/
theorem takeUp_cases (s : Scheduler) (clock : Clock) (job : Job) :
    (∃ e, s.takeUp clock job = (.error e, s)) ∨
    ((s.takeUp clock job).1 ≠ .ok .skipped ∧
      ((job.status = .retry → job.next? = none) ∧
        (s.takeUp clock job).2 = (s.writeUnarmed clock { job with status := .error }).2 ∨
      ∃ trigger due, job.trigger.PassedOver trigger ∧ trigger.next?.isSome = true ∧
        (s.takeUp clock job).2 =
          (s.armOrDefer clock { job with trigger } due (s.config.scanEnd clock.now)).2)) := by
  have abandoned := s.abandon_state clock job
  have unmoved : ∀ due, job.next?.isSome = true →
      (s.resume clock job due .admitted).1 ≠ .ok .skipped ∧
      ((job.status = .retry → job.next? = none) ∧
        (s.resume clock job due .admitted).2 = (s.writeUnarmed clock { job with status := .error }).2 ∨
      ∃ trigger due', job.trigger.PassedOver trigger ∧ trigger.next?.isSome = true ∧
        (s.resume clock job due .admitted).2 =
          (s.armOrDefer clock { job with trigger } due' (s.config.scanEnd clock.now)).2) := by
    intro due ahead
    obtain ⟨told, state⟩ := s.resume_state clock job due .admitted (by simp)
    exact ⟨told, .inr ⟨job.trigger, due, .inl rfl, ahead, state⟩⟩
  unfold takeUp
  split
  · rename_i none_left
    exact .inr ⟨abandoned.1, .inl ⟨fun _ => none_left, abandoned.2⟩⟩
  rename_i fire next
  have ahead : job.next?.isSome = true := by rw [next]; rfl
  split
  · exact .inr (unmoved _ ahead)
  split
  · exact .inr (unmoved _ ahead)
  rename_i unforced
  unfold fastForward
  dsimp only
  split
  · exact .inl ⟨_, rfl⟩
  rename_i trigger skipped
  split
  · rename_i later next
    obtain ⟨told, state⟩ :=
      s.resume_state clock { job with trigger } later .fastForwarded (by simp)
    exact .inr ⟨told, .inr ⟨trigger, later, .inr ⟨_, skipped⟩, by rw [next]; rfl, state⟩⟩
  · have unretried : job.status ≠ .retry := fun retried => unforced (.inl retried)
    exact .inr ⟨abandoned.1, .inl ⟨fun retried => absurd retried unretried, abandoned.2⟩⟩

/-- An active job without an entry is not skipped. -/
theorem recover_skips (skipped : (s.recover clock id).1 = .ok .skipped)
    (record : s.record? id = some job) (active : job.status.isActive = true) : s.armed? id ≠ none := by
  rcases recover_cases s clock id with
    ⟨e, t, same, _⟩ | ⟨t, same, _, left⟩ | ⟨t, found, _, _, _, _, same⟩
  · rw [same] at skipped
    cases skipped
  · exact left job record active
  · rw [same] at skipped
    rcases takeUp_cases (t.disarm found) clock found with ⟨e, stuck⟩ | ⟨told, _⟩
    · rw [stuck] at skipped
      cases skipped
    · exact absurd skipped told

/-! ## What a request, a cancellation and a recovery have in common -/

/-- What an operation makes of its job, as the job is at the time. -/
inductive Makes (s : Scheduler) : Operation → Job → Prop
  | requested {clock : Clock} {incoming : Job} {due : Instant}
    (unfinished : ∀ job, s.record? incoming.id = some job → job.status.isTerminal = false)
    (dated : dueOf s.config clock.now (requested (s.record? incoming.id) incoming) = .ok due) :
    Makes s (.schedule clock incoming) (requested (s.record? incoming.id) incoming)
  | canceled {clock : Clock} {id : JobId} {job : Job} (record : s.record? id = some job)
    (unfinished : job.status.isTerminal = false) :
    Makes s (.cancel clock id) { job with status := .canceled }
  | abandoned {clock : Clock} {id : JobId} {job : Job} (record : s.record? id = some job)
    (active : job.status.isActive = true) (unarmed : s.armed? id = none)
    (spent : job.status = .retry → job.next? = none) :
    Makes s (.recover clock id) { job with status := .error }
  | resumed {clock : Clock} {id : JobId} {job : Job} {trigger : Trigger}
    (record : s.record? id = some job) (active : job.status.isActive = true)
    (unarmed : s.armed? id = none) (passed : job.trigger.PassedOver trigger)
    (ahead : trigger.next?.isSome = true) : Makes s (.recover clock id) { job with trigger }

/-- What an operation can do: nothing; or it ends whatever its job, which is not finished, may be armed
under, and then either leaves it at that or settles what is to become of the job. -/
inductive Operates (s : Scheduler) (operation : Operation) : Scheduler → Prop
  | kept {t : Scheduler} (unchanged : Unchanged s t) : Operates s operation t
  | freed {t : Scheduler} (unchanged : Unchanged s t)
    (unfinished : ∀ job, s.record? operation.id = some job → job.status.isTerminal = false)
    (unarmed : s.armed? operation.id = none) :
    Operates s operation (t.freed (s.record? operation.id))
  | settled {t : Scheduler} {result : Job} {answer : Except SchedulerError Job × Scheduler}
    (unchanged : Unchanged s t) (makes : Makes s operation result) (same : result.id = operation.id)
    (settles : Settles (t.freed (s.record? operation.id)) operation.clock.now result answer) :
    Operates s operation answer.2

theorem Makes.unfinished {operation : Operation} (makes : Makes s operation job) :
    ∀ stored, s.record? operation.id = some stored → stored.status.isTerminal = false := by
  have active : ∀ {id stored found}, s.record? id = some found → found.status.isActive = true →
      s.record? id = some stored → stored.status.isTerminal = false := by
    intro id stored found record active held
    rw [record] at held
    cases held
    simpa [JobStatus.isActive] using active
  intro stored held
  cases makes with
  | requested unfinished _ => exact unfinished stored held
  | canceled record unfinished => exact active record (by simp [JobStatus.isActive, unfinished]) held
  | abandoned record found _ _ => exact active record found held
  | resumed record found _ _ _ => exact active record found held

theorem freed_timers (s : Scheduler) (stored? : Option Job) :
    s.timers.Shrinks (s.freed stored?).timers := by
  cases stored? with
  | none => exact .refl _
  | some stored => exact disarm_timers s stored

theorem freed_reliable (stored? : Option Job) (reliable : s.Reliable) : (s.freed stored?).Reliable := by
  cases stored? with
  | none => exact reliable
  | some stored => exact disarm_reliable stored reliable

theorem Operates.reliable {operation : Operation} (reliable : s.Reliable)
    (operates : Operates s operation t) : t.Reliable := by
  cases operates with
  | kept unchanged => exact unchanged.reliable reliable
  | freed unchanged _ _ => exact freed_reliable _ (unchanged.reliable reliable)
  | settled unchanged _ _ settles =>
    exact settles.reliable (freed_reliable _ (unchanged.reliable reliable))

theorem freed_config (s : Scheduler) (stored? : Option Job) : (s.freed stored?).config = s.config := by
  cases stored? <;> rfl

theorem Operates.config {operation : Operation} (operates : Operates s operation t) :
    t.config = s.config := by
  cases operates with
  | kept unchanged => exact unchanged.config
  | freed unchanged _ _ => exact (freed_config ..).trans unchanged.config
  | settled unchanged _ _ settles =>
    exact settles.config.trans ((freed_config ..).trans unchanged.config)

/-- A request for a job that is not finished makes an active one. -/
theorem requested_active {stored? : Option Job}
    (unfinished : ∀ job, stored? = some job → job.status.isTerminal = false) (incoming : Job) :
    (requested stored? incoming).status.isActive = true := by
  rw [requested_status]
  cases stored? with
  | none => rfl
  | some stored => simpa [JobStatus.isActive] using unfinished stored rfl

/-- What comes of storing what was requested, once the job is freed. -/
theorem requested_settles {incoming : Job} (numbered : s.timers.Numbered) (unchanged : Unchanged s t)
    (unfinished : ∀ job, s.record? incoming.id = some job → job.status.isTerminal = false) :
    Settles (t.freed (s.record? incoming.id)) clock.now (requested (s.record? incoming.id) incoming)
      ((t.freed (s.record? incoming.id)).armOrDefer clock
        (requested (s.record? incoming.id) incoming) due horizon) :=
  armOrDefer_settles ((unchanged.numbered numbered).shrink (freed_timers ..))
    (requested_active unfinished incoming)

theorem schedule_operates (numbered : s.timers.Numbered) (clock : Clock) (incoming : Job) :
    Operates s (.schedule clock incoming) (s.schedule clock incoming).2 := by
  rcases schedule_cases s clock incoming with
    ⟨e, t, same, unchanged⟩ | ⟨t, due, unchanged, unfinished, dated, same⟩
  · rw [same]
    exact .kept unchanged
  · rw [same]
    exact .settled unchanged (.requested unfinished dated) (requested_id _ incoming)
      (requested_settles numbered unchanged unfinished)

private theorem freed_of_found (found : s.record? id = some job) (t : Scheduler) :
    t.freed (s.record? id) = t.disarm job := by
  rw [found]
  rfl

private theorem disarm_unarmed (s : Scheduler) (job : Job) : (s.disarm job).armed? job.id = none := by
  rw [disarm_entry]
  exact if_pos rfl

/-- A cancellation, the record found active, leaves the job without an entry before it is stored. -/
theorem cancel_operates (s : Scheduler) (clock : Clock)
    (keyed : ∀ job, s.record? id = some job → job.id = id) :
    Operates s (.cancel clock id) (s.cancel clock id).2 := by
  rcases cancel_cases s clock id with
    ⟨e, t, same, unchanged⟩ | ⟨t, same, unchanged, _⟩ | ⟨t, job, unchanged, found, unfinished, same⟩
  · rw [same]
    exact .kept unchanged
  · rw [same]
    exact .kept unchanged
  · have unarmed := disarm_unarmed t job
    rw [← freed_of_found found t] at unarmed
    rw [same, answered_state, ← freed_of_found found t]
    exact .settled unchanged (.canceled found unfinished) (keyed job found)
      (writeUnarmed_settles unarmed)

theorem recover_operates (numbered : s.timers.Numbered) (clock : Clock)
    (keyed : ∀ job, s.record? id = some job → job.id = id) :
    Operates s (.recover clock id) (s.recover clock id).2 := by
  rcases recover_cases s clock id with
    ⟨e, t, same, unchanged, _⟩ | ⟨t, same, unchanged, _⟩ |
    ⟨t, job, unchanged, found, active, vacant, same⟩
  · rw [same]
    exact .kept unchanged
  · rw [same]
    exact .kept unchanged
  have unfinished : ∀ stored, s.record? id = some stored → stored.status.isTerminal = false := by
    simpa [found, JobStatus.isActive] using active
  have stillNumbered := (unchanged.numbered numbered).shrink (disarm_timers t job)
  have unarmed := disarm_unarmed t job
  rw [same]
  rw [← freed_of_found found t] at stillNumbered unarmed ⊢
  rcases takeUp_cases (t.freed (s.record? id)) clock job with
    ⟨e, stuck⟩ | ⟨_, ⟨spent, state⟩ | ⟨trigger, due, passed, ahead, state⟩⟩
  · rw [stuck]
    exact .freed unchanged unfinished vacant
  · rw [state]
    exact .settled unchanged (.abandoned found active vacant spent) (keyed job found)
      (writeUnarmed_settles unarmed)
  · rw [state]
    exact .settled unchanged (.resumed found active vacant passed ahead) (keyed job found)
      (armOrDefer_settles stillNumbered active)

/-! ## Firings -/

/-- A timer is the job's own if the job is active and its record names the handle. -/
theorem isCurrent_iff {handle : Handle} :
    isCurrent job handle = true ↔ job.status.isActive = true ∧ job.handle? = some handle := by
  simp [isCurrent]

/-- A claim fails and changes nothing; or takes the job, whose record names the handle; or finds that
the record does not name it and drops the handle's entry. -/
theorem claim_cases (s : Scheduler) (id : JobId) (handle : Handle) :
    (∃ e t, s.claim id handle = (.error e, t) ∧ Unchanged s t ∧ ¬ s.Reliable) ∨
    (∃ t job, Unchanged s t ∧ s.record? id = some job ∧ isCurrent job handle = true ∧
      s.claim id handle = (.ok (some job), { t with armed := t.armed.markFiring id handle })) ∨
    (∃ t, Unchanged s t ∧ (∀ job, s.record? id = some job → isCurrent job handle = false) ∧
      s.claim id handle = (.ok none, t.release id handle)) := by
  unfold claim
  have unchanged := read_unchanged s id
  cases readable : s.read id with
  | mk found t =>
    rw [readable] at unchanged
    cases found with
    | error e =>
      refine .inl ⟨e, t, rfl, unchanged, fun reliable => ?_⟩
      simp [read_reliable reliable] at readable
    | ok job? =>
      have same : job? = s.record? id := read_found (by rw [readable])
      rw [← same]
      dsimp only
      cases current : job?.filter fun job => isCurrent job handle with
      | some job =>
        obtain ⟨rfl, named⟩ := Option.filter_eq_some_iff.mp current
        exact .inr (.inl ⟨t, job, unchanged, rfl, named, rfl⟩)
      | none =>
        refine .inr (.inr ⟨t, unchanged, ?_, rfl⟩)
        intro job held
        subst held
        simpa [Option.filter] using current

/-- What completion makes of a record that still names the handle, if it does not break off. -/
inductive Concludes (s : Scheduler) (clock : Clock) (job : Job) (succeeded : Bool) :
    Except SchedulerError Job × Scheduler → Prop
  | rearmed {fire : Instant} (succeeds : succeeded = true)
    (answers : ∃ taken?, job.trigger.advance? = some (taken?, job.trigger.rest))
    (next : job.advanced.next? = some fire) :
    Concludes s clock job succeeded
      (s.armOrDefer clock { job.advanced with status := .scheduled } fire (s.config.chunkEnd clock.now))
  | executed (succeeds : succeeded = true)
    (answers : ∃ taken?, job.trigger.advance? = some (taken?, job.trigger.rest))
    (last : job.advanced.next? = none) :
    Concludes s clock job succeeded (s.finalize clock { job.advanced with status := .executed })
  | retried {due : Instant} (fails : succeeded = false)
    (granted : job.failed.retries < s.config.retry.maxRetries) :
    Concludes s clock job succeeded (s.armAndWrite clock { job.failed with status := .retry } due)
  | ended (fails : succeeded = false) (refused : s.config.retry.maxRetries ≤ job.failed.retries) :
    Concludes s clock job succeeded (s.finalize clock { job.failed with status := .error })

theorem Concludes.answers {succeeded : Bool} (concludes : Concludes s clock job succeeded answer) :
    succeeded = true → ∃ taken?, job.trigger.advance? = some (taken?, job.trigger.rest) := by
  intro succeeds
  cases concludes with
  | rearmed _ answers _ => exact answers
  | executed _ answers _ => exact answers
  | retried fails _ => cases fails.symm.trans succeeds
  | ended fails _ => cases fails.symm.trans succeeds

theorem Concludes.fault {succeeded : Bool} (concludes : Concludes s clock job succeeded answer)
    {e : SchedulerError} (failed : answer.1 = .error e) : e.isFault = true := by
  cases concludes with
  | rearmed _ _ _ => exact armOrDefer_fault failed
  | executed _ _ _ => exact finalize_fault failed
  | retried _ _ => exact armAndWrite_fault failed
  | ended _ _ => exact finalize_fault failed

/-- The status apart, what is stored depends on the outcome alone. -/
theorem Concludes.settles {succeeded : Bool} (numbered : s.timers.Numbered)
    (concludes : Concludes s clock job succeeded answer) :
    ∃ status, Settles s clock.now (job.concluded succeeded status) answer := by
  cases concludes with
  | rearmed succeeds _ _ =>
    rw [succeeds]
    exact ⟨.scheduled, armOrDefer_settles numbered rfl⟩
  | executed succeeds _ _ =>
    rw [succeeds]
    exact ⟨.executed, finalize_settles⟩
  | retried fails _ =>
    rw [fails]
    exact ⟨.retry, armAndWrite_settles numbered rfl⟩
  | ended fails _ =>
    rw [fails]
    exact ⟨.error, finalize_settles⟩

/-- A success is concluded, or breaks off with nothing stored. -/
theorem succeed_cases (s : Scheduler) (clock : Clock) (job : Job) :
    job.trigger.advance? = none ∧ s.succeed clock job = (.error (.stuck job.id), s) ∨
      Concludes s clock job true (s.succeed clock job) := by
  unfold succeed
  cases advances : job.trigger.advance? with
  | none => exact .inl ⟨rfl, rfl⟩
  | some moved =>
    obtain ⟨taken?, trigger⟩ := moved
    obtain rfl := Trigger.rest_eq advances
    refine .inr ?_
    dsimp only
    split
    · rename_i next
      exact .rearmed rfl ⟨taken?, advances⟩ next
    · rename_i last
      exact .executed rfl ⟨taken?, advances⟩ last

theorem fail_concludes (s : Scheduler) (clock : Clock) (job : Job) :
    Concludes s clock job false (s.fail clock job) := by
  unfold fail
  dsimp only
  split
  · exact .retried rfl (by assumption)
  · rename_i refused
    exact .ended rfl (Nat.le_of_not_lt refused)

/-- Completion fails and changes nothing; or finds that the record does not name the handle, answers
the record and drops the handle's entry; or breaks off and changes nothing, as the trigger cannot be moved
on; or takes the outcome into the record. -/
theorem complete_cases (s : Scheduler) (clock : Clock) (id : JobId) (handle : Handle)
    (outcome : ExecutionOutcome) :
    (∃ e t, s.complete clock id handle outcome = (.error e, t) ∧ e.isFault = true ∧ Unchanged s t ∧
      ¬ s.Reliable) ∨
    (∃ t, Unchanged s t ∧ (∀ job, s.record? id = some job → isCurrent job handle = false) ∧
      s.complete clock id handle outcome = (.ok (s.record? id), t.release id handle)) ∨
    (∃ t job, Unchanged s t ∧ s.record? id = some job ∧ isCurrent job handle = true ∧
      hasSucceeded outcome = true ∧ job.trigger.advance? = none ∧
      s.complete clock id handle outcome = (.error (.stuck job.id), t)) ∨
    (∃ t job answer, Unchanged s t ∧ s.record? id = some job ∧ isCurrent job handle = true ∧
      Concludes t clock job (hasSucceeded outcome) answer ∧
      s.complete clock id handle outcome = answered answer) := by
  unfold complete
  have unchanged := read_unchanged s id
  cases readable : s.read id with
  | mk found t =>
    rw [readable] at unchanged
    cases found with
    | error e =>
      have fault : e.isFault = true := read_fault (congrArg Prod.fst readable)
      refine .inl ⟨e, t, rfl, fault, unchanged, fun reliable => ?_⟩
      simp [read_reliable reliable] at readable
    | ok job? =>
      have same : job? = s.record? id := read_found (by rw [readable])
      rw [← same]
      cases job? with
      | none => exact .inr (.inl ⟨t, unchanged, by simp, rfl⟩)
      | some job =>
        dsimp only
        cases current : isCurrent job handle with
        | false => exact .inr (.inl ⟨t, unchanged, by simpa using current, rfl⟩)
        | true =>
          simp only [Bool.not_true, Bool.false_eq_true, ↓reduceIte]
          cases succeeded : hasSucceeded outcome with
          | true =>
            simp only [↓reduceIte]
            rcases succeed_cases t clock job with ⟨broken, stuck⟩ | concludes
            · rw [stuck]
              exact .inr (.inr (.inl ⟨t, job, unchanged, rfl, current, trivial, broken, rfl⟩))
            · refine .inr (.inr (.inr ⟨t, job, _, unchanged, rfl, current, concludes, ?_⟩))
              rcases t.succeed clock job with ⟨_ | _, _⟩ <;> rfl
          | false =>
            simp only [Bool.false_eq_true, ↓reduceIte]
            refine .inr (.inr (.inr ⟨t, job, _, unchanged, rfl, current, fail_concludes t clock job, ?_⟩))
            rcases t.fail clock job with ⟨_ | _, _⟩ <;> rfl

/-- Without a failure the outcome of a firing is taken into a record that names the handle, unless it is a
success with which the trigger cannot be moved on; then the record stays as it is. -/
theorem complete_stores (numbered : s.timers.Numbered) (reliable : s.Reliable)
    (keyed : ∀ job, s.record? id = some job → job.id = id) (record : s.record? id = some job)
    {handle : Handle} (current : isCurrent job handle = true) (clock : Clock)
    (outcome : ExecutionOutcome) :
    (hasSucceeded outcome = true ∧ job.trigger.advance? = none ∧
      (s.complete clock id handle outcome).2.record? id = some job) ∨
    (hasSucceeded outcome = true → ∃ taken?, job.trigger.advance? = some (taken?, job.trigger.rest)) ∧
      ∃ status handle?, (s.complete clock id handle outcome).2.record? id =
        some ((job.concluded (hasSucceeded outcome) status).stamped handle? clock.now) := by
  rcases complete_cases s clock id handle outcome with
    ⟨e, t, _, _, _, fails⟩ | ⟨t, _, renamed, _⟩ | ⟨t, found, unchanged, held, _, succeeds, broken, same⟩ |
    ⟨t, found, answer, unchanged, held, _, concludes, same⟩
  · exact absurd reliable fails
  · simp [renamed job record] at current
  · rw [record] at held
    cases held
    refine .inl ⟨succeeds, broken, ?_⟩
    rw [same, unchanged.record]
    exact record
  · rw [record] at held
    cases held
    obtain ⟨status, settles⟩ := concludes.settles (unchanged.numbered numbered)
    obtain ⟨handle?, stored⟩ := settles.stored (unchanged.reliable reliable)
    refine .inr ⟨concludes.answers, status, handle?, ?_⟩
    rw [Job.concluded_id, keyed job record] at stored
    rw [same, answered_state]
    exact stored

end Scheduler

end Punctual
