import Punctual.Proofs.Records

/-!
Patches. A patch reads the record of its job, lays its fields over it and has the result scheduled, and
only the last of these holds the job's lock. Scheduling lays every field of the result over the record
that it finds: how far the job has come is taken from that record, all else is as it was read before. So
a patch takes back what became of the job in between, unless none of it concerns the definition of the
job: who it is for, when it fires, how urgent it is and how long it may take.
-/
namespace Punctual

open Scheduler

/-- What the two jobs are asked to do is the same. -/
structure Job.SameDefinition (a b : Job) : Prop where
  correlationId : b.correlationId? = a.correlationId?
  priority : b.priority = a.priority
  recipient : b.recipient = a.recipient
  trigger : b.trigger = a.trigger
  timeout : b.timeout? = a.timeout?
  timeoutUnit : b.timeoutUnit? = a.timeoutUnit?

/-- The two jobs agree in every field that the patch does not name, save the timer and the time of the
last change. -/
structure JobPatch.LeavesRest (patch : JobPatch) (before after : Job) : Prop where
  id : patch.id? = none → after.id = before.id
  correlationId : patch.correlationId? = none → after.correlationId? = before.correlationId?
  status : patch.status? = none → after.status = before.status
  retries : patch.retries? = none → after.retries = before.retries
  priority : patch.priority? = none → after.priority = before.priority
  executions : patch.executions? = none → after.executions = before.executions
  recipient : patch.recipient? = none → after.recipient = before.recipient
  trigger : patch.trigger? = none → after.trigger = before.trigger
  timeout : patch.timeout? = none → after.timeout? = before.timeout?
  timeoutUnit : patch.timeoutUnit? = none → after.timeoutUnit? = before.timeoutUnit?

/-- A patch laid over one record and stored over another: how far the job has come is as in the record
that was replaced, and what the patch does not name of the definition as in the one that was read. -/
structure JobPatch.Lays (patch : JobPatch) (read replaced saved : Job) : Prop where
  id : saved.id = replaced.id
  status : saved.status = replaced.status
  retries : saved.retries = replaced.retries
  executions : saved.executions = replaced.executions
  priority : patch.priority? = none → saved.priority = read.priority
  recipient : patch.recipient? = none → saved.recipient = read.recipient
  trigger : patch.trigger? = none → saved.trigger = read.trigger
  correlationId : patch.correlationId? = none →
    saved.correlationId? = read.correlationId?.or replaced.correlationId?
  timeout : patch.timeout? = none → saved.timeout? = read.timeout?.or replaced.timeout?
  timeoutUnit : patch.timeoutUnit? = none →
    saved.timeoutUnit? = read.timeoutUnit?.or replaced.timeoutUnit?

namespace Job.SameDefinition

variable {a b c : Job}

theorem refl (a : Job) : a.SameDefinition a := ⟨rfl, rfl, rfl, rfl, rfl, rfl⟩

theorem trans (first : a.SameDefinition b) (second : b.SameDefinition c) : a.SameDefinition c :=
  ⟨second.correlationId.trans first.correlationId, second.priority.trans first.priority,
    second.recipient.trans first.recipient, second.trigger.trans first.trigger,
    second.timeout.trans first.timeout, second.timeoutUnit.trans first.timeoutUnit⟩

theorem stamped (same : a.SameDefinition b) (handle? : Option Handle) (now : Instant) :
    a.SameDefinition (b.stamped handle? now) :=
  ⟨same.correlationId, same.priority, same.recipient, same.trigger, same.timeout, same.timeoutUnit⟩

end Job.SameDefinition

theorem JobPatch.lays_requested {patch : JobPatch} {read replaced : Job}
    (named : (read.merge patch).id = replaced.id) (handle? : Option Handle) (now : Instant) :
    patch.Lays read replaced
      ((requested (some replaced) (read.merge patch)).stamped handle? now) where
  id := named
  status := rfl
  retries := rfl
  executions := rfl
  priority unnamed := by simp [Job.stamped, requested, Job.merge, Job.asPatch, unnamed]
  recipient unnamed := by simp [Job.stamped, requested, Job.merge, Job.asPatch, unnamed]
  trigger unnamed := by simp [Job.stamped, requested, Job.merge, Job.asPatch, unnamed]
  correlationId unnamed := by simp [Job.stamped, requested, Job.merge, Job.asPatch, unnamed]
  timeout unnamed := by simp [Job.stamped, requested, Job.merge, Job.asPatch, unnamed]
  timeoutUnit unnamed := by simp [Job.stamped, requested, Job.merge, Job.asPatch, unnamed]

/-- Nothing else is changed if both records define the job alike. -/
theorem JobPatch.Lays.leavesRest {patch : JobPatch} {read replaced saved : Job}
    (lays : patch.Lays read replaced saved) (same : read.SameDefinition replaced) :
    patch.LeavesRest replaced saved where
  id _ := lays.id
  status _ := lays.status
  retries _ := lays.retries
  executions _ := lays.executions
  priority unnamed := (lays.priority unnamed).trans same.priority.symm
  recipient unnamed := (lays.recipient unnamed).trans same.recipient.symm
  trigger unnamed := (lays.trigger unnamed).trans same.trigger.symm
  correlationId unnamed := by rw [lays.correlationId unnamed, ← same.correlationId, Option.or_self]
  timeout unnamed := by rw [lays.timeout unnamed, ← same.timeout, Option.or_self]
  timeoutUnit unnamed := by rw [lays.timeoutUnit unnamed, ← same.timeoutUnit, Option.or_self]

namespace Scheduler

variable {s t : Scheduler} {id : JobId} {job saved incoming : Job} {clock : Clock} {fire : Instant}

/-- A request that succeeds stores what was requested over the record. -/
theorem schedule_saves (numbered : s.timers.Numbered)
    (scheduled : s.schedule clock incoming = (.ok saved, t)) :
    t.record? incoming.id = some saved ∧
      ∃ handle?, saved = (requested (s.record? incoming.id) incoming).stamped handle? clock.now := by
  rcases schedule_cases s clock incoming with
    ⟨e, u, same, _⟩ | ⟨u, due, unchanged, unfinished, _, same⟩
  · rw [scheduled] at same
    cases same
  have settles : Settles (u.freed (s.record? incoming.id)) clock.now
      (requested (s.record? incoming.id) incoming) (.ok saved, t) := by
    rw [← scheduled, same]
    exact requested_settles numbered unchanged unfinished
  have named := requested_id (s.record? incoming.id) incoming
  cases settles with
  | parked parks => exact ⟨(parks.record _).trans (if_pos named.symm), _, rfl⟩
  | armed _ arms => exact ⟨(arms.record _).trans (if_pos named.symm), _, rfl⟩

/-- Whatever is settled about a job that is defined as its record, the record stays defined so. -/
theorem Settles.keeps_definition {now : Instant} {result : Job}
    {answer : Except SchedulerError Job × Scheduler} (settles : Settles s now result answer)
    (named : result.id = id) (record : s.record? id = some job) (same : job.SameDefinition result) :
    ∃ after, answer.2.record? id = some after ∧ job.SameDefinition after := by
  rcases settles.record with kept | ⟨handle?, stored⟩
  · exact ⟨job, (congrFun kept id).trans record, .refl job⟩
  · exact ⟨_, (stored id).trans (if_pos named.symm), same.stamped handle? now⟩

/-- Recovery redefines a job only if its next firing was missed. -/
theorem recover_keeps_definition (keyed : Keyed s) (record : s.record? id = some job)
    (unmissed : job.next?.any (s.config.isExpired clock.now) = false) :
    ∃ after, (s.recover clock id).2.record? id = some after ∧ job.SameDefinition after := by
  have kept : ∀ {u : Scheduler}, Unchanged s u →
      ∃ after, u.record? id = some after ∧ job.SameDefinition after := by
    intro u unchanged
    exact ⟨job, (congrFun unchanged.record id).trans record, .refl job⟩
  rcases recover_cases s clock id with
    ⟨e, t, same, unchanged, _⟩ | ⟨t, same, unchanged, _⟩ |
    ⟨t, found, unchanged, held, active, _, same⟩
  · rw [same]
    exact kept unchanged
  · rw [same]
    exact kept unchanged
  rw [record] at held
  cases held
  have named := keyed.keyed id job record
  have still : (t.disarm job).record? id = some job := (congrFun unchanged.record id).trans record
  have unarmed : (t.disarm job).armed? job.id = none := (disarm_entry ..).trans (if_pos rfl)
  have numbered := (unchanged.numbered keyed.numbered).shrink (disarm_timers t job)
  rw [same]
  cases next : job.next? with
  | none =>
    have state : (t.disarm job).takeUp clock job = (t.disarm job).abandon clock job := by
      simp [takeUp, next]
    rw [state, (abandon_state _ clock job).2]
    have settles : Settles (t.disarm job) clock.now { job with status := .error } _ :=
      writeUnarmed_settles unarmed
    exact settles.keeps_definition named still ⟨rfl, rfl, rfl, rfl, rfl, rfl⟩
  | some fire =>
    have due : (t.disarm job).config.isExpired clock.now fire = false := by
      change t.config.isExpired clock.now fire = false
      rw [unchanged.config]
      simpa [next] using unmissed
    rw [takeUp_unmissed next due, (resume_state _ clock job fire .admitted (by simp)).2]
    exact (armOrDefer_settles numbered active).keeps_definition named still (.refl job)

end Scheduler

namespace Process

variable {p q : Process} {id : JobId} {job saved merged : Job} {action : Action} {patch : JobPatch}
  {clock : Clock} {place : Nat}

/-- The action schedules or patches the job, or takes a success of it into the record, or recovers it
after a missed firing. -/
def redefines (id : JobId) (p : Process) (action : Action) : Bool :=
  match action with
  | .complete number _ outcome =>
    p.calls[number]?.any fun call => call.id = id && hasSucceeded outcome
  | _ =>
    match p.operation? action with
    | some (.schedule _ incoming) => incoming.id = id
    | some (.recover clock other) =>
      other = id && (p.scheduler.record? id).any fun job =>
        job.next?.any (p.scheduler.config.isExpired clock.now)
    | some (.cancel ..) | none => false

/-- No other action redefines a job that is stored. -/
theorem perform_keeps_definition (keyed : p.scheduler.Keyed)
    (record : p.scheduler.record? id = some job) (permitted : redefines id p action = false) :
    ∃ after, (p.perform action).scheduler.record? id = some after ∧ job.SameDefinition after := by
  have moved := (perform_moves p action).record_moves keyed id
  generalize changed : (p.perform action).scheduler.record? id = after? at moved
  cases moved with
  | kept => exact ⟨job, record, .refl job⟩
  | @operated _ operation result handle? carried named makes =>
    have uncompleted : ∀ number clock outcome, action ≠ .complete number clock outcome := by
      intro number clock outcome same
      rw [same] at carried
      cases carried
    rw [redefines.eq_2 _ _ _ uncompleted, carried] at permitted
    cases makes with
    | requested _ => simp [← named, Operation.id] at permitted
    | @canceled clock other found held _ =>
      have same : other = id := named
      rw [same, record] at held
      cases held
      exact ⟨_, rfl, ⟨rfl, rfl, rfl, rfl, rfl, rfl⟩⟩
    | @abandoned clock other found held _ _ =>
      have same : other = id := named
      rw [same, record] at held
      cases held
      exact ⟨_, rfl, ⟨rfl, rfl, rfl, rfl, rfl, rfl⟩⟩
    | @resumed clock other found trigger _ _ _ _ =>
      -- whether firings were passed over is seen in the recovery itself
      have same : other = id := named
      subst other
      rw [← changed, perform_operation carried]
      exact recover_keeps_definition keyed record (by simpa [record] using permitted)
  | @concluded number clock outcome call fired status handle? found named _ held _ =>
    rw [record] at held
    cases held
    have fails : hasSucceeded outcome = false := by simpa [redefines, found, named] using permitted
    rw [fails]
    exact ⟨_, rfl, ⟨rfl, rfl, rfl, rfl, rfl, rfl⟩⟩

/-- A record is never removed. -/
theorem evolves_stored {permitted : Process → Action → Bool} (keyed : p.scheduler.Keyed)
    (evolves : Evolves permitted p q) (record : p.scheduler.record? id = some job) :
    q.scheduler.Keyed ∧ ∃ after, q.scheduler.record? id = some after := by
  induction evolves with
  | refl => exact ⟨keyed, job, record⟩
  | @step q action _ _ ih =>
    obtain ⟨keyed, between, held⟩ := ih
    refine ⟨perform_keyed keyed action, ?_⟩
    have moved := (perform_moves q action).record_moves keyed id
    generalize (q.perform action).scheduler.record? id = after? at moved ⊢
    cases moved with
    | kept => exact ⟨between, held⟩
    | operated _ _ _ => exact ⟨_, rfl⟩
    | concluded _ _ _ _ _ => exact ⟨_, rfl⟩

theorem evolves_keeps_definition {permitted : Process → Action → Bool} (keyed : p.scheduler.Keyed)
    (evolves : Evolves permitted p q) (record : p.scheduler.record? id = some job)
    (quiet : ∀ p action, permitted p action = true → redefines id p action = false) :
    ∃ after, q.scheduler.record? id = some after ∧ job.SameDefinition after := by
  induction evolves with
  | refl => exact ⟨job, record, .refl job⟩
  | @step q action before allowed ih =>
    obtain ⟨between, held, same⟩ := ih
    have keyed := (evolves_stored keyed before record).1
    obtain ⟨after, stored, still⟩ := perform_keeps_definition keyed held (quiet q action allowed)
    exact ⟨after, stored, same.trans still⟩

theorem readPatch_unchanged (p : Process) (id : JobId) (patch : JobPatch) :
    p.scheduler.Unchanged (p.perform (.readPatch id patch)).scheduler := by
  have unchanged := p.scheduler.patched_unchanged id patch
  simp only [perform]
  split <;> rename_i made <;> rw [made] at unchanged <;> exact unchanged

/-- However a patch is interleaved with other work, it never takes back how far its job has come; and if
nothing redefines the job between its two steps, it changes what it names and nothing else. -/
theorem patches_change_what_they_name {permitted : Process → Action → Bool}
    (keyed : p.scheduler.Keyed) (made : (p.scheduler.patched id patch).1 = .ok merged)
    (between : Evolves permitted (p.perform (.readPatch id patch)) q)
    (waiting : q.patched[place]? = some merged)
    (scheduled : (q.scheduler.schedule clock merged).1 = .ok saved) :
    ∃ read replaced, p.scheduler.record? id = some read ∧ q.scheduler.record? id = some replaced ∧
      (q.perform (.schedulePatched clock place)).scheduler.record? id = some saved ∧
      patch.Lays read replaced saved ∧
      ((∀ p action, permitted p action = true → redefines id p action = false) →
        patch.LeavesRest replaced saved) := by
  obtain ⟨_, read, record, laid⟩ := patched_made made
  have named : merged.id = id := patched_id (keyed.keyed id) made
  have unchanged := readPatch_unchanged p id patch
  have still : (p.perform (.readPatch id patch)).scheduler.record? id = some read :=
    (congrFun unchanged.record id).trans record
  have keyed' := keyed.of_loses unchanged.loses
  obtain ⟨later, replaced, held⟩ := evolves_stored keyed' between still
  have carried : q.operation? (.schedulePatched clock place) = some (.schedule clock merged) := by
    rw [operation?, waiting]
    rfl
  obtain ⟨saves, handle?, result⟩ := schedule_saves later.numbered (Prod.ext scheduled rfl)
  rw [named] at saves result
  have lays : patch.Lays read replaced saved := by
    rw [result, held, laid]
    refine JobPatch.lays_requested ?_ handle? clock.now
    rw [← laid, named, later.keyed id replaced held]
  refine ⟨read, replaced, record, held, by rw [perform_operation carried]; exact saves, lays, ?_⟩
  intro quiet
  obtain ⟨after, stored, same⟩ := evolves_keeps_definition keyed' between still quiet
  rw [held] at stored
  cases stored
  exact lays.leavesRest same

/-- A job that fires every minute from one minute on. -/
def everyMinute : Job :=
  { Job.once "job" ⟨60, 0⟩ with trigger := .interval ⟨⟨60, 0⟩, none, 0, 0, 60000, some ⟨60, 0⟩⟩ }

/-- A process in which the job was claimed for its first firing and executes. -/
def executingEveryMinute : Process :=
  (ofScheduler .vacant).performAll [
    .operate (.schedule ⟨⟨0, 0⟩, 0⟩ everyMinute), .elapse 1, .claim 0]

/-- The patch that raises the priority of a job. -/
def raisePriority : JobPatch := { JobPatch.empty with priority? := some 7 }

/-- A patch overtaken by a failed execution keeps the failure on record. -/
theorem patches_change_what_they_name_after_a_failure :
    let q := (executingEveryMinute.perform (.readPatch "job" raisePriority)).perform
      (.complete 0 ⟨⟨61, 0⟩, 0⟩ (.ok (.failure ⟨61, 0⟩ "job" "refused")))
    ∃ replaced saved, q.scheduler.record? "job" = some replaced ∧
      (q.perform (.schedulePatched ⟨⟨61, 0⟩, 0⟩ 0)).scheduler.record? "job" = some saved ∧
      raisePriority.LeavesRest replaced saved ∧ saved.retries = 1 ∧ saved.priority = 7 := by
  intro q
  let merged : Job :=
    { everyMinute with priority := 7, handle? := some (.issued 1), lastUpdate? := some ⟨0, 0⟩ }
  let saved : Job := { merged with
    status := .retry
    retries := 1
    handle? := some (.issued 3)
    lastUpdate? := some ⟨61, 0⟩ }
  have ran : Reaches (fun _ => True) (ofScheduler .vacant) executingEveryMinute :=
    reaches_performAll _ _ fun _ _ => trivial
  have keyed : executingEveryMinute.scheduler.Keyed :=
    keyed_reaches begins_vacant.owned.toKeyed ran
  have made : (executingEveryMinute.scheduler.patched "job" raisePriority).1 = .ok merged :=
    ok_of_toOption (by decide +kernel)
  have scheduled : (q.scheduler.schedule ⟨⟨61, 0⟩, 0⟩ merged).1 = .ok saved :=
    ok_of_toOption (by decide +kernel)
  have between : Evolves (fun p action => !redefines "job" p action)
      (executingEveryMinute.perform (.readPatch "job" raisePriority)) q :=
    .step .refl (by decide +kernel)
  have waiting : q.patched[0]? = some merged := by decide +kernel
  obtain ⟨_, replaced, _, held, stored, _, rest⟩ :=
    patches_change_what_they_name keyed made between waiting scheduled
  exact ⟨replaced, saved, held, stored, rest fun p action => by simp, rfl, rfl⟩

/-- A patch that does not name the trigger, overtaken by a successful execution, moves the trigger back
to the firing that was executed. -/
theorem patches_lose_overtaking_successes :
    let p := executingEveryMinute
    let q := (p.perform (.readPatch "job" raisePriority)).perform
      (.complete 0 ⟨⟨61, 0⟩, 0⟩ (.ok (.success ⟨61, 0⟩ "job")))
    let r := q.perform (.schedulePatched ⟨⟨61, 0⟩, 0⟩ 0)
    raisePriority.trigger? = none ∧
      (q.patched.map fun merged => (q.scheduler.schedule ⟨⟨61, 0⟩, 0⟩ merged).1.isOk) = [true] ∧
      (q.scheduler.record? "job").map (fun job => (job.executions, job.next?)) =
        some (1, some ⟨120, 0⟩) ∧
      (r.scheduler.record? "job").map (fun job => (job.executions, job.next?)) =
        some (1, some ⟨60, 0⟩) := by
  decide +kernel

end Process

end Punctual
