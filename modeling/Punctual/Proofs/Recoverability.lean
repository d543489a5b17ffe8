import Punctual.Proofs.Agreement
import Punctual.Proofs.FailedRequests
import Punctual.Proofs.Overflow
import Punctual.Proofs.Records
import Punctual.Proofs.Scans

/-!
Recovery of jobs that were read from records. As long as no interval comes in with a period of zero, and
no simple timer with a start less than two days within the range, every trigger that is stored at any
time is one on which each calculation has an answer. Recovery then readmits a job or ends it, unless a
call on the store or the timer service fails, and a scan without such failures fails for no job.

A period of zero is read and accepted like any other. The job goes well while its firings are not
missed; after that every recovery of it breaks off and leaves it as it is.
-/
namespace Punctual

open Scheduler

/-- Firings before this instant are passed over. -/
def SchedulerConfig.threshold (c : SchedulerConfig) (now : Instant) : Instant :=
  (c.missedBefore? now).getD now

theorem SchedulerConfig.threshold_valid {c : SchedulerConfig} {now : Instant} (reading : now.Valid) :
    (c.threshold now).Valid := by
  unfold threshold
  cases missed : c.missedBefore? now with
  | none => exact reading
  | some before => exact Instant.shift_valid missed

theorem Trigger.Usable.over {before after : Trigger} (usable : before.Usable)
    (passed : before.PassedOver after) : after.Usable := by
  rcases passed with rfl | ⟨threshold, skipped⟩
  · exact usable
  · obtain ⟨found, answer, still⟩ := usable.skip threshold
    rw [skipped] at answer
    cases answer
    exact still

/-! ## One recovery -/

namespace Scheduler

variable {s t : Scheduler} {id : JobId} {job : Job} {clock : Clock} {due : Instant}

/-- What comes of a job that is taken up: it is readmitted with a firing ahead, or ends in error, or a
call on the store or the timer service fails. -/
inductive Recovers (s : Scheduler) (id : JobId) : Except SchedulerError Recovery × Scheduler → Prop
  | readmitted {answer : Recovery} {job : Job} {t : Scheduler}
    (told : answer = .admitted job ∨ answer = .fastForwarded job) (record : t.record? id = some job)
    (active : job.status.isActive = true) (ahead : job.next?.isSome = true) : Recovers s id (.ok answer, t)
  | abandoned {job : Job} {t : Scheduler} (record : t.record? id = some job)
    (ended : job.status = .error) : Recovers s id (.ok (.abandoned job), t)
  | failed {e : SchedulerError} {t : Scheduler} (fault : e.isFault = true) (fails : ¬ s.Reliable) :
    Recovers s id (.error e, t)

theorem resume_recovers (numbered : s.timers.Numbered) (active : job.status.isActive = true)
    (ahead : job.next?.isSome = true) {answer : Job → Recovery}
    (told : ∀ saved, answer saved = .admitted saved ∨ answer saved = .fastForwarded saved) :
    Recovers s job.id (s.resume clock job due answer) := by
  have settles : Settles s clock.now job (s.armOrDefer clock job due (s.config.scanEnd clock.now)) :=
    armOrDefer_settles numbered active
  unfold resume
  cases same : s.armOrDefer clock job due (s.config.scanEnd clock.now) with
  | mk result t =>
    rw [same] at settles
    cases result with
    | error e =>
      have fault : e.isFault = true := armOrDefer_fault (congrArg Prod.fst same)
      exact .failed fault settles.fails
    | ok saved =>
      rcases settles.answers with ⟨e, refused, _⟩ | ⟨handle?, stored, record⟩
      · cases refused
      · cases stored
        exact .readmitted (told _) record active ahead

theorem abandon_recovers (s : Scheduler) (clock : Clock) (job : Job) :
    Recovers s job.id (s.abandon clock job) := by
  unfold abandon
  rcases writeUnarmed_cases s clock { job with status := .error } with
    ⟨e, t, same, _, fails⟩ | ⟨store, same, record, _⟩
  · rw [same]
    have fault : e.isFault = true := write_fault (congrArg Prod.fst same)
    exact .failed fault fails
  · rw [same]
    exact .abandoned ((record job.id).trans (if_pos rfl)) rfl

/-- Firings that were missed can be passed over. -/
theorem takeUp_recovers (numbered : s.timers.Numbered) (active : job.status.isActive = true)
    (usable : job.trigger.Usable) : Recovers s job.id (s.takeUp clock job) := by
  unfold takeUp
  cases next : job.next? with
  | none => exact s.abandon_recovers clock job
  | some fire =>
    have ahead : job.next?.isSome = true := by rw [next]; rfl
    dsimp only
    split
    · exact resume_recovers numbered active ahead fun _ => .inl rfl
    split
    · exact resume_recovers numbered active ahead fun _ => .inl rfl
    obtain ⟨trigger, skipped, _⟩ := usable.skip (s.config.threshold clock.now)
    simp only [SchedulerConfig.threshold] at skipped
    simp only [fastForward, skipped]
    cases later : trigger.next? with
    | none => exact s.abandon_recovers clock job
    | some fire =>
      have ahead : ({ job with trigger } : Job).next?.isSome = true := by
        change trigger.next?.isSome = true
        rw [later]
        rfl
      have active : ({ job with trigger } : Job).status.isActive = true := active
      exact resume_recovers numbered active ahead fun _ => .inr rfl

/-- The records are kept under their ids, and on every trigger in them each calculation has an
answer. -/
structure Calculable (s : Scheduler) : Prop extends Keyed s where
  usable : ∀ id job, s.record? id = some job → job.trigger.Usable

theorem read_fails {e : SchedulerError} (unread : s.read id = (.error e, t)) :
    e.isFault = true ∧ ¬ s.Reliable := by
  refine ⟨read_fault (congrArg Prod.fst unread), fun reliable => ?_⟩
  simp [read_reliable reliable] at unread

theorem Calculable.recovers (calculable : Calculable s) (record : s.record? id = some job)
    (active : job.status.isActive = true) (unarmed : s.armed? id = none) (clock : Clock) :
    Recovers s id (s.recover clock id) := by
  have named := calculable.keyed id job record
  have usable := calculable.usable id job record
  rcases recover_cases s clock id with
    ⟨e, t, same, _, unread⟩ | ⟨t, _, _, left⟩ | ⟨t, found, unchanged, held, _, _, same⟩
  · obtain ⟨fault, fails⟩ := read_fails unread
    rw [same]
    exact .failed fault fails
  · exact absurd unarmed (left job record active)
  · rw [record] at held
    cases held
    have numbered := (unchanged.numbered calculable.numbered).shrink (disarm_timers t job)
    have recovers : Recovers (t.disarm job) job.id ((t.disarm job).takeUp clock job) :=
      takeUp_recovers numbered active usable
    rw [same]
    rw [named] at recovers
    generalize (t.disarm job).takeUp clock job = answer at recovers ⊢
    cases recovers with
    | readmitted told record active ahead => exact .readmitted told record active ahead
    | abandoned record ended => exact .abandoned record ended
    | failed fault fails =>
      exact .failed fault fun reliable => fails (disarm_reliable job (unchanged.reliable reliable))

/-- Only failing calls keep recovery from an answer. -/
theorem Calculable.recover_fails (calculable : Calculable s) {e : SchedulerError}
    (failed : (s.recover clock id).1 = .error e) : e.isFault = true ∧ ¬ s.Reliable := by
  rcases recover_cases s clock id with
    ⟨e, t, same, _, unread⟩ | ⟨t, same, _⟩ | ⟨t, job, _, record, active, unarmed, _⟩
  · rw [same] at failed
    cases failed
    exact read_fails unread
  · rw [same] at failed
    cases failed
  · have recovers := calculable.recovers record active unarmed clock
    generalize s.recover clock id = answer at recovers failed
    cases recovers with
    | readmitted _ _ _ _ => cases failed
    | abandoned _ _ => cases failed
    | failed fault fails =>
      cases failed
      exact ⟨fault, fails⟩

/-- Recovery breaks off where firings of an interval with a period of zero were missed, and the job is
left to the next recovery as it is. -/
theorem recover_stuck (reliable : s.Reliable) (record : s.record? id = some job)
    (unarmed : s.armed? id = none) (scheduled : job.status = .scheduled) {t : Interval} {fire : Instant}
    (repeats : job.trigger = .interval t) (zero : t.periodMs = 0) (next : t.next? = some fire)
    (missed : s.config.isExpired clock.now fire = true) (unforced : s.config.forceExpired = false) :
    s.recover clock id = (.error (.stuck job.id), s.disarm job) := by
  have active : job.status.isActive = true := by rw [scheduled]; rfl
  have ahead : job.next? = some fire := by simp [Job.next?, repeats, Trigger.next?, next]
  have skipped : job.trigger.skipUntil? (s.config.threshold clock.now) = none := by
    obtain ⟨before, held, late⟩ := (Option.any_eq_true ..).mp missed
    have same : s.config.threshold clock.now = before := by simp [SchedulerConfig.threshold, held]
    have late : ¬ before ≤ fire := not_le_of_gt (of_decide_eq_true late)
    simp [same, repeats, Trigger.skipUntil?, Interval.skipUntil?, next, late, zero]
  simp only [SchedulerConfig.threshold] at skipped
  have still : (s.disarm job).config = s.config := rfl
  rw [recover_reliable reliable record active unarmed]
  simp [takeUp, ahead, fastForward, still, missed, unforced, scheduled, skipped]

theorem requested_trigger (stored? : Option Job) (incoming : Job) :
    (requested stored? incoming).trigger = incoming.trigger := by
  cases stored? <;> rfl

end Scheduler

/-! ## Runs -/

namespace Process

variable {p q : Process} {action : Action} {clock : Clock} {id : JobId} {job : Job}

/-- Jobs and patches come in only as they are read from records, with triggers that can start. -/
def Brings : Action → Prop
  | .operate (.schedule _ job) => (∃ j, Job.ofJson? j = some job) ∧ job.trigger.Startable
  | .readPatch _ patch => (∃ j, JobPatch.ofJson? j = some patch) ∧
      ∀ trigger, patch.trigger? = some trigger → trigger.Startable
  | _ => True

/-- On every trigger that is stored, or that a patch is about to store, each calculation has an answer. -/
structure Calculable (p : Process) : Prop where
  scheduler : p.scheduler.Calculable
  patched : ∀ job ∈ p.patched, job.trigger.Usable

/-- What a patch makes has the record's trigger or the one that the patch brings. -/
theorem Calculable.patch (calculable : Calculable p) {patch : JobPatch}
    (brings : Brings (.readPatch id patch)) (made : (p.scheduler.patched id patch).1 = .ok job) :
    job.trigger.Usable := by
  obtain ⟨⟨j, read⟩, startable⟩ := brings
  obtain ⟨_, stored, record, rfl⟩ := patched_made made
  cases named : patch.trigger? with
  | none =>
    have kept : (stored.merge patch).trigger = stored.trigger := by simp [Job.merge, named]
    rw [kept]
    exact calculable.scheduler.usable id stored record
  | some trigger =>
    have replaced : (stored.merge patch).trigger = trigger := by simp [Job.merge, named]
    rw [replaced]
    exact (startable trigger named).usable (JobPatch.ofJson_trigger read named)

/-- Operations make triggers of those there are, but for the ones that are brought in. -/
theorem Calculable.makes (calculable : Calculable p) (brings : Brings action) {operation : Operation}
    (carried : p.operation? action = some operation) (makes : Makes p.scheduler operation job) :
    job.trigger.Usable := by
  have stored : ∀ {id : JobId} {before : Job}, p.scheduler.record? id = some before →
      before.trigger.Usable := fun record => calculable.scheduler.usable _ _ record
  cases makes with
  | @requested clock incoming due _ _ =>
    rw [requested_trigger]
    rcases operation_schedules carried with asked | made
    · subst asked
      obtain ⟨⟨j, read⟩, startable⟩ := brings
      exact startable.usable (Job.ofJson_trigger read)
    · exact calculable.patched incoming made
  | canceled record _ =>
    have usable := stored record
    exact usable
  | abandoned record _ _ _ =>
    have usable := stored record
    exact usable
  | resumed record _ _ passed _ => exact (stored record).over passed

theorem Calculable.perform (calculable : Calculable p) (brings : Brings action) :
    Calculable (p.perform action) := by
  have keyed := calculable.scheduler.toKeyed
  refine ⟨⟨perform_keyed keyed action, ?_⟩, ?_⟩
  · intro id job record
    have moved := (perform_moves p action).record_moves keyed id
    rw [record] at moved
    generalize same : some job = after? at moved
    cases moved with
    | kept => exact calculable.scheduler.usable id job same.symm
    | operated carried _ makes =>
      cases same
      have usable := calculable.makes brings carried makes
      exact usable
    | @concluded _ _ outcome _ before _ _ _ _ _ held _ answers =>
      cases same
      have usable := calculable.scheduler.usable id before held
      cases succeeded : hasSucceeded outcome with
      | true =>
        obtain ⟨taken?, advances⟩ := answers succeeded
        exact usable.advance advances
      | false => exact usable
  · intro job member
    rcases patched_perform member with before | ⟨id, patch, reads, made⟩
    · exact calculable.patched job before
    · subst reads
      exact calculable.patch brings made

end Process

/-! ## Scans -/

namespace Scheduler

variable {s : Scheduler} {clock : Clock}

theorem Calculable.recover (calculable : Calculable s) (clock : Clock) (id : JobId) :
    Calculable (s.recover clock id).2 := by
  have initially : (Process.ofScheduler s).Calculable := ⟨calculable, by simp [Process.ofScheduler]⟩
  have after : ((Process.ofScheduler s).perform (.operate (.recover clock id))).Calculable :=
    initially.perform trivial
  exact after.scheduler

/-- One recovery after the other, without a failing call none fails. -/
theorem Calculable.recoverEach_failed (calculable : Calculable s) (reliable : s.Reliable)
    (order : List JobId) (report : ScanReport) :
    (s.recoverEach clock order report).1.failed = report.failed := by
  induction order generalizing s report with
  | nil => rfl
  | cons id rest ih =>
    have operates := recover_operates calculable.numbered clock (calculable.keyed id)
    have later := ih (calculable.recover clock id) (operates.reliable reliable)
      (report.note (s.recover clock id).1)
    have noted : (report.note (s.recover clock id).1).failed = report.failed := by
      cases answer : (s.recover clock id).1 with
      | error e => exact absurd reliable (calculable.recover_fails answer).2
      | ok recovery => cases recovery <;> rfl
    exact later.trans noted

/-- Without a failing call a scan ends, and fails for no job. -/
theorem Calculable.scan_fails_none (calculable : Calculable s) (reliable : s.Reliable) (clock : Clock) :
    ∃ report, (s.scan clock).1 = .ok report ∧ report.failed = 0 := by
  obtain ⟨found, scanned⟩ := scanned_of_reliable reliable clock.now
  rw [scan_eq scanned]
  refine ⟨_, rfl, ?_⟩
  exact (calculable.recoverEach_failed reliable _ _).trans (s.tally_failed found)

/-- At a clock's reading recovery does not break: the calculations on stored triggers have answers, which
are those of the unbounded numbers; only failing calls keep recovery from its answer; every active job
that is not armed is readmitted or ended; and scans without failing calls fail for no job. -/
structure Unbroken (s : Scheduler) (clock : Clock) : Prop where
  advances : ∀ id job, s.record? id = some job → ∃ taken? after,
    job.trigger.advance? = some (taken?, after)
  skips : ∀ id job, s.record? id = some job → ∃ after,
    job.trigger.checkedSkip? (s.config.threshold clock.now) = some after ∧
      job.trigger.skipUntil? (s.config.threshold clock.now) = some after
  fails : ∀ id e, (s.recover clock id).1 = .error e → e.isFault = true ∧ ¬ s.Reliable
  recovers : ∀ id job, s.record? id = some job → job.status.isActive = true → s.armed? id = none →
    Recovers s id (s.recover clock id)
  scans : s.Reliable → ∃ report, (s.scan clock).1 = .ok report ∧ report.failed = 0

end Scheduler

namespace Process

variable {s : Scheduler} {q : Process} {clock : Clock}

/-- From an empty store on, whatever else is done and fails, recovery does not break on any job. -/
theorem recovery_never_breaks (begins : BeginsEmpty (ofScheduler s))
    (run : Reaches Brings (ofScheduler s) q) (reading : clock.now.Valid) :
    Unbroken q.scheduler clock := by
  have initially : Calculable (ofScheduler s) := by
    refine ⟨⟨begins.begins.owned.toKeyed, ?_⟩, by simp [ofScheduler]⟩
    intro id job record
    rw [begins.unstored] at record
    cases record
  have calculable : Calculable q :=
    run.invariant Calculable initially fun _ _ brings calculable => calculable.perform brings
  have threshold := q.scheduler.config.threshold_valid reading
  constructor
  case advances =>
    intro id job record
    exact Trigger.advance_answers (calculable.scheduler.usable id job record).startShows
  case skips =>
    intro id job record
    have usable := calculable.scheduler.usable id job record
    obtain ⟨after, answer, _⟩ := usable.skip (q.scheduler.config.threshold clock.now)
    exact ⟨after, (usable.checkedSkip_eq threshold).trans answer, answer⟩
  case fails => exact fun id e failed => calculable.scheduler.recover_fails failed
  case recovers =>
    intro id job record active unarmed
    exact calculable.scheduler.recovers record active unarmed clock
  case scans => exact fun reliable => calculable.scheduler.scan_fails_none reliable clock

/-- The record of a job that fires every so many milliseconds from 01:00 on. -/
def repeatingRecord (periodMs : Int) : Json := .obj [
  ("id", .str "job"),
  ("recipient", .obj [("type", .str "http"), ("url", .str "http://localhost")]),
  ("trigger", .obj [
    ("next_fire_time", .str "1970-01-01T01:00:00Z"),
    ("period_ms", .int periodMs),
    ("start_time", .str "1970-01-01T01:00:00Z"),
    ("type", .str "interval")])]

/-- A job that fires at a distance without end. -/
def repeating (periodMs : Int) : Job :=
  { Job.once "job" ⟨3600, 0⟩ with
    trigger := .interval ⟨⟨3600, 0⟩, none, 0, 0, periodMs, some ⟨3600, 0⟩⟩ }

/-- The record of a patch by which a job fires every two hours from 01:00 on. -/
def everyTwoHoursRecord : Json := .obj [
  ("trigger", .obj [
    ("next_fire_time", .str "1970-01-01T01:00:00Z"),
    ("period", .int 2),
    ("period_unit", .str "hours"),
    ("repeat_count", .int (-1)),
    ("start_time", .str "1970-01-01T01:00:00Z"),
    ("type", .str "simple_timer"),
    ("zone_id", .str "UTC")])]

/-- A patch that sets the distance to two hours. -/
def everyTwoHours : JobPatch :=
  { JobPatch.empty with
    trigger? := some (.simpleTimer
      ⟨⟨3600, 0⟩, 2, .hours, -1, none, "UTC", some ⟨3600, 0⟩, 0, false⟩) }

/-- A job that was patched, and whose next firing is missed after a change of the configuration, is
readmitted for the firing after the missed ones. -/
theorem recovery_never_breaks_after_missed_firings :
    let q := (ofScheduler .vacant).performAll [
      .operate (.schedule ⟨⟨0, 0⟩, 0⟩ (repeating 60000)), .readPatch "job" everyTwoHours,
      .schedulePatched ⟨⟨60, 0⟩, 0⟩ 0,
      .reconfigure { SchedulerConfig.initial with toleranceMs := 0 }]
    Unbroken q.scheduler ⟨⟨9000, 0⟩, 0⟩ ∧
      ((q.scheduler.recover ⟨⟨9000, 0⟩, 0⟩ "job").1.toOption.map fun recovery =>
        (recovery.name, recovery.job?.bind (·.next?))) = some ("FastForwarded", some ⟨10800, 0⟩) := by
  refine ⟨?_, ?_⟩
  · refine recovery_never_breaks begins_empty_vacant (reaches_performAll _ _ ?_) ⟨by decide, by decide⟩
    intro action member
    simp only [List.mem_cons, List.not_mem_nil, or_false] at member
    rcases member with rfl | rfl | rfl | rfl
    · have read : Job.ofJson? (repeatingRecord 60000) = some (repeating 60000) := by decide +kernel
      exact ⟨⟨_, read⟩, .interval (by decide)⟩
    · have read : JobPatch.ofJson? everyTwoHoursRecord = some everyTwoHours := by decide +kernel
      refine ⟨⟨_, read⟩, ?_⟩
      intro trigger named
      cases named
      exact .simpleTimer ⟨by decide, by decide⟩
    · trivial
    · trivial
  · decide +kernel

/-- An interval with a period of zero is read and accepted. Once its firing is missed, recovery breaks
off and leaves the job scheduled as it is, and scans fail for it one after the other. -/
theorem zero_periods_stop_recovery :
    let accepted := Scheduler.vacant.schedule ⟨⟨0, 0⟩, 0⟩ (repeating 0)
    let recovered := accepted.2.recover ⟨⟨7200, 0⟩, 0⟩ "job"
    let scanned := accepted.2.scan ⟨⟨7200, 0⟩, 0⟩
    Job.ofJson? (repeatingRecord 0) = some (repeating 0) ∧
      accepted.1.toOption.map (·.status) = some .scheduled ∧
      recovered.1 = .error (.stuck "job") ∧
      recovered.2.record? "job" = accepted.2.record? "job" ∧
      scanned.1.toOption.map (·.failed) = some 1 ∧
      (scanned.2.scan ⟨⟨7800, 0⟩, 0⟩).1.toOption.map (·.failed) = some 1 := by
  intro accepted recovered scanned
  have record : accepted.2.record? "job" = some { repeating 0 with
      status := .scheduled, lastUpdate? := some ⟨0, 0⟩ } := by decide +kernel
  have reliable : accepted.2.Reliable :=
    (schedule_operates begins_vacant.owned.numbered ⟨⟨0, 0⟩, 0⟩ (repeating 0)).reliable
      begins_empty_vacant.reliable
  have stuck : recovered = (.error (.stuck "job"), accepted.2.disarm _) :=
    recover_stuck reliable record (by decide +kernel) rfl rfl rfl rfl (by decide +kernel)
      (by decide +kernel)
  refine ⟨?_, ?_, ?_, ?_, ?_, ?_⟩
  · decide +kernel
  · decide +kernel
  · rw [stuck]
  · decide +kernel
  · decide +kernel
  · decide +kernel

end Process

end Punctual
