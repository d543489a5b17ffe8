import Punctual.Proofs.Admissions
import Punctual.Proofs.Remainders

/-!
What recovery makes of a job, while no call on the store or the timer service fails. An active job
without an entry in the index is armed, deferred or ended in error, and then the scan has nothing more to
do for it until its time comes. Only such a job is ended as has nothing pending, or whose remaining
firings were all missed.
-/
namespace Punctual

theorem Instant.IsReading.valid {t : Instant} (reading : t.IsReading) : t.Valid where
  inRange := reading.inRange
  nano := by
    have plain := Instant.isLeap_eq_false.mp reading.plain
    omega

theorem SchedulerConfig.le_scanEnd {c : SchedulerConfig} {now : Instant} (reading : now.IsReading) :
    now ≤ c.scanEnd now := by
  refine c.within_scan reading reading ⟨le_rfl, ?_⟩
  exact Instant.le_shift reading.plain (Int.mul_nonneg (Int.natCast_nonneg _) (Int.natCast_nonneg _))

namespace Scheduler

variable {s t : Scheduler} {id : JobId} {job saved : Job} {trigger : Trigger} {clock : Clock}
  {now due fire horizon : Instant}

/-- A firing that was missed is made up for at once. -/
def MakesUp (s : Scheduler) (now : Instant) (saved : Job) : Prop :=
  ∃ fire, saved.next? = some fire ∧ s.config.Misses now fire ∧
    (saved.status = .retry ∨ s.config.forceExpired = true)

/-- How recovery leaves a job: armed for an instant up to the horizon, or active but without a timer, as
its next firing lies beyond the horizon, or ended in error. -/
inductive Leaves (s : Scheduler) (now horizon : Instant) (saved : Job) (t : Scheduler) : Prop
  | armed {due : Instant} (active : saved.status.isActive = true) (reached : due ≤ horizon)
    (dated : saved.next? = some due ∨ due = now ∧ MakesUp s now saved) (timed : Timed s now due saved t)
  | deferred {fire : Instant} (active : saved.status.isActive = true) (next : saved.next? = some fire)
    (beyond : horizon < fire) (untimed : Untimed s saved t)
  | ended (ended : saved.status = .error) (untimed : Untimed s saved t)

/-- The trigger is the job's after the firings that were missed. -/
def PassesOver (s : Scheduler) (now : Instant) (job : Job) (trigger : Trigger) : Prop :=
  ∃ limit, now.shift? (-(s.config.toleranceMs * nanosPerMilli)) = some limit ∧
    job.trigger.skipUntil? limit = some trigger

/-- The job was to fire as scheduled, and everything that its trigger still delivers was missed. -/
structure AllMissed (s : Scheduler) (now : Instant) (job : Job) : Prop where
  scheduled : job.status = .scheduled
  unforced : s.config.forceExpired = false
  missed : ∀ instant, job.trigger.Delivers instant → s.config.Misses now instant

/-- What comes of recovering a job: what is answered and stored, and how the scheduler is left. -/
structure Recovered (s : Scheduler) (clock : Clock) (job : Job) (answer : Recovery) (saved : Job)
    (t : Scheduler) : Prop extends Replaces s saved t where
  told : answer = .admitted saved ∨ answer = .fastForwarded saved ∨ answer = .abandoned saved
  leaves : Leaves s clock.now (s.config.reach clock.now) saved t
  settled : ¬ (saved.status.isActive = true ∧ t.armed? saved.id = none ∧
    ∃ fire, saved.next? = some fire ∧ t.config.Misses clock.now fire)
  abandons : answer = .abandoned saved → job.next? = none ∨ AllMissed s clock.now job
  passes : answer = .fastForwarded saved → PassesOver s clock.now job saved.trigger
  stays : answer ≠ .fastForwarded saved → saved.trigger = job.trigger
  ends : answer = .abandoned saved → saved.status = .error
  keeps : answer ≠ .abandoned saved → saved.status = job.status
  kept : saved = { job with
    trigger := saved.trigger, status := saved.status, handle? := saved.handle?,
    lastUpdate? := some clock.now }

/-! ## Jobs that are admitted -/

/-- An active job that is placed for its next firing, or for now, is left in one of the three ways. -/
theorem Places.leaves (places : Places s now due horizon saved t) (soon : now ≤ horizon)
    (active : saved.status.isActive = true)
    (dated : saved.next? = some due ∨ due = now ∧ MakesUp s now saved) :
    Leaves s now horizon saved t := by
  by_cases beyond : horizon < due
  · rcases dated with next | ⟨rfl, _⟩
    · exact .deferred active next beyond (places.beyond beyond)
    · exact absurd beyond (not_lt_of_ge soon)
  · have reached := not_lt.mp beyond
    exact .armed active reached dated (places.within reached)

/-- However a job is left, it does not wait for a firing that was missed. -/
theorem Leaves.settled (leaves : Leaves s now horizon saved t) (reading : now.IsReading)
    (soon : now ≤ horizon) (config : t.config = s.config) :
    ¬ (saved.status.isActive = true ∧ t.armed? saved.id = none ∧
      ∃ fire, saved.next? = some fire ∧ t.config.Misses now fire) := by
  rintro ⟨active, unarmed, fire, next, missed⟩
  cases leaves with
  | armed _ _ _ timed => cases timed.entry.symm.trans unarmed
  | @deferred later _ next' beyond _ =>
    cases next.symm.trans next'
    rw [config, ← SchedulerConfig.isExpired_iff reading.valid,
      SchedulerConfig.not_expired reading (lt_of_le_of_lt soon beyond)] at missed
    cases missed
  | ended ended _ =>
    rw [ended] at active
    cases active

theorem resume_recovered (keyed : Keyed s) (reliable : s.Reliable) (reading : clock.now.IsReading)
    (active : job.status.isActive = true)
    (dated : trigger.next? = some due ∨ due = clock.now ∧ MakesUp s clock.now { job with trigger })
    {answer : Job → Recovery}
    (told : answer = .admitted ∧ trigger = job.trigger ∨
      answer = .fastForwarded ∧ PassesOver s clock.now job trigger) :
    ∃ saved t, (s.freed (s.record? job.id)).resume clock { job with trigger } due answer =
      (.ok (answer saved), t) ∧ Recovered s clock job (answer saved) saved t := by
  have soon := s.config.le_scanEnd reading
  obtain ⟨handle?, t, same, places⟩ := armOrDefer_places keyed reliable clock { job with trigger } due
    (s.config.scanEnd clock.now)
  have leaves := places.leaves soon active dated
  have settled := leaves.settled reading soon places.config
  rw [SchedulerConfig.scanEnd_eq reading.valid] at leaves
  have continues : ∀ {saved}, answer saved ≠ .abandoned saved := by
    intro saved abandoned
    rcases told with ⟨rfl, _⟩ | ⟨rfl, _⟩ <;> cases abandoned
  refine ⟨{ job with trigger }.stamped handle? clock.now, t, ?_, ?_⟩
  · rw [resume, freed_config, same]
  · constructor
    case toReplaces => exact places.toReplaces
    case leaves => exact leaves
    case settled => exact settled
    case kept => rfl
    case told => rcases told with ⟨rfl, _⟩ | ⟨rfl, _⟩ <;> simp
    case keeps => exact fun _ => rfl
    case abandons => exact fun abandoned => absurd abandoned continues
    case ends => exact fun abandoned => absurd abandoned continues
    case passes =>
      intro forwarded
      rcases told with ⟨rfl, _⟩ | ⟨_, passes⟩
      · cases forwarded
      · exact passes
    case stays =>
      intro unforwarded
      rcases told with ⟨_, unmoved⟩ | ⟨rfl, _⟩
      · exact unmoved
      · exact absurd rfl unforwarded

/-! ## Jobs that are ended -/

theorem abandon_recovered (keyed : Keyed s) (reliable : s.Reliable) (reading : clock.now.IsReading)
    (record : s.record? job.id = some job)
    (spent : job.next? = none ∨ AllMissed s clock.now job) :
    ∃ saved t, (s.freed (s.record? job.id)).abandon clock job = (.ok (.abandoned saved), t) ∧
      Recovered s clock job (.abandoned saved) saved t := by
  have gone : (s.freed (s.record? job.id)).armed? job.id = none := by
    rw [record, freed, disarm_entry]
    exact if_pos rfl
  obtain ⟨t, same, replaces, untimed⟩ := writeUnarmed_replaces keyed reliable clock
    { job with status := .error } gone fun _ _ => rfl
  have leaves : Leaves s clock.now (s.config.scanEnd clock.now) _ t := .ended rfl untimed
  have settled := leaves.settled reading (s.config.le_scanEnd reading) replaces.config
  rw [SchedulerConfig.scanEnd_eq reading.valid] at leaves
  refine ⟨{ job with status := .error }.stamped none clock.now, t, ?_, ?_⟩
  · rw [abandon, same]
  · constructor
    case toReplaces => exact replaces
    case leaves => exact leaves
    case settled => exact settled
    case kept => rfl
    case told => exact .inr (.inr rfl)
    case abandons => exact fun _ => spent
    case stays => exact fun _ => rfl
    case ends => exact fun _ => rfl
    case keeps => exact fun unended => absurd rfl unended
    case passes =>
      intro forwarded
      cases forwarded

/-- Where passing over the missed firings leaves nothing pending, everything that was left was missed. -/
theorem allMissed_of_passed (reading : clock.now.IsReading) {limit : Instant}
    (moved : clock.now.shift? (-(s.config.toleranceMs * nanosPerMilli)) = some limit)
    (sooner : limit ≤ clock.now) (reachable : job.trigger.Reachable)
    (representable : job.trigger.RepresentableUpTo clock.now)
    (passed : job.trigger.skipUntil? limit = some trigger) (spent : trigger.next? = none)
    (scheduled : job.status = .scheduled) (unforced : s.config.forceExpired = false) :
    AllMissed s clock.now job where
  scheduled := scheduled
  unforced := unforced
  missed instant delivers := by
    have valid := Instant.shift_valid moved
    have plain : limit.isLeap = false := by
      rw [(Instant.shift?_eq_some moved).1]
      exact Instant.shift_plain reading.plain _
    exact ⟨limit, moved, reachable.delivers_lt representable sooner valid plain passed spent delivers⟩

theorem fastForward_recovered (keyed : Keyed s) (reliable : s.Reliable)
    (reading : clock.now.IsReading) (record : s.record? job.id = some job)
    (scheduled : job.status = .scheduled) (unforced : s.config.forceExpired = false)
    {limit : Instant}
    (moved : clock.now.shift? (-(s.config.toleranceMs * nanosPerMilli)) = some limit)
    (reachable : job.trigger.Reachable) (representable : job.trigger.RepresentableUpTo clock.now) :
    ∃ answer saved t, (s.freed (s.record? job.id)).fastForward clock job = (.ok answer, t) ∧
      Recovered s clock job answer saved t := by
  have active : job.status.isActive = true := by
    rw [scheduled]
    rfl
  have sooner : limit ≤ clock.now := by
    rw [(Instant.shift?_eq_some moved).1]
    have tolerance := Int.mul_nonneg (Int.natCast_nonneg s.config.toleranceMs)
      (Int.natCast_nonneg nanosPerMilli)
    exact Instant.shift_le reading.plain (by omega)
  obtain ⟨trigger, passed⟩ := reachable.skip_answers representable sooner
  unfold fastForward
  rw [freed_config, SchedulerConfig.missedBefore_eq reading.valid, moved]
  simp only [Option.getD_some, passed]
  cases later : trigger.next? with
  | some fire =>
    obtain ⟨saved, t, same, recovered⟩ := resume_recovered keyed reliable reading active
      (.inl later) (.inr ⟨rfl, limit, moved, passed⟩)
    exact ⟨_, saved, t, same, recovered⟩
  | none =>
    have spent := allMissed_of_passed reading moved sooner reachable representable passed later
      scheduled unforced
    obtain ⟨saved, t, same, recovered⟩ := abandon_recovered keyed reliable reading record (.inr spent)
    exact ⟨_, saved, t, same, recovered⟩

/-! ## Recovery -/

/-- A job is taken up in one of three ways, as its next firing was missed or not. -/
theorem takeUp_recovered (keyed : Keyed s) (reliable : s.Reliable) (reading : clock.now.IsReading)
    (record : s.record? job.id = some job) (active : job.status.isActive = true)
    (reachable : job.trigger.Reachable) (representable : job.trigger.RepresentableUpTo clock.now) :
    ∃ answer saved t, (s.freed (s.record? job.id)).takeUp clock job = (.ok answer, t) ∧
      Recovered s clock job answer saved t := by
  unfold takeUp
  cases next : job.next? with
  | none =>
    obtain ⟨saved, t, same, recovered⟩ := abandon_recovered keyed reliable reading record (.inl next)
    exact ⟨_, saved, t, same, recovered⟩
  | some fire =>
    dsimp only
    rw [freed_config]
    cases missed : s.config.isExpired clock.now fire with
    | false =>
      have dated : job.trigger.next? = some fire := next
      obtain ⟨saved, t, same, recovered⟩ := resume_recovered keyed reliable reading active
        (.inl dated) (.inl ⟨rfl, rfl⟩)
      exact ⟨_, saved, t, same, recovered⟩
    | true =>
      have misses := (SchedulerConfig.isExpired_iff reading.valid).mp missed
      simp only [Bool.not_true, Bool.false_eq_true, ↓reduceIte]
      split
      · rename_i waived
        obtain ⟨saved, t, same, recovered⟩ := resume_recovered keyed reliable reading active
          (.inr ⟨rfl, fire, next, misses, waived⟩) (.inl ⟨rfl, rfl⟩)
        exact ⟨_, saved, t, same, recovered⟩
      · rename_i unwaived
        obtain ⟨unretried, unforced⟩ := not_or.mp unwaived
        have scheduled : job.status = .scheduled := by
          revert active unretried
          cases job.status <;> simp [JobStatus.isActive, JobStatus.isTerminal]
        obtain ⟨limit, moved, _⟩ := misses
        exact fastForward_recovered keyed reliable reading record scheduled (by simpa using unforced)
          moved reachable representable

theorem recover_eq_takeUp (keyed : Keyed s) (reliable : s.Reliable) (record : s.record? id = some job)
    (active : job.status.isActive = true) (unarmed : s.armed? id = none) :
    s.recover clock id = (s.freed (s.record? job.id)).takeUp clock job := by
  rw [recover_reliable reliable record active unarmed, keyed.keyed id job record, record, freed]

/-- While no call fails, an active job that is not armed here is admitted, or admitted past the firings
that it missed, or ended in error, the last only if no firing was left to it. The zones are those of
`Zone.Table` and have `Zone.steady`. -/
theorem every_recovery_settles_its_job (keyed : Keyed s) (reliable : s.Reliable)
    (reading : clock.now.IsReading) (record : s.record? id = some job)
    (active : job.status.isActive = true) (unarmed : s.armed? id = none)
    (reachable : job.trigger.Reachable) (representable : job.trigger.RepresentableUpTo clock.now) :
    ∃ answer saved t, s.recover clock id = (.ok answer, t) ∧
      Recovered s clock job answer saved t := by
  have named := keyed.keyed id job record
  rw [recover_eq_takeUp keyed reliable record active unarmed]
  rw [← named] at record
  exact takeUp_recovered keyed reliable reading record active reachable representable

/-- A job that fires every hour from 01:00 on. -/
def hourly (id : JobId) : Job :=
  { Job.once id ⟨3600, 0⟩ with
    trigger := .interval ⟨⟨3600, 0⟩, none, 0, 0, 3600000, some ⟨3600, 0⟩⟩ }

theorem hourly_reachable (id : JobId) : (hourly id).trigger.Reachable := by
  have made : Trigger.newInterval ⟨3600, 0⟩ none 0 3600000 = .ok (hourly id).trigger := rfl
  exact Trigger.Fresh.reachable (.repeating (.interval made (by decide))) rfl
    ⟨by decide, by decide⟩

/-- Such a job, which waits for a scan since 00:00, is armed at 02:50 for 03:00, its firings at 01:00 and
02:00 having been missed. -/
theorem missed_hours_are_recovered :
    let deferred := (vacant.schedule ⟨⟨0, 0⟩, 0⟩ (hourly "job")).2
    (∃ answer saved t, deferred.recover ⟨⟨10200, 0⟩, 0⟩ "job" = (.ok answer, t) ∧
      Recovered deferred ⟨⟨10200, 0⟩, 0⟩ ((hourly "job").stamped none ⟨0, 0⟩) answer saved t) ∧
    (deferred.recover ⟨⟨10200, 0⟩, 0⟩ "job").1.toOption = some (.fastForwarded { hourly "job" with
      trigger := .interval ⟨⟨3600, 0⟩, none, 0, 2, 3600000, some ⟨10800, 0⟩⟩
      handle? := some (.issued 1), lastUpdate? := some ⟨10200, 0⟩ }) ∧
    (deferred.recover ⟨⟨10200, 0⟩, 0⟩ "job").2.timers.delays = [600000000000] := by
  intro deferred
  obtain ⟨keyed, reliable⟩ := schedule_ready vacant_ready ⟨⟨0, 0⟩, 0⟩ (hourly "job")
  have representable : (hourly "job").trigger.RepresentableUpTo ⟨10200, 0⟩ := by
    intro timer current same
    cases same
  refine ⟨every_recovery_settles_its_job keyed reliable ⟨by decide, by decide⟩ ?_ ?_ ?_
    (hourly_reachable "job") representable, ?_, ?_⟩
  · decide +kernel
  · decide +kernel
  · decide +kernel
  · decide +kernel
  · decide +kernel

end Scheduler

end Punctual
