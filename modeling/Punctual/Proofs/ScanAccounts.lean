import Punctual.Proofs.RecoveryOutcomes

/-!
The account of a scan that nothing else interrupts. It finds every active job due up to its horizon, and
each of them that is not armed here is recovered once, in whatever order; the report adds up. Recovery
leaves none of them for a scan at the same instant, unless it breaks off: then the job is handed over
again and again.
-/
namespace Punctual

/-! ## Jobs that a scan is for -/

/-- A scan at this instant is to find the job: it is to fire, or to be retried, up to the scan's horizon. -/
def SchedulerConfig.seeks (c : SchedulerConfig) (now : Instant) (job : Job) : Bool :=
  (job.status = .scheduled || job.status = .retry) && job.next?.any (· ≤ c.reach now)

theorem Instant.Valid.earliest_le {t : Instant} (valid : t.Valid) : Instant.earliest ≤ t := by
  have within := valid.inRange
  simp only [Instant.inRange, Bool.and_eq_true, decide_eq_true_eq] at within
  simp only [Instant.le_def, Instant.earliest]
  omega

/-- The query of a scan is for those jobs, as instants do not come before the earliest. -/
theorem SchedulerConfig.queried_eq {c : SchedulerConfig} {now : Instant} {job : Job}
    (valid : now.Valid) : (Store.queried? .earliest (c.scanEnd now) [.scheduled, .retry] job).isSome =
      (c.seeks now job && job.next?.all (.earliest ≤ ·)) := by
  have wanted : [JobStatus.scheduled, .retry].contains job.status =
      (decide (job.status = .scheduled) || decide (job.status = .retry)) := by
    cases job.status <;> rfl
  rw [Store.queried?, wanted, SchedulerConfig.scanEnd_eq valid, seeks]
  cases decide (job.status = .scheduled) || decide (job.status = .retry) with
  | false => rfl
  | true =>
    cases next : job.next? with
    | none => rfl
    | some fire => simp [Option.isSome_filter, Bool.and_comm]

namespace Scheduler

variable {s t u : Scheduler} {id : JobId} {clock : Clock} {found : List Job} {order : List JobId}
  {report : ScanReport}

/-! ## What recoveries leave -/

/-- A scan at this instant hands the job over for recovery. -/
def HandsOver (s : Scheduler) (now : Instant) (id : JobId) : Prop :=
  ∃ job, s.record? id = some job ∧ s.config.seeks now job = true ∧ s.armed? id = none

/-- The job is active, is not armed here, and its missed firings can be passed over. -/
def Recoverable (s : Scheduler) (now : Instant) (id : JobId) : Prop :=
  ∃ job, s.record? id = some job ∧ job.status.isActive = true ∧ s.armed? id = none ∧
    job.trigger.Reachable ∧ job.trigger.RepresentableUpTo now

/-- The jobs were taken care of: none of them is left for a scan, and the others are as they were. -/
structure Clears (s : Scheduler) (now : Instant) (order : List JobId) (t : Scheduler) : Prop where
  keyed : Keyed t
  reliable : t.Reliable
  config : t.config = s.config
  others : ∀ id, id ∉ order → t.record? id = s.record? id ∧ t.armed? id = s.armed? id
  cleared : ∀ id ∈ order, ¬ t.HandsOver now id

/-- A job that was recovered is not handed over again at the same instant. -/
theorem Recovered.cleared {job saved : Job} {answer : Recovery}
    (recovered : Recovered s clock job answer saved t) : ¬ t.HandsOver clock.now saved.id := by
  rintro ⟨found, record, sought, unarmed⟩
  rw [recovered.record, if_pos rfl] at record
  cases record
  rw [recovered.config] at sought
  simp only [SchedulerConfig.seeks, Bool.and_eq_true, Bool.or_eq_true, decide_eq_true_eq,
    Option.any_eq_true] at sought
  obtain ⟨status, fire, next, reached⟩ := sought
  cases recovered.leaves with
  | armed _ _ _ timed => cases timed.entry.symm.trans unarmed
  | deferred _ next' beyond _ =>
    cases next.symm.trans next'
    exact absurd beyond (not_lt_of_ge reached)
  | ended ended _ =>
    rw [ended] at status
    rcases status with status | status <;> cases status

theorem handsOver_congr (config : t.config = s.config) {now : Instant}
    (same : t.record? id = s.record? id ∧ t.armed? id = s.armed? id) :
    t.HandsOver now id ↔ s.HandsOver now id := by
  rw [HandsOver, HandsOver, config, same.1, same.2]

/-- One recovery takes care of its job. -/
theorem recover_clears (keyed : Keyed s) (reliable : s.Reliable) (reading : clock.now.IsReading)
    (recoverable : s.Recoverable clock.now id) :
    ∃ answer t, s.recover clock id = (.ok answer, t) ∧ Clears s clock.now [id] t := by
  obtain ⟨job, record, active, unarmed, reachable, representable⟩ := recoverable
  have named := keyed.keyed id job record
  obtain ⟨answer, saved, t, same, recovered⟩ :=
    takeUp_recovered keyed reliable reading (named.symm ▸ record) active reachable representable
  rw [← recover_eq_takeUp keyed reliable record active unarmed] at same
  have operates := recover_operates keyed.numbered clock (keyed.keyed id)
  rw [same] at operates
  have saved_id : saved.id = id := by
    rw [recovered.kept]
    exact named
  refine ⟨answer, t, same, operates.keyed keyed, operates.reliable reliable, recovered.config, ?_, ?_⟩
  · intro other absent
    have different : other ≠ saved.id := saved_id.symm ▸ List.mem_singleton.not.mp absent
    exact ⟨(recovered.record other).trans (if_neg different), recovered.entries other different⟩
  · intro other member
    rw [List.mem_singleton.mp member, ← saved_id]
    exact recovered.cleared

theorem Clears.recoverable {now : Instant} {other : JobId} (clears : Clears s now [id] t)
    (different : other ≠ id) (recoverable : s.Recoverable now other) : t.Recoverable now other := by
  obtain ⟨record, entry⟩ := clears.others other (List.mem_singleton.not.mpr different)
  rw [Recoverable, record, entry]
  exact recoverable

/-- What was taken care of stays so while others are. -/
theorem Clears.cons {now : Instant} (first : Clears s now [id] t) (rest : Clears t now order u)
    (fresh : id ∉ order) : Clears s now (id :: order) u where
  keyed := rest.keyed
  reliable := rest.reliable
  config := rest.config.trans first.config
  others other absent := by
    rw [List.mem_cons, not_or] at absent
    obtain ⟨record, entry⟩ := first.others other (List.mem_singleton.not.mpr absent.1)
    obtain ⟨record', entry'⟩ := rest.others other absent.2
    exact ⟨record'.trans record, entry'.trans entry⟩
  cleared other member := by
    rcases List.mem_cons.mp member with rfl | member
    · rw [handsOver_congr rest.config (rest.others other fresh)]
      exact first.cleared other (List.mem_singleton_self other)
    · exact rest.cleared other member

/-- Recovering jobs in whatever order takes care of them all, and fails for none. -/
theorem recoverEach_clears (keyed : Keyed s) (reliable : s.Reliable) (reading : clock.now.IsReading)
    (once : order.Nodup) (recoverable : ∀ id ∈ order, s.Recoverable clock.now id) :
    (s.recoverEach clock order report).1.failed = report.failed ∧
      Clears s clock.now order (s.recoverEach clock order report).2 := by
  induction order generalizing s report with
  | nil =>
    refine ⟨rfl, keyed, reliable, rfl, fun _ _ => ⟨rfl, rfl⟩, ?_⟩
    intro id member
    cases member
  | cons id rest ih =>
    obtain ⟨fresh, once⟩ := List.nodup_cons.mp once
    obtain ⟨answer, u, same, first⟩ :=
      recover_clears keyed reliable reading (recoverable id List.mem_cons_self)
    have still : ∀ other ∈ rest, u.Recoverable clock.now other := by
      intro other member
      have different : other ≠ id := fun same => fresh (same ▸ member)
      exact first.recoverable different (recoverable other (List.mem_cons_of_mem _ member))
    obtain ⟨failed, clears⟩ := ih first.keyed first.reliable once still
    have noted : (report.note (.ok answer)).failed = report.failed := by cases answer <;> rfl
    rw [recoverEach, same]
    exact ⟨failed.trans noted, first.cons clears fresh⟩

/-! ## Scans -/

/-- A scan is complete, and its report adds up. -/
structure Accounted (s : Scheduler) (now : Instant) (order : List JobId) (report : ScanReport) :
    Prop extends ScanReport.AddsUp report where
  sought : report.found = s.store.jobs.values.countP (s.config.seeks now)
  once : order.Nodup
  handed : ∀ id, id ∈ order ↔ s.HandsOver now id
  submitted : report.submitted = order.length
  answered : report.fastForwarded + report.abandoned + report.failed ≤ report.submitted

theorem handed_of_unarmed (keyed : Keyed s) (valid : clock.now.Valid)
    (scanned : s.scanned clock.now = .ok found) (member : id ∈ s.unarmed found) :
    s.HandsOver clock.now id := by
  obtain ⟨job, record, queried, unarmed⟩ := (mem_unarmed keyed scanned).mp member
  rw [SchedulerConfig.queried_eq valid, Bool.and_eq_true] at queried
  exact ⟨job, record, queried.1, unarmed⟩

theorem queried_of_valid {job : Job} {now : Instant} (valid : now.Valid)
    (reachable : job.trigger.Reachable) :
    (Store.queried? .earliest (s.config.scanEnd now) [.scheduled, .retry] job).isSome =
      s.config.seeks now job := by
  have within : job.next?.all (.earliest ≤ ·) = true := by
    cases next : job.next? with
    | none => rfl
    | some fire => simpa using (reachable.next_valid next).earliest_le
  rw [SchedulerConfig.queried_eq valid, within, Bool.and_true]

theorem Scans.accounted (keyed : Keyed s) (reading : clock.now.IsReading)
    (reachable : ∀ id job, s.record? id = some job → job.trigger.Reachable)
    (scans : s.Scans clock order report t) : Accounted s clock.now order report := by
  obtain ⟨found, scanned, each, same⟩ := scans
  have valid := reading.valid
  obtain ⟨addsUp, counted, handed, results⟩ := s.tally_counts found
  obtain ⟨addsUp', found', submitted', results'⟩ :=
    s.recoverEach_report clock order (s.tally found) addsUp
  rw [same] at addsUp' found' submitted' results'
  have listed := Store.find_perm (find_of_scanned scanned)
  have length := each.length_eq
  have submitted : report.submitted = order.length := submitted'.trans (handed.trans length.symm)
  constructor
  case toAddsUp => exact addsUp'
  case submitted => exact submitted
  case sought =>
    rw [found', counted, listed.length_eq, ← List.countP_eq_length_filter]
    refine List.countP_congr fun job member => ?_
    obtain ⟨id, record⟩ := Store.mem_values.mp member
    rw [queried_of_valid valid (reachable id job record)]
  case once =>
    have distinct : (found.map (·.id)).Nodup := by
      refine (listed.map _).nodup_iff.mpr ?_
      exact (Store.ids_nodup keyed.keyed).sublist (List.filter_sublist.map _)
    exact each.nodup_iff.mpr (distinct.sublist (List.filter_sublist.map _))
  case handed =>
    intro id
    rw [each.mem_iff]
    constructor
    · exact handed_of_unarmed keyed valid scanned
    · rintro ⟨job, record, sought, unarmed⟩
      refine (mem_unarmed keyed scanned).mpr ⟨job, record, ?_, unarmed⟩
      rw [queried_of_valid valid (reachable id job record)]
      exact sought
  case answered =>
    have bound : report.results ≤ 0 + order.length := results ▸ results'
    rw [Nat.zero_add, ← submitted] at bound
    exact bound

/-- Where missed firings can be passed over, a scan fails for no job and leaves none for another. -/
theorem Scans.clears (keyed : Keyed s) (reliable : s.Reliable) (reading : clock.now.IsReading)
    (reachable : ∀ id job, s.record? id = some job → job.trigger.Reachable)
    (representable : ∀ id ∈ order, ∀ job, s.record? id = some job →
      job.trigger.RepresentableUpTo clock.now)
    (scans : s.Scans clock order report t) :
    report.failed = 0 ∧ Clears s clock.now order t ∧ ∀ id, ¬ t.HandsOver clock.now id := by
  have accounted := scans.accounted keyed reading reachable
  have recoverable : ∀ id ∈ order, s.Recoverable clock.now id := by
    intro id member
    obtain ⟨job, record, sought, unarmed⟩ := (accounted.handed id).mp member
    have active : job.status.isActive = true := by
      simp only [SchedulerConfig.seeks, Bool.and_eq_true, Bool.or_eq_true, decide_eq_true_eq] at sought
      rcases sought.1 with status | status <;> rw [status] <;> rfl
    exact ⟨job, record, active, unarmed, reachable id job record,
      representable id member job record⟩
  obtain ⟨found, _, _, same⟩ := scans
  obtain ⟨failed, clears⟩ := recoverEach_clears keyed reliable reading accounted.once recoverable
  rw [same] at failed clears
  refine ⟨failed.trans (s.tally_failed found), clears, fun id handed => ?_⟩
  by_cases member : id ∈ order
  · exact clears.cleared id member handed
  · rw [handsOver_congr clears.config (clears.others id member), ← accounted.handed] at handed
    exact member handed

/-- A scan that has no job to hand over changes nothing. -/
theorem scan_idle (keyed : Keyed s) (reliable : s.Reliable) (valid : clock.now.Valid)
    (idle : ∀ id, ¬ s.HandsOver clock.now id) :
    ∃ report, s.scan clock = (.ok report, s) ∧ report.submitted = 0 := by
  obtain ⟨found, scanned⟩ := scanned_of_reliable reliable clock.now
  have none_left : s.unarmed found = [] :=
    List.eq_nil_iff_forall_not_mem.mpr fun id member =>
      idle id (handed_of_unarmed keyed valid scanned member)
  have submitted := (s.tally_counts found).2.2.1
  rw [none_left] at submitted
  refine ⟨s.tally found, ?_, submitted⟩
  rw [scan_eq scanned, none_left]
  rfl

/-- While no call fails, a scan is complete and accounted for, in whatever order its recoveries take
place. Where the missed firings of the jobs handed over can be passed over, it fails for no job, and a
second one at the same instant has nothing to do. The zones are those of `Zone.Table` and have
`Zone.steady`. -/
theorem scans_are_accounted_and_repeatable (keyed : Keyed s) (reliable : s.Reliable)
    (reading : clock.now.IsReading)
    (reachable : ∀ id job, s.record? id = some job → job.trigger.Reachable) :
    (∃ order report t, s.scan clock = (.ok report, t) ∧ s.Scans clock order report t) ∧
    ∀ order report t, s.Scans clock order report t → Accounted s clock.now order report ∧
      ((∀ id ∈ order, ∀ job, s.record? id = some job →
        job.trigger.RepresentableUpTo clock.now) →
        report.failed = 0 ∧ ∃ second, t.scan clock = (.ok second, t) ∧ second.submitted = 0) := by
  constructor
  · obtain ⟨found, scanned⟩ := scanned_of_reliable reliable clock.now
    exact ⟨_, _, _, scan_eq scanned, found, scanned, .refl _, rfl⟩
  · intro order report t scans
    refine ⟨scans.accounted keyed reading reachable, fun representable => ?_⟩
    obtain ⟨failed, clears, idle⟩ := scans.clears keyed reliable reading reachable representable
    exact ⟨failed, scan_idle clears.keyed clears.reliable reading.valid idle⟩

/-- Of three jobs one is armed already, one is armed past the hours that it missed, and one has nothing
left; a scan that follows finds the first two, which are armed. -/
theorem scans_are_accounted_for_missed_hours :
    let first := (vacant.schedule ⟨⟨0, 0⟩, 0⟩ (.once "armed" ⟨60, 0⟩)).2
    let second := (first.schedule ⟨⟨0, 0⟩, 0⟩ (hourly "hourly")).2
    let stored := (second.schedule ⟨⟨0, 0⟩, 0⟩ (.once "late" ⟨5000, 0⟩)).2
    let scanned := stored.scan ⟨⟨10200, 0⟩, 0⟩
    (∃ order report t, stored.Scans ⟨⟨10200, 0⟩, 0⟩ order report t ∧
      Accounted stored ⟨10200, 0⟩ order report ∧ report.failed = 0 ∧
      ∃ second, t.scan ⟨⟨10200, 0⟩, 0⟩ = (.ok second, t) ∧ second.submitted = 0) ∧
    scanned.1.toOption = some ⟨3, 1, 0, 2, 1, 1, 0⟩ ∧
    (scanned.2.scan ⟨⟨10200, 0⟩, 0⟩).1.toOption = some ⟨2, 2, 0, 0, 0, 0, 0⟩ := by
  intro first second stored scanned
  have ready : Keyed first ∧ first.Reliable := schedule_ready vacant_ready _ _
  have ready : Keyed second ∧ second.Reliable := schedule_ready ready _ _
  obtain ⟨keyed, reliable⟩ : Keyed stored ∧ stored.Reliable := schedule_ready ready _ _
  have reading : (⟨⟨10200, 0⟩, 0⟩ : Clock).now.IsReading := ⟨by decide, by decide⟩
  have triggers : stored.store.jobs.values.map (·.trigger) =
      [.pointInTime (some ⟨60, 0⟩), (hourly "hourly").trigger, .pointInTime (some ⟨5000, 0⟩)] := by
    decide +kernel
  have among : ∀ id job, stored.record? id = some job → job.trigger = .pointInTime (some ⟨60, 0⟩) ∨
      job.trigger = (hourly "hourly").trigger ∨ job.trigger = .pointInTime (some ⟨5000, 0⟩) := by
    intro id job record
    have member := List.mem_map_of_mem (f := (·.trigger)) (Store.mem_values.mpr ⟨id, record⟩)
    rw [triggers] at member
    simpa using member
  have reachable : ∀ id job, stored.record? id = some job → job.trigger.Reachable := by
    intro id job record
    rcases among id job record with same | same | same <;> rw [same]
    · exact Trigger.Fresh.reachable (.pointInTime _) rfl ⟨by decide, by decide⟩
    · exact hourly_reachable "hourly"
    · exact Trigger.Fresh.reachable (.pointInTime _) rfl ⟨by decide, by decide⟩
  obtain ⟨⟨order, report, t, _, scans⟩, all⟩ :=
    scans_are_accounted_and_repeatable keyed reliable reading reachable
  obtain ⟨accounted, repeatable⟩ := all order report t scans
  refine ⟨⟨order, report, t, scans, accounted, repeatable ?_⟩, ?_, ?_⟩
  · intro id _ job record timer current timed
    rcases among id job record with same | same | same <;> cases same.symm.trans timed
  · decide +kernel
  · decide +kernel

/-- Where days are counted from a start that shows no local time in the range, recovery breaks off. The
scan fails for the job, which stays as it is, and the next scan hands it over again. -/
theorem starts_without_local_time_fail_scans :
    let daily : Job := { Job.once "job" .earliest with
      trigger := .simpleTimer
        ⟨.earliest, 1, .days, -1, none, "Africa/Abidjan", some .earliest, 0, false⟩ }
    let stored := (vacant.write daily).2
    let scanned := stored.scan ⟨⟨0, 0⟩, 0⟩
    Trigger.newSimpleTimer .earliest 1 .days (-1) none "Africa/Abidjan" = .ok daily.trigger ∧
      stored.Reliable ∧ scanned.1.toOption = some ⟨1, 0, 0, 1, 0, 0, 1⟩ ∧
      scanned.2.record? "job" = some daily ∧
      (scanned.2.scan ⟨⟨0, 0⟩, 0⟩).1.toOption = some ⟨1, 0, 0, 1, 0, 0, 1⟩ := by
  refine ⟨?_, ⟨⟨rfl, rfl, rfl⟩, ⟨rfl, rfl⟩⟩, ?_, ?_, ?_⟩
  · decide +kernel
  · decide +kernel
  · decide +kernel
  · decide +kernel

end Scheduler

end Punctual
