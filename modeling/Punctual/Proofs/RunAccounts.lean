import Mathlib.Algebra.GroupWithZero.Nat
import Punctual.Proofs.RunCourses

/-!
What the summary of a dry run says: how many jobs were taken and refused, how many there are of each
status, and how often jobs were executed. It is held against the records that the run leaves and the
ids of the jobs that it took.

As executions are counted before the records are read, a record may tell of an execution that came too late
to be counted, unless no job was active any more.
-/
namespace Punctual

namespace DryRunSummary

variable {s : DryRunSummary}

/-- What a summary adds up to, after a run of the jobs of which those with some ids were taken, and in which
so many executions had been made when the last record was read. -/
structure Accounts (s : DryRunSummary) (jobs : List Job) (taken : List JobId) (executed : Nat) : Prop where
  submitted : s.submitted = taken.length
  given : s.submitted + s.rejected = jobs.length
  within : taken.Sublist (jobs.map (·.id))
  statuses : (s.byStatus.map (·.2)).sum = taken.toFinset.card
  /-- a job that was refused whenever it was submitted leaves no record -/
  stored : ∀ id, id ∈ s.jobs.map (·.id) ↔ id ∈ taken
  counted : s.fired ≤ executed
  executions : (s.jobs.map (·.executions)).sum ≤ executed

/-- Each job has one of the statuses. -/
theorem byStatus_sum (s : DryRunSummary) : (s.byStatus.map (·.2)).sum = s.jobs.length := by
  have kept : ∀ counts : List (JobStatus × Nat),
      ((counts.filter fun counted => counted.2 ≠ 0).map (·.2)).sum = (counts.map (·.2)).sum := by
    intro counts
    induction counts with
    | nil => rfl
    | cons first rest ih => by_cases none : first.2 = 0 <;> simp_all
  have same : s.byStatus = (JobStatus.all.map fun status =>
      (status, s.jobs.countP (·.status == status))).filter fun counted => counted.2 ≠ 0 := rfl
  rw [same, kept, List.map_map]
  induction s.jobs with
  | nil => rfl
  | cons job rest ih =>
    simp only [JobStatus.all, Function.comp_def, List.map_cons, List.map_nil, List.sum_cons,
      List.sum_nil, List.countP_cons, List.length_cons] at ih ⊢
    cases status : job.status <;> simp <;> omega

/-- Only statuses that a job has are counted. -/
theorem mem_byStatus {status : JobStatus} {count : Nat} (counted : (status, count) ∈ s.byStatus) :
    ∃ job ∈ s.jobs, job.status = status := by
  simp only [byStatus, List.mem_filter, List.mem_map, decide_not, Bool.not_eq_true',
    decide_eq_false_iff_not] at counted
  obtain ⟨⟨_, _, same⟩, some⟩ := counted
  cases same
  obtain ⟨job, member, found⟩ := List.countP_pos_iff.mp (Nat.pos_of_ne_zero some)
  exact ⟨job, member, eq_of_beq found⟩

end DryRunSummary

namespace Course

variable {c : Course} {jobs : List Job} {id : JobId} {job : Job} {ended : Instant} {inTime : Bool}

/-! ## The records of a run -/

theorem Sound.mem_stored (sound : Sound jobs c) :
    job ∈ c.stored ↔ c.process.scheduler.record? job.id = some job := by
  rw [Course.stored, Store.mem_values]
  constructor
  · rintro ⟨id, record⟩
    rw [sound.keyed.keyed id job record]
    exact record
  · exact fun record => ⟨job.id, record⟩

theorem Sound.stored_nodup (sound : Sound jobs c) : (c.stored.map (·.id)).Nodup :=
  Store.ids_nodup sound.keyed.keyed

theorem Sound.stored_taken (sound : Sound jobs c) : id ∈ c.stored.map (·.id) ↔ id ∈ c.taken := by
  rw [← sound.stored, List.mem_map]
  constructor
  · rintro ⟨job, member, rfl⟩
    exact Option.isSome_of_eq_some (sound.mem_stored.mp member)
  · intro held
    obtain ⟨job, record⟩ := Option.isSome_iff_exists.mp held
    have named := sound.keyed.keyed id job record
    exact ⟨job, sound.mem_stored.mpr (named ▸ record), named⟩

/-! ## Records as they are read -/

/-- Records that are all read at one time, when all jobs were submitted. -/
theorem Sound.reads_stored (sound : Sound jobs c) (submitted : c.left = []) (between : List CourseStep) :
    c.Reads between (c.performAll between).stored where
  once := (sound.performAll between).stored_nodup
  whole _ := by
    rw [(sound.performAll between).stored_taken, (queue_submittedAll c between submitted).2.1]
  current _ member :=
    ⟨between, [], (List.append_nil _).symm, (sound.performAll between).mem_stored.mp member⟩

section

variable {between : List CourseStep} {read : List Job}

theorem Reads.ids (reads : c.Reads between read) : (read.map (·.id)).toFinset = c.taken.toFinset := by
  ext id
  rw [List.mem_toFinset, List.mem_toFinset, reads.whole]

theorem Reads.length (reads : c.Reads between read) : read.length = c.taken.toFinset.card := by
  rw [← reads.ids, List.toFinset_card_of_nodup reads.once, List.length_map]

theorem Reads.sum (reads : c.Reads between read) (counts : JobId → Nat) :
    (read.map fun job => counts job.id).sum = ∑ id ∈ c.taken.toFinset, counts id := by
  rw [← reads.ids, List.sum_toFinset _ reads.once, List.map_map]
  rfl

/-- Records count executions up only. -/
theorem Sound.executions_mono (sound : Sound jobs c) (id : JobId) (steps : List CourseStep) :
    c.executionsOf id ≤ (c.performAll steps).executionsOf id := by
  induction steps generalizing c with
  | nil => exact Nat.le_refl _
  | cons step rest ih =>
    refine Nat.le_trans ?_ (ih (sound.perform step))
    rcases executions_perform sound.keyed id step with same | ⟨_, next⟩
    · exact Nat.le_of_eq same.symm
    · have bounded := sound.bounded id
      rw [next]
      unfold nextNat32
      omega

theorem fired_mono (c : Course) (steps : List CourseStep) : c.fired ≤ (c.performAll steps).fired := by
  induction steps generalizing c with
  | nil => exact Nat.le_refl _
  | cons step rest ih =>
    refine Nat.le_trans ?_ (ih (c.perform step))
    have moved := tallies c step
    generalize c.perform step = d at moved ⊢
    cases moved <;> omega

/-- What is read of a record's executions is what it counts in the end at most. -/
theorem Sound.read_executions (sound : Sound jobs c) (reads : c.Reads between read) :
    (read.map (·.executions)).sum ≤
      ∑ id ∈ c.taken.toFinset, (c.performAll between).executionsOf id := by
  rw [← reads.sum]
  refine List.sum_le_sum fun job member => ?_
  obtain ⟨first, rest, rfl, record⟩ := reads.current job member
  have onward := (sound.performAll first).executions_mono job.id rest
  rw [performAll_append]
  simpa [executionsOf, record] using onward

end

/-! ## What the summary says of them -/

/-- Whatever steps are taken between the count of the executions and the reading of the last record. -/
theorem Sound.accounts (sound : Sound jobs c) (submitted : c.left = []) {between : List CourseStep}
    {read : List Job} (reads : c.Reads between read) (ended : Instant) (inTime : Bool) :
    (c.summary read ended inTime).Accounts jobs c.taken (c.performAll between).fired where
  submitted := rfl
  given := by simpa [summary, submitted] using sound.given
  within := by simpa [submitted] using sound.within
  statuses := (DryRunSummary.byStatus_sum _).trans reads.length
  stored := reads.whole
  counted := fired_mono c between
  executions := by
    have total := (sound.performAll between).executions
    have counted := sound.read_executions reads
    rw [(queue_submittedAll c between submitted).2.1] at total
    simp only [summary]
    omega

/-- Once no job is active, what is read of a record is what it was. -/
theorem Sound.read_idle (sound : Sound jobs c) (idle : Idle c) {between : List CourseStep}
    {read : List Job} (reads : c.Reads between read) :
    ∀ job ∈ read, c.process.scheduler.record? job.id = some job := by
  intro job member
  obtain ⟨first, rest, _, record⟩ := reads.current job member
  have held := (sound.stored job.id).mpr ((reads.whole job.id).mp (List.mem_map_of_mem member))
  obtain ⟨before, found⟩ := Option.isSome_iff_exists.mp held
  rw [idle.record_performAll sound first found, Option.some.injEq] at record
  exact record ▸ found

/-- When no job is active, no execution comes too late to be counted. -/
theorem Sound.accounts_idle (sound : Sound jobs c) (idle : Idle c) {between : List CourseStep}
    {read : List Job} (reads : c.Reads between read) (ended : Instant) (inTime : Bool) :
    (c.summary read ended inTime).Accounts jobs c.taken (c.summary read ended inTime).fired := by
  have now : c.Reads [] read :=
    ⟨reads.once, reads.whole, fun job member => ⟨[], [], rfl, sound.read_idle idle reads job member⟩⟩
  exact sound.accounts idle.submitted now ended inTime

theorem Sound.byStatus_idle (sound : Sound jobs c) (idle : Idle c) {between : List CourseStep}
    {read : List Job} (reads : c.Reads between read) {status : JobStatus} {count : Nat}
    (counted : (status, count) ∈ (c.summary read ended inTime).byStatus) :
    status.isTerminal = true := by
  obtain ⟨job, member, rfl⟩ := DryRunSummary.mem_byStatus counted
  exact idle.finished job.id job (sound.read_idle idle reads job member)

/-- In an idle run of jobs with different ids each execution but those that came too late was counted
in its job's record, up to the largest number that a record holds. -/
theorem Exact.fired_idle (exact : Exact c) (sound : Sound jobs c) (idle : Idle c)
    {between : List CourseStep} {read : List Job} (reads : c.Reads between read) :
    ∃ counts : JobId → Nat, (∀ job ∈ read, job.executions = min (counts job.id) maxNat32) ∧
      c.fired = (read.map fun job => counts job.id).sum + c.unheard := by
  obtain ⟨counts, counted, fired⟩ := exact.counted
  refine ⟨counts, fun job member => ?_, ?_⟩
  · rw [← counted]
    simp [executionsOf, sound.read_idle idle reads job member]
  · rw [reads.sum, fired, exact.delivered_idle sound idle, exact.stranded_idle sound idle]
    rfl

end Course

end Punctual
