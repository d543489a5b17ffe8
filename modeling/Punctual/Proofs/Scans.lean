import Punctual.Proofs.Ownership

/-!
What a scan is made of. Its query finds each of the records that it is for; the jobs found are counted,
as armed here or as handed over; those handed over are recovered one after another, and the report takes
note of each result.
-/
namespace Punctual

/-! ## What a query finds -/

namespace Store

variable {s : Store} {job : Job} {found : List Job} {start stop : Instant}
  {statuses : List JobStatus}

theorem values_eq (s : Store) : s.jobs.values = s.jobs.toList.map (·.2) := by
  rw [Std.TreeMap.values, Std.DTreeMap.values, Std.DTreeMap.Internal.Impl.values_eq_map_snd,
    Std.TreeMap.toList, Std.DTreeMap.Const.toList,
    Std.DTreeMap.Internal.Impl.Const.toList_eq_toListModel_map, List.map_map]
  rfl

theorem mem_values : job ∈ s.jobs.values ↔ ∃ id : JobId, s.jobs[id]? = some job := by
  rw [values_eq, List.mem_map]
  constructor
  · rintro ⟨⟨id, _⟩, member, rfl⟩
    exact ⟨id, Std.TreeMap.mem_toList_iff_getElem?_eq_some.mp member⟩
  · rintro ⟨id, stored⟩
    exact ⟨(id, job), Std.TreeMap.mem_toList_iff_getElem?_eq_some.mpr stored, rfl⟩

theorem place_perm (job : Job) (fire : Instant) (placed : List (Instant × Job)) :
    (place job fire placed).Perm ((fire, job) :: placed) := by
  induction placed with
  | nil => exact .refl _
  | cons first rest ih =>
    rw [place]
    split
    · exact .refl _
    · exact (ih.cons first).trans (.swap (fire, job) first rest)

/-- A query finds the records that it is for, each once, whatever their order. -/
theorem find_perm (answer : s.find start stop statuses = .ok found) :
    found.Perm (s.jobs.values.filter fun job => (queried? start stop statuses job).isSome) := by
  unfold find at answer
  split at answer <;> cases answer
  induction s.jobs.values with
  | nil => exact .refl _
  | cons first rest ih =>
    rw [List.foldr_cons, List.filter_cons]
    cases queried? start stop statuses first with
    | some fire => exact ((place_perm first fire _).map _).trans (ih.cons first)
    | none => exact ih

/-- Wherever they come in its order, it finds them. -/
theorem mem_find (answer : s.find start stop statuses = .ok found) :
    job ∈ found ↔ ∃ id : JobId, s.jobs[id]? = some job ∧
      (queried? start stop statuses job).isSome := by
  rw [(find_perm answer).mem_iff, List.mem_filter, mem_values, exists_and_right]

/-- Records that are kept under their ids have different ones. -/
theorem ids_nodup (keyed : ∀ (id : JobId) (job : Job), s.jobs[id]? = some job → job.id = id) :
    (s.jobs.values.map (·.id)).Nodup := by
  have same : s.jobs.values.map (·.id) = s.jobs.toList.map (·.1) := by
    rw [values_eq, List.map_map]
    refine List.map_congr_left fun entry member => ?_
    exact keyed _ _ (Std.TreeMap.mem_toList_iff_getElem?_eq_some.mp member)
  rw [same, List.Nodup, List.pairwise_map]
  refine s.jobs.distinct_keys_toList.imp fun different same => different ?_
  rw [same]
  exact Std.ReflCmp.compare_self

end Store

/-! ## Reports -/

namespace ScanReport

variable {report : ScanReport}

/-- How many recoveries had a result other than that the job was admitted. -/
def results (r : ScanReport) : Nat := r.fastForwarded + r.abandoned + r.failed

/-- Each job found is armed here or handed over, and only what is armed is firing. -/
structure AddsUp (r : ScanReport) : Prop where
  found : r.found = r.alreadyArmed + r.submitted
  firing : r.inFlight ≤ r.alreadyArmed

theorem AddsUp.count (addsUp : report.AddsUp) (armed? : Option ArmedJob) :
    (report.count armed?).AddsUp := by
  obtain ⟨found, firing⟩ := addsUp
  cases armed? with
  | none => exact ⟨by simp only [ScanReport.count]; omega, firing⟩
  | some armed =>
    refine ⟨by simp only [ScanReport.count]; omega, ?_⟩
    simp only [ScanReport.count]
    split <;> omega

theorem AddsUp.note (addsUp : report.AddsUp) (answer : Except SchedulerError Recovery) :
    (report.note answer).AddsUp := by
  obtain ⟨found, firing⟩ := addsUp
  rcases answer with e | recovery
  · exact ⟨found, firing⟩
  · cases recovery <;> exact ⟨found, firing⟩

theorem note_found (report : ScanReport) (answer : Except SchedulerError Recovery) :
    (report.note answer).found = report.found ∧
      (report.note answer).submitted = report.submitted := by
  rcases answer with e | recovery
  · exact ⟨rfl, rfl⟩
  · cases recovery <;> exact ⟨rfl, rfl⟩

theorem note_results (report : ScanReport) (answer : Except SchedulerError Recovery) :
    (report.note answer).results ≤ report.results + 1 := by
  rcases answer with e | recovery
  · simp only [ScanReport.note, results]
    omega
  · cases recovery <;> simp only [ScanReport.note, results] <;> omega

end ScanReport

/-! ## What is handed over -/

namespace Scheduler

variable {s t : Scheduler} {id : JobId} {clock : Clock} {now : Instant} {found : List Job}
  {order : List JobId} {report : ScanReport}

theorem find_of_scanned (scanned : s.scanned now = .ok found) :
    s.store.find .earliest (s.config.scanEnd now) [.scheduled, .retry] = .ok found := by
  unfold Scheduler.scanned at scanned
  generalize s.store.find .earliest (s.config.scanEnd now) [.scheduled, .retry] = answer at scanned
  cases answer <;> cases scanned
  rfl

/-- A scan hands over the jobs that its query is for and that are not entered in the index. -/
theorem mem_unarmed (keyed : Keyed s) (scanned : s.scanned now = .ok found) :
    id ∈ s.unarmed found ↔ ∃ job, s.record? id = some job ∧
      (Store.queried? .earliest (s.config.scanEnd now) [.scheduled, .retry] job).isSome ∧
      s.armed? id = none := by
  have answer := find_of_scanned scanned
  simp only [unarmed, List.mem_map, List.mem_filter, Store.mem_find answer]
  constructor
  · rintro ⟨job, ⟨⟨place, stored, wanted⟩, unarmed⟩, rfl⟩
    have same : job.id = place := keyed.keyed place job stored
    subst same
    exact ⟨job, stored, wanted, by simpa [armed?] using unarmed⟩
  · rintro ⟨job, record, wanted, unarmed⟩
    have named := keyed.keyed id job record
    exact ⟨job, ⟨⟨id, record, wanted⟩, by simpa [named, armed?] using unarmed⟩, named⟩

theorem scanned_of_reliable (reliable : s.Reliable) (now : Instant) :
    ∃ found, s.scanned now = .ok found := by
  rw [Scheduler.scanned, Store.find, if_pos reliable.store.available]
  exact ⟨_, rfl⟩

/-! ## Tallies and recoveries -/

/-- Of the jobs found, each is counted, and those that are not armed here as handed over. -/
theorem tally_counts (s : Scheduler) (found : List Job) :
    (s.tally found).AddsUp ∧ (s.tally found).found = found.length ∧
      (s.tally found).submitted = (s.unarmed found).length ∧ (s.tally found).results = 0 := by
  have counted : ∀ report : ScanReport, report.AddsUp →
      let after := found.foldl (fun report job => report.count (s.armed.get? job.id)) report
      after.AddsUp ∧ after.found = report.found + found.length ∧
        after.submitted = report.submitted + (s.unarmed found).length ∧
        after.results = report.results := by
    induction found with
    | nil => exact fun report addsUp => ⟨addsUp, rfl, rfl, rfl⟩
    | cons job rest ih =>
      intro report addsUp
      obtain ⟨still, found, submitted, results⟩ := ih _ (addsUp.count (s.armed.get? job.id))
      refine ⟨still, found.trans ?_, submitted.trans ?_, results.trans ?_⟩
      · cases s.armed.get? job.id <;> simp only [ScanReport.count, List.length_cons] <;> omega
      · simp only [unarmed, List.filter_cons]
        cases s.armed.get? job.id with
        | some armed => simp [ScanReport.count]
        | none =>
          simp only [ScanReport.count, Option.isNone_none, ↓reduceIte, List.map_cons, List.length_cons]
          omega
      · cases s.armed.get? job.id <;> rfl
  obtain ⟨addsUp, found, submitted, results⟩ := counted .empty ⟨rfl, Nat.le_refl _⟩
  exact ⟨addsUp, found.trans (Nat.zero_add _), submitted.trans (Nat.zero_add _), results⟩

theorem tally_failed (s : Scheduler) (found : List Job) : (s.tally found).failed = 0 := by
  have none_yet := (s.tally_counts found).2.2.2
  simp only [ScanReport.results] at none_yet
  omega

/-- The jobs are recovered one after another, and the results noted. -/
def recoverEach (s : Scheduler) (clock : Clock) : List JobId → ScanReport → ScanReport × Scheduler
  | [], report => (report, s)
  | id :: order, report =>
    (s.recover clock id).2.recoverEach clock order (report.note (s.recover clock id).1)

/-- A scan at this clock, with the recoveries in this order, makes this report and ends so. -/
def Scans (s : Scheduler) (clock : Clock) (order : List JobId) (report : ScanReport) (t : Scheduler) :
    Prop :=
  ∃ found, s.scanned clock.now = .ok found ∧ order.Perm (s.unarmed found) ∧
    s.recoverEach clock order (s.tally found) = (report, t)

/-- A scan takes the recoveries in the order in which it found the jobs. -/
theorem scan_eq (scanned : s.scanned clock.now = .ok found) : s.scan clock =
    (.ok (s.recoverEach clock (s.unarmed found) (s.tally found)).1,
      (s.recoverEach clock (s.unarmed found) (s.tally found)).2) := by
  unfold scan
  rw [scanned]
  dsimp only
  generalize s.unarmed found = order
  generalize s.tally found = report
  clear scanned
  induction order generalizing s report with
  | nil => rfl
  | cons id rest ih => exact ih (s := (s.recover clock id).2) _

/-- Recoveries only add results to a report, one each at most. -/
theorem recoverEach_report (s : Scheduler) (clock : Clock) (order : List JobId) (report : ScanReport)
    (addsUp : report.AddsUp) :
    let after := (s.recoverEach clock order report).1
    after.AddsUp ∧ after.found = report.found ∧ after.submitted = report.submitted ∧
      after.results ≤ report.results + order.length := by
  induction order generalizing s report with
  | nil => exact ⟨addsUp, rfl, rfl, Nat.le_refl _⟩
  | cons id rest ih =>
    obtain ⟨found, submitted⟩ := report.note_found (s.recover clock id).1
    obtain ⟨addsUp', found', submitted', results'⟩ :=
      ih (s.recover clock id).2 _ (addsUp.note (s.recover clock id).1)
    have one := report.note_results (s.recover clock id).1
    refine ⟨addsUp', found'.trans found, submitted'.trans submitted, ?_⟩
    simp only [recoverEach, List.length_cons]
    omega

end Scheduler

end Punctual
