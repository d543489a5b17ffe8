import Punctual.Proofs.Ownership

/-!
Requests that fail. A request reads the job's record, may refuse what is asked, ends the timers the job
may be armed under, and only then arms a new timer and stores the job. A request that is refused, or
that cannot read the record, so leaves everything as it was. One that cannot arm or store comes too late
for that: the record stays and no timer is added, but the job, if it had a record, is armed no more. It
is left to the next recovery, which does not skip it.
-/
namespace Punctual

/-- What is asked of the scheduler about one job. -/
inductive Request
  | schedule (clock : Clock) (job : Job)
  | patch (clock : Clock) (id : JobId) (patch : JobPatch)
  | cancel (clock : Clock) (id : JobId)
  /-- cancel a job that must be stored -/
  | cancelStored (clock : Clock) (id : JobId)
  /-- cancel the job that a lookup finds -/
  | cancelFound (clock : Clock) (id : JobId)

namespace Request

/-- The job that a request is about. -/
def id : Request → JobId
  | schedule _ job => job.id
  | patch _ id _ => id
  | cancel _ id => id
  | cancelStored _ id => id
  | cancelFound _ id => id

/-- What a request answers, and the scheduler after it. -/
def run (s : Scheduler) : Request → Except SchedulerError (Option Job) × Scheduler
  | schedule clock job => Scheduler.answered (s.schedule clock job)
  | patch clock id changes => Scheduler.answered (s.patch clock id changes)
  | cancel clock id => s.cancel clock id
  | cancelStored clock id => Scheduler.answered (s.cancelStored clock id)
  | cancelFound clock id => Scheduler.answered (s.cancelFound clock id)

/-- How often the record is read: under the job's lock, and by some requests once before. -/
def reads : Request → Nat
  | schedule .. | cancel .. | cancelStored .. => 1
  | patch .. | cancelFound .. => 2

end Request

namespace Scheduler

variable {s t u : Scheduler} {id : JobId} {job : Job} {clock : Clock} {e : SchedulerError}
  {due : Instant}

/-- One of so many reads of a record in a row fails. -/
def readFails (s : Scheduler) (id : JobId) : Nat → Bool
  | 0 => false
  | n + 1 => !(s.read id).1.isOk || readFails (s.read id).2 id n

/-- The timers that a job may be armed under were ended and its entry dropped; all else is as it was. -/
structure Disarms (s : Scheduler) (job : Job) (t : Scheduler) : Prop where
  record : t.record? = s.record?
  entry : ∀ other, t.armed? other = if other = job.id then none else s.armed? other
  owner : ∀ handle, t.owner? handle = if handle ∈ s.handlesOf job then none else s.owner? handle

/-- A failed request leaves everything as it was; or its reads succeeded, a later call on the store or
the timer service failed, and the job, which is stored and active, was disarmed. -/
inductive Fails (s : Scheduler) (id : JobId) (reads : Nat) (e : SchedulerError) (t : Scheduler) : Prop
  | kept (keeps : Keeps s t)
  | disarmed {job : Job} (fault : e.isFault = true) (read : s.readFails id reads = false)
    (record : s.record? id = some job) (active : job.status.isActive = true)
    (disarms : Disarms s job t)

/-- Only jobs that have a record are entered in the index. -/
def Recorded (s : Scheduler) : Prop := ∀ id, s.record? id = none → s.armed? id = none

/-! ## Entries and records -/

theorem Recorded.of_loses (recorded : Recorded s) (loses : Loses s t) : Recorded t := by
  intro id missing
  rw [loses.record] at missing
  cases entered : t.armed? id with
  | none => rfl
  | some after =>
    obtain ⟨before, held, _⟩ := loses.entry id after entered
    rw [recorded id missing] at held
    cases held

theorem Settles.recorded {now : Instant} {job : Job}
    {answer : Except SchedulerError Job × Scheduler} (recorded : Recorded s)
    (settles : Settles s now job answer) : Recorded answer.2 := by
  have stored : ∀ {saved : Job} {u : Scheduler} {kept? : Option ArmedJob},
      (∀ other, u.record? other = if other = saved.id then some saved else s.record? other) →
      (∀ other, u.armed? other = if other = saved.id then kept? else s.armed? other) →
      Recorded u := by
    intro saved u kept? record entry id missing
    rw [record] at missing
    rw [entry]
    split at missing
    · cases missing
    · rename_i different
      rw [if_neg different]
      exact recorded id missing
  cases settles with
  | failed unchanged _ => exact recorded.of_loses unchanged.loses
  | dropped unchanged _ => exact recorded.of_loses ((forget_loses s job.id).trans unchanged.loses)
  | parked parks => exact stored parks.record parks.entry
  | armed _ arms =>
    obtain ⟨due, entry⟩ := arms.entry
    exact stored arms.record entry

/-! ## What is left after a failure -/

theorem Keeps.trans (first : Keeps s t) (second : Keeps t u) : Keeps s u where
  record := second.record.trans first.record
  entry := second.entry.trans first.entry
  owner := second.owner.trans first.owner
  issued := Nat.le_trans first.issued second.issued
  isShutDown := second.isShutDown.trans first.isShutDown
  numbered numbered := second.numbered (first.numbered numbered)

theorem Keeps.handlesOf (keeps : Keeps s t) (job : Job) : t.handlesOf job = s.handlesOf job := by
  have entry : t.armed.get? job.id = s.armed.get? job.id := congrFun keeps.entry job.id
  unfold Scheduler.handlesOf
  rw [entry]

/-- A read that comes before the rest of the request and succeeds. -/
theorem Fails.after_read {n : Nat} (read : (s.read id).1.isOk = true)
    (fails : Fails (s.read id).2 id n e u) : Fails s id (n + 1) e u := by
  have keeps := (read_unchanged s id).toKeeps
  cases fails with
  | kept later => exact .kept (keeps.trans later)
  | disarmed fault others record active disarms =>
    refine .disarmed fault ?_ (keeps.record ▸ record) active ?_
    · simp [readFails, read, others]
    constructor
    · exact disarms.record.trans keeps.record
    · rw [← keeps.entry]
      exact disarms.entry
    · rw [← keeps.handlesOf, ← keeps.owner]
      exact disarms.owner

/-- A failed call after the job was disarmed. -/
theorem disarms_of_keeps (first : Keeps s t) (second : Keeps (t.disarm job) u) : Disarms s job u where
  record := second.record.trans first.record
  entry := by
    intro other
    rw [second.entry, disarm_entry, first.entry]
  owner := by
    intro handle
    rw [second.owner, disarm_owner, first.handlesOf, first.owner]

/-- Storing a job without a timer after it was disarmed: the entry is gone already. -/
private theorem forget_disarmed (first : Keeps s t) (second : Keeps ((t.disarm job).forget job.id) u) :
    Disarms s job u where
  record := second.record.trans first.record
  entry := by
    intro other
    rw [second.entry, forget_entry, disarm_entry, first.entry]
    split <;> rfl
  owner := by
    intro handle
    rw [second.owner]
    refine (disarm_owner t job handle).trans ?_
    rw [first.handlesOf, first.owner]

/-- A job without a record has no entry that could be dropped. -/
private theorem forget_keeps (unarmed : s.armed? id = none) : Keeps s (s.forget id) where
  record := rfl
  entry := by
    funext other
    rw [forget_entry]
    split
    · rename_i same
      rw [same, unarmed]
    · rfl
  owner := rfl
  issued := Nat.le_refl _
  isShutDown := rfl
  numbered numbered := numbered

/-! ## The requests -/

/-- Without the record nothing is scheduled. -/
theorem schedule_unread {incoming : Job} (unread : (s.read incoming.id).1.isOk = false)
    (clock : Clock) : Keeps s (s.schedule clock incoming).2 := by
  have unchanged := read_unchanged s incoming.id
  unfold schedule
  split
  · exact .refl s
  split <;> rename_i readable <;> rw [readable] at unread unchanged
  · exact unchanged.toKeeps
  · cases unread

theorem cancel_unread (unread : (s.read id).1.isOk = false) (clock : Clock) :
    Keeps s (s.cancel clock id).2 := by
  have unchanged := read_unchanged s id
  unfold cancel
  split <;> rename_i readable <;> rw [readable] at unread unchanged
  · exact unchanged.toKeeps
  · cases unread
  · cases unread

private theorem reads_once (read : (s.read id).1.isOk = true) : s.readFails id 1 = false := by
  simp [readFails, read]

theorem schedule_fails (keyed : Keyed s) (recorded : Recorded s) (clock : Clock) (incoming : Job)
    (failed : s.schedule clock incoming = (.error e, u)) : Fails s incoming.id 1 e u := by
  cases read : (s.read incoming.id).1.isOk with
  | false =>
    have keeps := schedule_unread read clock
    rw [failed] at keeps
    exact .kept keeps
  | true =>
  rcases schedule_cases s clock incoming with
    ⟨e', t, same, unchanged⟩ | ⟨t, due, unchanged, unfinished, _, same⟩
  · rw [failed] at same
    cases same
    exact .kept unchanged.toKeeps
  rw [failed] at same
  have fault : e.isFault = true := armOrDefer_fault (by rw [← same])
  have settles : Settles (t.freed (s.record? incoming.id)) clock.now
      (requested (s.record? incoming.id) incoming) (.error e, u) := by
    rw [same]
    exact requested_settles keyed.numbered unchanged unfinished
  cases held : s.record? incoming.id with
  | none =>
    rw [held] at settles
    cases settles with
    | failed later _ => exact .kept (unchanged.toKeeps.trans later.toKeeps)
    | dropped later _ =>
      have unarmed : t.armed? incoming.id = none := by
        rw [unchanged.entry]
        exact recorded incoming.id held
      exact .kept ((unchanged.toKeeps.trans (forget_keeps unarmed)).trans later.toKeeps)
  | some stored =>
    rw [held] at settles
    have named : stored.id = incoming.id := keyed.keyed incoming.id stored held
    refine .disarmed fault (reads_once read) held
      (by simpa [JobStatus.isActive] using unfinished stored held) ?_
    cases settles with
    | failed later _ => exact disarms_of_keeps unchanged.toKeeps later.toKeeps
    | dropped later _ =>
      rw [requested_id, ← named] at later
      exact forget_disarmed unchanged.toKeeps later.toKeeps

theorem cancel_fails (s : Scheduler) (clock : Clock) (failed : s.cancel clock id = (.error e, u)) :
    Fails s id 1 e u := by
  cases read : (s.read id).1.isOk with
  | false =>
    have keeps := cancel_unread read clock
    rw [failed] at keeps
    exact .kept keeps
  | true =>
  rcases cancel_cases s clock id with
    ⟨e', t, same, unchanged⟩ | ⟨t, same, _, _⟩ | ⟨t, job, unchanged, record, unfinished, same⟩
  · rw [failed] at same
    cases same
    exact .kept unchanged.toKeeps
  · rw [failed] at same
    cases same
  rw [failed] at same
  rcases writeUnarmed_cases (t.disarm job) clock { job with status := .canceled } with
    ⟨e', v, written, later, _⟩ | ⟨store, written, _⟩
  · have fault : e'.isFault = true := write_fault (congrArg Prod.fst written)
    rw [written] at same
    cases same
    exact .disarmed fault (reads_once read) record (by simp [JobStatus.isActive, unfinished])
      (disarms_of_keeps unchanged.toKeeps later.toKeeps)
  · rw [written] at same
    cases same

/-- A cancellation that finds no job has only read. -/
theorem cancel_missing (missing : s.cancel clock id = (.ok none, u)) : Keeps s u := by
  rcases cancel_cases s clock id with
    ⟨e, t, same, _⟩ | ⟨t, same, unchanged, _⟩ | ⟨t, job, _, _, _, same⟩
  · rw [missing] at same
    cases same
  · rw [missing] at same
    have state : u = t := congrArg Prod.snd same
    rw [state]
    exact unchanged.toKeeps
  · rw [missing] at same
    generalize (t.disarm job).writeUnarmed clock { job with status := .canceled } = answer at same
    rcases answer with ⟨_ | _, _⟩ <;> cases same

theorem cancelStored_fails (s : Scheduler) (clock : Clock)
    (failed : s.cancelStored clock id = (.error e, u)) : Fails s id 1 e u := by
  unfold cancelStored at failed
  split at failed <;> rename_i canceled <;> cases failed
  · exact .kept (cancel_missing canceled)
  · exact cancel_fails s clock canceled

/-- A patch that goes on to be scheduled has read the record once. -/
theorem patched_read {patch : JobPatch} {merged : Job} (made : s.patched id patch = (.ok merged, t)) :
    (s.read id).1.isOk = true ∧ t = (s.read id).2 := by
  unfold patched at made
  split at made
  · cases made
  split at made
  · cases made
  rename_i found
  have looked := lookUp_read found
  split at made <;> cases made
  exact looked

/-- No request fails otherwise. -/
theorem request_fails (keyed : Keyed s) (recorded : Recorded s) (request : Request)
    (failed : request.run s = (.error e, u)) : Fails s request.id request.reads e u := by
  have opened : ∀ {answer : Except SchedulerError Job × Scheduler},
      answered answer = (.error e, u) → answer = (.error e, u) := by
    intro answer same
    rcases answer with ⟨_ | _, _⟩ <;> cases same
    rfl
  cases request with
  | schedule clock job => exact schedule_fails keyed recorded clock job (opened failed)
  | patch clock id changes =>
    have failed := opened failed
    have keeps := (patched_unchanged s id changes).toKeeps
    unfold Scheduler.patch at failed
    split at failed <;> rename_i made
    · rename_i merged t
      have named : merged.id = id := patched_id (keyed.keyed id) (by rw [made])
      obtain ⟨read, rfl⟩ := patched_read made
      have keeps := (read_unchanged s id).toKeeps
      have fails := schedule_fails (keyed.of_loses keeps.loses) (recorded.of_loses keeps.loses) clock merged
        failed
      rw [named] at fails
      exact fails.after_read read
    · rw [made] at keeps
      cases failed
      exact .kept keeps
  | cancel clock id => exact cancel_fails s clock failed
  | cancelStored clock id => exact cancelStored_fails s clock (opened failed)
  | cancelFound clock id =>
    have failed := opened failed
    have keeps := (lookUp_unchanged s id).toKeeps
    unfold cancelFound at failed
    split at failed <;> rename_i found
    · rename_i job t
      have named : job.id = id := keyed.keyed id job (lookUp_found (by rw [found]))
      obtain ⟨read, rfl⟩ := lookUp_read found
      rw [named] at failed
      exact (cancelStored_fails _ clock failed).after_read read
    · rw [found] at keeps
      cases failed
      exact .kept keeps

end Scheduler

open Scheduler

namespace Process

variable {s t : Scheduler} {p q : Process} {allowed : Action → Prop}

theorem Changes.recorded (recorded : Recorded s) (changes : Changes s t) : Recorded t := by
  cases changes with
  | loses loses => exact recorded.of_loses loses
  | operates operates =>
    cases operates with
    | kept unchanged => exact recorded.of_loses unchanged.loses
    | freed unchanged _ _ => exact recorded.of_loses (unchanged.loses.trans (freed_loses ..))
    | settled unchanged _ _ settles =>
      exact settles.recorded (recorded.of_loses (unchanged.loses.trans (freed_loses ..)))
  | settles unchanged settles => exact settles.recorded (recorded.of_loses unchanged.loses)

theorem recorded_reaches (begins : Begins p) (reaches : Reaches allowed p q) :
    q.scheduler.Keyed ∧ Recorded q.scheduler := by
  refine reaches.invariant (fun q => q.scheduler.Keyed ∧ Recorded q.scheduler)
    ⟨begins.owned.toKeyed, fun id _ => begins.unarmed id⟩ ?_
  intro q action _ ⟨keyed, recorded⟩
  have changes := (perform_moves q action).changes keyed
  exact ⟨changes.keyed keyed, changes.recorded recorded⟩

/-- What a failed request leaves behind. -/
structure FailsSafely (s : Scheduler) (request : Request) (e : SchedulerError) (t : Scheduler) :
    Prop where
  record : t.record? = s.record?
  /-- no timer is added -/
  pending : ∀ handle id, t.owner? handle = some id → s.owner? handle = some id
  /-- the request was refused -/
  refused : e.isFault = false → Keeps s t
  /-- a read failed -/
  unread : s.readFails request.id request.reads = true → Keeps s t
  /-- a job that is armed no more is stored and active, and is not skipped by a recovery -/
  disarmed : Keeps s t ∨ ∃ job, s.record? request.id = some job ∧ job.status.isActive = true ∧
    Disarms s job t ∧ ∀ clock, (t.recover clock request.id).1 ≠ .ok .skipped

/-- A request that fails, at whatever point, leaves the record of its job as it was and adds no timer;
if it is refused or cannot read the record it leaves the index and the timers as they were as well, and
if it fails later it may have disarmed the job it is for, and that is all. -/
theorem failed_requests_keep_the_record (begins : Begins p) (reaches : Reaches allowed p q)
    {request : Request} {e : SchedulerError} (failed : request.run q.scheduler = (.error e, t)) :
    FailsSafely q.scheduler request e t := by
  obtain ⟨keyed, recorded⟩ := recorded_reaches begins reaches
  cases request_fails keyed recorded request failed with
  | kept keeps =>
    exact ⟨keeps.record, keeps.loses.owner, fun _ => keeps, fun _ => keeps, .inl keeps⟩
  | @disarmed job fault read record active disarms =>
    refine ⟨disarms.record, ?_, ?_, ?_, .inr ⟨job, record, active, disarms, ?_⟩⟩
    · intro handle id held
      rw [disarms.owner] at held
      split at held
      · cases held
      · exact held
    · intro refused
      rw [fault] at refused
      cases refused
    · intro unread
      rw [read] at unread
      cases unread
    · intro clock skipped
      rw [← disarms.record] at record
      refine recover_skips skipped record active ?_
      rw [disarms.entry, if_pos]
      exact (keyed.keyed request.id job (disarms.record ▸ record)).symm

/-- A job whose cancellation cannot be stored is still scheduled, but no timer is pending for it. -/
theorem failed_requests_keep_the_record_of_an_unstored_cancellation :
    let q := (ofScheduler .vacant).performAll [
      .operate (.schedule ⟨⟨0, 0⟩, 0⟩ (.once "job" ⟨60, 0⟩)), .stage true [] [some .unavailable] 0]
    let request := Request.cancel ⟨⟨1, 0⟩, 0⟩ "job"
    let t := (request.run q.scheduler).2
    FailsSafely q.scheduler request (.storage (.unavailable "scripted")) t ∧
      (t.record? "job").map (·.status) = some .scheduled ∧ t.timers.pending.length = 0 := by
  intro q request t
  have run : Reaches (fun _ => True) (ofScheduler .vacant) q :=
    reaches_performAll _ _ fun _ _ => trivial
  have failed : (request.run q.scheduler).1 = .error (.storage (.unavailable "scripted")) := by
    rfl
  refine ⟨failed_requests_keep_the_record begins_vacant run (Prod.ext failed rfl), ?_, ?_⟩
  · decide +kernel
  · decide +kernel

/-- When a job is scheduled again and the timer service refuses, the job has lost its entry and its
timer: a failed request need not leave the job as it was. -/
theorem failed_rescheduling_disarms :
    let q := (ofScheduler .vacant).performAll [
      .operate (.schedule ⟨⟨0, 0⟩, 0⟩ (.once "job" ⟨60, 0⟩)), .stage true [] [] 1]
    let request := Request.schedule ⟨⟨1, 0⟩, 0⟩ (.once "job" ⟨60, 0⟩)
    let t := (request.run q.scheduler).2
    (request.run q.scheduler).1.isOk = false ∧
      q.scheduler.armed? "job" = some ⟨.issued 1, ⟨60, 0⟩, false⟩ ∧ t.armed? "job" = none ∧
      q.scheduler.owner? (.issued 1) = some "job" ∧ t.owner? (.issued 1) = none := by
  decide +kernel

end Process

end Punctual
