import Punctual.Proofs.Ownership

/-!
A scan passes over every job that has an entry in the index, so an entry must not outlive what it
stands for. As long as it is not marked as firing, its timer is pending or has elapsed and is about to
claim the job; once it is marked, a firing of the job is on its way to completion. Whoever answered an
error drops the entry a step later, and until then stands for it. This holds whatever fails and however the
operations interleave, so that an active job that nothing is being done for has a pending timer or can be
recovered.

A completion that breaks off drops no entry. It leaves one that stands for nothing but the job's record, as
it was when it broke off.
-/
namespace Punctual

open Scheduler

/-- A call for the job under the handle has come to some phase. -/
def InProgress (calls : List FireCall) (id : JobId) (handle : Handle) (phase : FirePhase → Bool) :
    Prop :=
  ∃ call ∈ calls, call.id = id ∧ call.handle = handle ∧ phase call.phase = true

/-- A completion for the job under the handle has broken off, and the record still is one with which it
does: its trigger cannot be moved on. -/
structure BrokeOff (s : Scheduler) (calls : List FireCall) (id : JobId) (handle : Handle) : Prop where
  call : InProgress calls id handle (· == .stranded)
  record : ∃ job, s.record? id = some job ∧ job.trigger.advance? = none

/-- What the entry stands for is still there, unless a completion has broken off. -/
structure Supported (s : Scheduler) (calls : List FireCall) (id : JobId) (entry : ArmedJob) : Prop where
  armed : entry.firing = false →
    s.owner? entry.handle = some id ∨ InProgress calls id entry.handle FirePhase.isClaiming
  firing : entry.firing = true →
    InProgress calls id entry.handle FirePhase.isFiring ∨ BrokeOff s calls id entry.handle

/-- What every entry of the index stands for is still there. -/
def Live (s : Scheduler) (calls : List FireCall) : Prop :=
  ∀ id entry, s.armed? id = some entry → Supported s calls id entry

variable {s t : Scheduler} {calls : List FireCall} {id : JobId} {handle : Handle} {job : Job}
  {entry : ArmedJob} {now : Instant} {answer : Except SchedulerError Job × Scheduler}
  {call changed : FireCall} {number : Nat} {phase : FirePhase → Bool}

/-! ## Calls that come and go on -/

theorem InProgress.append (progress : InProgress calls id handle phase) (more : List FireCall) :
    InProgress (calls ++ more) id handle phase := by
  obtain ⟨call, member, rest⟩ := progress
  exact ⟨call, List.mem_append_left more member, rest⟩

/-- A call that changes takes nothing away but what was its own. -/
theorem InProgress.set (progress : InProgress calls id handle phase)
    (found : calls[number]? = some call) (changed : FireCall) :
    InProgress (calls.set number changed) id handle phase ∨
      (call.id = id ∧ call.handle = handle ∧ phase call.phase = true) := by
  obtain ⟨other, member, same, named, reached⟩ := progress
  obtain ⟨place, bound, rfl⟩ := List.mem_iff_getElem.mp member
  by_cases here : number = place
  · subst here
    rw [List.getElem?_eq_getElem bound] at found
    cases found
    exact .inr ⟨same, named, reached⟩
  · refine .inl ⟨calls[place], ?_, same, named, reached⟩
    refine List.mem_iff_getElem.mpr ⟨place, by simpa using bound, ?_⟩
    simp [here]

theorem InProgress.of_set (found : calls[number]? = some call) (reached : phase changed.phase = true)
    (same : changed.id = id) (named : changed.handle = handle) :
    InProgress (calls.set number changed) id handle phase := by
  obtain ⟨bound, _⟩ := List.getElem?_eq_some_iff.mp found
  refine ⟨changed, ?_, same, named, reached⟩
  exact List.mem_iff_getElem.mpr ⟨number, by simpa using bound, by simp⟩

/-- A call that has come to one of two phases has come to the first or to the second. -/
theorem InProgress.of_either {first second : FirePhase} (progress : InProgress calls id handle phase)
    (either : ∀ reached, phase reached = true → reached = first ∨ reached = second) :
    InProgress calls id handle (· == first) ∨ InProgress calls id handle (· == second) := by
  obtain ⟨call, member, same, named, reached⟩ := progress
  rcases either call.phase reached with here | here
  · exact .inl ⟨call, member, same, named, by simp [here]⟩
  · exact .inr ⟨call, member, same, named, by simp [here]⟩

/-- A completion that broke off stays as it is as long as its record does. -/
theorem BrokeOff.of_record (broke : BrokeOff s calls id handle) (record : t.record? id = s.record? id) :
    BrokeOff t calls id handle :=
  ⟨broke.call, by rw [record]; exact broke.record⟩

theorem BrokeOff.append (broke : BrokeOff s calls id handle) (more : List FireCall) :
    BrokeOff s (calls ++ more) id handle :=
  ⟨broke.call.append more, broke.record⟩

theorem BrokeOff.set (broke : BrokeOff s calls id handle) (found : calls[number]? = some call)
    (moving : call.phase ≠ .stranded) (changed : FireCall) :
    BrokeOff s (calls.set number changed) id handle := by
  refine ⟨(broke.call.set found changed).resolve_right ?_, broke.record⟩
  rintro ⟨_, _, reached⟩
  exact moving (by simpa using reached)

/-! ## What is done to one job -/

theorem Live.of_spares (live : Live s calls) (spares : Spares id s t)
    (own : ∀ entry, t.armed? id = some entry → Supported t calls id entry) : Live t calls := by
  intro other entry held
  by_cases same : other = id
  · subst same
    exact own entry held
  · rw [spares.entry other same] at held
    obtain ⟨armed, firing⟩ := live other entry held
    refine ⟨fun idle => ?_, fun marked => ?_⟩
    · rw [spares.owner entry.handle other same]
      exact armed idle
    · exact (firing marked).imp_right (·.of_record (spares.record other same))

theorem Live.of_keeps (live : Live s calls) (keeps : Keeps s t) : Live t calls := by
  intro other entry held
  rw [keeps.entry] at held
  obtain ⟨armed, firing⟩ := live other entry held
  refine ⟨fun idle => ?_, fun marked => ?_⟩
  · rw [keeps.owner]
    exact armed idle
  · exact (firing marked).imp_right (·.of_record (congrFun keeps.record other))

theorem Live.freed (live : Live s calls) (owned : Owned s) (id : JobId) :
    Live (s.freed (s.record? id)) calls := by
  have spares := freed_spares owned id
  cases held : s.record? id with
  | none => exact live
  | some job =>
    rw [held] at spares
    refine live.of_spares spares ?_
    intro entry entered
    change (s.disarm job).armed? id = some entry at entered
    rw [disarm_entry, owned.keyed id job held, if_pos rfl] at entered
    cases entered

/-- Once its job was stored, the index marks it as firing no longer. -/
theorem Scheduler.Settles.not_firing {saved : Job} (settles : Settles s now job (.ok saved, t))
    (held : t.armed? job.id = some entry) : entry.firing = false := by
  cases settles with
  | parked parks =>
    have vacant := parks.entry job.id
    rw [held, Job.stamped, if_pos rfl] at vacant
    cases vacant
  | armed _ arms =>
    obtain ⟨due, entered⟩ := arms.entry
    have entered := entered job.id
    rw [held, Job.stamped, if_pos rfl] at entered
    cases entered
    rfl

theorem Live.settled (live : Live s calls) (owned : Owned s) (settles : Settles s now job answer) :
    Live answer.2 calls := by
  have spares := settles.spares owned.numbered
  cases settles with
  | failed unchanged _ => exact live.of_keeps unchanged.toKeeps
  | dropped unchanged _ =>
    refine live.of_spares spares ?_
    intro entry held
    rw [unchanged.entry, forget_entry, if_pos rfl] at held
    cases held
  | parked parks =>
    refine live.of_spares spares ?_
    intro entry held
    rw [parks.entry] at held
    simp [Job.stamped] at held
  | armed _ arms =>
    refine live.of_spares spares ?_
    intro entry held
    obtain ⟨due, entered⟩ := arms.entry
    rw [entered, Job.stamped, if_pos rfl] at held
    cases held
    constructor
    · intro _
      refine .inl ?_
      rw [arms.owner, if_pos rfl]
      rfl
    · intro firing
      cases firing

theorem Live.operated {operation : Operation} (live : Live s calls) (owned : Owned s)
    (operates : Operates s operation t) : Live t calls := by
  have freed : ∀ {u}, Unchanged s u → Live (u.freed (s.record? operation.id)) calls ∧
      Owned (u.freed (s.record? operation.id)) := by
    intro u unchanged
    have kept := live.of_keeps unchanged.toKeeps
    have still := owned.of_loses unchanged.loses
    rw [← unchanged.record]
    exact ⟨kept.freed still operation.id, still.of_loses (freed_loses ..)⟩
  cases operates with
  | kept unchanged => exact live.of_keeps unchanged.toKeeps
  | freed unchanged _ _ => exact (freed unchanged).1
  | settled unchanged _ _ settles =>
    obtain ⟨kept, still⟩ := freed unchanged
    exact kept.settled still settles

/-! ## What is done for one call -/

/-- A call may go on as long as the entry under its handle does not depend on it. -/
theorem Live.set (live : Live s calls) (found : calls[number]? = some call)
    (moving : call.phase ≠ .stranded) (same : changed.id = call.id)
    (named : changed.handle = call.handle)
    (claiming : call.phase.isClaiming = true → changed.phase.isClaiming = true)
    (firing : call.phase.isFiring = true →
      changed.phase.isFiring = true ∨
      (changed.phase = .stranded ∧ ∃ job, s.record? call.id = some job ∧ job.trigger.advance? = none) ∨
      ∀ entry, s.armed? call.id = some entry → entry.firing = false) :
    Live s (calls.set number changed) := by
  intro id entry held
  obtain ⟨armed, active⟩ := live id entry held
  constructor
  · intro idle
    rcases armed idle with pending | progress
    · exact .inl pending
    · rcases progress.set found changed with still | ⟨rfl, handled, reached⟩
      · exact .inr still
      · exact .inr (.of_set found (claiming reached) same (named.trans handled))
  · intro marked
    rcases active marked with progress | broke
    · rcases progress.set found changed with still | ⟨rfl, handled, reached⟩
      · exact .inl still
      · rcases firing reached with goes | ⟨stranded, broken⟩ | unmarked
        · exact .inl (.of_set found goes same (named.trans handled))
        · exact .inr ⟨.of_set found (by simp [stranded]) same (named.trans handled), broken⟩
        · simp [unmarked entry held] at marked
    · exact .inr (broke.set found moving changed)

/-- An entry that does not depend on a call stands for what it did when the call changes. -/
theorem Supported.set (supported : Supported s calls id entry) (found : calls[number]? = some call)
    (moving : call.phase ≠ .stranded) (apart : ¬ (call.id = id ∧ call.handle = entry.handle))
    (changed : FireCall) : Supported s (calls.set number changed) id entry := by
  obtain ⟨armed, firing⟩ := supported
  constructor
  · intro idle
    refine (armed idle).imp_right fun progress => ?_
    exact (progress.set found changed).resolve_right fun own => apart ⟨own.1, own.2.1⟩
  · intro marked
    rcases firing marked with progress | broke
    · exact .inl ((progress.set found changed).resolve_right fun own => apart ⟨own.1, own.2.1⟩)
    · exact .inr (broke.set found moving changed)

/-- When the entry under its handle is dropped, a call may end. -/
theorem Live.release (live : Live s calls) (found : calls[number]? = some call)
    (moving : call.phase ≠ .stranded) (changed : FireCall) :
    Live (s.release call.id call.handle) (calls.set number changed) := by
  intro id entry held
  obtain ⟨before, other⟩ : s.armed? id = some entry ∧ ¬ (call.id = id ∧ call.handle = entry.handle) := by
    rw [release_entry] at held
    split at held
    · rename_i same
      subst same
      obtain ⟨held, apart⟩ := Option.filter_eq_some_iff.mp held
      exact ⟨held, fun equal => by simp [equal.2] at apart⟩
    · rename_i different
      exact ⟨held, fun equal => different equal.1.symm⟩
  obtain ⟨armed, firing⟩ := (live id entry before).set found moving other changed
  exact ⟨armed, fun marked => (firing marked).imp_right (·.of_record rfl)⟩

/-- A claim hands the entry under its handle from the elapsed timer over to the firing. -/
theorem Live.claimed (live : Live s calls) (found : calls[number]? = some call)
    (moving : call.phase ≠ .stranded) :
    Live { s with armed := s.armed.markFiring call.id call.handle }
      (calls.set number { call with phase := .executing, claimed? := some job }) := by
  have others : ∀ id entry, s.armed? id = some entry →
      ¬ (call.id = id ∧ call.handle = entry.handle) →
      Supported { s with armed := s.armed.markFiring call.id call.handle }
        (calls.set number { call with phase := .executing, claimed? := some job }) id entry := by
    intro id entry held other
    obtain ⟨armed, firing⟩ := (live id entry held).set found moving other
      { call with phase := .executing, claimed? := some job }
    exact ⟨armed, fun marked => (firing marked).imp_right (·.of_record rfl)⟩
  intro id entry held
  rw [markFiring_entry] at held
  split at held
  · rename_i same
    subst same
    obtain ⟨before, held, marked⟩ := Option.map_eq_some_iff.mp held
    split at marked
    · rename_i named
      rw [← marked]
      exact ⟨nofun, fun _ => .inl (.of_set found rfl rfl named.symm)⟩
    · rename_i different
      rw [← marked]
      exact others call.id before held fun own => different own.2.symm
  · rename_i different
    exact others id entry held fun own => different own.1.symm

/-- An elapsed timer hands its entry over to the call that it begins. -/
theorem Live.elapsed (live : Live s calls) (pending : s.owner? (.issued number) = some id) :
    Live { s with timers := s.timers.drop number } (calls ++ [.begin id (.issued number)]) := by
  intro other entry held
  obtain ⟨armed, firing⟩ := live other entry held
  constructor
  · intro idle
    rw [drop_owner]
    rcases armed idle with owner | progress
    · by_cases elapsing : entry.handle = .issued number
      · rw [elapsing, pending] at owner
        cases owner
        exact .inr ⟨.begin id (.issued number), by simp, rfl, elapsing.symm, rfl⟩
      · rw [if_neg elapsing]
        exact .inl owner
    · exact .inr (progress.append _)
  · intro marked
    exact (firing marked).imp (·.append _) fun broke => (broke.append _).of_record rfl

/-- When an outcome is taken into the record, the call ends, or has yet to drop its entry. -/
theorem Live.concluded (live : Live s calls) (owned : Owned s) (found : calls[number]? = some call)
    (executing : call.phase = .executing) (named : job.id = call.id) {clock : Clock} {succeeded : Bool}
    (concludes : s.Concludes clock job succeeded answer) :
    Live answer.2 (calls.set number (call.afterCompletion (answered answer).1)) := by
  obtain ⟨status, settles⟩ := concludes.settles owned.numbered
  have settled := live.settled owned settles
  have claiming : call.phase.isClaiming ≠ true := by simp [executing, FirePhase.isClaiming]
  obtain ⟨result, t⟩ := answer
  cases result with
  | error e =>
    have phase := call.afterCompletion_fault (concludes.fault rfl)
    change Live t (calls.set number (call.afterCompletion (.error e)))
    rw [phase]
    exact settled.set found (by simp [executing]) rfl rfl (absurd · claiming) fun _ => .inl rfl
  | ok saved =>
    refine settled.set found (by simp [executing]) rfl rfl (absurd · claiming) fun _ => ?_
    refine .inr (.inr fun entry held => settles.not_firing ?_)
    rw [Job.concluded_id, named]
    exact held

namespace Process

variable {p q : Process} {action : Action} {allowed : Action → Prop}

theorem Moves.live (moves : Moves p action q) (owned : p.scheduler.Owned)
    (serving : p.scheduler.timers.isShutDown = false) (live : Live p.scheduler p.calls) :
    Live q.scheduler q.calls := by
  cases moves with
  | kept keeps _ calls =>
    rw [calls]
    exact live.of_keeps keeps
  | operated _ scheduler calls =>
    rw [scheduler, calls]
    exact live.operated owned (Operation.operates owned.toKeyed _)
  | elapsed pending scheduler calls =>
    rw [scheduler, calls]
    exact live.elapsed pending
  | lost ended _ _ =>
    rw [serving] at ended
    cases ended
  | called scheduler calls =>
    rw [scheduler, calls]
    intro id entry held
    obtain ⟨armed, firing⟩ := live id entry held
    exact ⟨fun idle => (armed idle).imp_right (·.append _),
      fun marked => (firing marked).imp (·.append _) (·.append _)⟩
  | unclaimed found waiting unchanged _ calls =>
    rw [calls]
    refine (live.of_keeps unchanged.toKeeps).set found (by simp [waiting]) rfl rfl (fun _ => rfl) ?_
    intro firing
    simp [waiting, FirePhase.isFiring] at firing
  | claimed found waiting unchanged _ _ scheduler calls =>
    rw [scheduler, calls]
    exact (live.of_keeps unchanged.toKeeps).claimed found (by simp [waiting])
  | stale found waiting unchanged _ scheduler calls =>
    rw [scheduler, calls]
    exact (live.of_keeps unchanged.toKeeps).release found (by simp [waiting]) _
  | uncompleted found executing unchanged _ calls =>
    rw [calls]
    refine (live.of_keeps unchanged.toKeeps).set found (by simp [executing]) rfl rfl ?_
      (fun _ => .inl rfl)
    intro claiming
    simp [executing, FirePhase.isClaiming] at claiming
  | stranded found executing unchanged record _ _ broken calls =>
    rw [calls]
    refine (live.of_keeps unchanged.toKeeps).set found (by simp [executing]) rfl rfl ?_ ?_
    · intro claiming
      simp [executing, FirePhase.isClaiming] at claiming
    · rw [← unchanged.record] at record
      exact fun _ => .inr (.inl ⟨rfl, _, record, broken⟩)
  | overtaken found executing unchanged _ scheduler calls =>
    rw [scheduler, calls]
    exact (live.of_keeps unchanged.toKeeps).release found (by simp [executing]) _
  | concluded found executing unchanged record _ concludes scheduler calls =>
    rw [scheduler, calls]
    exact (live.of_keeps unchanged.toKeeps).concluded (owned.of_loses unchanged.loses) found executing
      (owned.keyed _ _ record) concludes
  | released found failed scheduler calls =>
    rw [scheduler, calls]
    exact live.release found (by rcases failed with failed | failed <;> simp [failed]) _

/-- No active job is hidden from recovery, but by a completion that broke off. -/
structure NoneHidden (p : Process) : Prop where
  /-- pending; or begun and yet to claim; or the claim answered an error, and the entry is dropped next -/
  armed : ∀ id entry, p.scheduler.armed? id = some entry → entry.firing = false →
    p.scheduler.owner? entry.handle = some id ∨ InProgress p.calls id entry.handle (· == .waiting) ∨
      InProgress p.calls id entry.handle (· == .unclaimed)
  /-- claimed and yet to complete; or the completion answered an error, and the entry is dropped next -/
  firing : ∀ id entry, p.scheduler.armed? id = some entry → entry.firing = true →
    InProgress p.calls id entry.handle (· == .executing) ∨
      InProgress p.calls id entry.handle (· == .uncompleted) ∨
      BrokeOff p.scheduler p.calls id entry.handle
  recoverable : ∀ id job, p.scheduler.record? id = some job → job.status.isActive = true →
    (∀ call ∈ p.calls, call.id = id → call.phase = .ended) →
    (∃ entry, p.scheduler.armed? id = some entry ∧ p.scheduler.owner? entry.handle = some id) ∨
      (p.scheduler.armed? id = none ∧ ∀ clock, (p.scheduler.recover clock id).1 ≠ .ok .skipped)

/-- An entry for a job of which every call has ended stands for a pending timer. -/
private theorem pending_of_ended (supported : Supported s calls id entry)
    (ended : ∀ call ∈ calls, call.id = id → call.phase = .ended) : s.owner? entry.handle = some id := by
  cases marked : entry.firing with
  | true =>
    rcases supported.firing marked with ⟨call, member, same, _, reached⟩ | ⟨⟨call, member, same, _, reached⟩, _⟩
    · simp [ended call member same, FirePhase.isFiring] at reached
    · simp [ended call member same] at reached
  | false =>
    rcases supported.armed marked with pending | ⟨call, member, same, _, reached⟩
    · exact pending
    · simp [ended call member same, FirePhase.isClaiming] at reached

theorem live_reaches (begins : Begins p) (reaches : Reaches allowed p q) :
    Live q.scheduler q.calls := by
  have invariant := reaches.invariant
    (fun q => q.scheduler.Owned ∧ q.scheduler.timers.isShutDown = false ∧ Live q.scheduler q.calls)
    ⟨begins.owned, begins.serving, fun id entry held => by simp [begins.unarmed] at held⟩ ?_
  · exact invariant.2.2
  · intro q action _ ⟨owned, serving, live⟩
    have moves := perform_moves q action
    have serving' := ((moves.changes owned.toKeyed).isShutDown owned).trans serving
    exact ⟨perform_owned owned action, serving', moves.live owned serving live⟩

/-- Whatever fails and in whatever order the actions come, no active job is hidden from recovery, unless a
completion of the job has broken off. -/
theorem no_active_job_is_hidden (begins : Begins p) (reaches : Reaches allowed p q) :
    NoneHidden q := by
  have live := live_reaches begins reaches
  constructor
  case armed =>
    intro id entry held idle
    refine ((live id entry held).armed idle).imp_right fun progress => progress.of_either ?_
    intro reached claiming
    cases reached <;> first | exact .inl rfl | exact .inr rfl | cases claiming
  case firing =>
    intro id entry held marked
    rcases (live id entry held).firing marked with progress | broke
    · refine (progress.of_either ?_).imp_right .inl
      intro reached firing
      cases reached <;> first | exact .inl rfl | exact .inr rfl | cases firing
    · exact .inr (.inr broke)
  case recoverable =>
    intro id job record active ended
    cases entered : q.scheduler.armed? id with
    | some entry => exact .inl ⟨entry, rfl, pending_of_ended (live id entry entered) ended⟩
    | none =>
      refine .inr ⟨rfl, fun clock skipped => ?_⟩
      exact recover_skips skipped record active entered

/-- A job whose completion could not be stored is still active and has no entry. -/
theorem no_active_job_is_hidden_by_failed_completion :
    let q := (ofScheduler .vacant).performAll [
      .operate (.schedule ⟨⟨0, 0⟩, 0⟩ (.once "job" ⟨60, 0⟩)), .elapse 1, .claim 0,
      .stage false [] [] 0, .complete 0 ⟨⟨60, 0⟩, 0⟩ (.ok (.success ⟨60, 0⟩ "job")), .release 0]
    NoneHidden q ∧ (q.scheduler.record? "job").map (·.status.isActive) = some true ∧
      q.scheduler.armed? "job" = none := by
  have run : ∀ actions, Reaches (fun _ => True) (ofScheduler .vacant)
      ((ofScheduler .vacant).performAll actions) :=
    fun actions => reaches_performAll _ actions fun _ _ => trivial
  refine ⟨no_active_job_is_hidden begins_vacant (run _), ?_, ?_⟩
  · decide +kernel
  · decide +kernel

/-- A job is armed and its timer elapses, but the claim cannot read the record. -/
def unread : List Action := [.operate (.schedule ⟨⟨0, 0⟩, 0⟩ (.once "job" ⟨60, 0⟩)), .elapse 1,
  .stage false [] [] 0, .claim 0]

/-- A job that is due fires at once, and its completion breaks off. -/
def breakingOff : List Action := [.operate (.schedule ⟨⟨0, 0⟩, 0⟩ (.dailyFromTheFirst "job")),
  .elapse 1, .claim 0, .complete 0 ⟨⟨1, 0⟩, 0⟩ (.ok (.success ⟨1, 0⟩ "job"))]

/-- An entry outlives what it stands for: by a step, when the claim has answered an error; and for good,
when the completion has broken off. Then the job is active, no call for it goes on and no timer of it is
pending, but recovery skips it. -/
theorem entries_outlive_what_they_stand_for :
    let unclaimed := (ofScheduler .vacant).performAll unread
    let stranded := (ofScheduler .forcing).performAll breakingOff
    ((unclaimed.scheduler.armed? "job").map (fun entry => (entry.handle, entry.firing)) =
        some (.issued 1, false) ∧
      unclaimed.scheduler.owner? (.issued 1) = none ∧
      unclaimed.calls.map (·.phase) = [.unclaimed]) ∧
    (stranded.scheduler.armed? "job").map (fun entry => (entry.handle, entry.firing)) =
        some (.issued 1, true) ∧
      stranded.calls.map (·.phase) = [.stranded] ∧ stranded.scheduler.timers.pending = [] ∧
      (stranded.scheduler.record? "job").map (·.status) = some .scheduled ∧
      (stranded.scheduler.recover ⟨⟨60, 0⟩, 0⟩ "job").1.toOption = some .skipped := by
  intro unclaimed stranded
  refine ⟨⟨?_, ?_, ?_⟩, ?_, ?_, ?_, ?_, ?_⟩ <;> decide +kernel

end Process

end Punctual
