import Punctual.Proofs.Agreement
import Punctual.Proofs.Records

/-!
A job that was scheduled once and is not scheduled again fires once for each handle under which it is
armed, and one firing at a time, however many scans and recoveries overlap with its firings. While it
executes, its entry stays in the index, so that no recovery arms it a second time; a cancellation takes
the entry away, but also the record's chance to be claimed. Hence the record counts the successes, and
its trigger is the one it was scheduled with, advanced as often. A success whose completion breaks off is
not counted: it leaves the record, and with it the trigger that cannot be moved on, as they were.

An execution is in flight from its claim to its completion. One that exceeds its time is aborted and
completed as a failure there and then, and is in flight no longer.

A timer that calls back although it was disarmed needs no action of its own: it elapsed before, and its
call waits as long as it likes.
-/
namespace Punctual

open Scheduler

/-- The trigger after so many firings were taken, and missed ones passed over in between. -/
inductive Trigger.Advanced (initial : Trigger) : Nat → Trigger → Prop
  | start : Advanced initial 0 initial
  | fired {n : Nat} {trigger after : Trigger} {taken? : Option Instant}
    (before : Advanced initial n trigger) (advances : trigger.advance? = some (taken?, after)) :
    Advanced initial (n + 1) after
  | passed {n : Nat} {trigger after : Trigger} {threshold : Instant}
    (before : Advanced initial n trigger) (skipped : trigger.skipUntil? threshold = some after) :
    Advanced initial n after

theorem Trigger.Advanced.over {initial before after : Trigger} {n : Nat}
    (advanced : initial.Advanced n before) (passed : before.PassedOver after) :
    initial.Advanced n after := by
  rcases passed with rfl | ⟨threshold, skipped⟩
  · exact advanced
  · exact advanced.passed skipped

namespace Process

variable {p q : Process} {id : JobId} {action : Action} {initial : Trigger} {job after : Job}
  {operation : Operation} {number : Nat} {call other : FireCall} {handle : Handle}

/-- The action is ordinary and neither schedules nor patches the job. -/
def leaves (id : JobId) : Action → Bool
  | .operate (.schedule _ job) => job.id ≠ id
  | .readPatch other _ => other ≠ id
  | action => ordinary action

theorem ordinary_of_leaves (permitted : leaves id action = true) : ordinary action = true := by
  cases action with
  | operate operation => rfl
  | readPatch other patch => rfl
  | fire other handle => cases permitted
  | stage available readFaults writeFaults failures => cases permitted
  | _ => rfl

/-- The only patched jobs to come are those of permitted patches. -/
theorem patched_of_perform (keyed : p.scheduler.Keyed) (permitted : leaves id action = true)
    (patched : ∀ job ∈ p.patched, job.id ≠ id) : ∀ job ∈ (p.perform action).patched, job.id ≠ id := by
  intro job member
  rcases patched_perform member with before | ⟨other, patch, reads, made⟩
  · exact patched job before
  · subst reads
    have different : other ≠ id := by simpa [leaves] using permitted
    rw [patched_id (keyed.keyed other) made]
    exact different

/-- The operations on the job that are left are cancellations and recoveries. -/
theorem operation_of_leaves (permitted : leaves id action = true)
    (patched : ∀ job ∈ p.patched, job.id ≠ id) (carried : p.operation? action = some operation)
    (named : operation.id = id) :
    operation = .cancel operation.clock id ∨ operation = .recover operation.clock id := by
  cases operation with
  | cancel clock other => exact .inl (by rw [← named]; rfl)
  | recover clock other => exact .inr (by rw [← named]; rfl)
  | schedule clock incoming =>
    have named : incoming.id = id := named
    exfalso
    rcases operation_schedules carried with asked | made
    · subst asked
      simp [leaves, named] at permitted
    · exact patched incoming made named

/-- The job was handed to its executor in a call, and is yet to be completed. -/
structure Executes (p : Process) (id : JobId) (number : Nat) (call : FireCall) : Prop where
  found : p.calls[number]? = some call
  named : call.id = id
  executing : call.phase = .executing

/-- The job was claimed in a call that has not ended: it executes, or its completion broke off. -/
structure Holds (p : Process) (id : JobId) (number : Nat) (call : FireCall) : Prop where
  found : p.calls[number]? = some call
  named : call.id = id
  claimed : call.phase = .executing ∨ call.phase = .stranded

theorem Executes.holds (executes : Executes p id number call) : Holds p id number call :=
  ⟨executes.found, executes.named, .inl executes.executing⟩

/-- What a permitted action makes of the job's record. -/
inductive JobMoves (p : Process) (id : JobId) (job : Job) : Action → Job → Prop
  | kept {action : Action} : JobMoves p id job action job
  | canceled {action : Action} {handle? : Option Handle} {now : Instant} :
    JobMoves p id job action ({ job with status := .canceled }.stamped handle? now)
  | recovered {action : Action} {clock : Clock} {status : JobStatus} {trigger : Trigger}
    {handle? : Option Handle} {now : Instant}
    (carried : p.operation? action = some (.recover clock id)) (active : job.status.isActive = true)
    (unarmed : p.scheduler.armed? id = none) (passed : job.trigger.PassedOver trigger) :
    JobMoves p id job action ({ job with status, trigger }.stamped handle? now)
  | concluded {number : Nat} {clock : Clock} {outcome : ExecutionOutcome} {call : FireCall}
    {status : JobStatus} {handle? : Option Handle} {now : Instant} (executes : Executes p id number call)
    (current : isCurrent job call.handle = true)
    (answers : hasSucceeded outcome = true →
      ∃ taken?, job.trigger.advance? = some (taken?, job.trigger.rest)) :
    JobMoves p id job (.complete number clock outcome)
      ((job.concluded (hasSucceeded outcome) status).stamped handle? now)

theorem job_moves (keyed : p.scheduler.Keyed) (permitted : leaves id action = true)
    (patched : ∀ job ∈ p.patched, job.id ≠ id) (record : p.scheduler.record? id = some job) :
    ∃ after, (p.perform action).scheduler.record? id = some after ∧ JobMoves p id job action after := by
  have moved := (perform_moves p action).record_moves keyed id
  generalize (p.perform action).scheduler.record? id = after? at moved ⊢
  cases moved with
  | kept => exact ⟨job, record, .kept⟩
  | operated carried named makes =>
    have left := operation_of_leaves permitted patched carried named
    cases makes with
    | requested _ _ => rcases left with left | left <;> cases left
    | canceled held _ =>
      rcases left with left | left <;> cases left
      rw [record] at held
      cases held
      exact ⟨_, rfl, .canceled⟩
    | abandoned held active unarmed _ =>
      rcases left with left | left <;> cases left
      rw [record] at held
      cases held
      exact ⟨_, rfl, .recovered carried active unarmed (.inl rfl)⟩
    | resumed held active unarmed passed _ =>
      rcases left with left | left <;> cases left
      rw [record] at held
      cases held
      exact ⟨_, rfl, .recovered carried active unarmed passed⟩
  | concluded found named executing held current answers =>
    rw [record] at held
    cases held
    exact ⟨_, rfl, .concluded ⟨found, named, executing⟩ current answers⟩

/-! ## One firing at a time -/

/-- What holds throughout a run in which a job is neither scheduled again nor patched. -/
structure Single (id : JobId) (initial : Trigger) (p : Process) : Prop where
  sound : Sound p
  patched : ∀ job ∈ p.patched, job.id ≠ id
  distinct : (p.calls.map (·.handle)).Nodup
  record : ∃ job n, p.scheduler.record? id = some job ∧ initial.Advanced n job.trigger ∧
    job.executions = min n maxNat32
  held : ∀ number call, Holds p id number call → ∃ job, p.scheduler.record? id = some job ∧
    (job.status = .canceled ∨ isCurrent job call.handle = true)
  single : ∀ first second call other, Executes p id first call → Executes p id second other →
    first = second

/-- An elapsed timer has not called before. -/
theorem Sound.distinct (sound : Sound p) (permitted : ordinary action = true)
    (distinct : (p.calls.map (·.handle)).Nodup) :
    ((p.perform action).calls.map (·.handle)).Nodup := by
  rcases (perform_moves p action).handles with same | ⟨begun, added, pending | ⟨id, fires⟩⟩
  · rw [same]
    exact distinct
  · obtain ⟨id, pending⟩ := pending
    rw [added]
    refine List.nodup_append.mpr ⟨distinct, by simp, ?_⟩
    intro handle member last only
    obtain ⟨call, begun, named⟩ := List.mem_map.mp member
    rw [List.mem_singleton] at only
    intro same
    have ended := (sound.past call begun).ended
    rw [named, same, only, pending] at ended
    cases ended
  · subst fires
    cases permitted

theorem call_of_handle {first second : Nat} (distinct : (p.calls.map (·.handle)).Nodup)
    (found : p.calls[first]? = some call) (found' : p.calls[second]? = some other)
    (same : call.handle = other.handle) : first = second := by
  obtain ⟨bound, here⟩ := List.getElem?_eq_some_iff.mp found
  refine (List.getElem?_inj (by simpa using bound) distinct).mp ?_
  simp [found, found', same]

/-- Two calls under the handle that one record names are the same. -/
theorem call_of_current {first second : Nat} (distinct : (p.calls.map (·.handle)).Nodup)
    (found : p.calls[first]? = some call) (found' : p.calls[second]? = some other)
    (current : isCurrent job call.handle = true) (current' : isCurrent job other.handle = true) :
    first = second := by
  obtain ⟨_, named⟩ := isCurrent_iff.mp current
  obtain ⟨_, named'⟩ := isCurrent_iff.mp current'
  rw [named] at named'
  exact call_of_handle distinct found found' (Option.some.inj named')

/-- The record of a job that was claimed names its call's handle, unless it was canceled meanwhile. -/
theorem Single.current (single : Single id initial p) (holds : Holds p id number call)
    (record : p.scheduler.record? id = some job) (uncanceled : job.status ≠ .canceled) :
    isCurrent job call.handle = true := by
  obtain ⟨stored, found, reached⟩ := single.held number call holds
  rw [record] at found
  cases found
  exact reached.resolve_left uncanceled

/-- A job whose record names a handle is in the index, so that recovery leaves it alone. -/
theorem Sound.armed_of_current (sound : Sound p) (record : p.scheduler.record? id = some job)
    (current : isCurrent job handle = true) : p.scheduler.armed? id ≠ none := by
  obtain ⟨_, named⟩ := isCurrent_iff.mp current
  obtain ⟨entry, entered, _⟩ := (sound.consistent id).named job handle record named
  simp [entered]

/-- A call executes because it did before, or because it was just claimed. -/
theorem executes_before (numbered : p.scheduler.timers.Numbered)
    (executes : Executes (p.perform action) id number call) :
    Executes p id number call ∨
    ∃ before job, p.calls[number]? = some before ∧ before.handle = call.handle ∧
      p.scheduler.record? id = some job ∧ isCurrent job call.handle = true := by
  obtain ⟨found, named, executing⟩ := executes
  have moved := (perform_moves p action).call_moves numbered found
  generalize earlier : p.calls[number]? = earlier? at moved
  cases moved with
  | same => exact .inl ⟨earlier, named, executing⟩
  | elapsed _ _ => cases executing
  | called _ => cases executing
  | claimed waiting record current => exact .inr ⟨_, _, rfl, rfl, named ▸ record, current⟩
  | stranded _ _ _ _ => cases executing
  | moved onward _ => rcases onward with rfl | rfl | rfl <;> cases executing

/-- A call holds its job because it did before, or because it was just claimed. -/
theorem holds_before (numbered : p.scheduler.timers.Numbered)
    (holds : Holds (p.perform action) id number call) :
    ∃ before, p.calls[number]? = some before ∧ before.handle = call.handle ∧
      (Holds p id number before ∨ ∃ job, p.scheduler.record? id = some job ∧
        isCurrent job call.handle = true) := by
  obtain ⟨found, named, claimed⟩ := holds
  have moved := (perform_moves p action).call_moves numbered found
  generalize earlier : p.calls[number]? = earlier? at moved
  cases moved with
  | same => exact ⟨_, rfl, rfl, .inl ⟨earlier, named, claimed⟩⟩
  | elapsed _ _ | called _ => rcases claimed with claimed | claimed <;> cases claimed
  | claimed waiting record current => exact ⟨_, rfl, rfl, .inr ⟨_, named ▸ record, current⟩⟩
  | stranded executing _ _ _ => exact ⟨_, rfl, rfl, .inl ⟨earlier, named, .inl executing⟩⟩
  | moved onward _ =>
    rcases onward with rfl | rfl | rfl <;> rcases claimed with claimed | claimed <;> cases claimed

/-- A call that is completed and has not ended broke off, which leaves the record as it was. -/
theorem complete_strands {clock : Clock} {outcome : ExecutionOutcome} (executes : Executes p id number call)
    (holds : Holds (p.perform (.complete number clock outcome)) id number other) :
    (p.perform (.complete number clock outcome)).scheduler.record? id = p.scheduler.record? id := by
  obtain ⟨found, named, executing⟩ := executes
  obtain ⟨bound, _⟩ := List.getElem?_eq_some_iff.mp found
  have now := holds.found
  have going := holds.claimed
  rw [perform_complete found executing] at now ⊢
  simp only [List.getElem?_set_self bound, Option.some.injEq] at now
  subst now
  rcases complete_cases p.scheduler clock call.id call.handle outcome with
    ⟨e, t, same, fault, _⟩ | ⟨t, _, _, same⟩ | ⟨t, job, unchanged, _, _, _, _, same⟩ |
    ⟨t, job, answer, _, _, _, concludes, same⟩
  · rw [same, FireCall.afterCompletion_fault _ fault] at going
    rcases going with going | going <;> cases going
  · rw [same] at going
    rcases going with going | going <;> cases going
  · rw [same]
    exact congrFun unchanged.record id
  · rw [same] at going
    rcases call.afterCompletion_concluded concludes with ended | ended <;>
      rcases going with going | going <;> cases ended.symm.trans going

private theorem uncanceled_of_current (current : isCurrent job handle = true) :
    job.status ≠ .canceled := by
  intro canceled
  obtain ⟨active, _⟩ := isCurrent_iff.mp current
  rw [canceled] at active
  cases active

/-- What a call holds after an action is still what the record names. -/
theorem Single.still_held (single : Single id initial p) (permitted : leaves id action = true)
    (holds : Holds (p.perform action) id number call) :
    ∃ job, (p.perform action).scheduler.record? id = some job ∧
      (job.status = .canceled ∨ isCurrent job call.handle = true) := by
  have keyed := single.sound.owned.toKeyed
  have earlier : ∃ before job, p.calls[number]? = some before ∧ before.handle = call.handle ∧
      p.scheduler.record? id = some job ∧
      (job.status = .canceled ∨ isCurrent job call.handle = true) := by
    obtain ⟨before, found, same, held | ⟨job, record, current⟩⟩ := holds_before keyed.numbered holds
    · obtain ⟨job, record, reached⟩ := single.held number before held
      exact ⟨before, job, found, same, record, same ▸ reached⟩
    · exact ⟨before, job, found, same, record, .inr current⟩
  obtain ⟨before, job, found, same, record, held⟩ := earlier
  obtain ⟨after, stored, moved⟩ := job_moves keyed permitted single.patched record
  refine ⟨after, stored, ?_⟩
  cases moved with
  | kept => exact held
  | canceled => exact .inl rfl
  | recovered _ active unarmed _ =>
    -- the entry of a job that was claimed stays in the index, so that recovery would have skipped it
    rcases held with canceled | current
    · rw [canceled] at active
      cases active
    · exact absurd unarmed (single.sound.armed_of_current record current)
  | @concluded place _ _ ended _ _ _ completed current _ =>
    -- the record names one handle, so that the call that is completed is this one; it ends or breaks off
    rcases held with canceled | current'
    · exact absurd canceled (uncanceled_of_current current)
    · rw [← same] at current'
      have here := call_of_current single.distinct found completed.found current' current
      subst here
      have kept := complete_strands completed holds
      rw [stored, record, Option.some.injEq] at kept
      rw [kept]
      exact .inr (same ▸ current')

/-- A job that executes is not claimed for another call: its record names one handle. -/
theorem Single.still_single (single : Single id initial p) {first second : Nat}
    (executes : Executes (p.perform action) id first call)
    (executes' : Executes (p.perform action) id second other) : first = second := by
  have numbered := single.sound.owned.numbered
  rcases executes_before numbered executes with
    before | ⟨before, job, found, same, record, current⟩ <;>
  rcases executes_before numbered executes' with
    before' | ⟨before', job', found', same', record', current'⟩
  · exact single.single first second call other before before'
  · have current := single.current before.holds record' (uncanceled_of_current current')
    rw [← same'] at current'
    exact call_of_current single.distinct before.found found' current current'
  · have current' := single.current before'.holds record (uncanceled_of_current current)
    rw [← same] at current
    exact call_of_current single.distinct found before'.found current current'
  · rw [record] at record'
    cases record'
    rw [← same] at current
    rw [← same'] at current'
    exact call_of_current single.distinct found found' current current'

/-! ## What is counted -/

/-- The action completes a firing of the job that succeeded and was not overtaken by a cancellation. -/
def Succeeds (p : Process) (id : JobId) (action : Action) : Prop :=
  ∃ number clock outcome call job, action = .complete number clock outcome ∧
    Executes p id number call ∧ hasSucceeded outcome = true ∧
    p.scheduler.record? id = some job ∧ job.status ≠ .canceled

/-- A success is counted and advances the trigger, once, if that can be advanced; else the record stays as
it is. Nothing else is counted, and the trigger is left alone but for recovery, which may pass missed firings
over. -/
inductive Counts (p : Process) (id : JobId) (action : Action) (job after : Job) : Prop
  | taken (succeeds : Succeeds p id action) (executions : after.executions = nextNat32 job.executions)
    (advances : ∃ taken?, job.trigger.advance? = some (taken?, after.trigger))
  | brokenOff (succeeds : Succeeds p id action) (broken : job.trigger.advance? = none)
    (same : after = job)
  | left (fails : ¬ Succeeds p id action) (executions : after.executions = job.executions)
    (trigger : after.trigger = job.trigger ∨
      ∃ clock, p.operation? action = some (.recover clock id) ∧ job.trigger.PassedOver after.trigger)

theorem Single.counts (single : Single id initial p) (permitted : leaves id action = true)
    (record : p.scheduler.record? id = some job) :
    ∃ after, (p.perform action).scheduler.record? id = some after ∧ Counts p id action job after := by
  have keyed := single.sound.owned.toKeyed
  by_cases succeeds : Succeeds p id action
  · obtain ⟨number, clock, outcome, call, stored, rfl, executes, succeeded, held, uncanceled⟩ := succeeds
    rw [record] at held
    cases held
    have current := single.current executes.holds record uncanceled
    have named := executes.named
    subst named
    have succeeds : Succeeds p call.id (.complete number clock outcome) :=
      ⟨number, clock, outcome, call, job, rfl, executes, succeeded, record, uncanceled⟩
    rw [perform_complete executes.found executes.executing]
    rcases complete_stores keyed.numbered single.sound.reliable (keyed.keyed call.id) record current clock
      outcome with ⟨_, broken, kept⟩ | ⟨answers, status, handle?, taken⟩
    · exact ⟨job, kept, .brokenOff succeeds broken rfl⟩
    · rw [succeeded] at taken
      exact ⟨_, taken, .taken succeeds rfl (answers succeeded)⟩
  · obtain ⟨after, stored, moved⟩ := job_moves keyed permitted single.patched record
    refine ⟨after, stored, ?_⟩
    cases moved with
    | kept => exact .left succeeds rfl (.inl rfl)
    | canceled => exact .left succeeds rfl (.inl rfl)
    | recovered carried _ _ passed => exact .left succeeds rfl (.inr ⟨_, carried, passed⟩)
    | @concluded number clock outcome call status handle? now executes current _ =>
      have uncanceled := uncanceled_of_current current
      cases succeeded : hasSucceeded outcome with
      | true =>
        exact absurd ⟨number, clock, outcome, call, job, rfl, executes, succeeded, record, uncanceled⟩
          succeeds
      | false => exact .left succeeds rfl (.inl rfl)

theorem next_of_min (n : Nat) : nextNat32 (min n maxNat32) = min (n + 1) maxNat32 := by
  unfold nextNat32
  omega

theorem Single.perform (single : Single id initial p) (permitted : leaves id action = true) :
    Single id initial (p.perform action) where
  sound := single.sound.perform (ordinary_of_leaves permitted)
  patched := patched_of_perform single.sound.owned.toKeyed permitted single.patched
  distinct := single.sound.distinct (ordinary_of_leaves permitted) single.distinct
  record := by
    obtain ⟨job, n, record, advanced, executions⟩ := single.record
    obtain ⟨after, stored, counts⟩ := single.counts permitted record
    cases counts with
    | taken _ counted advances =>
      obtain ⟨_, advances⟩ := advances
      refine ⟨after, n + 1, stored, advanced.fired advances, ?_⟩
      rw [counted, executions, next_of_min]
    | brokenOff _ _ same =>
      rw [same] at stored
      exact ⟨job, n, stored, advanced, executions⟩
    | left _ counted trigger =>
      refine ⟨after, n, stored, ?_, counted.trans executions⟩
      rcases trigger with same | ⟨_, _, passed⟩
      · rw [same]
        exact advanced
      · exact advanced.over passed
  held _ _ holds := single.still_held permitted holds
  single _ _ _ _ executes executes' := single.still_single executes executes'

/-! ## What is handed to executors -/

/-- The action hands a job to its executor, for a timer under the handle. -/
def Invokes (p : Process) (action : Action) (handle : Handle) : Prop :=
  ∃ number call job, action = .claim number ∧ p.call? [.waiting] number = some call ∧
    call.handle = handle ∧ (p.scheduler.claim call.id call.handle).1 = .ok (some job)

/-- The only call under the handle is past its claim. -/
def Spent (p : Process) (handle : Handle) : Prop :=
  ∃ (number : Nat) (call : FireCall), p.calls[number]? = some call ∧ call.handle = handle ∧
    call.phase ≠ .waiting

theorem spent_of_invokes (invokes : Invokes p action handle) : Spent (p.perform action) handle := by
  obtain ⟨number, call, job, rfl, callable, named, handed⟩ := invokes
  obtain ⟨bound, _⟩ := List.getElem?_eq_some_iff.mp (call_found callable).1
  cases answered : p.scheduler.claim call.id call.handle with
  | mk answer t =>
    rw [answered] at handed
    cases handed
    refine ⟨number, call.afterClaim (.ok (some job)), ?_, named, nofun⟩
    simp [perform, callable, answered, bound]

theorem Spent.perform (spent : Spent p handle) (sound : Sound p) (action : Action) :
    Spent (p.perform action) handle := by
  obtain ⟨number, call, found, named, begun⟩ := spent
  obtain ⟨after, now, moved⟩ := (perform_moves p action).call_onward sound.owned.numbered found
  refine ⟨number, after, now, ?_⟩
  cases moved with
  | same => exact ⟨named, begun⟩
  | claimed _ _ _ => exact ⟨named, nofun⟩
  | stranded _ _ _ _ => exact ⟨named, nofun⟩
  | moved _ ends =>
    rw [ends sound.reliable]
    exact ⟨named, nofun⟩

theorem Spent.not_invokes (spent : Spent p handle) (distinct : (p.calls.map (·.handle)).Nodup)
    (action : Action) : ¬ Invokes p action handle := by
  intro ⟨number, call, job, _, callable, named, _⟩
  obtain ⟨place, other, found, named', begun⟩ := spent
  obtain ⟨found', waiting⟩ := call_found callable
  have same := call_of_handle distinct found found' (named'.trans named.symm)
  subst same
  rw [found] at found'
  cases found'
  exact begun (List.mem_singleton.mp waiting)

/-! ## A job that is scheduled once -/

/-- A job that had no record and is admitted, from then on. -/
theorem Sound.single_scheduled (sound : Sound p) (job : Job) (clock : Clock)
    (patched : ∀ other ∈ p.patched, other.id ≠ job.id) (distinct : (p.calls.map (·.handle)).Nodup)
    (unstored : p.scheduler.record? job.id = none) (uncalled : ∀ call ∈ p.calls, call.id ≠ job.id)
    (scheduled : (p.scheduler.schedule clock job).1.isOk = true) :
    Single job.id job.trigger (p.perform (.operate (.schedule clock job))) := by
  have idle : ∀ number call, ¬ Holds (p.perform (.operate (.schedule clock job))) job.id number call := by
    intro number call holds
    exact uncalled call (List.mem_of_getElem? holds.found) holds.named
  have record : ∃ stored, (p.scheduler.schedule clock job).2.record? job.id = some stored ∧
      stored.trigger = job.trigger ∧ stored.executions = 0 := by
    rcases schedule_cases p.scheduler clock job with
      ⟨e, t, refused, _⟩ | ⟨t, due, unchanged, _, _, same⟩
    · rw [refused] at scheduled
      cases scheduled
    · rw [unstored] at same
      have numbered := unchanged.numbered sound.owned.numbered
      have settles : Settles t clock.now (requested none job) (p.scheduler.schedule clock job) := by
        rw [same]
        exact armOrDefer_settles numbered rfl
      obtain ⟨handle?, stored⟩ := settles.stored (unchanged.reliable sound.reliable)
      exact ⟨_, stored, rfl, rfl⟩
  obtain ⟨stored, held, trigger, executions⟩ := record
  constructor
  case sound => exact sound.perform rfl
  case patched => exact patched
  case distinct => exact distinct
  case record =>
    refine ⟨stored, 0, held, ?_, ?_⟩
    · rw [trigger]
      exact .start
    · rw [executions]
      rfl
  case held => exact fun number call holds => absurd holds (idle number call)
  case single => exact fun number _ call _ executes => absurd executes.holds (idle number call)

theorem single_of_scheduled {s : Scheduler} {clock : Clock}
    (begins : BeginsEmpty (ofScheduler s)) (scheduled : (s.schedule clock job).1.isOk = true) :
    Single job.id job.trigger ((ofScheduler s).perform (.operate (.schedule clock job))) := by
  have patched : ∀ other ∈ (ofScheduler s).patched, other.id ≠ job.id :=
    fun _ member => absurd member List.not_mem_nil
  have uncalled : ∀ call ∈ (ofScheduler s).calls, call.id ≠ job.id :=
    fun _ member => absurd member List.not_mem_nil
  exact begins.sound.single_scheduled job clock patched .nil (begins.unstored job.id) uncalled
    scheduled

theorem Single.reaches (single : Single id initial p)
    (run : Reaches (fun action => leaves id action = true) p q) : Single id initial q :=
  run.invariant (Single id initial) single fun _ _ permitted single => single.perform permitted

theorem Single.spent_reaches (single : Single id initial p) (spent : Spent p handle)
    (run : Reaches (fun action => leaves id action = true) p q) : Spent q handle := by
  refine (run.invariant (fun q => Single id initial q ∧ Spent q handle) ⟨single, spent⟩ ?_).2
  intro q action permitted ⟨single, spent⟩
  exact ⟨single.perform permitted, spent.perform single.sound action⟩

/-- No job is fired twice for one handle, nor while it is being fired; and what is stored for the job
says how often it was fired with success. -/
structure FiresSingly (id : JobId) (initial : Trigger) (p : Process) : Prop where
  invoked : ∀ action handle, leaves id action = true → Invokes p action handle →
    ∀ q, Reaches (fun action => leaves id action = true) (p.perform action) q →
      ∀ later, ¬ Invokes q later handle
  inFlight : ∀ first second call other, Executes p id first call → Executes p id second other →
    first = second
  counted : ∀ action job, leaves id action = true → p.scheduler.record? id = some job →
    ∃ after, (p.perform action).scheduler.record? id = some after ∧ Counts p id action job after
  progress : ∃ job n, p.scheduler.record? id = some job ∧ initial.Advanced n job.trigger ∧
    job.executions = min n maxNat32

/-- From an empty store and as long as nothing fails, a job that is scheduled once and neither
scheduled again nor patched is fired singly, however scans, recoveries, cancellations and firings
overlap, of this job and of others. A success counts if the trigger can be advanced. -/
theorem scheduled_jobs_fire_singly {s : Scheduler} {clock : Clock}
    (begins : BeginsEmpty (ofScheduler s)) (scheduled : (s.schedule clock job).1.isOk = true)
    (run : Reaches (fun action => leaves job.id action = true)
      ((ofScheduler s).perform (.operate (.schedule clock job))) q) :
    FiresSingly job.id job.trigger q := by
  have single := (single_of_scheduled begins scheduled).reaches run
  constructor
  case invoked =>
    intro action handle permitted invokes r further later
    have onward := single.perform permitted
    have spent := onward.spent_reaches (spent_of_invokes invokes) further
    exact spent.not_invokes (onward.reaches further).distinct later
  case inFlight => exact single.single
  case counted => exact fun action stored permitted record => single.counts permitted record
  case progress => exact single.record

/-- Two scans find a job before either recovers it, and the second comes upon it while it executes. -/
theorem scheduled_jobs_fire_singly_across_scans :
    let job := Job.once "job" ⟨6000, 0⟩
    let q := ((ofScheduler .vacant).perform (.operate (.schedule ⟨⟨0, 0⟩, 0⟩ job))).performAll [
      .scan ⟨5500, 0⟩, .scan ⟨5500, 0⟩, .recoverFound ⟨⟨5500, 0⟩, 0⟩ 0, .elapse 1, .claim 0,
      .recoverFound ⟨⟨6000, 0⟩, 0⟩ 0,
      .complete 0 ⟨⟨6001, 0⟩, 0⟩ (.ok (.success ⟨6001, 0⟩ "job"))]
    FiresSingly "job" job.trigger q ∧ q.calls.map (·.handle) = [.issued 1] ∧
      (q.scheduler.record? "job").map (fun job => (job.status, job.executions)) =
        some (.executed, 1) := by
  intro job q
  have scheduled : (Scheduler.vacant.schedule ⟨⟨0, 0⟩, 0⟩ job).1.isOk = true := by decide +kernel
  have run : Reaches (fun action => leaves "job" action = true)
      ((ofScheduler .vacant).perform (.operate (.schedule ⟨⟨0, 0⟩, 0⟩ job))) q :=
    reaches_performAll _ _ (by decide)
  refine ⟨scheduled_jobs_fire_singly begins_empty_vacant scheduled run, ?_, ?_⟩
  · decide +kernel
  · decide +kernel

/-- A job that is due is scheduled once and fires with success, but its completion breaks off: the success
is not counted, and the trigger is as it was. -/
theorem successes_that_break_off_are_not_counted :
    let job := Job.dailyFromTheFirst "job"
    let p := (ofScheduler .forcing).perform (.operate (.schedule ⟨⟨0, 0⟩, 0⟩ job))
    let q := p.performAll [.elapse 1, .claim 0]
    let success := Action.complete 0 ⟨⟨1, 0⟩, 0⟩ (.ok (.success ⟨1, 0⟩ "job"))
    BeginsEmpty (ofScheduler .forcing) ∧ (Scheduler.forcing.schedule ⟨⟨0, 0⟩, 0⟩ job).1.isOk = true ∧
      q.calls.map (fun call => (call.id, call.phase)) = [("job", .executing)] ∧
      (q.scheduler.record? "job").map (fun job => (job.status, job.executions)) =
        some (.scheduled, 0) ∧
      ((q.perform success).scheduler.record? "job").map (fun job => (job.executions, job.trigger)) =
        some (0, job.trigger) := by
  intro job p q success
  refine ⟨begins_empty_forcing, ?_, ?_, ?_, ?_⟩ <;> decide +kernel

end Process

end Punctual
