import Mathlib.Data.List.Nodup
import Punctual.Proofs.Ownership

/-!
Jobs do not disturb each other. Whatever is asked of one job, under whatever handles, its record and its
entry in the index name only handles that were issued for it, so that no timer of another is ended. And a
timer that goes on, goes on as it was armed: the timer service only ends timers and arms new ones, whose
numbers were never used before.
-/
namespace Punctual

/-! ## Timers that go on -/

namespace Timers

variable {α : Type} {t u v : Timers α}

/-- Some timers may have ended and others been armed under later numbers; the rest are as they were. -/
structure Continues (t u : Timers α) : Prop where
  issued : t.issued ≤ u.issued
  pending : ∀ timer ∈ u.pending, timer ∈ t.pending ∨ t.issued < timer.handle

theorem Continues.refl (t : Timers α) : Continues t t := ⟨Nat.le_refl _, fun _ member => .inl member⟩

theorem Continues.of_eq (same : u = t) : Continues t u := by
  rw [same]
  exact .refl t

theorem Continues.trans (first : Continues t u) (second : Continues u v) : Continues t v where
  issued := Nat.le_trans first.issued second.issued
  pending := by
    intro timer member
    rcases second.pending timer member with before | new
    · exact first.pending timer before
    · exact .inr (Nat.lt_of_le_of_lt first.issued new)

theorem Shrinks.continues (shrinks : Shrinks t u) : Continues t u where
  issued := Nat.le_of_eq shrinks.issued.symm
  pending _ member := .inl (shrinks.pending.subset member)

theorem arm_continues (t : Timers α) (clock : Clock) (delay : Nat) (payload : α) :
    Continues t (t.arm clock delay payload).2 := by
  rcases t.arm_cases clock delay payload with
    ⟨fault, u, answer, _, shrinks, _⟩ | ⟨timer, next, _, answer⟩
  · rw [answer]
    exact shrinks.continues
  · rw [answer]
    refine ⟨Nat.le_succ _, ?_⟩
    intro other member
    rcases List.mem_append.mp member with before | new
    · exact .inl before
    · rw [List.mem_singleton.mp new, next]
      exact .inr (Nat.lt_succ_self _)

/-- Two timers under one number are the same. -/
theorem Numbered.eq_of_handle (numbered : Numbered t) {first second : ArmedTimer α}
    (member : first ∈ t.pending) (member' : second ∈ t.pending)
    (same : first.handle = second.handle) : first = second :=
  List.inj_on_of_nodup_map numbered.distinct member member' same

end Timers

namespace Scheduler

variable {s t : Scheduler} {id : JobId} {job : Job} {clock : Clock} {due horizon : Instant}

theorem write_timers (s : Scheduler) (job : Job) : (s.write job).2.timers = s.timers := by
  unfold write
  split <;> rfl

theorem writeUnarmed_timers (s : Scheduler) (clock : Clock) (job : Job) :
    (s.writeUnarmed clock job).2.timers = s.timers :=
  write_timers ..

theorem finalize_timers (s : Scheduler) (clock : Clock) (job : Job) :
    (s.finalize clock job).2.timers = s.timers := by
  have same := writeUnarmed_timers s clock job
  unfold finalize
  split <;> rename_i written <;> rw [written] at same <;> exact same

theorem armAndWrite_continues (s : Scheduler) (clock : Clock) (job : Job) (due : Instant) :
    s.timers.Continues (s.armAndWrite clock job due).2.timers := by
  have armed := s.timers.arm_continues clock (due.since clock.now).toNat job.id
  unfold armAndWrite
  split <;> rename_i timers answer <;> rw [answer] at armed
  · exact armed
  rename_i n
  dsimp only
  have same := write_timers { s with timers }
    { job with handle? := some (.issued n), lastUpdate? := some clock.now }
  split <;> rename_i u written <;> rw [written] at same
  · exact armed.trans (.of_eq same)
  · -- the timer that was armed is ended again
    have ended := (u.timers.disarm_shrinks (.issued n)).continues
    exact (armed.trans (.of_eq same)).trans ended

theorem armOrDefer_continues (s : Scheduler) (clock : Clock) (job : Job) (due horizon : Instant) :
    s.timers.Continues (s.armOrDefer clock job due horizon).2.timers := by
  unfold armOrDefer
  split
  · exact .of_eq (writeUnarmed_timers ..)
  · exact armAndWrite_continues ..

theorem schedule_continues (s : Scheduler) (clock : Clock) (incoming : Job) :
    s.timers.Continues (s.schedule clock incoming).2.timers := by
  have same := read_timers s incoming.id
  unfold schedule
  split
  · exact .refl _
  split <;> rename_i readable <;> rw [readable] at same
  · exact .of_eq same
  split
  · exact .of_eq same
  dsimp only
  split
  · exact .of_eq same
  · rename_i stored? t _ _ _ _ _
    have freed := (freed_timers t stored?).continues
    exact ((Timers.Continues.of_eq same).trans freed).trans (armOrDefer_continues ..)

theorem cancel_continues (s : Scheduler) (clock : Clock) (id : JobId) :
    s.timers.Continues (s.cancel clock id).2.timers := by
  have same := read_timers s id
  unfold cancel
  split <;> rename_i readable <;> rw [readable] at same
  · exact .of_eq same
  · exact .of_eq same
  split
  · exact .of_eq same
  rename_i job t _
  have disarmed := (Timers.Continues.of_eq same).trans (disarm_timers t job).continues
  have written := writeUnarmed_timers (t.disarm job) clock { job with status := .canceled }
  split <;> rename_i stored <;> rw [stored] at written
  · exact disarmed.trans (.of_eq written)
  · exact disarmed.trans (.of_eq written)

theorem takeUp_continues (s : Scheduler) (clock : Clock) (job : Job) :
    s.timers.Continues (s.takeUp clock job).2.timers := by
  rcases takeUp_cases s clock job with ⟨e, stuck⟩ | ⟨_, ⟨_, state⟩ | ⟨trigger, due, _, _, state⟩⟩
  · rw [stuck]
    exact .refl _
  · rw [state]
    exact .of_eq (writeUnarmed_timers ..)
  · rw [state]
    exact armOrDefer_continues ..

theorem recover_continues (s : Scheduler) (clock : Clock) (id : JobId) :
    s.timers.Continues (s.recover clock id).2.timers := by
  have same := read_timers s id
  unfold recover
  split <;> rename_i readable <;> rw [readable] at same
  · exact .of_eq same
  · exact .of_eq same
  split
  · exact .of_eq same
  · rename_i job t _
    have disarmed := (disarm_timers t job).continues
    exact ((Timers.Continues.of_eq same).trans disarmed).trans (takeUp_continues ..)

theorem claim_timers (s : Scheduler) (id : JobId) (handle : Handle) :
    (s.claim id handle).2.timers = s.timers := by
  have same := read_timers s id
  unfold claim
  split <;> rename_i readable <;> rw [readable] at same
  · exact same
  split <;> exact same

theorem complete_continues (s : Scheduler) (clock : Clock) (id : JobId) (handle : Handle)
    (outcome : ExecutionOutcome) :
    s.timers.Continues (s.complete clock id handle outcome).2.timers := by
  have same := read_timers s id
  unfold complete
  split <;> rename_i readable <;> rw [readable] at same
  · exact .of_eq same
  · exact .of_eq same
  split
  · exact .of_eq same
  rename_i job t _
  have concluded : t.timers.Continues
      (if hasSucceeded outcome then t.succeed clock job else t.fail clock job).2.timers := by
    split
    · unfold succeed
      split
      · exact .refl _
      dsimp only
      split
      · exact armOrDefer_continues ..
      · exact .of_eq (finalize_timers ..)
    · unfold fail
      dsimp only
      split
      · exact armAndWrite_continues ..
      · exact .of_eq (finalize_timers ..)
  split <;> rename_i answer <;> rw [answer] at concluded
  · exact (Timers.Continues.of_eq same).trans concluded
  · exact (Timers.Continues.of_eq same).trans concluded

theorem lookUp_timers (s : Scheduler) (id : JobId) : (s.lookUp id).2.timers = s.timers := by
  have same := read_timers s id
  unfold lookUp
  split <;> rename_i readable <;> rw [readable] at same <;> exact same

theorem patched_timers (s : Scheduler) (id : JobId) (patch : JobPatch) :
    (s.patched id patch).2.timers = s.timers := by
  have same := lookUp_timers s id
  unfold patched
  split
  · rfl
  split <;> rename_i found <;> rw [found] at same
  · exact same
  split <;> exact same

/-- A job's record, its entry in the index and its pending timers are the same as before, each timer
with the time for which it was armed. -/
structure LeftAlone (id : JobId) (s t : Scheduler) : Prop where
  record : t.record? id = s.record? id
  entry : t.armed? id = s.armed? id
  pending : ∀ timer : ArmedTimer JobId, timer.payload = id →
    (timer ∈ t.timers.pending ↔ timer ∈ s.timers.pending)

theorem Untouched.leftAlone {s t : Scheduler} (untouched : Untouched id s t)
    (numbered : s.timers.Numbered) (numbered' : t.timers.Numbered)
    (continues : s.timers.Continues t.timers) : LeftAlone id s t := by
  refine ⟨untouched.record, untouched.entry, ?_⟩
  -- a timer under a number that was issued before is one that was pending before
  have before : ∀ timer ∈ t.timers.pending, timer.handle ≤ s.timers.issued →
      timer ∈ s.timers.pending := by
    intro timer member issued
    exact (continues.pending timer member).resolve_right (Nat.not_lt.mpr issued)
  intro timer named
  constructor
  · intro member
    have held := (untouched.owner (.issued timer.handle)).mp
      (named ▸ Timers.payload_of_mem numbered' member)
    obtain ⟨n, issued, same⟩ := Timers.issued_of_payload numbered held
    cases same
    exact before timer member issued
  · intro member
    have held := (untouched.owner (.issued timer.handle)).mpr
      (named ▸ Timers.payload_of_mem numbered member)
    obtain ⟨after, member', same, _⟩ := Timers.mem_of_payload held
    have same : timer.handle = after.handle := Handle.issued.inj same
    have first := before after member' (same ▸ numbered.issued timer member)
    rw [numbered.eq_of_handle member first same]
    exact member'

end Scheduler

open Scheduler

theorem Operation.continues (s : Scheduler) (operation : Operation) :
    s.timers.Continues (operation.run s).timers := by
  cases operation with
  | schedule clock job => exact schedule_continues s clock job
  | cancel clock id => exact cancel_continues s clock id
  | recover clock id => exact recover_continues s clock id

namespace Process

variable {p q : Process} {id other : JobId} {action : Action} {allowed : Action → Prop}

/-- Whatever is done, timers that go on are as they were. -/
theorem perform_continues (p : Process) (action : Action) :
    p.scheduler.timers.Continues (p.perform action).scheduler.timers := by
  have operated : ∀ operation?,
      p.scheduler.timers.Continues (p.operate operation?).scheduler.timers := by
    intro operation?
    cases operation? with
    | none => exact .refl _
    | some operation => exact operation.continues p.scheduler
  cases action with
  | operate operation => exact operated _
  | readPatch id patch =>
    have same := patched_timers p.scheduler id patch
    simp only [perform]
    split <;> rename_i made <;> rw [made] at same <;> exact .of_eq same
  | schedulePatched clock place => exact operated _
  | scan now =>
    simp only [perform]
    split <;> exact .refl _
  | recoverFound clock place => exact operated _
  | elapse number => exact (p.scheduler.timers.drop_shrinks number).continues
  | fire id handle => exact .refl _
  | claim number =>
    simp only [perform]
    split
    · exact .of_eq (claim_timers ..)
    · exact .refl _
  | complete number clock outcome =>
    simp only [perform]
    split
    · exact complete_continues ..
    · exact .refl _
  | release number =>
    simp only [perform]
    split <;> exact .refl _
  | reconfigure config =>
    simp only [perform, reconfigure]
    cases config.validate <;> exact .refl _
  | stage available readFaults writeFaults failures =>
    exact ⟨Nat.le_refl _, fun _ member => .inl member⟩

/-- A process that begins with nothing stored and nothing armed: no record or entry names a handle. -/
theorem owned_of_empty {s : Scheduler} (unstored : ∀ id, s.record? id = none)
    (unarmed : ∀ id, s.armed? id = none) (numbered : s.timers.Numbered) : s.Owned := by
  refine ⟨⟨numbered, ?_⟩, ?_, ?_⟩
  · intro id job held
    rw [unstored] at held
    cases held
  · intro id job handle held
    rw [unstored] at held
    cases held
  · intro id entry held
    rw [unarmed] at held
    cases held

/-- From an empty store on, whatever fails and whatever handles are named in requests: an action about
one job leaves every other job alone. -/
theorem jobs_are_isolated (unstored : ∀ id, p.scheduler.record? id = none)
    (unarmed : ∀ id, p.scheduler.armed? id = none) (numbered : p.scheduler.timers.Numbered)
    (run : Reaches allowed p q) (about : q.subject? action = some id) (different : other ≠ id) :
    LeftAlone other q.scheduler (q.perform action).scheduler := by
  have owned : q.scheduler.Owned := run.invariant (·.scheduler.Owned)
    (owned_of_empty unstored unarmed numbered) fun _ action _ owned => perform_owned owned action
  have apart : q.subject? action ≠ some other := by
    rw [about]
    intro same
    exact different (Option.some.inj same).symm
  have untouched := (perform_moves q action).untouched owned apart
  exact untouched.leftAlone owned.numbered (perform_owned owned action).numbered
    (perform_continues q action)

/-- A job that was scheduled again under the handle of another is canceled. -/
theorem jobs_are_isolated_from_forged_handles :
    let q := (ofScheduler .vacant).performAll [
      .operate (.schedule ⟨⟨0, 0⟩, 0⟩ (.once "first" ⟨60, 0⟩)),
      .operate (.schedule ⟨⟨0, 0⟩, 0⟩ (.once "second" ⟨90, 0⟩)),
      .operate (.schedule ⟨⟨0, 0⟩, 0⟩ { Job.once "second" ⟨90, 0⟩ with handle? := some (.issued 1) })]
    let r := q.perform (.operate (.cancel ⟨⟨1, 0⟩, 0⟩ "second"))
    LeftAlone "first" q.scheduler r.scheduler ∧
      r.scheduler.timers.pending.map (·.payload) = ["first"] := by
  intro q r
  have run : Reaches (fun _ => True) (ofScheduler .vacant) q :=
    reaches_performAll _ _ fun _ _ => trivial
  have begins := begins_vacant
  have unstored : ∀ id, (ofScheduler .vacant).scheduler.record? id = none := fun id =>
    Std.TreeMap.getElem?_emptyc
  refine ⟨jobs_are_isolated unstored begins.unarmed begins.owned.numbered run rfl (by decide), ?_⟩
  decide +kernel

end Process

end Punctual
