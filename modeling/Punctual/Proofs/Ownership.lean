import Punctual.Proofs.Interleaving

/-!
Jobs and the timers that fire them. A record or an entry of the index may name a timer that has ended,
but never one that was armed for another job: handles are issued once. So ending the timers of one job
ends no timer of another, and an operation on a job leaves the records, the entries and the timers of
all others alone.
-/
namespace Punctual

namespace Scheduler

variable {s t u : Scheduler} {id other : JobId} {job : Job} {handle : Handle} {now : Instant}
  {operation : Operation} {answer : Except SchedulerError Job × Scheduler}

/-- The handle, if it is one of this process, was issued, and a pending timer under it is the job's. -/
structure Belongs (s : Scheduler) (id : JobId) (handle : Handle) : Prop where
  issued : ∀ n, handle = .issued n → n ≤ s.timers.issued
  owner : ∀ other, s.owner? handle = some other → other = id

/-- Every record stands under its own job's id, and every timer under a number of its own. -/
structure Keyed (s : Scheduler) : Prop where
  numbered : s.timers.Numbered
  keyed : ∀ id job, s.record? id = some job → job.id = id

/-- Besides, every handle named for a job belongs to it. -/
structure Owned (s : Scheduler) : Prop extends Keyed s where
  recorded : ∀ id job handle, s.record? id = some job → job.handle? = some handle →
    s.Belongs id handle
  entered : ∀ id entry, s.armed? id = some entry → s.Belongs id entry.handle

/-- Nothing was added: timers may have ended, and entries may have been dropped or marked. -/
structure Loses (s t : Scheduler) : Prop where
  record : t.record? = s.record?
  entry : ∀ id after, t.armed? id = some after →
    ∃ before, s.armed? id = some before ∧ before.handle = after.handle
  owner : ∀ handle id, t.owner? handle = some id → s.owner? handle = some id
  issued : s.timers.issued ≤ t.timers.issued
  isShutDown : t.timers.isShutDown = s.timers.isShutDown
  numbered : s.timers.Numbered → t.timers.Numbered

/-- All jobs but one are left alone, and the timer service goes on. -/
structure Spares (id : JobId) (s t : Scheduler) : Prop where
  isShutDown : t.timers.isShutDown = s.timers.isShutDown
  record : ∀ other, other ≠ id → t.record? other = s.record? other
  entry : ∀ other, other ≠ id → t.armed? other = s.armed? other
  owner : ∀ handle other, other ≠ id → (t.owner? handle = some other ↔ s.owner? handle = some other)

/-- One job is left alone: its record, its entry and its pending timers. -/
structure Untouched (id : JobId) (s t : Scheduler) : Prop where
  record : t.record? id = s.record? id
  entry : t.armed? id = s.armed? id
  owner : ∀ handle, t.owner? handle = some id ↔ s.owner? handle = some id

theorem Belongs.of_loses (belongs : s.Belongs id handle) (loses : Loses s t) : t.Belongs id handle :=
  ⟨fun n same => Nat.le_trans (belongs.issued n same) loses.issued,
    fun other held => belongs.owner other (loses.owner handle other held)⟩

theorem Keyed.of_loses (keyed : Keyed s) (loses : Loses s t) : Keyed t where
  numbered := loses.numbered keyed.numbered
  keyed := by
    rw [loses.record]
    exact keyed.keyed

theorem Owned.of_loses (owned : Owned s) (loses : Loses s t) : Owned t where
  toKeyed := owned.toKeyed.of_loses loses
  recorded := by
    intro id job handle held named
    rw [loses.record] at held
    exact (owned.recorded id job handle held named).of_loses loses
  entered := by
    intro id after held
    obtain ⟨before, held, same⟩ := loses.entry id after held
    rw [← same]
    exact (owned.entered id before held).of_loses loses

theorem Spares.refl (id : JobId) (s : Scheduler) : Spares id s s :=
  ⟨rfl, fun _ _ => rfl, fun _ _ => rfl, fun _ _ _ => .rfl⟩

theorem Spares.trans (first : Spares id s t) (second : Spares id t u) : Spares id s u where
  isShutDown := second.isShutDown.trans first.isShutDown
  record other different := (second.record other different).trans (first.record other different)
  entry other different := (second.entry other different).trans (first.entry other different)
  owner handle other different :=
    (second.owner handle other different).trans (first.owner handle other different)

/-- Whoever leaves all jobs but one alone leaves each of them alone. -/
theorem Spares.untouched (spares : Spares other s t) (different : id ≠ other) : Untouched id s t :=
  ⟨spares.record id different, spares.entry id different, fun handle =>
    spares.owner handle id different⟩

theorem Untouched.refl (id : JobId) (s : Scheduler) : Untouched id s s := ⟨rfl, rfl, fun _ => .rfl⟩

theorem Untouched.trans (first : Untouched id s t) (second : Untouched id t u) : Untouched id s u where
  record := second.record.trans first.record
  entry := second.entry.trans first.entry
  owner handle := (second.owner handle).trans (first.owner handle)

theorem Loses.trans (first : Loses s t) (second : Loses t u) : Loses s u where
  record := second.record.trans first.record
  entry := by
    intro id after held
    obtain ⟨between, held, same⟩ := second.entry id after held
    obtain ⟨before, held, same'⟩ := first.entry id between held
    exact ⟨before, held, same'.trans same⟩
  owner handle id held := first.owner handle id (second.owner handle id held)
  issued := Nat.le_trans first.issued second.issued
  isShutDown := second.isShutDown.trans first.isShutDown
  numbered numbered := second.numbered (first.numbered numbered)

theorem Keeps.loses (keeps : Keeps s t) : Loses s t where
  record := keeps.record
  entry := by
    intro id after held
    rw [keeps.entry] at held
    exact ⟨after, held, rfl⟩
  owner := by
    intro handle id held
    rw [keeps.owner] at held
    exact held
  issued := keeps.issued
  isShutDown := keeps.isShutDown
  numbered := keeps.numbered

theorem Keeps.spares (keeps : Keeps s t) : Spares id s t := by
  refine ⟨keeps.isShutDown, ?_, ?_, ?_⟩
  · simp [keeps.record]
  · simp [keeps.entry]
  · simp [keeps.owner]

theorem Keeps.untouched (keeps : Keeps s t) : Untouched id s t :=
  ⟨by rw [keeps.record], by rw [keeps.entry], by simp [keeps.owner]⟩

/-! ## Calls that only take away -/

private theorem loses_of_index (entry : ∀ id after, t.armed? id = some after →
    ∃ before, s.armed? id = some before ∧ before.handle = after.handle)
    (same : t = { s with armed := t.armed }) : Loses s t := by
  rw [same] at entry ⊢
  exact ⟨rfl, entry, fun _ _ held => held, Nat.le_refl _, rfl, fun numbered => numbered⟩

theorem forget_loses (s : Scheduler) (id : JobId) : Loses s (s.forget id) := by
  refine loses_of_index ?_ rfl
  intro other after held
  rw [forget_entry] at held
  split at held
  · cases held
  · exact ⟨after, held, rfl⟩

theorem release_loses (s : Scheduler) (id : JobId) (handle : Handle) :
    Loses s (s.release id handle) := by
  refine loses_of_index ?_ rfl
  intro other after held
  rw [release_entry] at held
  split at held
  · rename_i same
    obtain ⟨held, _⟩ := Option.filter_eq_some_iff.mp held
    exact ⟨after, same ▸ held, rfl⟩
  · exact ⟨after, held, rfl⟩

/-- The entries once a job is marked as firing under a handle. -/
theorem markFiring_entry (s : Scheduler) (id other : JobId) (handle : Handle) :
    { s with armed := s.armed.markFiring id handle }.armed? other =
      if other = id then
        (s.armed? id).map fun entry =>
          if entry.handle = handle then { entry with firing := true } else entry
      else s.armed? other :=
  ArmedIndex.get_markFiring ..

theorem markFiring_loses (s : Scheduler) (id : JobId) (handle : Handle) :
    Loses s { s with armed := s.armed.markFiring id handle } := by
  refine loses_of_index ?_ rfl
  intro other after held
  rw [markFiring_entry] at held
  split at held
  · rename_i same
    obtain ⟨before, held, marked⟩ := Option.map_eq_some_iff.mp held
    refine ⟨before, same ▸ held, ?_⟩
    rw [← marked]
    split <;> rfl
  · exact ⟨after, held, rfl⟩

theorem drop_owner (s : Scheduler) (number : Nat) (handle : Handle) :
    { s with timers := s.timers.drop number }.owner? handle =
      if handle = .issued number then none else s.owner? handle :=
  Timers.payload_drop ..

theorem drop_loses (s : Scheduler) (number : Nat) :
    Loses s { s with timers := s.timers.drop number } where
  record := rfl
  entry _ after held := ⟨after, held, rfl⟩
  owner := by
    intro handle id held
    rw [drop_owner] at held
    split at held
    · cases held
    · exact held
  issued := Nat.le_refl _
  isShutDown := rfl
  numbered numbered := numbered.shrink (Timers.drop_shrinks ..)

theorem drop_untouched {number : Nat} (apart : s.owner? (.issued number) ≠ some id) :
    Untouched id s { s with timers := s.timers.drop number } := by
  refine ⟨rfl, rfl, ?_⟩
  intro handle
  rw [drop_owner]
  split
  · rename_i same
    rw [same]
    exact ⟨nofun, fun held => absurd held apart⟩
  · exact .rfl

theorem disarm_loses (s : Scheduler) (job : Job) : Loses s (s.disarm job) where
  record := disarm_record s job
  entry := by
    intro other after held
    rw [disarm_entry] at held
    split at held
    · cases held
    · exact ⟨after, held, rfl⟩
  owner := by
    intro handle id held
    rw [disarm_owner] at held
    split at held
    · cases held
    · exact held
  issued := Nat.le_of_eq (disarm_timers s job).issued.symm
  isShutDown := (disarm_timers s job).isShutDown
  numbered numbered := numbered.shrink (disarm_timers s job)

theorem freed_loses (s : Scheduler) (stored? : Option Job) : Loses s (s.freed stored?) := by
  cases stored? with
  | none => exact (Keeps.refl s).loses
  | some stored => exact disarm_loses s stored

/-! ## What is done to one job only -/

theorem forget_spares (s : Scheduler) (id : JobId) : Spares id s (s.forget id) := by
  refine ⟨rfl, fun _ _ => rfl, ?_, fun _ _ _ => .rfl⟩
  intro other different
  rw [forget_entry]
  exact if_neg different

theorem release_spares (s : Scheduler) (id : JobId) (handle : Handle) :
    Spares id s (s.release id handle) := by
  refine ⟨rfl, fun _ _ => rfl, ?_, fun _ _ _ => .rfl⟩
  intro other different
  rw [release_entry]
  exact if_neg different

theorem markFiring_spares (s : Scheduler) (id : JobId) (handle : Handle) :
    Spares id s { s with armed := s.armed.markFiring id handle } := by
  refine ⟨rfl, fun _ _ => rfl, ?_, fun _ _ _ => .rfl⟩
  intro other different
  rw [markFiring_entry]
  exact if_neg different

/-- Every handle under which a job may be armed belongs to it. -/
theorem belongs_of_mem (owned : Owned s) (held : s.record? id = some job)
    (member : handle ∈ s.handlesOf job) : s.Belongs id handle := by
  have same := owned.keyed id job held
  rcases mem_handlesOf.mp member with ⟨entry, entered, named⟩ | named
  · rw [same] at entered
    rw [← named]
    exact owned.entered id entry entered
  · exact owned.recorded id job handle held named

theorem disarm_spares (owned : Owned s) (held : s.record? id = some job) :
    Spares id s (s.disarm job) := by
  refine ⟨(disarm_timers s job).isShutDown, fun _ _ => rfl, ?_, ?_⟩
  · intro other different
    rw [disarm_entry, owned.keyed id job held]
    exact if_neg different
  · intro handle other different
    rw [disarm_owner]
    split
    · rename_i member
      have belongs := belongs_of_mem owned held member
      exact ⟨nofun, fun pending => absurd (belongs.owner other pending) different⟩
    · exact .rfl

theorem freed_spares (owned : Owned s) (id : JobId) : Spares id s (s.freed (s.record? id)) := by
  cases held : s.record? id with
  | none => exact .refl id s
  | some job => exact disarm_spares owned held

theorem Parks.spares (parks : Parks s job t) : Spares job.id s t := by
  refine ⟨by rw [parks.timers], ?_, ?_, ?_⟩
  · intro other different
    rw [parks.record]
    exact if_neg different
  · intro other different
    rw [parks.entry]
    exact if_neg different
  · simp [owner?, parks.timers]

theorem Arms.spares (numbered : s.timers.Numbered) (arms : Arms s job t) : Spares job.id s t := by
  refine ⟨arms.isShutDown, ?_, ?_, ?_⟩
  · intro other different
    rw [arms.record]
    exact if_neg different
  · intro other different
    obtain ⟨due, entry⟩ := arms.entry
    rw [entry]
    exact if_neg different
  · intro handle other different
    rw [arms.owner]
    split
    · rename_i next
      rw [next, owner_next numbered]
      simp [different.symm]
    · exact .rfl

/-! ## Storing a job -/

private theorem parked_belongs (parks : Parks s job t) (belongs : s.Belongs id handle) :
    t.Belongs id handle := by
  constructor
  · rw [parks.timers]
    exact belongs.issued
  · rw [owner?, parks.timers]
    exact belongs.owner

private theorem stored_keyed (keyed : Keyed s)
    (record : ∀ other, t.record? other = if other = job.id then some job else s.record? other) :
    ∀ id stored, t.record? id = some stored → stored.id = id := by
  intro id stored held
  rw [record] at held
  split at held
  · rename_i same
    cases held
    exact same.symm
  · exact keyed.keyed id stored held

theorem Parks.keyed (keyed : Keyed s) (parks : Parks s job t) : Keyed t where
  numbered := by
    rw [parks.timers]
    exact keyed.numbered
  keyed := stored_keyed keyed parks.record

theorem Arms.keyed (keyed : Keyed s) (arms : Arms s job t) : Keyed t :=
  ⟨arms.numbered, stored_keyed keyed arms.record⟩

theorem Settles.keyed (keyed : Keyed s) (settles : Settles s now job answer) : Keyed answer.2 := by
  cases settles with
  | failed unchanged _ => exact keyed.of_loses unchanged.loses
  | dropped unchanged _ => exact keyed.of_loses ((forget_loses s job.id).trans unchanged.loses)
  | parked parks => exact parks.keyed keyed
  | armed _ arms => exact arms.keyed keyed

theorem Operates.keyed (keyed : Keyed s) (operates : Operates s operation t) : Keyed t := by
  cases operates with
  | kept unchanged => exact keyed.of_loses unchanged.loses
  | freed unchanged _ _ => exact (keyed.of_loses unchanged.loses).of_loses (freed_loses ..)
  | settled unchanged _ _ settles =>
    exact settles.keyed ((keyed.of_loses unchanged.loses).of_loses (freed_loses ..))

theorem Parks.owned (owned : Owned s) (parks : Parks s job t) : Owned t where
  toKeyed := parks.keyed owned.toKeyed
  recorded := by
    intro id stored handle held named
    rw [parks.record] at held
    split at held
    · cases held
      rw [parks.unnamed] at named
      cases named
    · exact parked_belongs parks (owned.recorded id stored handle held named)
  entered := by
    intro id entry held
    rw [parks.entry] at held
    split at held
    · cases held
    · exact parked_belongs parks (owned.entered id entry held)

/-- The next handle belongs to the job that is armed under it. -/
private theorem next_belongs (arms : Arms s job t) : t.Belongs job.id s.nextHandle := by
  constructor
  · intro n same
    cases same
    exact Nat.le_of_eq arms.issued.symm
  · intro other held
    rw [arms.owner, if_pos rfl] at held
    cases held
    rfl

private theorem armed_belongs (arms : Arms s job t) (belongs : s.Belongs id handle) :
    t.Belongs id handle := by
  constructor
  · intro n same
    have bound := belongs.issued n same
    rw [arms.issued]
    omega
  · intro other held
    rw [arms.owner] at held
    split at held
    · rename_i next
      have bound := belongs.issued _ next
      omega
    · exact belongs.owner other held

theorem Arms.owned (owned : Owned s) (arms : Arms s job t) : Owned t where
  toKeyed := arms.keyed owned.toKeyed
  recorded := by
    intro id stored handle held named
    rw [arms.record] at held
    split at held
    · rename_i same
      cases held
      rw [arms.named] at named
      cases named
      rw [same]
      exact next_belongs arms
    · exact armed_belongs arms (owned.recorded id stored handle held named)
  entered := by
    intro id entry held
    obtain ⟨due, entered⟩ := arms.entry
    rw [entered] at held
    split at held
    · rename_i same
      cases held
      rw [same]
      exact next_belongs arms
    · exact armed_belongs arms (owned.entered id entry held)

theorem Settles.owned (owned : Owned s) (settles : Settles s now job answer) : Owned answer.2 := by
  cases settles with
  | failed unchanged _ => exact owned.of_loses unchanged.loses
  | dropped unchanged _ => exact owned.of_loses ((forget_loses s job.id).trans unchanged.loses)
  | parked parks => exact parks.owned owned
  | armed _ arms => exact arms.owned owned

theorem Settles.spares (numbered : s.timers.Numbered) (settles : Settles s now job answer) :
    Spares job.id s answer.2 := by
  cases settles with
  | failed unchanged _ => exact unchanged.spares
  | dropped unchanged _ => exact (forget_spares s job.id).trans unchanged.spares
  | parked parks =>
    have spares := parks.spares
    exact spares
  | armed _ arms =>
    have spares := arms.spares numbered
    exact spares

theorem Operates.owned (owned : Owned s) (operates : Operates s operation t) : Owned t := by
  cases operates with
  | kept unchanged => exact owned.of_loses unchanged.loses
  | freed unchanged _ _ => exact (owned.of_loses unchanged.loses).of_loses (freed_loses ..)
  | settled unchanged _ _ settles =>
    exact settles.owned ((owned.of_loses unchanged.loses).of_loses (freed_loses ..))

/-- An operation on one job leaves all others alone. -/
theorem Operates.spares (owned : Owned s) (operates : Operates s operation t) :
    Spares operation.id s t := by
  have freed : ∀ {u}, Unchanged s u →
      Spares operation.id s (u.freed (s.record? operation.id)) := by
    intro u unchanged
    rw [← unchanged.record]
    exact unchanged.spares.trans (freed_spares (owned.of_loses unchanged.loses) operation.id)
  cases operates with
  | kept unchanged => exact unchanged.spares
  | freed unchanged _ _ => exact freed unchanged
  | settled unchanged _ same settles =>
    have numbered := (unchanged.numbered owned.numbered).shrink
      (freed_timers _ (s.record? operation.id))
    have settled := settles.spares numbered
    rw [same] at settled
    exact (freed unchanged).trans settled

/-- Records of others are left alone wherever the handles may belong. -/
theorem Operates.record_other (keyed : Keyed s) (operates : Operates s operation t)
    (different : other ≠ operation.id) : t.record? other = s.record? other := by
  have freed : ∀ {u}, Unchanged s u → (u.freed (s.record? operation.id)).record? = s.record? := by
    intro u unchanged
    exact (freed_loses u (s.record? operation.id)).record.trans unchanged.record
  cases operates with
  | kept unchanged => rw [unchanged.record]
  | freed unchanged _ _ => rw [freed unchanged]
  | settled unchanged _ same settles =>
    have numbered := (unchanged.numbered keyed.numbered).shrink
      (freed_timers _ (s.record? operation.id))
    have settled := (settles.spares numbered).record other
    rw [same] at settled
    rw [settled different, freed unchanged]

end Scheduler

open Scheduler

variable {s t : Scheduler}

theorem Operation.operates (keyed : s.Keyed) (operation : Operation) :
    s.Operates operation (operation.run s) := by
  cases operation with
  | schedule clock job => exact schedule_operates keyed.numbered clock job
  | cancel clock id => exact cancel_operates s clock (keyed.keyed id)
  | recover clock id => exact recover_operates keyed.numbered clock (keyed.keyed id)

namespace Process

variable {p q : Process} {id : JobId} {action : Action} {allowed : Action → Prop}

/-- What any action does to the scheduler: it takes something away, or is an operation on a job, or
settles what is to become of a job that was fired. -/
inductive Changes (s : Scheduler) : Scheduler → Prop
  | loses {t : Scheduler} (loses : Loses s t) : Changes s t
  | operates {t : Scheduler} {operation : Operation} (operates : Operates s operation t) :
    Changes s t
  | settles {t : Scheduler} {now : Instant} {job : Job}
    {answer : Except SchedulerError Job × Scheduler} (unchanged : Unchanged s t)
    (settles : Settles t now job answer) : Changes s answer.2

theorem Moves.changes (keyed : p.scheduler.Keyed) (moves : Moves p action q) :
    Changes p.scheduler q.scheduler := by
  cases moves with
  | kept keeps _ _ => exact .loses keeps.loses
  | operated _ scheduler _ =>
    rw [scheduler]
    exact .operates (Operation.operates keyed _)
  | elapsed _ scheduler _ =>
    rw [scheduler]
    exact .loses (drop_loses ..)
  | lost _ scheduler _ =>
    rw [scheduler]
    exact .loses (drop_loses ..)
  | called scheduler _ =>
    rw [scheduler]
    exact .loses (Keeps.refl _).loses
  | unclaimed _ _ unchanged _ _ => exact .loses unchanged.loses
  | claimed _ _ unchanged _ _ scheduler _ =>
    rw [scheduler]
    exact .loses (unchanged.loses.trans (markFiring_loses ..))
  | stale _ _ unchanged _ scheduler _ =>
    rw [scheduler]
    exact .loses (unchanged.loses.trans (release_loses ..))
  | uncompleted _ _ unchanged _ _ => exact .loses unchanged.loses
  | stranded _ _ unchanged _ _ _ _ _ => exact .loses unchanged.loses
  | overtaken _ _ unchanged _ scheduler _ =>
    rw [scheduler]
    exact .loses (unchanged.loses.trans (release_loses ..))
  | concluded _ _ unchanged _ _ concludes scheduler _ =>
    obtain ⟨status, settles⟩ := concludes.settles (unchanged.numbered keyed.numbered)
    rw [scheduler]
    exact .settles unchanged settles
  | released _ _ scheduler _ =>
    rw [scheduler]
    exact .loses (release_loses ..)

theorem Changes.keyed (keyed : s.Keyed) (changes : Changes s t) : t.Keyed := by
  cases changes with
  | loses loses => exact keyed.of_loses loses
  | operates operates => exact operates.keyed keyed
  | settles unchanged settles => exact settles.keyed (keyed.of_loses unchanged.loses)

theorem Changes.owned (owned : s.Owned) (changes : Changes s t) : t.Owned := by
  cases changes with
  | loses loses => exact owned.of_loses loses
  | operates operates => exact operates.owned owned
  | settles unchanged settles => exact settles.owned (owned.of_loses unchanged.loses)

/-- Nothing shuts the timer service down. -/
theorem Changes.isShutDown (owned : s.Owned) (changes : Changes s t) :
    t.timers.isShutDown = s.timers.isShutDown := by
  cases changes with
  | loses loses => exact loses.isShutDown
  | operates operates => exact (operates.spares owned).isShutDown
  | settles unchanged settles =>
    exact (settles.spares (unchanged.numbered owned.numbered)).isShutDown.trans unchanged.isShutDown

theorem perform_keyed (keyed : p.scheduler.Keyed) (action : Action) :
    (p.perform action).scheduler.Keyed :=
  ((perform_moves p action).changes keyed).keyed keyed

theorem perform_owned (owned : p.scheduler.Owned) (action : Action) :
    (p.perform action).scheduler.Owned :=
  ((perform_moves p action).changes owned.toKeyed).owned owned

/-- The job that an action is about, if it is about one. -/
def subject? (p : Process) : Action → Option JobId
  | .readPatch id _ | .fire id _ => some id
  | .elapse number => p.scheduler.owner? (.issued number)
  | .claim number | .complete number _ _ | .release number => p.calls[number]?.map (·.id)
  | action => (p.operation? action).map (·.id)

theorem subject_of_operation {operation : Operation}
    (carried : p.operation? action = some operation) : p.subject? action = some operation.id := by
  cases action with
  | operate _ => simp only [subject?, carried, Option.map_some]
  | schedulePatched _ _ => simp only [subject?, carried, Option.map_some]
  | recoverFound _ _ => simp only [subject?, carried, Option.map_some]
  | _ => cases carried

/-- An action about one job leaves all others alone. -/
theorem Moves.untouched (owned : p.scheduler.Owned) (moves : Moves p action q)
    (apart : p.subject? action ≠ some id) : Untouched id p.scheduler q.scheduler := by
  have called : ∀ {number : Nat} {call : FireCall}, p.calls[number]? = some call →
      p.subject? action = p.calls[number]?.map (·.id) → id ≠ call.id := by
    intro number call found subject same
    rw [subject, found, same] at apart
    exact apart rfl
  cases moves with
  | kept keeps _ _ => exact keeps.untouched
  | operated carried scheduler _ =>
    rw [subject_of_operation carried] at apart
    rw [scheduler]
    exact ((Operation.operates owned.toKeyed _).spares owned).untouched fun same =>
      apart (congrArg some same.symm)
  | elapsed _ scheduler _ =>
    rw [scheduler]
    exact drop_untouched apart
  | lost _ scheduler _ =>
    rw [scheduler]
    exact drop_untouched apart
  | called scheduler _ =>
    rw [scheduler]
    exact .refl ..
  | unclaimed _ _ unchanged _ _ => exact unchanged.untouched
  | claimed found _ unchanged _ _ scheduler _ =>
    rw [scheduler]
    exact unchanged.untouched.trans ((markFiring_spares ..).untouched (called found rfl))
  | stale found _ unchanged _ scheduler _ =>
    rw [scheduler]
    exact unchanged.untouched.trans ((release_spares ..).untouched (called found rfl))
  | uncompleted _ _ unchanged _ _ => exact unchanged.untouched
  | stranded _ _ unchanged _ _ _ _ _ => exact unchanged.untouched
  | overtaken found _ unchanged _ scheduler _ =>
    rw [scheduler]
    exact unchanged.untouched.trans ((release_spares ..).untouched (called found rfl))
  | @concluded _ _ _ call job _ _ _ found _ unchanged record _ concludes scheduler _ =>
    have numbered := unchanged.numbered owned.numbered
    obtain ⟨status, settles⟩ := concludes.settles numbered
    rw [scheduler]
    refine unchanged.untouched.trans ((settles.spares numbered).untouched ?_)
    rw [Job.concluded_id, owned.keyed call.id job record]
    exact called found rfl
  | released found _ scheduler _ =>
    rw [scheduler]
    exact (release_spares ..).untouched (called found rfl)

/-- The action replaces the configuration, unless it is refused. -/
def reconfigures : Action → Bool
  | .reconfigure _ => true
  | _ => false

/-- No other action changes the configuration. -/
theorem perform_config (keyed : p.scheduler.Keyed) (kept : reconfigures action = false) :
    (p.perform action).scheduler.config = p.scheduler.config := by
  have operated : ∀ operation?, (p.operate operation?).scheduler.config = p.scheduler.config := by
    intro operation?
    cases operation? with
    | none => rfl
    | some operation => exact (Operation.operates keyed operation).config
  cases action with
  | operate operation => exact operated _
  | readPatch other patch =>
    have unchanged := (p.scheduler.patched_unchanged other patch).config
    simp only [perform]
    split <;> rename_i made <;> rw [made] at unchanged <;> exact unchanged
  | schedulePatched clock place => exact operated _
  | scan now =>
    simp only [perform]
    split <;> rfl
  | recoverFound clock place => exact operated _
  | elapse number => rfl
  | fire other handle => rfl
  | claim number =>
    simp only [perform]
    split
    · rename_i call _
      rcases claim_cases p.scheduler call.id call.handle with
        ⟨e, t, same, unchanged, _⟩ | ⟨t, job, unchanged, _, _, same⟩ | ⟨t, unchanged, _, same⟩ <;>
        rw [same] <;> exact unchanged.config
    · rfl
  | complete number clock outcome =>
    simp only [perform]
    split
    · rename_i call _
      rcases complete_cases p.scheduler clock call.id call.handle outcome with
        ⟨e, t, same, _, unchanged, _⟩ | ⟨t, unchanged, _, same⟩ | ⟨t, job, unchanged, _, _, _, _, same⟩ |
        ⟨t, job, answer, unchanged, _, _, concludes, same⟩
      · rw [same]
        exact unchanged.config
      · rw [same]
        exact unchanged.config
      · rw [same]
        exact unchanged.config
      · obtain ⟨status, settles⟩ := concludes.settles (unchanged.numbered keyed.numbered)
        rw [same, answered_state]
        exact settles.config.trans unchanged.config
    · rfl
  | release number =>
    simp only [perform]
    split <;> rfl
  | reconfigure config => cases kept
  | stage available readFaults writeFaults failures => rfl

/-- How a run may begin: nothing is armed here, over a store whose records were left by whoever; the
timer service is at work and will issue no handle that a record names. -/
structure Begins (p : Process) : Prop where
  owned : p.scheduler.Owned
  unarmed : ∀ id, p.scheduler.armed? id = none
  serving : p.scheduler.timers.isShutDown = false
  calls : p.calls = []

/-- So begins a scheduler that was created over a keyed store, with a timer service that has nothing to
do and has not issued the handles of the records. -/
theorem begins_of_create {config : SchedulerConfig} {store : Store} {timers : Timers JobId}
    {executors : List Executor} (created : create config store timers executors = .ok s)
    (keyed : ∀ (id : JobId) (job : Job), store.jobs[id]? = some job → job.id = id)
    (unused : ∀ (id : JobId) (job : Job) (n : Nat), store.jobs[id]? = some job →
      job.handle? = some (.issued n) → n ≤ timers.issued)
    (idle : timers.pending = []) (serving : timers.isShutDown = false) :
    Begins (ofScheduler s) := by
  have same : s = ⟨config.clamped, store, .empty, timers, executors⟩ := by
    unfold create at created
    split at created <;> cases created
    rfl
  subst same
  have unarmed : ∀ id, ArmedIndex.empty.get? id = none := fun id => Std.TreeMap.getElem?_emptyc
  have ended : ∀ handle, timers.payload? handle = none := by
    intro handle
    cases handle <;> simp [Timers.payload?, Timers.find?, idle]
  refine ⟨⟨⟨?_, keyed⟩, ?_, ?_⟩, unarmed, serving, rfl⟩
  · constructor <;> simp [ofScheduler, idle]
  · intro id job handle held named
    refine ⟨fun n same => unused id job n held (same ▸ named), ?_⟩
    intro other pending
    simp [ofScheduler, owner?, ended] at pending
  · intro id entry held
    simp [ofScheduler, armed?, unarmed] at held

theorem begins_vacant : Begins (ofScheduler .vacant) := by
  have vacant : ∀ id : JobId, Store.empty.jobs[id]? = none := fun id => Std.TreeMap.getElem?_emptyc
  have created : create .initial .empty (.ofService .recording) [] = .ok .vacant := rfl
  refine begins_of_create created ?_ ?_ rfl rfl
  · intro id job held
    simp [vacant] at held
  · intro id job n held
    simp [vacant] at held

theorem keyed_reaches (keyed : p.scheduler.Keyed) (reaches : Reaches allowed p q) :
    q.scheduler.Keyed :=
  reaches.invariant (·.scheduler.Keyed) keyed fun _ action _ keyed => perform_keyed keyed action

end Process

end Punctual
