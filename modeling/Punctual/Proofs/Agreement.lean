import Punctual.Proofs.LiveEntries

/-!
The store, the index and the timer service agree as long as none of their calls fails and only the
scheduler writes to the store. Whenever no operation holds a job's lock, its record names a handle if
and only if the index has an entry under that handle, and then the handle's timer is pending, or its
call waits to claim the job, or the job executes. No other timer of the job is pending.

There is one more state, which no other operation leads to: where a completion breaks off, record and entry
go on to name a handle for which nothing happens any more.
-/
namespace Punctual

open Scheduler

variable {s t : Scheduler} {id other : JobId} {job : Job} {handle : Handle} {calls : List FireCall}
  {entry : ArmedJob} {now : Instant} {answer : Except SchedulerError Job × Scheduler}

/-! ## Record, entry and timers of one job -/

/-- The job's record, its entry and its pending timers name the same handle, or none does. -/
structure Consistent (s : Scheduler) (id : JobId) : Prop where
  armed : ∀ entry, s.armed? id = some entry →
    ∃ job, s.record? id = some job ∧ job.handle? = some entry.handle ∧ job.status.isActive = true
  named : ∀ job handle, s.record? id = some job → job.handle? = some handle →
    ∃ entry, s.armed? id = some entry ∧ entry.handle = handle
  pending : ∀ handle, s.owner? handle = some id →
    ∃ entry, s.armed? id = some entry ∧ entry.handle = handle ∧ entry.firing = false

theorem Consistent.of_spares (consistent : Consistent s other) (spares : Spares id s t)
    (different : other ≠ id) : Consistent t other := by
  obtain ⟨armed, named, pending⟩ := consistent
  constructor
  · rw [spares.entry other different, spares.record other different]
    exact armed
  · rw [spares.entry other different, spares.record other different]
    exact named
  · intro handle held
    rw [spares.entry other different]
    exact pending handle ((spares.owner handle other different).mp held)

theorem Consistent.of_keeps (consistent : Consistent s id) (keeps : Keeps s t) : Consistent t id := by
  obtain ⟨armed, named, pending⟩ := consistent
  constructor
  · rw [keeps.entry, keeps.record]
    exact armed
  · rw [keeps.entry, keeps.record]
    exact named
  · rw [keeps.entry, keeps.owner]
    exact pending

/-- Once the job's timers are ended, none of them is pending. -/
theorem Consistent.freed (consistent : Consistent s id) (keyed : Keyed s) (handle : Handle) :
    (s.freed (s.record? id)).owner? handle ≠ some id := by
  intro held
  have before := (freed_loses s (s.record? id)).owner handle id held
  obtain ⟨entry, entered, named, _⟩ := consistent.pending handle before
  obtain ⟨job, record, _⟩ := consistent.armed entry entered
  have same := keyed.keyed id job record
  have member : handle ∈ s.handlesOf job := by
    refine mem_handlesOf.mpr (.inl ⟨entry, ?_, named⟩)
    rw [same]
    exact entered
  rw [record] at held
  change (s.disarm job).owner? handle = some id at held
  rw [disarm_owner, if_pos member] at held
  cases held

/-- A job of which no timer is pending is consistent again when it is stored. -/
theorem Scheduler.Settles.consistent (settles : Settles s now job answer) (reliable : s.Reliable)
    (ended : ∀ handle, s.owner? handle ≠ some job.id) : Consistent answer.2 job.id := by
  cases settles with
  | failed _ fails => exact absurd reliable fails
  | dropped _ fails => exact absurd reliable fails
  | @parked t parks =>
    have entry : t.armed? job.id = none := (parks.entry job.id).trans (if_pos rfl)
    have record : t.record? job.id = some (job.stamped none now) :=
      (parks.record job.id).trans (if_pos rfl)
    have owner : t.owner? = s.owner? := by
      unfold owner?
      rw [parks.timers]
    refine ⟨?_, ?_, ?_⟩
    · intro other held
      rw [entry] at held
      cases held
    · intro stored handle held named
      rw [record] at held
      cases held
      cases named
    · intro handle held
      rw [owner] at held
      exact absurd held (ended handle)
  | @armed t active arms =>
    obtain ⟨due, entered⟩ := arms.entry
    have entry : t.armed? job.id = some ⟨s.nextHandle, due, false⟩ :=
      (entered job.id).trans (if_pos rfl)
    have record : t.record? job.id = some (job.stamped (some s.nextHandle) now) :=
      (arms.record job.id).trans (if_pos rfl)
    refine ⟨?_, ?_, ?_⟩
    · intro other held
      rw [entry] at held
      cases held
      exact ⟨_, record, rfl, active⟩
    · intro stored handle held named
      rw [record] at held
      cases held
      cases named
      exact ⟨_, entry, rfl⟩
    · intro handle held
      rw [arms.owner] at held
      split at held
      · rename_i next
        exact ⟨_, entry, next.symm, rfl⟩
      · exact absurd held (ended handle)

/-- An operation on a job leaves it consistent. -/
theorem Consistent.operated {operation : Operation} (consistent : Consistent s operation.id)
    (keyed : Keyed s) (reliable : s.Reliable) (operates : Operates s operation t) :
    Consistent t operation.id := by
  have freed : ∀ {u}, Unchanged s u → ∀ handle,
      (u.freed (s.record? operation.id)).owner? handle ≠ some operation.id := by
    intro u unchanged
    have still := consistent.of_keeps unchanged.toKeeps
    rw [← unchanged.record]
    exact still.freed (keyed.of_loses unchanged.loses)
  cases operates with
  | kept unchanged => exact consistent.of_keeps unchanged.toKeeps
  | @freed u unchanged _ unarmed =>
    have loses := unchanged.loses.trans (freed_loses u (s.record? operation.id))
    have vacant : (u.freed (s.record? operation.id)).armed? operation.id = none := by
      cases entered : (u.freed (s.record? operation.id)).armed? operation.id with
      | none => rfl
      | some after =>
        obtain ⟨before, held, _⟩ := loses.entry operation.id after entered
        rw [unarmed] at held
        cases held
    refine ⟨?_, ?_, ?_⟩
    · intro entry held
      rw [vacant] at held
      cases held
    · intro job handle record named
      rw [loses.record] at record
      obtain ⟨entry, held, _⟩ := consistent.named job handle record named
      rw [unarmed] at held
      cases held
    · intro handle held
      exact absurd held (freed unchanged handle)
  | settled unchanged _ same settles =>
    have settled := settles.consistent (freed_reliable _ (unchanged.reliable reliable))
      (by rw [same]; exact freed unchanged)
    rw [same] at settled
    exact settled

/-- A timer that elapses takes nothing but itself away. -/
theorem Consistent.dropped (consistent : Consistent s id) (number : Nat) :
    Consistent { s with timers := s.timers.drop number } id := by
  refine ⟨consistent.armed, consistent.named, ?_⟩
  intro handle held
  exact consistent.pending handle ((drop_loses s number).owner handle id held)

/-- A claim marks an entry whose timer is no longer pending. -/
theorem Consistent.claimed (consistent : Consistent s other) (ended : s.owner? handle = none)
    (id : JobId) : Consistent { s with armed := s.armed.markFiring id handle } other := by
  by_cases same : other = id
  · subst same
    have entry : { s with armed := s.armed.markFiring other handle }.armed? other =
        (s.armed? other).map fun entry =>
          if entry.handle = handle then { entry with firing := true } else entry :=
      (markFiring_entry s other other handle).trans (if_pos rfl)
    refine ⟨?_, ?_, ?_⟩
    · intro after held
      obtain ⟨before, held, named⟩ := (markFiring_loses s other handle).entry other after held
      obtain ⟨job, record, recorded, active⟩ := consistent.armed before held
      exact ⟨job, record, named ▸ recorded, active⟩
    · intro job recorded record named
      obtain ⟨before, held, rfl⟩ := consistent.named job recorded record named
      rw [entry, held]
      refine ⟨_, rfl, ?_⟩
      dsimp only
      split <;> rfl
    · intro waiting held
      obtain ⟨before, entered, rfl, idle⟩ := consistent.pending waiting held
      have different : before.handle ≠ handle := by
        intro equal
        change s.owner? before.handle = some other at held
        rw [equal, ended] at held
        cases held
      rw [entry, entered]
      exact ⟨_, rfl, by simp [different], by simp [different, idle]⟩
  · exact consistent.of_spares (markFiring_spares s id handle) same

/-- No entry is left under a handle that the record does not name. -/
theorem Consistent.release (consistent : ∀ id, Consistent s id)
    (renamed : ∀ job, s.record? id = some job → isCurrent job handle = false) (other : JobId) :
    Consistent (s.release id handle) other := by
  by_cases same : other = id
  · subst same
    have entry : (s.release other handle).armed? other = s.armed? other := by
      refine (release_entry s other other handle).trans ?_
      rw [if_pos rfl]
      cases held : s.armed? other with
      | none => rfl
      | some entry =>
        obtain ⟨job, record, named, active⟩ := (consistent other).armed entry held
        have different : entry.handle ≠ handle := by
          intro equal
          have current := isCurrent_iff.mpr ⟨active, equal ▸ named⟩
          rw [renamed job record] at current
          cases current
        simp [Option.filter, different]
    obtain ⟨armed, named, pending⟩ := consistent other
    rw [← entry] at armed named pending
    exact ⟨armed, named, pending⟩
  · exact (consistent other).of_spares (release_spares s id handle) same

/-- While a firing under the handle that the record names is on its way, no timer of the job is
pending. -/
theorem Consistent.firing (consistent : Consistent s id) (record : s.record? id = some job)
    (current : isCurrent job handle = true) (ended : s.owner? handle = none) (other : Handle) :
    s.owner? other ≠ some id := by
  intro held
  obtain ⟨entry, entered, named, _⟩ := consistent.pending other held
  obtain ⟨_, recorded⟩ := isCurrent_iff.mp current
  obtain ⟨firing, entered', named'⟩ := consistent.named job handle record recorded
  rw [entered] at entered'
  cases entered'
  rw [← named, named', ended] at held
  cases held

/-! ## Timers that have elapsed -/

/-- The timer was armed here and is no longer pending. -/
structure Past (s : Scheduler) (handle : Handle) : Prop where
  issued : ∃ n ≤ s.timers.issued, handle = .issued n
  ended : s.owner? handle = none

theorem Past.of_loses (past : Past s handle) (loses : Loses s t) : Past t handle := by
  obtain ⟨⟨n, bound, same⟩, ended⟩ := past
  refine ⟨⟨n, Nat.le_trans bound loses.issued, same⟩, ?_⟩
  cases held : t.owner? handle with
  | none => rfl
  | some id =>
    rw [loses.owner handle id held] at ended
    cases ended

theorem Past.settled (past : Past s handle) (settles : Settles s now job answer) :
    Past answer.2 handle := by
  cases settles with
  | failed unchanged _ => exact past.of_loses unchanged.loses
  | dropped unchanged _ => exact past.of_loses ((forget_loses s job.id).trans unchanged.loses)
  | parked parks =>
    obtain ⟨issued, ended⟩ := past
    unfold owner? at ended
    constructor
    · rw [parks.timers]
      exact issued
    · unfold owner?
      rw [parks.timers]
      exact ended
  | armed _ arms =>
    obtain ⟨⟨n, bound, same⟩, ended⟩ := past
    have earlier : handle ≠ s.nextHandle := by
      intro next
      rw [same] at next
      cases next
      omega
    constructor
    · rw [arms.issued]
      exact ⟨n, by omega, same⟩
    · rw [arms.owner, if_neg earlier]
      exact ended

/-- Timers that have elapsed are never pending again. -/
theorem Past.changed (past : Past s handle) (changes : Process.Changes s t) : Past t handle := by
  cases changes with
  | loses loses => exact past.of_loses loses
  | operates operates =>
    cases operates with
    | kept unchanged => exact past.of_loses unchanged.loses
    | freed unchanged _ _ => exact past.of_loses (unchanged.loses.trans (freed_loses ..))
    | settled unchanged _ _ settles =>
      exact (past.of_loses (unchanged.loses.trans (freed_loses ..))).settled settles
  | settles unchanged settles => exact (past.of_loses unchanged.loses).settled settles

namespace Process

variable {p q : Process} {action : Action} {number : Nat} {call : FireCall}

/-- Neither is a fault staged nor a timer handled that has not elapsed. -/
def ordinary : Action → Bool
  | .fire .. => false
  | .stage .. => false
  | _ => true

theorem stages_of_ordinary (permitted : ordinary action = true) : stages action = false := by
  cases action <;> first | rfl | cases permitted

/-- What holds throughout a run in which nothing fails. -/
structure Sound (p : Process) : Prop where
  owned : p.scheduler.Owned
  reliable : p.scheduler.Reliable
  past : ∀ call ∈ p.calls, Past p.scheduler call.handle
  phases : ∀ call ∈ p.calls, call.phase ≠ .unclaimed ∧ call.phase ≠ .uncompleted
  consistent : ∀ id, Consistent p.scheduler id

theorem Moves.reliable (moves : Moves p action q) (permitted : ordinary action = true)
    (keyed : p.scheduler.Keyed) (reliable : p.scheduler.Reliable) : q.scheduler.Reliable := by
  have dropped : ∀ number,
      Scheduler.Reliable { p.scheduler with timers := p.scheduler.timers.drop number } :=
    fun number => ⟨reliable.store, reliable.timers.shrink (Timers.drop_shrinks ..)⟩
  cases moves with
  | kept _ still _ => exact still (stages_of_ordinary permitted) reliable
  | operated _ scheduler _ =>
    rw [scheduler]
    exact (Operation.operates keyed _).reliable reliable
  | elapsed _ scheduler _ =>
    rw [scheduler]
    exact dropped _
  | lost _ scheduler _ =>
    rw [scheduler]
    exact dropped _
  | called scheduler _ =>
    rw [scheduler]
    exact reliable
  | unclaimed _ _ unchanged _ _ => exact unchanged.reliable reliable
  | claimed _ _ unchanged _ _ scheduler _ =>
    have still := unchanged.reliable reliable
    rw [scheduler]
    exact ⟨still.store, still.timers⟩
  | stale _ _ unchanged _ scheduler _ =>
    have still := unchanged.reliable reliable
    rw [scheduler]
    exact ⟨still.store, still.timers⟩
  | uncompleted _ _ unchanged _ _ => exact unchanged.reliable reliable
  | stranded _ _ unchanged _ _ _ _ _ => exact unchanged.reliable reliable
  | overtaken _ _ unchanged _ scheduler _ =>
    have still := unchanged.reliable reliable
    rw [scheduler]
    exact ⟨still.store, still.timers⟩
  | concluded _ _ unchanged _ _ concludes scheduler _ =>
    obtain ⟨status, settles⟩ := concludes.settles (unchanged.numbered keyed.numbered)
    rw [scheduler]
    exact settles.reliable (unchanged.reliable reliable)
  | released _ _ scheduler _ =>
    rw [scheduler]
    exact ⟨reliable.store, reliable.timers⟩

/-- An action in which nothing fails leaves every job consistent. -/
theorem Moves.consistent (moves : Moves p action q) (sound : Sound p) (id : JobId) :
    Consistent q.scheduler id := by
  obtain ⟨owned, reliable, past, phases, consistent⟩ := sound
  have pastOf : ∀ {number : Nat} {call : FireCall}, p.calls[number]? = some call →
      Past p.scheduler call.handle := fun found => past _ (List.mem_of_getElem? found)
  cases moves with
  | kept keeps _ _ => exact (consistent id).of_keeps keeps
  | @operated _ operation _ _ scheduler _ =>
    have operates := Operation.operates owned.toKeyed operation
    rw [scheduler]
    by_cases same : id = operation.id
    · rw [same]
      exact (consistent operation.id).operated owned.toKeyed reliable operates
    · exact (consistent id).of_spares (operates.spares owned) same
  | elapsed _ scheduler _ =>
    rw [scheduler]
    exact (consistent id).dropped _
  | lost _ scheduler _ =>
    rw [scheduler]
    exact (consistent id).dropped _
  | called scheduler _ =>
    rw [scheduler]
    exact consistent id
  | unclaimed _ _ unchanged _ _ => exact (consistent id).of_keeps unchanged.toKeeps
  | claimed found _ unchanged _ _ scheduler _ =>
    have ended := ((pastOf found).of_loses unchanged.loses).ended
    rw [scheduler]
    exact ((consistent id).of_keeps unchanged.toKeeps).claimed ended _
  | stale _ _ unchanged renamed scheduler _ =>
    rw [← unchanged.record] at renamed
    rw [scheduler]
    exact Consistent.release (fun id => (consistent id).of_keeps unchanged.toKeeps) renamed id
  | uncompleted _ _ unchanged _ _ => exact (consistent id).of_keeps unchanged.toKeeps
  | stranded _ _ unchanged _ _ _ _ _ => exact (consistent id).of_keeps unchanged.toKeeps
  | overtaken _ _ unchanged renamed scheduler _ =>
    rw [← unchanged.record] at renamed
    rw [scheduler]
    exact Consistent.release (fun id => (consistent id).of_keeps unchanged.toKeeps) renamed id
  | @concluded _ _ _ call fired t answer _ found _ unchanged record current concludes scheduler _ =>
    have still := owned.of_loses unchanged.loses
    have kept := fun id => (consistent id).of_keeps unchanged.toKeeps
    obtain ⟨status, settles⟩ := concludes.settles still.numbered
    have named : ∀ succeeded, (fired.concluded succeeded status).id = call.id := fun succeeded =>
      (fired.concluded_id succeeded status).trans (owned.keyed call.id fired record)
    have spares := settles.spares still.numbered
    have ended := ((pastOf found).of_loses unchanged.loses).ended
    rw [← unchanged.record] at record
    rw [scheduler]
    by_cases same : id = call.id
    · have settled := settles.consistent (unchanged.reliable reliable)
        (by rw [named]; exact (kept call.id).firing record current ended)
      rw [named] at settled
      rw [same]
      exact settled
    · rw [named] at spares
      exact (kept id).of_spares spares same
  | released found failed _ _ =>
    obtain ⟨claimed, completed⟩ := phases _ (List.mem_of_getElem? found)
    rcases failed with failed | failed
    · exact absurd failed claimed
    · exact absurd failed completed

/-- A call that is begun by a timer begins when the timer has elapsed. -/
theorem past_perform (keyed : p.scheduler.Keyed) (past : ∀ call ∈ p.calls, Past p.scheduler call.handle)
    (elapsed : ∀ id handle, action ≠ .fire id handle) :
    ∀ call ∈ (p.perform action).calls, Past (p.perform action).scheduler call.handle := by
  intro call member
  have moves := perform_moves p action
  have changes := moves.changes keyed
  have before : ∀ {number : Nat} {call : FireCall}, p.calls[number]? = some call →
      Past (p.perform action).scheduler call.handle :=
    fun found => (past _ (List.mem_of_getElem? found)).changed changes
  obtain ⟨number, now⟩ := List.mem_iff_getElem?.mp member
  have moved := moves.call_moves keyed.numbered now
  generalize earlier : p.calls[number]? = earlier? at moved
  cases moved with
  | same => exact before earlier
  | @elapsed number id elapses pending =>
    obtain ⟨n, bound, same⟩ := Timers.issued_of_payload keyed.numbered pending
    subst elapses
    refine ⟨⟨n, bound, same⟩, ?_⟩
    exact (drop_owner p.scheduler number (.issued number)).trans (if_pos rfl)
  | called fires => exact absurd fires (elapsed _ _)
  | claimed _ _ _ =>
    have past := before earlier
    exact past
  | stranded _ _ _ _ =>
    have past := before earlier
    exact past
  | moved _ _ =>
    have past := before earlier
    exact past

theorem Sound.perform (sound : Sound p) (permitted : ordinary action = true) :
    Sound (p.perform action) := by
  have moves := perform_moves p action
  have keyed := sound.owned.toKeyed
  have before : ∀ {number : Nat} {call : FireCall}, p.calls[number]? = some call → call ∈ p.calls :=
    fun found => List.mem_of_getElem? found
  constructor
  case owned => exact perform_owned sound.owned action
  case reliable => exact moves.reliable permitted keyed sound.reliable
  case consistent => exact moves.consistent sound
  case past =>
    refine past_perform keyed sound.past ?_
    intro id handle fires
    subst fires
    cases permitted
  case phases =>
    intro call member
    obtain ⟨number, now⟩ := List.mem_iff_getElem?.mp member
    have moved := moves.call_moves keyed.numbered now
    generalize earlier : p.calls[number]? = earlier? at moved
    cases moved with
    | same => exact sound.phases _ (before earlier)
    | elapsed _ _ => exact ⟨nofun, nofun⟩
    | called _ => exact ⟨nofun, nofun⟩
    | claimed _ _ _ => exact ⟨nofun, nofun⟩
    | stranded _ _ _ _ => exact ⟨nofun, nofun⟩
    | moved _ ends =>
      rw [ends sound.reliable]
      exact ⟨nofun, nofun⟩

/-- How a run may begin in which nothing fails: nothing is stored and nothing armed. -/
structure BeginsEmpty (p : Process) : Prop where
  unstored : ∀ id, p.scheduler.record? id = none
  unarmed : ∀ id, p.scheduler.armed? id = none
  idle : p.scheduler.timers.pending = []
  reliable : p.scheduler.Reliable
  calls : p.calls = []

theorem BeginsEmpty.ended (begins : BeginsEmpty p) (handle : Handle) :
    p.scheduler.owner? handle = none := by
  cases handle with
  | foreign id => rfl
  | issued n => simp [owner?, Timers.payload?, Timers.find?, begins.idle]

theorem BeginsEmpty.begins (begins : BeginsEmpty p) : Begins p := by
  obtain ⟨unstored, unarmed, idle, reliable, calls⟩ := begins
  refine ⟨⟨⟨⟨?_, ?_⟩, ?_⟩, ?_, ?_⟩, unarmed, reliable.timers.serving, calls⟩
  · simp [idle]
  · simp [idle]
  · intro id job held
    rw [unstored] at held
    cases held
  · intro id job handle held
    rw [unstored] at held
    cases held
  · intro id entry held
    rw [unarmed] at held
    cases held

theorem BeginsEmpty.sound (begins : BeginsEmpty p) : Sound p := by
  refine ⟨begins.begins.owned, begins.reliable, ?_, ?_, ?_⟩
  · simp [begins.calls]
  · simp [begins.calls]
  · intro id
    refine ⟨?_, ?_, ?_⟩
    · intro entry held
      rw [begins.unarmed] at held
      cases held
    · intro job handle held
      rw [begins.unstored] at held
      cases held
    · intro handle held
      rw [begins.ended] at held
      cases held

theorem sound_reaches (begins : BeginsEmpty p)
    (run : Reaches (fun action => ordinary action = true) p q) : Sound q :=
  run.invariant Sound begins.sound fun _ _ permitted sound => sound.perform permitted

/-- What an entry of the index stands for: a pending timer; or an elapsed one whose call is yet to
claim the job; or a firing of the job; or nothing any more, as the completion broke off. -/
inductive Standing (p : Process) (id : JobId) (entry : ArmedJob) : Prop
  | pending (idle : entry.firing = false) (held : p.scheduler.owner? entry.handle = some id)
  | waiting (idle : entry.firing = false) (ended : p.scheduler.owner? entry.handle = none)
    (call : InProgress p.calls id entry.handle (· == .waiting))
  | executing (firing : entry.firing = true) (ended : p.scheduler.owner? entry.handle = none)
    (call : InProgress p.calls id entry.handle (· == .executing))
  | brokenOff (firing : entry.firing = true) (ended : p.scheduler.owner? entry.handle = none)
    (broke : BrokeOff p.scheduler p.calls id entry.handle)

theorem Sound.standing (sound : Sound p) (live : Live p.scheduler p.calls) {id : JobId}
    {entry : ArmedJob} (held : p.scheduler.armed? id = some entry) : Standing p id entry := by
  obtain ⟨armed, firing⟩ := live id entry held
  cases marked : entry.firing with
  | false =>
    rcases armed marked with pending | ⟨call, member, same, named, claiming⟩
    · exact .pending marked pending
    · have waiting : call.phase = .waiting := by
        have unfailed := sound.phases call member
        cases reached : call.phase <;> simp_all [FirePhase.isClaiming]
      have ended := (sound.past call member).ended
      rw [named] at ended
      exact .waiting marked ended ⟨call, member, same, named, by simp [waiting]⟩
  | true =>
    rcases firing marked with ⟨call, member, same, named, reached⟩ | broke
    · have executing : call.phase = .executing := by
        have unfailed := sound.phases call member
        cases reached' : call.phase <;> simp_all [FirePhase.isFiring]
      have ended := (sound.past call member).ended
      rw [named] at ended
      exact .executing marked ended ⟨call, member, same, named, by simp [executing]⟩
    · obtain ⟨call, member, _, named, _⟩ := broke.call
      have ended := (sound.past call member).ended
      rw [named] at ended
      exact .brokenOff marked ended broke

/-- A pending timer is the one under which its job, and no other, is armed. -/
theorem Sound.armed_of_pending (sound : Sound p) {timer : ArmedTimer JobId}
    (member : timer ∈ p.scheduler.timers.pending) (id : JobId) :
    (∃ entry, p.scheduler.armed? id = some entry ∧ entry.handle = .issued timer.handle) ↔
      id = timer.payload := by
  have held : p.scheduler.owner? (.issued timer.handle) = some timer.payload :=
    Timers.payload_of_mem sound.owned.numbered member
  constructor
  · intro ⟨entry, entered, named⟩
    have belongs := sound.owned.entered id entry entered
    rw [named] at belongs
    exact (belongs.owner _ held).symm
  · intro same
    subst same
    obtain ⟨entry, entered, named, _⟩ := (sound.consistent timer.payload).pending _ held
    exact ⟨entry, entered, named⟩

/-- No job has two pending timers. -/
theorem Sound.single (sound : Sound p) : (p.scheduler.timers.pending.map (·.payload)).Nodup := by
  have distinct := List.pairwise_map.mp sound.owned.numbered.distinct
  refine List.pairwise_map.mpr (distinct.imp_of_mem ?_)
  intro first second member member' different same
  obtain ⟨entry, entered, named⟩ := (sound.armed_of_pending member first.payload).mpr rfl
  obtain ⟨entry', entered', named'⟩ := (sound.armed_of_pending member' first.payload).mpr same
  rw [entered] at entered'
  cases entered'
  rw [named] at named'
  exact different (Handle.issued.inj named')

/-- The store, the index and the timer service agree. -/
structure Agreement (p : Process) : Prop where
  handle : ∀ id handle,
    (∃ job, p.scheduler.record? id = some job ∧ job.handle? = some handle) ↔
      ∃ entry, p.scheduler.armed? id = some entry ∧ entry.handle = handle
  active : ∀ id job handle, p.scheduler.record? id = some job → job.handle? = some handle →
    job.status.isActive = true
  standing : ∀ id entry, p.scheduler.armed? id = some entry → Standing p id entry
  pending : ∀ timer ∈ p.scheduler.timers.pending, ∀ id,
    (∃ entry, p.scheduler.armed? id = some entry ∧ entry.handle = .issued timer.handle) ↔
      id = timer.payload
  single : (p.scheduler.timers.pending.map (·.payload)).Nodup
  finished : ∀ id job, p.scheduler.record? id = some job → job.status.isTerminal = true →
    job.handle? = none ∧ p.scheduler.armed? id = none

/-- From an empty store and as long as nothing fails, the store, the index and the timer service agree
whenever no job is locked. What a record and an entry name has something to wait for, unless the record's
trigger cannot be moved on and a completion broke off with it. -/
theorem store_index_and_timers_agree (begins : BeginsEmpty p)
    (run : Reaches (fun action => ordinary action = true) p q) : Agreement q := by
  have sound := sound_reaches begins run
  have live := live_reaches begins.begins run
  have active : ∀ id job handle, q.scheduler.record? id = some job → job.handle? = some handle →
      job.status.isActive = true := by
    intro id job handle record named
    obtain ⟨entry, entered, _⟩ := (sound.consistent id).named job handle record named
    obtain ⟨stored, held, _, active⟩ := (sound.consistent id).armed entry entered
    rw [record] at held
    cases held
    exact active
  constructor
  case handle =>
    intro id handle
    constructor
    · intro ⟨job, record, named⟩
      exact (sound.consistent id).named job handle record named
    · intro ⟨entry, entered, named⟩
      obtain ⟨job, record, recorded, _⟩ := (sound.consistent id).armed entry entered
      exact ⟨job, record, named ▸ recorded⟩
  case active => exact active
  case standing => exact fun id entry held => sound.standing live held
  case pending => exact fun timer member id => sound.armed_of_pending member id
  case single => exact sound.single
  case finished =>
    intro id job record finished
    have refuted : job.status.isActive ≠ true := by simp [JobStatus.isActive, finished]
    constructor
    · cases named : job.handle? with
      | none => rfl
      | some handle => exact absurd (active id job handle record named) refuted
    · cases entered : q.scheduler.armed? id with
      | none => rfl
      | some entry =>
        obtain ⟨stored, held, _, active⟩ := (sound.consistent id).armed entry entered
        rw [record] at held
        cases held
        exact absurd active refuted

theorem begins_empty_vacant : BeginsEmpty (ofScheduler .vacant) := by
  refine ⟨fun id => ?_, begins_vacant.unarmed, rfl, ⟨⟨rfl, rfl, rfl⟩, ⟨rfl, rfl⟩⟩, rfl⟩
  exact Std.TreeMap.getElem?_emptyc

theorem begins_empty_forcing : BeginsEmpty (ofScheduler .forcing) := by
  refine ⟨fun id => ?_, begins_vacant.unarmed, rfl, ⟨⟨rfl, rfl, rfl⟩, ⟨rfl, rfl⟩⟩, rfl⟩
  exact Std.TreeMap.getElem?_emptyc

/-- Two jobs, one of them scheduled again while it executes. -/
theorem store_index_and_timers_agree_after_rescheduling :
    let q := (ofScheduler .vacant).performAll [
      .operate (.schedule ⟨⟨0, 0⟩, 0⟩ (.once "first" ⟨60, 0⟩)),
      .operate (.schedule ⟨⟨0, 0⟩, 0⟩ (.once "second" ⟨90, 0⟩)), .elapse 1, .claim 0,
      .operate (.schedule ⟨⟨60, 0⟩, 0⟩ (.once "first" ⟨120, 0⟩))]
    Agreement q ∧ q.scheduler.owner? (.issued 3) = some "first" ∧
      q.calls.map (·.phase) = [.executing] := by
  refine ⟨store_index_and_timers_agree begins_empty_vacant (reaches_performAll _ _ ?_), ?_, ?_⟩
  · decide
  · decide +kernel
  · decide +kernel

/-- Nothing fails, but after a completion that breaks off record and entry name a handle that is neither
pending nor waiting to claim the job, and the job does not execute. -/
theorem handles_are_named_for_nothing :
    BeginsEmpty (ofScheduler .forcing) ∧ (∀ action ∈ breakingOff, ordinary action = true) ∧
    let q := (ofScheduler .forcing).performAll breakingOff
    (q.scheduler.record? "job").bind (·.handle?) = some (.issued 1) ∧
      (q.scheduler.armed? "job").map (·.handle) = some (.issued 1) ∧
      q.scheduler.owner? (.issued 1) = none ∧ q.calls.map (·.phase) = [.stranded] := by
  refine ⟨begins_empty_forcing, by decide, ?_, ?_, ?_, ?_⟩ <;> decide +kernel

end Process

end Punctual
