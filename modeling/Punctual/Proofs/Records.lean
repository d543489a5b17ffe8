import Punctual.Proofs.Ownership

/-!
What one action can make of one job's record: nothing, or what a request, a cancellation, a recovery
or the completion of a firing makes of it. Each starts from the record as it is while the job is
locked, so that `RecordMoves` says all about a record's history.
-/
namespace Punctual

open Scheduler

namespace Process

variable {p q : Process} {id : JobId} {action : Action}

/-- The job's record after an action. -/
inductive RecordMoves (p : Process) (id : JobId) : Action → Option Job → Prop
  | kept {action : Action} : RecordMoves p id action (p.scheduler.record? id)
  | operated {action : Action} {operation : Operation} {result : Job} {handle? : Option Handle}
    (carried : p.operation? action = some operation) (named : operation.id = id)
    (makes : Makes p.scheduler operation result) :
    RecordMoves p id action (some (result.stamped handle? operation.clock.now))
  | concluded {number : Nat} {clock : Clock} {outcome : ExecutionOutcome} {call : FireCall} {job : Job}
    {status : JobStatus} {handle? : Option Handle} (found : p.calls[number]? = some call)
    (named : call.id = id) (executing : call.phase = .executing)
    (record : p.scheduler.record? id = some job) (current : isCurrent job call.handle = true)
    (answers : hasSucceeded outcome = true →
      ∃ taken?, job.trigger.advance? = some (taken?, job.trigger.rest)) :
    RecordMoves p id (.complete number clock outcome)
      (some ((job.concluded (hasSucceeded outcome) status).stamped handle? clock.now))

private theorem record_of_same {t : Scheduler} (same : t.record? = p.scheduler.record?) :
    RecordMoves p id action (t.record? id) := by
  rw [same]
  exact .kept

/-- The record of a job once it was settled what becomes of it. -/
private theorem record_of_settles {s : Scheduler} {now : Instant} {job : Job}
    {answer : Except SchedulerError Job × Scheduler} (settles : Settles s now job answer)
    (same : job.id = id) : answer.2.record? id = s.record? id ∨
      ∃ handle?, answer.2.record? id = some (job.stamped handle? now) := by
  rcases settles.record with kept | ⟨handle?, stored⟩
  · exact .inl (congrFun kept id)
  · exact .inr ⟨handle?, (stored id).trans (if_pos same.symm)⟩

/-- What an operation on the job itself makes of its record. -/
private theorem record_of_operates {operation : Operation} {t : Scheduler}
    (carried : p.operation? action = some operation) (named : operation.id = id)
    (operates : p.scheduler.Operates operation t) : RecordMoves p id action (t.record? id) := by
  have freed : ∀ {u : Scheduler} (stored? : Option Job), p.scheduler.Unchanged u →
      (u.freed stored?).record? = p.scheduler.record? := by
    intro u stored? unchanged
    exact (freed_loses u stored?).record.trans unchanged.record
  cases operates with
  | kept unchanged => exact record_of_same unchanged.record
  | freed unchanged _ _ => exact record_of_same (freed _ unchanged)
  | settled unchanged makes same settles =>
    rcases record_of_settles settles (same.trans named) with kept | ⟨handle?, stored⟩
    · rw [kept]
      exact record_of_same (freed _ unchanged)
    · rw [stored]
      exact .operated carried named makes

theorem Moves.record_moves (moves : Moves p action q) (keyed : p.scheduler.Keyed) (id : JobId) :
    RecordMoves p id action (q.scheduler.record? id) := by
  cases moves with
  | kept keeps _ _ => exact record_of_same keeps.record
  | @operated _ operation _ carried scheduler _ =>
    have operates := Operation.operates keyed operation
    rw [scheduler]
    by_cases same : operation.id = id
    · exact record_of_operates carried same operates
    · rw [operates.record_other keyed fun named => same named.symm]
      exact .kept
  | elapsed _ scheduler _ => exact record_of_same (scheduler ▸ rfl)
  | lost _ scheduler _ => exact record_of_same (scheduler ▸ rfl)
  | called scheduler _ => exact record_of_same (scheduler ▸ rfl)
  | unclaimed _ _ unchanged _ _ => exact record_of_same unchanged.record
  | claimed _ _ unchanged _ _ scheduler _ => exact record_of_same (scheduler ▸ unchanged.record)
  | stale _ _ unchanged _ scheduler _ => exact record_of_same (scheduler ▸ unchanged.record)
  | uncompleted _ _ unchanged _ _ => exact record_of_same unchanged.record
  | stranded _ _ unchanged _ _ _ _ _ => exact record_of_same unchanged.record
  | overtaken _ _ unchanged _ scheduler _ => exact record_of_same (scheduler ▸ unchanged.record)
  | @concluded _ clock _ call fired t _ _ found executing unchanged record current concludes scheduler _ =>
    have numbered := unchanged.numbered keyed.numbered
    obtain ⟨status, settles⟩ := concludes.settles numbered
    have named : ∀ succeeded, (fired.concluded succeeded status).id = call.id := fun succeeded =>
      (fired.concluded_id succeeded status).trans (keyed.keyed call.id fired record)
    rw [scheduler]
    by_cases same : call.id = id
    · rcases record_of_settles settles ((named _).trans same) with kept | ⟨handle?, stored⟩
      · rw [kept]
        exact record_of_same unchanged.record
      · rw [stored]
        rw [same] at record
        exact .concluded found same executing record current concludes.answers
    · have spares := settles.spares numbered
      rw [named] at spares
      rw [spares.record id fun equal => same equal.symm]
      exact record_of_same unchanged.record
  | released _ _ scheduler _ => exact record_of_same (scheduler ▸ rfl)

end Process

end Punctual
