import Punctual.Proofs.Records

/-!
Finished jobs. The lock of a job is let go while its executor runs, so that a completion, a
cancellation, a patch and a recovery may overtake each other. Each looks at the record again once it
holds the lock, and none touches a record that is finished: it stays as it is to the end of the run,
its job is never claimed again, and an execution that was claimed before it was finished ends without
effect.
-/
namespace Punctual

open Scheduler

variable {s : Scheduler} {id : JobId} {job : Job} {handle : Handle}

theorem Scheduler.not_current (finished : job.status.isTerminal = true) (handle : Handle) :
    isCurrent job handle = false := by
  simp [isCurrent, JobStatus.isActive, finished]

/-- No timer claims a finished job. -/
theorem Scheduler.claim_finished (record : s.record? id = some job)
    (finished : job.status.isTerminal = true) (handle : Handle) (taken : Job) :
    (s.claim id handle).1 ≠ .ok (some taken) := by
  rcases claim_cases s id handle with
    ⟨e, t, same, _⟩ | ⟨t, found, _, held, current, _⟩ | ⟨t, _, _, same⟩
  · simp [same]
  · rw [record] at held
    cases held
    simp [not_current finished] at current
  · simp [same]

/-- Completing a finished job changes no record, and answers this one or that the store failed. -/
theorem Scheduler.complete_finished (record : s.record? id = some job)
    (finished : job.status.isTerminal = true) (clock : Clock) (handle : Handle)
    (outcome : ExecutionOutcome) :
    (s.complete clock id handle outcome).2.record? = s.record? ∧
      ((s.complete clock id handle outcome).1 = .ok (some job) ∨
        ∃ e, (s.complete clock id handle outcome).1 = .error e) := by
  rcases complete_cases s clock id handle outcome with
    ⟨e, t, same, _, unchanged, _⟩ | ⟨t, unchanged, _, same⟩ | ⟨t, found, _, held, current, _⟩ |
    ⟨t, found, _, _, held, current, _⟩
  · rw [same]
    exact ⟨unchanged.record, .inr ⟨e, rfl⟩⟩
  · rw [same]
    exact ⟨unchanged.record, .inl (by rw [record])⟩
  · rw [record] at held
    cases held
    simp [not_current finished] at current
  · rw [record] at held
    cases held
    simp [not_current finished] at current

namespace Process

variable {p q r : Process} {action : Action} {allowed later : Action → Prop} {number : Nat}
  {call : FireCall}

/-- No action changes the record of a finished job. -/
theorem Moves.record_finished (moves : Moves p action q) (keyed : p.scheduler.Keyed)
    (record : p.scheduler.record? id = some job) (finished : job.status.isTerminal = true) :
    q.scheduler.record? id = some job := by
  have moved := moves.record_moves keyed id
  generalize q.scheduler.record? id = after at moved ⊢
  cases moved with
  | kept => exact record
  | operated _ named makes =>
    rw [← named] at record
    simp [makes.unfinished job record] at finished
  | concluded _ _ _ held current _ =>
    rw [record] at held
    cases held
    simp [not_current finished] at current

theorem record_finished_reaches (keyed : p.scheduler.Keyed) (reaches : Reaches allowed p q)
    (record : p.scheduler.record? id = some job) (finished : job.status.isTerminal = true) :
    q.scheduler.record? id = some job := by
  have invariant := reaches.invariant
    (fun q => q.scheduler.Keyed ∧ q.scheduler.record? id = some job) ⟨keyed, record⟩ ?_
  · exact invariant.2
  · intro q action _ ⟨keyed, record⟩
    exact ⟨perform_keyed keyed action, (perform_moves q action).record_finished keyed record finished⟩

/-- Of the calls for a finished job, none is claimed any more. -/
theorem claims_finished_reaches (keyed : p.scheduler.Keyed) (reaches : Reaches allowed p q)
    (record : p.scheduler.record? id = some job) (finished : job.status.isTerminal = true)
    (now : q.calls[number]? = some call) (named : call.id = id) (claimed : call.claimed? ≠ none) :
    ∃ before, p.calls[number]? = some before ∧ before.id = id ∧ before.claimed? = call.claimed? := by
  induction reaches generalizing call with
  | refl => exact ⟨call, now, named, rfl⟩
  | @step q action before _ ih =>
    have between := keyed_reaches keyed before
    have moves := (perform_moves q action).call_moves between.numbered now
    have held := record_finished_reaches keyed before record finished
    generalize earlier : q.calls[number]? = earlier? at moves
    cases moves with
    | same => exact ih earlier named claimed
    | elapsed _ _ => exact absurd rfl claimed
    | called _ => exact absurd rfl claimed
    | claimed _ record current =>
      rw [named, held] at record
      cases record
      simp [not_current finished] at current
    | stranded _ _ _ _ =>
      have first := ih earlier named claimed
      exact first
    | moved _ _ =>
      have first := ih earlier named claimed
      exact first

/-- A finished job, seen from a later process: its record stays, no timer claims it, no execution in
progress was claimed since, and any that is completed leaves all records alone. -/
structure StaysFinished (id : JobId) (job : Job) (p q : Process) : Prop where
  record : q.scheduler.record? id = some job
  unclaimable : ∀ handle taken, (q.scheduler.claim id handle).1 ≠ .ok (some taken)
  claimedBefore : ∀ (number : Nat) (call : FireCall), q.calls[number]? = some call → call.id = id →
    call.claimed? ≠ none → ∃ before : FireCall, p.calls[number]? = some before ∧ before.id = id ∧
      before.claimed? = call.claimed?
  completion : ∀ handle clock outcome,
    (q.scheduler.complete clock id handle outcome).2.record? = q.scheduler.record? ∧
      ((q.scheduler.complete clock id handle outcome).1 = .ok (some job) ∨
        ∃ e, (q.scheduler.complete clock id handle outcome).1 = .error e)

/-- Whatever fails and in whatever order the actions come: once a record is executed, canceled or in
error, its job stays finished. -/
theorem finished_jobs_stay_finished (keyed : p.scheduler.Keyed) (run : Reaches allowed p q)
    (record : q.scheduler.record? id = some job) (finished : job.status.isTerminal = true)
    (onward : Reaches later q r) : StaysFinished id job q r := by
  have between := keyed_reaches keyed run
  have held := record_finished_reaches between onward record finished
  refine ⟨held, claim_finished held finished, ?_, ?_⟩
  · intro number call now named claimed
    exact claims_finished_reaches between onward record finished now named claimed
  · intro handle clock outcome
    exact complete_finished held finished clock handle outcome

/-- A job that is canceled while it executes stays canceled when the execution succeeds. -/
theorem finished_jobs_stay_finished_when_canceled :
    let q := (ofScheduler .vacant).performAll [
      .operate (.schedule ⟨⟨0, 0⟩, 0⟩ (.once "job" ⟨60, 0⟩)), .elapse 1, .claim 0,
      .operate (.cancel ⟨⟨60, 0⟩, 0⟩ "job")]
    let r := q.performAll [.complete 0 ⟨⟨60, 0⟩, 0⟩ (.ok (.success ⟨60, 0⟩ "job"))]
    ∃ job, job.status = .canceled ∧ StaysFinished "job" job q r := by
  intro q r
  have run : Reaches (fun _ => True) (ofScheduler .vacant) q :=
    reaches_performAll _ _ fun _ _ => trivial
  have onward : Reaches (fun _ => True) q r := reaches_performAll _ _ fun _ _ => trivial
  have status : (q.scheduler.record? "job").map (·.status) = some .canceled := by decide +kernel
  obtain ⟨job, record, canceled⟩ := Option.map_eq_some_iff.mp status
  have finished : job.status.isTerminal = true := by rw [canceled]; rfl
  exact ⟨job, canceled,
    finished_jobs_stay_finished begins_vacant.owned.toKeyed run record finished onward⟩

end Process

end Punctual
