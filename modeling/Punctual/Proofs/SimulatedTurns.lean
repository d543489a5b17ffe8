import Punctual.Proofs.DryRunTurns

/-!
The turns of a dry run's tasks. A timer that elapses claims its job and starts an execution; an execution
ends with its answer; a firing takes the answer into the record, or what time it had is over; scans start
recoveries; and the main task looks whether the run is idle, and closes it down. Each turn is a few steps
of the run.
-/
namespace Punctual

open Scheduler

/-! ## What turns do to the simulation -/

namespace Simulation

variable {s : Simulation} {task next number : Nat} {t : Tasks Work WorkResult} {id : JobId}
  {outcome : ExecutionOutcome} {work : Work}

theorem plain_timerWorks (s : Simulation) (issued : Nat) :
    ∀ work ∈ s.timerWorks issued, work.isPlain = true := by
  intro work member
  unfold timerWorks at member
  split at member
  · obtain ⟨timer, _, rfl⟩ := List.mem_map.mp member
    rfl
  · cases member

/-- Of what a dry run's firings depend on, no more than the scheduler has changed. -/
structure Keeps (s after : Simulation) (scheduler : Scheduler) : Prop where
  scheduler : after.scheduler = scheduler
  dryRuns : after.dryRuns = s.dryRuns
  isDropped : after.isDropped = s.isDropped

theorem Keeps.elapsed {r after : Simulation} {scheduler : Scheduler} {timers : Timers JobId}
    (keeps : Keeps r after scheduler) (elapses : { s with scheduler := { s.scheduler with timers } } = r) :
    Keeps s after scheduler := by
  subst elapses
  exact ⟨keeps.scheduler, keeps.dryRuns, keeps.isDropped⟩

/-- A turn that starts and stops no task. -/
structure Quits (turn : WorkTurn) (result : WorkResult) : Prop where
  started : turn.started = []
  pause : turn.pause = .ended result

theorem completeFiring_quits (firing : Firing) (confirms : firing.after = .confirm) (task : Nat)
    (answers : AnswersOrBreaks (s.scheduler.complete s.clock firing.id firing.handle outcome).1) :
    Keeps s (s.completeFiring task firing outcome).state
      (s.scheduler.complete s.clock firing.id firing.handle outcome).2 ∧
    ∃ result, Quits (s.completeFiring task firing outcome) result := by
  unfold completeFiring applyLocked apply endFiring
  cases completed : s.scheduler.complete s.clock firing.id firing.handle outcome with
  | mk result scheduler =>
    rw [completed] at answers
    rcases answers with ⟨job?, rfl⟩ | ⟨id, rfl⟩
    · simp only [completed, confirms]
      exact ⟨⟨rfl, rfl, rfl⟩, _, ⟨rfl, rfl⟩⟩
    · simp only [completed]
      exact ⟨⟨rfl, rfl, rfl⟩, _, ⟨rfl, rfl⟩⟩

theorem resolve_dryRun (recipient : Recipient) :
    Executor.resolve? [.dryRun] recipient = some .dryRun := by
  simp [Executor.resolve?, Executor.accepts, Executor.dryRun]

theorem claimFiring_stale (firing : Firing) (confirms : firing.after = .confirm) (task next : Nat)
    (answer : (s.scheduler.claim firing.id firing.handle).1 = .ok none) :
    Keeps s (s.claimFiring task next firing).state (s.scheduler.claim firing.id firing.handle).2 ∧
    Quits (s.claimFiring task next firing) (.timerFired true) := by
  unfold claimFiring applyLocked apply endFiring
  cases claimed : s.scheduler.claim firing.id firing.handle with
  | mk result scheduler =>
    rw [claimed] at answer
    cases answer
    simp only [claimed, confirms]
    exact ⟨⟨rfl, rfl, rfl⟩, ⟨rfl, rfl⟩⟩

/-- A job that is claimed has no time at all for its execution, or is executed by another task. -/
theorem claimFiring_claimed {job : Job} (firing : Firing) (confirms : firing.after = .confirm)
    (task next : Nat) (answer : (s.scheduler.claim firing.id firing.handle).1 = .ok (some job))
    (executors : (s.scheduler.claim firing.id firing.handle).2.executors = [.dryRun])
    (completes : AnswersOrBreaks ((s.scheduler.claim firing.id firing.handle).2.complete s.clock firing.id
      firing.handle (.error (.timeout 0))).1) :
    (Keeps s (s.claimFiring task next firing).state
        ((s.scheduler.claim firing.id firing.handle).2.complete s.clock firing.id firing.handle
          (.error (.timeout 0))).2 ∧
      ∃ result, Quits (s.claimFiring task next firing) result) ∨
    (Keeps s (s.claimFiring task next firing).state (s.scheduler.claim firing.id firing.handle).2 ∧
      (s.claimFiring task next firing).started = [.execution .dryRun job] ∧
      ∃ wait limit? untilMs?, (s.claimFiring task next firing).pause = .waiting wait
        (.firing { firing with stage := .executing next limit? untilMs? })) := by
  unfold claimFiring applyLocked apply
  cases claimed : s.scheduler.claim firing.id firing.handle with
  | mk result scheduler =>
    rw [claimed] at answer executors completes
    dsimp only at answer executors completes
    subst answer
    simp only [claimed, executors, resolve_dryRun]
    split
    · have quits := completeFiring_quits (s := { s with
        scheduler
        locks := ((((s.locks.enter task firing.id).acquire task).release task).leave task).tidy firing.id
        keepers := s.keepers + 1 }) firing confirms task completes
      exact .inl ⟨⟨quits.1.scheduler, quits.1.dryRuns, quits.1.isDropped⟩, quits.2⟩
    · right
      exact ⟨⟨rfl, rfl, rfl⟩, rfl, _, _, _, rfl⟩

/-- The recoveries that a scan starts. -/
theorem plain_startScan {recoveries : List Nat} {report : ScanReport} {works : List Work}
    (starts : s.startScan next = .ok (report, recoveries, works)) :
    ∀ work ∈ works, work.isPlain = true := by
  unfold startScan at starts
  intro work member
  cases found : s.scheduler.scanned s.now with
  | error e => simp [found, bind, Except.bind] at starts
  | ok jobs =>
    simp only [found, bind, Except.bind, pure, Except.pure, Except.ok.injEq, Prod.mk.injEq] at starts
    obtain ⟨_, _, rfl⟩ := starts
    obtain ⟨id, _, rfl⟩ := List.mem_map.mp member
    rfl

/-- A loop's turn leaves what firings depend on, and waits as a loop. -/
structure Loops (s : Simulation) (turn : WorkTurn) : Prop where
  keeps : Keeps s turn.state s.scheduler
  started : ∀ work ∈ turn.started, work.isPlain = true
  again : ∀ wait rest, turn.pause = .waiting wait rest → rest.isPlain = true

theorem loops_waiting (keepers : Nat) (wait : Wait) {rest : Work} (plain : rest.isPlain = true) :
    Loops s ({ s with keepers }.waiting wait rest) where
  keeps := ⟨rfl, rfl, rfl⟩
  started _ member := absurd member List.not_mem_nil
  again _ _ same := by
    cases same
    exact plain

theorem loops_ended (s : Simulation) (stopped : List Nat) (keepers : Nat) (result : WorkResult) :
    Loops s { { s with keepers }.ended result with stopped } where
  keeps := ⟨rfl, rfl, rfl⟩
  started _ member := absurd member List.not_mem_nil
  again _ _ same := by cases same

theorem loops_awaitScan (s : Simulation) (nextMs periodSeconds : Nat) :
    Loops s (s.awaitScan nextMs periodSeconds) :=
  loops_waiting s.keepers _ rfl

theorem loops_loopScanTurn (s : Simulation) (task : Nat) (t : Tasks Work WorkResult)
    (recoveries : List Nat) (nextMs periodSeconds : Nat) :
    Loops s (s.loopScanTurn task t recoveries nextMs periodSeconds) := by
  unfold loopScanTurn
  split
  · exact loops_ended s recoveries _ _
  · split
    · exact loops_awaitScan ..
    · exact loops_waiting s.keepers _ rfl

theorem loops_loopTurn (s : Simulation) (task : Nat) (t : Tasks Work WorkResult)
    (nextMs periodSeconds : Nat) : Loops s (s.loopTurn task t nextMs periodSeconds) := by
  unfold loopTurn
  split
  · exact loops_ended s [] _ _
  split
  · exact loops_waiting s.keepers _ rfl
  split
  · exact loops_awaitScan ..
  · rename_i _ recoveries _ starts
    have loops := loops_loopScanTurn s task t recoveries nextMs periodSeconds
    exact ⟨loops.keeps, plain_startScan starts, loops.again⟩

/-- A timer of a sleeping service elapses. -/
theorem fireTimer_eq (s : Simulation) (kept : s.isDropped = false) (task next number : Nat)
    (after : AfterFiring) (otherwise : Bool → WorkResult) :
    let fired : Simulation := { s with scheduler := { s.scheduler with
      timers := (s.scheduler.timers.elapse number).2 } }
    s.fireTimer task next number after otherwise =
      match (s.scheduler.timers.elapse number).1 with
      | some id => fired.claimFiring task next ⟨id, .issued number, .claiming, after⟩
      | none => fired.ended (otherwise (s.scheduler.timers.isPending number)) := by
  intro fired
  have isKept : fired.isKept = true := by simp [fired, isKept, kept]
  have same : s.fireTimer task next number after otherwise =
      match (s.scheduler.timers.elapse number).1 with
      | some id =>
        if fired.isKept then fired.claimFiring task next ⟨id, .issued number, .claiming, after⟩
        else fired.ended (otherwise (s.scheduler.timers.isPending number))
      | none => fired.ended (otherwise (s.scheduler.timers.isPending number)) := rfl
  rw [same, isKept]
  rfl

/-- A firing takes the answer of its execution, or what time it had is over, or it waits again. -/
inductive FiringTurns (s : Simulation) (tasks : Tasks Work WorkResult) (task : Nat) (firing : Firing)
    (execution : Nat) : WorkTurn → Prop
  | answered {outcome : ExecutionOutcome}
    (executed : tasks.result? execution = some (.executed outcome)) :
    FiringTurns s tasks task firing execution (s.completeFiring task firing outcome)
  | timedOut {limit : Nat}
    (unanswered : ∀ outcome, tasks.result? execution ≠ some (.executed outcome)) :
    FiringTurns s tasks task firing execution
      { s.completeFiring task firing (.error (.timeout limit)) with stopped := [execution] }
  | again {wait : Wait} : FiringTurns s tasks task firing execution (s.waiting wait (.firing firing))

theorem firingTurns (s : Simulation) (tasks : Tasks Work WorkResult) (task : Nat) (firing : Firing)
    {execution : Nat} {limit? untilMs? : Option Nat}
    (stage : firing.stage = .executing execution limit? untilMs?) :
    FiringTurns s tasks task firing execution (s.firingTurn task tasks firing) := by
  unfold firingTurn
  rw [stage]
  dsimp only
  split
  · rename_i executed
    exact .answered executed
  · rename_i unanswered
    split
    · exact .timedOut unanswered
    · exact .again
  · exact .again

/-- The run is closed down, or is to be when a loop has ended or the time given is over. -/
inductive Closes (s : Simulation) (turn : WorkTurn) : Prop
  | ended {inTime : Bool} (pause : turn.pause =
      .ended (.closed s.dryRuns s.scheduler.store.jobs.values inTime))
  | waiting {wait : Wait} {loop? : Option Nat} {untilMs : Nat} (keeps : Keeps s turn.state s.scheduler)
    (started : turn.started = []) (pause : turn.pause = .waiting wait (.closing loop? untilMs))

theorem closingTurn_closes (s : Simulation) (tasks : Tasks Work WorkResult) (loop? : Option Nat)
    (untilMs : Nat) : s.Closes (s.closingTurn tasks loop? untilMs) := by
  unfold closingTurn
  split
  · exact .ended rfl
  · exact .waiting ⟨rfl, rfl, rfl⟩ rfl rfl

/-- The main task waits again, or closes the run down; if no time was set for that, it is idle. -/
theorem attendingTurn_cases (s : Simulation) (tasks : Tasks Work WorkResult)
    (untilMs? lookMs? : Option Nat) (graceMs : Nat) :
    (∃ wait look?, s.attendingTurn tasks untilMs? lookMs? graceMs =
      s.waiting wait (.attending untilMs? look? graceMs)) ∨
    ((untilMs? = none → s.isIdle = true) ∧
      s.Closes (s.attendingTurn tasks untilMs? lookMs? graceMs)) := by
  unfold attendingTurn
  dsimp only
  split
  · rename_i ends
    refine .inr ⟨?_, ?_⟩
    · rintro rfl
      simp only [Option.any_none, Bool.false_or, Bool.and_eq_true] at ends
      exact ends.2
    · split
      · exact closingTurn_closes ..
      · rename_i loop? manager _
        cases closingTurn_closes { s with manager } tasks loop? (s.elapsedMs + graceMs) with
        | ended pause => exact .ended pause
        | waiting keeps started pause =>
          exact .waiting ⟨keeps.scheduler, keeps.dryRuns, keeps.isDropped⟩ started pause
  · exact .inl ⟨_, _, rfl⟩

end Simulation

/-! ## Turns as steps of the run -/

namespace DryRun

variable {told : Bool} {jobs : List Job} {main task : Nat} {c : Course}
  {t u : Tasks Work WorkResult} {s : Simulation} {work : Work}

/-- The run was closed down, with these executions and records. Unless it was told to end, it was idle. -/
structure Closed (told : Bool) (main : Nat) (c : Course) (t : Tasks Work WorkResult) : Prop where
  numbered : t.Numbered
  leads : t.main? = some main
  heard : c.unheard = 0
  result : ∃ inTime, t.result? main = some (.closed c.fired c.stored inTime)
  idle : told = false → c.Idle

/-- A run goes on by a few steps, with one execution more at most; then it is in progress still, or was
closed down. -/
def Onward (told : Bool) (jobs : List Job) (main : Nat) (c : Course) (t : Tasks Work WorkResult)
    (s : Simulation) : Prop :=
  ∃ steps, (c.performAll steps).fired ≤ c.fired + 1 ∧
    (Follows told jobs main (c.performAll steps) t s ∨ Closed told main (c.performAll steps) t)

theorem rules_turn (task : Nat) (t : Tasks Work WorkResult) (work : Work) (s : Simulation) :
    Simulation.rules.turn task t work s = { Simulation.turn task t work s with
      started := (Simulation.turn task t work s).started ++
        (Simulation.turn task t work s).state.timerWorks s.scheduler.timers.issued } := rfl

/-- After a task's turn under the rules. -/
def settled (task : Nat) (work : Work) (u : Tasks Work WorkResult) (s : Simulation) :
    Tasks Work WorkResult × Simulation :=
  (u.settle task (Simulation.rules.turn task u work s), (Simulation.rules.turn task u work s).state)

/-- A task that claims nothing has its turn. -/
theorem Follows.plainly (follows : Follows told jobs main c t s)
    (picked : t.pick? = some (task, work, u)) (plain : work.isPlain = true) (steps : List CourseStep)
    (keeps : s.Keeps (Simulation.turn task u work s).state (c.performAll steps).process.scheduler)
    (fired : (c.performAll steps).fired = c.fired) (heard : (c.performAll steps).unheard = c.unheard)
    (isOpen : ∀ handle id delivered, c.IsOpen handle id delivered →
      (c.performAll steps).IsOpen handle id delivered)
    (started : ∀ rest ∈ (Simulation.turn task u work s).started, rest.isPlain = true)
    (again : ∀ wait rest, (Simulation.turn task u work s).pause = .waiting wait rest →
      rest.isPlain = true) :
    Onward told jobs main c (settled task work u s).1 (settled task work u s).2 := by
  have apart : task ≠ main := by
    cases follows.works task work (Tasks.pick_mem picked) with
    | plain apart _ => exact apart
    | _ => cases plain
  refine ⟨steps, by omega, .inl ?_⟩
  refine follows.passes picked steps keeps.scheduler.symm ?_ heard keeps.isDropped
    (fun _ _ _ _ handle _ => isOpen handle) ?_ (fun _ _ => apart) ?_ ?_
  · exact fired.trans (follows.fired.trans keeps.dryRuns.symm)
  · intro rest member
    rcases List.mem_append.mp member with member | member
    · exact started rest member
    · exact Simulation.plain_timerWorks _ _ rest member
  · cases work <;> first | rfl | cases plain
  · intro wait rest waits
    have plain' := again wait rest waits
    exact .inr ⟨Work.handle_plain plain', fun _ => .plain apart plain'⟩

theorem Follows.loops (follows : Follows told jobs main c t s)
    (picked : t.pick? = some (task, work, u)) (plain : work.isPlain = true)
    (loops : s.Loops (Simulation.turn task u work s)) :
    Onward told jobs main c (settled task work u s).1 (settled task work u s).2 := by
  refine follows.plainly picked plain [] ?_ rfl rfl (fun _ _ _ isOpen => isOpen) loops.started loops.again
  exact ⟨loops.keeps.scheduler.trans follows.scheduler.symm, loops.keeps.dryRuns, loops.keeps.isDropped⟩

/-- A task ends that has claimed nothing, or whose claim is over. -/
theorem Follows.quits {result : WorkResult} (follows : Follows told jobs main c t s)
    (picked : t.pick? = some (task, work, u)) (plain : work.isPlain = true) (steps : List CourseStep)
    (keeps : s.Keeps (Simulation.turn task u work s).state (c.performAll steps).process.scheduler)
    (quits : Simulation.Quits (Simulation.turn task u work s) result)
    (fired : (c.performAll steps).fired = c.fired) (heard : (c.performAll steps).unheard = c.unheard)
    (isOpen : ∀ handle id delivered, c.IsOpen handle id delivered →
      (c.performAll steps).IsOpen handle id delivered) :
    Onward told jobs main c (settled task work u s).1 (settled task work u s).2 := by
  refine follows.plainly picked plain steps keeps fired heard isOpen ?_ ?_
  · rw [quits.started]
    exact fun _ member => absurd member List.not_mem_nil
  · rw [quits.pause]
    intro _ _ waits
    cases waits

/-- A task waits that is for the same call as before, or for none. -/
theorem Follows.waits {wait : Wait} {rest : Work} (follows : Follows told jobs main c t s)
    (picked : t.pick? = some (task, work, u))
    (keeps : s.Keeps (Simulation.turn task u work s).state s.scheduler)
    (started : (Simulation.turn task u work s).started = [])
    (pause : (Simulation.turn task u work s).pause = .waiting wait rest)
    (executes : work.isExecution = false)
    (again : rest = work ∨ rest.handle? = none ∧ ∀ v, Fits told main c v task rest) :
    Onward told jobs main c (settled task work u s).1 (settled task work u s).2 := by
  refine ⟨[], Nat.le_succ _, .inl ?_⟩
  refine follows.passes picked [] (follows.scheduler.trans keeps.scheduler.symm)
    (follows.fired.trans keeps.dryRuns.symm) rfl keeps.isDropped (fun _ _ _ _ _ _ _ _ isOpen => isOpen)
    ?_ ?_ executes ?_
  · rw [rules_turn, started]
    exact Simulation.plain_timerWorks _ _
  · intro _ ended
    rw [rules_turn] at ended
    simp [pause] at ended
  · intro _ _ waits
    rw [rules_turn] at waits
    simp only [pause, Pause.waiting.injEq] at waits
    obtain ⟨_, rfl⟩ := waits
    exact again

theorem Follows.recovers {id : JobId} (follows : Follows told jobs main c t s)
    (picked : t.pick? = some (task, .recovery id, u)) :
    Onward told jobs main c (settled task (.recovery id) u s).1 (settled task (.recovery id) u s).2 := by
  obtain ⟨step, scheduler, fired, heard, isOpen⟩ := c.recovers s.clock id
  refine follows.quits picked rfl [step] ?_ ⟨rfl, rfl⟩ fired heard isOpen
  refine ⟨?_, rfl, rfl⟩
  rw [follows.scheduler] at scheduler
  exact scheduler.symm

/-- A timer calls for its job, which is claimed if its record names the timer. -/
theorem Follows.calls {number dueMs : Nat} {id : JobId} {r : Simulation}
    (follows : Follows told jobs main c t s) (picked : t.pick? = some (task, .sleeping number dueMs, u))
    (elapsed : (c.process.scheduler.timers.elapse number).1 = some id)
    (elapses : { s with scheduler := { s.scheduler with
      timers := (s.scheduler.timers.elapse number).2 } } = r)
    (turn : Simulation.turn task u (.sleeping number dueMs) s =
      r.claimFiring task u.next ⟨id, .issued number, .claiming, .confirm⟩) :
    Onward told jobs main c (settled task (.sleeping number dueMs) u s).1
      (settled task (.sleeping number dueMs) u s).2 := by
  have begun : r.scheduler = { c.process.scheduler with
      timers := (c.process.scheduler.timers.elapse number).2 } := by
    rw [← elapses, follows.scheduler]
  have ready := (follows.sound.perform (.elapse number)).process
  have reliable : r.scheduler.Reliable := by
    rw [begun]
    exact ready.reliable
  obtain ⟨fresh, steps, scheduler, fired, heard, isOpen, claimed⟩ := follows.sound.claims elapsed begun
  obtain ⟨⟨job?, answer⟩, current⟩ := claim_answers reliable id (.issued number)
  cases job? with
  | none =>
    obtain ⟨keeps, quits⟩ := Simulation.claimFiring_stale ⟨id, .issued number, .claiming, .confirm⟩ rfl
      task u.next answer
    rw [← turn] at keeps quits
    exact follows.quits picked rfl steps (scheduler ▸ keeps.elapsed elapses) quits fired heard isOpen
  | some job =>
    obtain ⟨record, named⟩ := current job answer
    have owner : job.id = id := by
      rw [begun] at record
      exact ready.owned.keyed id job record
    subst owner
    have executors : (r.scheduler.claim job.id (.issued number)).2.executors = [.dryRun] := by
      rw [claim_executors, begun, ← follows.executors, ← follows.scheduler]
    have onward := (follows.sound.performAll steps).process
    have completes := complete_answers (scheduler ▸ onward.reliable)
      (scheduler ▸ onward.owned.numbered) r.clock job.id (.issued number) (.error (.timeout 0))
    rcases Simulation.claimFiring_claimed ⟨job.id, .issued number, .claiming, .confirm⟩ rfl task u.next
      answer executors completes with ⟨keeps, _, quits⟩ | ⟨keeps, starts, pause⟩
    · obtain ⟨step, scheduler', fired', handles⟩ := (claimed job answer).timeOut r.clock 0
      rw [← turn] at keeps quits
      have after := c.performAll_append steps [step]
      refine follows.quits picked rfl (steps ++ [step]) ?_ quits ?_ ?_ ?_ <;> rw [after]
      · rw [← scheduler] at keeps
        exact scheduler' ▸ keeps.elapsed elapses
      · exact fired'.trans fired
      · exact handles.unheard.trans heard
      · intro handle id delivered before
        refine handles.others handle id delivered ?_ (isOpen _ _ _ before)
        rintro rfl
        exact fresh _ _ before
    · refine ⟨steps, by omega, .inl ?_⟩
      rw [← turn] at keeps starts pause
      replace keeps := keeps.elapsed elapses
      have claims : Claims u.next (Simulation.rules.turn task u (.sleeping number dueMs) s) job
          (.issued number) := by
        refine ⟨(isCurrent_iff.mp named).2, ?_, pause⟩
        rw [rules_turn, starts]
        exact ⟨_, rfl, Simulation.plain_timerWorks _ _⟩
      refine follows.claims picked steps (scheduler.trans keeps.scheduler.symm)
        (fired.trans (follows.fired.trans keeps.dryRuns.symm)) heard keeps.isDropped isOpen ?_ rfl
        fresh (claimed job answer) claims
      cases follows.works task _ (Tasks.pick_mem picked) with
      | plain apart _ => exact apart

/-- A timer elapses. -/
theorem Follows.fires {number dueMs : Nat} (follows : Follows told jobs main c t s)
    (picked : t.pick? = some (task, .sleeping number dueMs, u)) (due : dueMs ≤ s.elapsedMs) :
    Onward told jobs main c (settled task (.sleeping number dueMs) u s).1
      (settled task (.sleeping number dueMs) u s).2 := by
  have turn := Simulation.fireTimer_eq s follows.kept task u.next number .confirm .timerFired
  have same : Simulation.turn task u (.sleeping number dueMs) s =
      s.fireTimer task u.next number .confirm .timerFired := if_pos due
  rw [← same] at turn
  cases elapsed : (s.scheduler.timers.elapse number).1 with
  | none =>
    rw [elapsed] at turn
    obtain ⟨step, scheduler, fired, heard, isOpen⟩ := c.elapses number
    have quits : Simulation.Quits (Simulation.turn task u (.sleeping number dueMs) s)
        (.timerFired (s.scheduler.timers.isPending number)) := by
      rw [turn]
      exact ⟨rfl, rfl⟩
    refine follows.quits picked rfl [step] ?_ quits fired heard isOpen
    rw [turn]
    rw [follows.scheduler] at scheduler
    exact ⟨scheduler.symm, rfl, rfl⟩
  | some id =>
    rw [elapsed] at turn
    rw [← follows.scheduler] at elapsed
    exact follows.calls picked elapsed rfl turn

section Firing

variable {id : JobId} {handle : Handle} {execution : Nat} {limit? untilMs? : Option Nat}

/-- A firing completes whose execution has ended, or is stopped. -/
theorem Follows.ends {outcome : ExecutionOutcome} {stopped : List Nat}
    (follows : Follows told jobs main c t s) (picked : t.pick? = some (task, work, u))
    (awaits : work = .firing ⟨id, handle, .executing execution limit? untilMs?, .confirm⟩)
    (turn : Simulation.turn task u work s = { s.completeFiring task
      ⟨id, handle, .executing execution limit? untilMs?, .confirm⟩ outcome with stopped })
    (step : CourseStep) (scheduler : (c.perform step).process.scheduler =
      (c.process.scheduler.complete s.clock id handle outcome).2)
    (fired : (c.perform step).fired = c.fired) (handles : Course.Handles c (c.perform step) handle)
    (expired : (t.result? execution).isSome = true ∨ execution ∈ stopped) :
    Onward told jobs main c (settled task work u s).1 (settled task work u s).2 := by
  have answers := complete_answers (follows.scheduler ▸ follows.sound.process.reliable)
    (follows.scheduler ▸ follows.sound.process.owned.numbered) s.clock id handle outcome
  obtain ⟨keeps, _, quits⟩ := Simulation.completeFiring_quits
    ⟨id, handle, .executing execution limit? untilMs?, .confirm⟩ rfl task answers
  rw [follows.scheduler] at scheduler
  have rule := rules_turn task u work s
  rw [turn, quits.started, List.nil_append] at rule
  refine ⟨[step], (Nat.le_of_eq fired).trans (Nat.le_succ _), .inl ?_⟩
  unfold settled
  rw [rule]
  subst awaits
  exact follows.completes picked step (scheduler.trans keeps.scheduler.symm)
    (fired.trans (follows.fired.trans keeps.dryRuns.symm)) keeps.isDropped handles expired
    (Simulation.plain_timerWorks _ _) quits.pause

/-- The execution of a firing has ended, or its time is over; or the firing waits again. -/
theorem Follows.concludes (follows : Follows told jobs main c t s)
    (picked : t.pick? = some (task, work, u))
    (awaits : work = .firing ⟨id, handle, .executing execution limit? untilMs?, .confirm⟩)
    (isOpen : c.IsOpen handle id (t.result? execution).isSome)
    (results : ∀ result, t.result? execution = some result →
      ∃ answered, result = .executed (outcome answered id)) :
    Onward told jobs main c (settled task work u s).1 (settled task work u s).2 := by
  have result := (Tasks.pick_leaves picked).result execution
  have turns : Simulation.FiringTurns s u task
      ⟨id, handle, .executing execution limit? untilMs?, .confirm⟩ execution
      (Simulation.turn task u work s) := by
    subst awaits
    exact Simulation.firingTurns s u task _ rfl
  generalize same : Simulation.turn task u work s = turn at turns
  cases turns with
  | @answered outcome executed =>
    rw [result] at executed
    obtain ⟨answered, given⟩ := results _ executed
    cases given
    rw [executed] at isOpen
    obtain ⟨step, scheduler, fired, handles⟩ := isOpen.complete s.clock answered
    refine follows.ends picked awaits same step scheduler fired handles (.inl ?_)
    rw [executed]
    rfl
  | @timedOut limit unanswered =>
    have pending : t.result? execution = none := by
      refine Option.eq_none_iff_forall_not_mem.mpr fun ended there => ?_
      obtain ⟨answered, rfl⟩ := results ended there
      exact unanswered _ (result.trans there)
    rw [pending] at isOpen
    obtain ⟨step, scheduler, fired, handles⟩ := Course.IsOpen.timeOut isOpen s.clock limit
    exact follows.ends picked awaits same step scheduler fired handles (.inr (List.mem_singleton_self _))
  | @again wait =>
    rw [← awaits] at same
    refine follows.waits picked ?_ ?_ (congrArg Turn.pause same) (awaits ▸ rfl) (.inl rfl)
    · rw [same]
      exact ⟨rfl, rfl, rfl⟩
    · rw [same]
      rfl

end Firing

/-- A job is executed for a call. -/
theorem Follows.delivers {job : Job} {handle : Handle} (follows : Follows told jobs main c t s)
    (picked : t.pick? = some (task, .execution .dryRun job, u)) (named : job.handle? = some handle)
    (isOpen : c.IsOpen handle job.id false) :
    Onward told jobs main c (settled task (.execution .dryRun job) u s).1
      (settled task (.execution .dryRun job) u s).2 := by
  obtain ⟨step, process, fired, executed, handles⟩ := isOpen.execute
  have ended : (Simulation.rules.turn task u (.execution .dryRun job) s).pause =
      .ended (.executed (outcome s.now job.id)) := rfl
  refine ⟨[step], Nat.le_of_eq fired, .inl ?_⟩
  refine follows.executes picked named isOpen step ?_ ?_ rfl executed handles ?_ ended
  · rw [process]
    exact follows.scheduler
  · rw [fired, follows.fired]
    rfl
  · rw [rules_turn]
    exact Simulation.plain_timerWorks _ _

/-! ## The main task -/

/-- No stored job is active, and all were submitted. -/
theorem Follows.idle (follows : Follows told jobs main c t s) (idle : s.isIdle = true) : c.Idle := by
  refine ⟨follows.submitted, fun id job record => ?_⟩
  unfold Simulation.isIdle Store.all at idle
  rw [follows.scheduler] at record
  split at idle
  · rename_i found same
    split at same <;> cases same
    have unfinished := List.all_eq_true.mp idle job (Store.mem_values.mpr ⟨id, record⟩)
    simpa [JobStatus.isActive] using unfinished
  · cases idle

/-- The main task closes the run down, or waits to. -/
theorem Follows.closes (follows : Follows told jobs main c t s)
    (picked : t.pick? = some (main, work, u)) (idle : told = false → c.Idle)
    (executes : work.isExecution = false) (closes : s.Closes (Simulation.turn main u work s)) :
    Onward told jobs main c (settled main work u s).1 (settled main work u s).2 := by
  cases closes with
  | @ended inTime pause =>
    refine ⟨[], Nat.le_succ _, .inr ?_⟩
    refine ⟨(follows.numbered.turns picked).settle _, ?_, follows.heard, ⟨inTime, ?_⟩, idle⟩
    · unfold settled
      rw [Tasks.settle_main, (Tasks.pick_leaves picked).main?, follows.leads]
    · have closed : (settled main work u s).1.result? main = _ := Tasks.settle_result_ended pause
      rw [closed, ← follows.scheduler, ← follows.fired]
      rfl
  | waiting keeps started pause =>
    exact follows.waits picked keeps started pause executes (.inr ⟨rfl, fun _ => .closing idle⟩)

/-- The main task waits again, or closes the run down. -/
theorem Follows.attends {untilMs? lookMs? : Option Nat} {graceMs : Nat}
    (follows : Follows told jobs main c t s)
    (picked : t.pick? = some (main, .attending untilMs? lookMs? graceMs, u))
    (untold : told = false → untilMs? = none) :
    Onward told jobs main c (settled main (.attending untilMs? lookMs? graceMs) u s).1
      (settled main (.attending untilMs? lookMs? graceMs) u s).2 := by
  rcases s.attendingTurn_cases u untilMs? lookMs? graceMs with ⟨wait, look?, turn⟩ | ⟨idle, closes⟩
  · have same : Simulation.turn main u (.attending untilMs? lookMs? graceMs) s = _ := turn
    refine follows.waits picked ?_ ?_ (congrArg Turn.pause same) rfl
      (.inr ⟨rfl, fun _ => .attending untold⟩)
    · rw [same]
      exact ⟨rfl, rfl, rfl⟩
    · rw [same]
      rfl
  · exact follows.closes picked (fun never => follows.idle (idle (untold never))) rfl closes

/-! ## All tasks -/

/-- A task has its turn. -/
theorem Follows.turn (follows : Follows told jobs main c t s)
    (picked : t.pick? = some (task, work, u)) :
    Onward told jobs main c (settled task work u s).1 (settled task work u s).2 := by
  cases follows.works task work (Tasks.pick_mem picked) with
  | plain apart plain =>
    cases work with
    | sleeping number dueMs =>
      by_cases due : dueMs ≤ s.elapsedMs
      · exact follows.fires picked due
      · have turn : Simulation.turn task u (.sleeping number dueMs) s = _ := if_neg due
        exact follows.loops picked rfl (turn ▸ Simulation.loops_waiting s.keepers _ rfl)
    | recovery id => exact follows.recovers picked
    | loop nextMs periodSeconds => exact follows.loops picked rfl (Simulation.loops_loopTurn ..)
    | loopScan recoveries nextMs periodSeconds =>
      exact follows.loops picked rfl (Simulation.loops_loopScanTurn ..)
    | _ => cases plain
  | attending untold => exact follows.attends picked untold
  | closing idle => exact follows.closes picked idle rfl (s.closingTurn_closes ..)
  | firing _ _ isOpen results _ => exact follows.concludes picked rfl isOpen results
  | execution apart named isOpen => exact follows.delivers picked named isOpen

end DryRun

end Punctual
