import Punctual.Proofs.SimulatedTurns

/-!
Dry runs of lists of jobs, and what their summaries say. While jobs are submitted no task has its turn;
then the tasks take turns, and the run goes on by the steps that their turns are, until it is closed
down. So a summary is that of a run in steps, and says of the jobs what such a run adds up to.
-/
namespace Punctual

open Scheduler

namespace DryRun

variable {told : Bool} {jobs left : List Job} {main : Nat} {c : Course} {t : Tasks Work WorkResult}
  {s : Simulation} {r : DryRun} {start : Instant} {settings : Settings} {stop : DryRunEnd}

/-! ## Runs of the tasks -/

/-- What a run's tasks have come to. -/
inductive Stands (told : Bool) (jobs : List Job) (main : Nat) (c : Course)
    (now : Tasks Work WorkResult × Simulation) : Prop
  | running (follows : Follows told jobs main c now.1 now.2)
  | closed (closed : Closed told main c now.1)

/-- The clock moves on, and tasks that waited for that can go on. -/
theorem Follows.moves (follows : Follows told jobs main c t s) (reading : Nat) (clock : Clock) :
    Follows told jobs main c (t.wakeAt reading) { s with clock } := by
  have alive : ∀ {x}, x ∈ (t.wakeAt reading).alive → x ∈ t.alive :=
    (Tasks.wakeAt_alive t reading).mem_iff.mp
  refine { follows with
    numbered := follows.numbered.wakeAt reading
    works := fun task work member => ?_
    sole := fun task work other rest member member' =>
      follows.sole task work other rest (alive member) (alive member') }
  refine (follows.works task work (alive member)).onward (Nat.le_refl _) id
    (fun _ _ _ _ isOpen => isOpen) fun execution handle _ _ _ awaits => ⟨rfl, ?_⟩
  exact awaits.onward fun _ _ there => .inl (alive there)

/-- A run that was closed down stays so, though other tasks may have turns. -/
theorem Closed.advance {now : Tasks Work WorkResult × Simulation} (closed : Closed told main c now.1) :
    Closed told main c (Simulation.rules.advance now).1 := by
  obtain ⟨inTime, result⟩ := closed.result
  have ended : (now.1.main?.bind now.1.result?).isSome = true := by
    simp [closed.leads, result]
  unfold TaskRules.advance
  split
  · rename_i task work others picked
    have leaves := Tasks.pick_leaves picked
    have apart : main ≠ task := by
      rintro rfl
      refine (closed.numbered.ended main (by simp [result])).2 ?_
      exact List.mem_map_of_mem (Tasks.pick_mem picked)
    refine ⟨(closed.numbered.turns picked).settle _, ?_, closed.heard, ⟨inTime, ?_⟩, closed.idle⟩
    · rw [Tasks.settle_main, leaves.main?, closed.leads]
    · rw [Tasks.settle_result_other _ apart, leaves.result, result]
  · rw [if_pos ended]
    exact closed

theorem Follows.advance (follows : Follows told jobs main c t s) :
    ∃ steps, (c.performAll steps).fired ≤ c.fired + 1 ∧
      Stands told jobs main (c.performAll steps) (Simulation.rules.advance (t, s)) := by
  have unended : (t.main?.bind t.result?).isSome = false := by
    simp [follows.leads, follows.unended]
  cases picked : t.pick? with
  | some found =>
    obtain ⟨task, work, others⟩ := found
    have same : Simulation.rules.advance (t, s) = settled task work others s := by
      simp only [TaskRules.advance, picked, settled]
    obtain ⟨steps, fired, follows | closed⟩ := follows.turn picked
    · exact ⟨steps, fired, .running (same ▸ follows)⟩
    · exact ⟨steps, fired, .closed (same ▸ closed)⟩
  | none =>
    refine ⟨[], Nat.le_succ _, .running ?_⟩
    unfold TaskRules.advance
    simp only [picked, unended, Bool.false_eq_true, if_false]
    split
    · exact follows.moves _ _
    · exact follows

/-- A run goes on by steps, and executes no more often than it takes turns. -/
theorem Stands.advances (follows : Follows told jobs main c t s) (turns : Nat) :
    ∃ steps, (c.performAll steps).fired ≤ c.fired + turns ∧
      Stands told jobs main (c.performAll steps) (Simulation.rules.advance^[turns] (t, s)) := by
  induction turns with
  | zero => exact ⟨[], Nat.le_refl _, .running follows⟩
  | succ more ih =>
    obtain ⟨steps, fired, stands⟩ := ih
    rw [Function.iterate_succ_apply']
    cases stands with
    | running running =>
      obtain ⟨further, once, stands⟩ := running.advance
      refine ⟨steps ++ further, ?_, ?_⟩
      · rw [Course.performAll_append]
        omega
      · rw [Course.performAll_append]
        exact stands
    -- other tasks may have turns still, but nothing that they do is summed up any more
    | closed closed => exact ⟨steps, by omega, .closed closed.advance⟩

/-! ## Submissions -/

/-- The ids of those jobs that are taken when they are submitted one after another. -/
def taken (r : DryRun) : List Job → List JobId
  | [] => []
  | job :: rest =>
    (match (r.simulation.scheduler.schedule r.simulation.clock job).1 with
      | .ok _ => [job.id]
      | .error _ => []) ++ (r.submit job).taken rest

/-- So far timers wait to elapse, and no task has had a turn. -/
structure Queued (r : DryRun) : Prop where
  undelivered : r.simulation.dryRuns = 0
  kept : r.simulation.isDropped = false
  manager : r.simulation.manager = .idle
  executors : r.simulation.scheduler.executors = [.dryRun]
  numbered : r.tasks.Numbered
  leaderless : r.tasks.main? = none
  results : r.tasks.results = []
  plain : ∀ task work, (task, work) ∈ r.tasks.alive → work.isPlain = true

/-- Jobs are being submitted; some are left. -/
structure Submits (jobs left : List Job) (c : Course) (r : DryRun) : Prop extends r.Queued where
  sound : Course.Sound jobs c
  left : c.left = left
  submitted : r.submitted = c.taken.length
  rejected : r.rejected = c.rejected
  scheduler : c.process.scheduler = r.simulation.scheduler
  fired : c.fired = 0
  heard : c.unheard = 0

/-- A run that is created with timers that elapse by themselves has done nothing. -/
theorem create_begins (created : create start settings = .ok r) (sleeping : settings.backend = .sleeping)
    (jobs : List Job) : Process.BeginsEmpty (.ofScheduler r.simulation.scheduler) ∧
      Submits jobs jobs (.ofScheduler r.simulation.scheduler jobs) r := by
  obtain ⟨scheduler, made, same⟩ : ∃ scheduler, Scheduler.create settings.scheduler .empty
      (Timers.ofService .sleeping) [.dryRun] = .ok scheduler ∧
      r = ⟨.ofScheduler start scheduler, .empty, 0, 0⟩ := by
    simp only [create, sleeping, TimerBackend.service, bind, Except.bind, pure, Except.pure] at created
    split at created <;> cases created
    exact ⟨_, ‹_›, rfl⟩
  subst same
  unfold Scheduler.create at made
  split at made <;> cases made
  have begins : Process.BeginsEmpty (.ofScheduler
      ⟨settings.scheduler.clamped, .empty, .empty, .ofService .sleeping, [.dryRun]⟩) :=
    ⟨fun _ => Std.TreeMap.getElem?_emptyc, Process.begins_vacant.unarmed, rfl,
      ⟨⟨rfl, rfl, rfl⟩, ⟨rfl, rfl⟩⟩, rfl⟩
  have queued : Queued ⟨.ofScheduler start ⟨settings.scheduler.clamped, .empty, .empty,
      .ofService .sleeping, [.dryRun]⟩, .empty, 0, 0⟩ :=
    ⟨rfl, rfl, rfl, rfl, Tasks.numbered_empty, rfl, rfl, fun _ _ member => absurd member List.not_mem_nil⟩
  exact ⟨begins, queued, Course.sound_ofScheduler begins jobs, rfl, rfl, rfl, rfl, rfl, rfl⟩

theorem submit_simulation (r : DryRun) (job : Job) : (r.submit job).simulation =
    { r.simulation with
      scheduler := (r.simulation.scheduler.schedule r.simulation.clock job).2 } := by
  unfold submit
  simp only [Simulation.apply]
  split <;> rfl

theorem submit_tasks (r : DryRun) (job : Job) : (r.submit job).tasks =
    r.tasks.start ((r.submit job).simulation.timerWorks r.simulation.scheduler.timers.issued) := by
  unfold submit
  simp only [Simulation.apply]
  split <;> rfl

theorem Queued.submit (queued : r.Queued) (job : Job) : (r.submit job).Queued where
  undelivered := by rw [submit_simulation, queued.undelivered]
  kept := by rw [submit_simulation, queued.kept]
  manager := by rw [submit_simulation, queued.manager]
  executors := by rw [submit_simulation, schedule_executors, queued.executors]
  numbered := by
    rw [submit_tasks]
    exact queued.numbered.start _
  leaderless := by
    rw [submit_tasks]
    exact queued.leaderless
  results := by
    rw [submit_tasks]
    exact queued.results
  plain task work member := by
    rw [submit_tasks] at member
    rcases List.mem_append.mp ((Tasks.start_alive _ _).mem_iff.mp member) with before | new
    · exact queued.plain task work before
    · obtain ⟨i, bound, same⟩ := List.mem_mapIdx.mp new
      cases same
      exact Simulation.plain_timerWorks _ _ _ (List.getElem_mem bound)

/-- The next job is submitted. -/
theorem Submits.submit {job : Job} (submits : Submits jobs (job :: left) c r) :
    ∃ step, Submits jobs left (c.perform step) (r.submit job) ∧
      (c.perform step).taken ++ (r.submit job).taken left = c.taken ++ r.taken (job :: left) := by
  have next := submits.left
  have sound := submits.sound.perform (.submit r.simulation.clock)
  refine ⟨.submit r.simulation.clock, ?_⟩
  cases answer : (r.simulation.scheduler.schedule r.simulation.clock job).1 with
  | ok stored =>
    have after : c.perform (.submit r.simulation.clock) = { c with
        process := c.process.perform (.operate (.schedule r.simulation.clock job))
        left
        taken := c.taken ++ [job.id] } := by
      simp [Course.perform, Course.noted, Course.submitted, Course.action?, next, submits.scheduler,
        answer]
    rw [after] at sound ⊢
    refine ⟨⟨submits.toQueued.submit job, sound, rfl, ?_, ?_, ?_, submits.fired, submits.heard⟩, ?_⟩
    · simp [DryRun.submit, Simulation.apply, answer, submits.submitted]
    · simp [DryRun.submit, Simulation.apply, answer, submits.rejected]
    · rw [submit_simulation, ← submits.scheduler]
      rfl
    · simp [taken, answer]
  | error e =>
    have after : c.perform (.submit r.simulation.clock) = { c with
        process := c.process.perform (.operate (.schedule r.simulation.clock job))
        left
        rejected := c.rejected + 1 } := by
      simp [Course.perform, Course.noted, Course.submitted, Course.action?, next, submits.scheduler,
        answer]
    rw [after] at sound ⊢
    refine ⟨⟨submits.toQueued.submit job, sound, rfl, ?_, ?_, ?_, submits.fired, submits.heard⟩, ?_⟩
    · simp [DryRun.submit, Simulation.apply, answer, submits.submitted]
    · simp [DryRun.submit, Simulation.apply, answer, submits.rejected]
    · rw [submit_simulation, ← submits.scheduler]
      rfl
    · simp [taken, answer]

theorem Submits.submitAll (submits : Submits jobs left c r) :
    ∃ steps, Submits jobs [] (c.performAll steps) (left.foldl DryRun.submit r) ∧
      (c.performAll steps).taken = c.taken ++ r.taken left := by
  induction left generalizing c r with
  | nil => exact ⟨[], submits, by simp [Course.performAll, taken]⟩
  | cons job rest ih =>
    obtain ⟨step, further, ids⟩ := submits.submit
    obtain ⟨steps, finished, all⟩ := ih further
    exact ⟨step :: steps, finished, all.trans ids⟩

/-! ## Runs that have begun -/

/-- The tasks when the scans have been started and the main task has: all but the latter are for no
call. -/
theorem Queued.attended {loop attending : Work} {task : Nat} {work : Work} (queued : r.Queued)
    (plain : loop.isPlain = true)
    (member : (task, work) ∈ ((r.tasks.start [loop]).startMain attending).alive) :
    task = r.tasks.next + 1 ∧ work = attending ∨ task ≠ r.tasks.next + 1 ∧ work.isPlain = true := by
  rcases List.mem_cons.mp member with same | before
  · cases same
    exact .inl ⟨rfl, rfl⟩
  · refine .inr ⟨Nat.ne_of_lt ((queued.numbered.start [loop]).started _ before), ?_⟩
    rcases List.mem_append.mp ((Tasks.start_alive _ _).mem_iff.mp before) with before | new
    · exact queued.plain task work before
    · cases List.mem_singleton.mp new
      exact plain

/-- The scans are started, and the main task. -/
theorem Submits.attend (submits : Submits jobs [] c r) (stop : DryRunEnd) (graceSeconds : Nat) :
    ∃ begun, r.attend stop graceSeconds = .ok begun ∧ begun.submitted = c.taken.length ∧
      begun.rejected = c.rejected ∧ ∃ main,
      Follows stop.afterMs?.isSome jobs main c begun.tasks begun.simulation := by
  let loop := Work.loop r.simulation.elapsedMs r.simulation.scheduler.config.loadSeconds
  let attending := Work.attending (stop.afterMs?.map (r.simulation.elapsedMs + ·))
    (if stop.whenIdle then some r.simulation.elapsedMs else none) (graceSeconds * 1000)
  have attends : r.attend stop graceSeconds = .ok { r with
      simulation := { r.simulation with
        manager := ⟨true, some r.tasks.next, []⟩, keepers := r.simulation.keepers + 1 }
      tasks := (r.tasks.start [loop]).startMain attending } := by
    simp only [DryRun.attend, submits.manager]
    rfl
  have loops : loop.isPlain = true := rfl
  have started : ∀ task work, (task, work) ∈ ((r.tasks.start [loop]).startMain attending).alive → _ :=
    fun task work => submits.attended loops
  have unheld : ∀ task work, (task, work) ∈ ((r.tasks.start [loop]).startMain attending).alive →
      work.handle? = none := by
    intro task work member
    rcases started task work member with ⟨_, rfl⟩ | ⟨_, plain⟩
    · rfl
    · exact Work.handle_plain plain
  refine ⟨_, attends, submits.submitted, submits.rejected, r.tasks.next + 1, ?_⟩
  constructor
  case sound => exact submits.sound
  case submitted => exact submits.left
  case heard => exact submits.heard
  case scheduler => exact submits.scheduler
  case fired => exact submits.fired.trans submits.undelivered.symm
  case kept => exact submits.kept
  case executors => exact submits.executors
  case numbered => exact (submits.numbered.start [loop]).startMain submits.leaderless attending
  case leads => rfl
  case begun => exact Nat.lt_succ_self _
  case unended =>
    change r.tasks.results.lookup _ = none
    rw [submits.results]
    rfl
  case works =>
    intro task work member
    rcases started task work member with ⟨rfl, rfl⟩ | ⟨apart, plain⟩
    · refine .attending fun never => ?_
      rw [Option.isSome_eq_false_iff, Option.isNone_iff_eq_none] at never
      rw [never]
      rfl
    · exact .plain apart plain
  case sole =>
    intro task work other rest member _ _ _ held
    exact absurd (unheld task work member) held

/-- A run of jobs begins by steps in which the jobs are submitted. -/
theorem begin_follows {begun : DryRun} (created : create start settings = .ok r)
    (sleeping : settings.backend = .sleeping) (begins : begin start settings jobs stop = .ok begun) :
    ∃ steps, let c := (Course.ofScheduler r.simulation.scheduler jobs).performAll steps
      c.taken = r.taken jobs ∧ c.fired = 0 ∧ begun.submitted = c.taken.length ∧
      begun.rejected = c.rejected ∧
      ∃ main, Follows stop.afterMs?.isSome jobs main c begun.tasks begun.simulation := by
  obtain ⟨_, submits⟩ := create_begins created sleeping jobs
  obtain ⟨steps, submitted, taken⟩ := submits.submitAll
  obtain ⟨other, attends, taking, rejecting, follows⟩ :=
    submitted.attend stop settings.shutdownSeconds
  have same : begin start settings jobs stop = .ok other := by
    simp only [begin, created, bind, Except.bind]
    exact attends
  rw [begins] at same
  cases same
  exact ⟨steps, taken, submitted.fired, taking, rejecting, follows⟩

/-! ## Summaries -/

theorem proceed_eq (r : DryRun) (turns : Nat) : r.proceed turns = { r with
    tasks := (Simulation.rules.advance^[turns] (r.tasks, r.simulation)).1
    simulation := (Simulation.rules.advance^[turns] (r.tasks, r.simulation)).2 } := by
  rw [← TaskRules.run_eq_iterate]
  rfl

theorem proceed_proceed (r : DryRun) (turns more : Nat) :
    (r.proceed turns).proceed more = r.proceed (turns + more) := by
  simp only [proceed_eq, Nat.add_comm turns more, Function.iterate_add_apply]

theorem Follows.proceeds (follows : Follows told jobs main c r.tasks r.simulation) (turns : Nat) :
    ∃ steps, (c.performAll steps).fired ≤ c.fired + turns ∧ Stands told jobs main (c.performAll steps)
      ((r.proceed turns).tasks, (r.proceed turns).simulation) := by
  rw [proceed_eq]
  exact Stands.advances follows turns

/-- A run in progress has no summary yet. -/
theorem Follows.summary (follows : Follows told jobs main c r.tasks r.simulation) :
    r.summary? = none := by
  simp [summary?, follows.leads, follows.unended]

theorem Closed.summary (closed : Closed told main c r.tasks) : ∃ inTime, r.summary? =
    some ⟨r.submitted, r.rejected, c.fired, c.stored, r.simulation.now, inTime⟩ := by
  obtain ⟨inTime, result⟩ := closed.result
  exact ⟨inTime, by simp [summary?, closed.leads, result]⟩

/-- A run has a summary only once it was closed down, and then that of the steps that it is. -/
theorem Follows.summed {summary : DryRunSummary} {turns : Nat}
    (follows : Follows told jobs main c r.tasks r.simulation) (submitted : r.submitted = c.taken.length)
    (rejected : r.rejected = c.rejected) (summed : (r.proceed turns).summary? = some summary) :
    ∃ steps ended inTime, let d := c.performAll steps
      summary = d.summary d.stored ended inTime ∧ d.fired ≤ c.fired + turns ∧ d.unheard = 0 ∧
      (told = false → d.Idle) := by
  obtain ⟨steps, fired, stands⟩ := follows.proceeds turns
  cases stands with
  | running running => simp [running.summary] at summed
  | closed closed =>
    obtain ⟨inTime, same⟩ := closed.summary
    obtain ⟨_, taken, refused⟩ := c.queue_submittedAll steps follows.submitted
    refine ⟨steps, (r.proceed turns).simulation.now, inTime, ?_, fired, closed.heard, closed.idle⟩
    rw [summed, Option.some.injEq] at same
    rw [same, Course.summary, taken, refused, ← submitted, ← rejected]
    rfl

/-- No job is active at some time before the run has a summary. -/
def BecomesIdle (r : DryRun) (turns : Nat) : Prop :=
  ∃ early ≤ turns, (r.proceed early).summary? = none ∧ (r.proceed early).simulation.isIdle = true

/-- A run that is idle before it has a summary is idle when it has one. -/
theorem Follows.summed_idle {summary : DryRunSummary} {turns : Nat}
    (follows : Follows told jobs main c r.tasks r.simulation) (submitted : r.submitted = c.taken.length)
    (rejected : r.rejected = c.rejected) (summed : (r.proceed turns).summary? = some summary)
    (idle : r.BecomesIdle turns) :
    ∃ steps ended inTime, let d := c.performAll steps
      summary = d.summary d.stored ended inTime ∧ d.fired ≤ c.fired + turns ∧ d.unheard = 0 ∧
      d.Idle := by
  obtain ⟨early, bound, unsummed, isIdle⟩ := idle
  obtain ⟨first, fired, stands⟩ := follows.proceeds early
  cases stands with
  | closed closed =>
    obtain ⟨inTime, same⟩ := Closed.summary closed
    simp [unsummed] at same
  | running running =>
    obtain ⟨_, taken, refused⟩ := c.queue_submittedAll first follows.submitted
    -- the run is taken up where it was idle, and stays idle from there on
    have whole : r.proceed turns = (r.proceed early).proceed (turns - early) := by
      rw [proceed_proceed, Nat.add_sub_cancel' bound]
    rw [whole] at summed
    obtain ⟨steps, ended, inTime, same, further, heard, _⟩ :=
      running.summed (submitted.trans (by rw [taken])) (rejected.trans refused.symm) summed
    refine ⟨first ++ steps, ended, inTime, ?_⟩
    rw [Course.performAll_append]
    exact ⟨same, by omega, heard, (running.idle isIdle).performAll running.sound steps⟩

/-- The run is idle before it has a summary, as it must be if it is never told to end. -/
def EndsIdle (begun : DryRun) (stop : DryRunEnd) (turns : Nat) : Prop :=
  stop.afterMs? = none ∨ begun.BecomesIdle turns

/-- A summary is that of a run in steps, of whose executions each took a turn. -/
theorem summary_steps {begun : DryRun} {turns : Nat} {summary : DryRunSummary}
    (created : create start settings = .ok r) (sleeping : settings.backend = .sleeping)
    (begins : begin start settings jobs stop = .ok begun)
    (summed : (begun.proceed turns).summary? = some summary) :
    ∃ steps ended inTime, let d := (Course.ofScheduler r.simulation.scheduler jobs).performAll steps
      summary = d.summary d.stored ended inTime ∧ d.left = [] ∧ d.taken = r.taken jobs ∧
      d.fired ≤ turns ∧ d.unheard = 0 ∧ (begun.EndsIdle stop turns → d.Idle) := by
  obtain ⟨first, taken, unfired, submitted, rejected, main, follows⟩ :=
    begin_follows created sleeping begins
  suffices summed : ∃ steps ended inTime,
      let c := (Course.ofScheduler r.simulation.scheduler jobs).performAll first
      let d := c.performAll steps
      summary = d.summary d.stored ended inTime ∧ d.fired ≤ c.fired + turns ∧ d.unheard = 0 ∧
        (begun.EndsIdle stop turns → d.Idle) by
    obtain ⟨steps, ended, inTime, same, fired, heard, idle⟩ := summed
    obtain ⟨left, taken', _⟩ := Course.queue_submittedAll _ steps follows.submitted
    refine ⟨first ++ steps, ended, inTime, ?_⟩
    rw [Course.performAll_append]
    exact ⟨same, left, taken'.trans taken, by omega, heard, idle⟩
  by_cases becomes : begun.BecomesIdle turns
  · obtain ⟨steps, ended, inTime, same, fired, heard, idle⟩ :=
      follows.summed_idle submitted rejected summed becomes
    exact ⟨steps, ended, inTime, same, fired, heard, fun _ => idle⟩
  · obtain ⟨steps, ended, inTime, same, fired, heard, untold⟩ :=
      follows.summed submitted rejected summed
    refine ⟨steps, ended, inTime, same, fired, heard, ?_⟩
    rintro (never | idle)
    · exact untold (by rw [never]; rfl)
    · exact absurd idle becomes

end DryRun

namespace DryRunSummary

variable {s : DryRunSummary}

/-- No job of the run can fire any more. -/
def IsFinal (s : DryRunSummary) : Prop :=
  ∀ status count, (status, count) ∈ s.byStatus → status.isTerminal = true

/-- Each firing is counted in its job's record, which holds numbers up to the largest of 32 bits. -/
def CountsFirings (s : DryRunSummary) : Prop :=
  ∃ counts : JobId → Nat, (∀ job ∈ s.jobs, job.executions = min (counts job.id) maxNat32) ∧
    s.fired = (s.jobs.map fun job => counts job.id).sum

theorem CountsFirings.sum (counted : s.CountsFirings) (few : s.fired ≤ maxNat32) :
    s.fired = (s.jobs.map (·.executions)).sum := by
  obtain ⟨counts, records, sum⟩ := counted
  rw [sum]
  congr 1
  refine List.map_congr_left fun job member => ?_
  have one := List.le_sum_of_mem (List.mem_map_of_mem (f := fun job => counts job.id) member)
  rw [records job member]
  omega

end DryRunSummary

/-- What is read of an idle run is final, and exact if no execution came too late for its call. -/
theorem Course.Sound.summary_idle {c : Course} {jobs read : List Job} {between : List CourseStep}
    (sound : Sound jobs c) (exact : (jobs.map (·.id)).Nodup → Exact c) (idle : c.Idle)
    (reads : c.Reads between read) (ended : Instant) (inTime : Bool) :
    (c.summary read ended inTime).IsFinal ∧
      ((jobs.map (·.id)).Nodup → c.unheard = 0 → (c.summary read ended inTime).CountsFirings) := by
  refine ⟨fun status count counted => sound.byStatus_idle idle reads counted, fun distinct heard => ?_⟩
  obtain ⟨counts, records, fired⟩ := (exact distinct).fired_idle sound idle reads
  rw [heard] at fired
  exact ⟨counts, records, fired⟩

namespace DryRun

variable {start : Instant} {settings : Settings} {r : DryRun}

/-- Dry runs are accounted for. Steps may come in any order, also between the count of the executions and
the reading of the records; so a record may tell of an execution that came too late to be counted, unless no
job was active any more. What is said of firings when no job has been active since all were submitted is
exact, if no execution came too late for its call. In a run of tasks, however many turns it takes, none does,
and no step comes between. -/
theorem runs_are_accounted_for (created : create start settings = .ok r)
    (sleeping : settings.backend = .sleeping) (jobs : List Job) :
    (∀ steps more between read ended inTime,
      let c := (Course.ofScheduler r.simulation.scheduler jobs).performAll steps
      let d := c.performAll more
      let summary := d.summary read ended inTime
      d.Reads between read →
        (c.left = [] → summary.Accounts jobs c.taken (d.performAll between).fired) ∧
        (c.Idle → summary.Accounts jobs c.taken summary.fired ∧ summary.IsFinal ∧
          ((jobs.map (·.id)).Nodup → d.unheard = 0 → summary.CountsFirings))) ∧
    ∀ stop begun turns summary, begin start settings jobs stop = .ok begun →
      (begun.proceed turns).summary? = some summary →
        summary.Accounts jobs (r.taken jobs) summary.fired ∧
        (begun.EndsIdle stop turns → summary.IsFinal ∧
          ((jobs.map (·.id)).Nodup → summary.CountsFirings ∧
            (turns ≤ maxNat32 → summary.fired = (summary.jobs.map (·.executions)).sum))) := by
  obtain ⟨begins, _⟩ := create_begins created sleeping jobs
  have initially := Course.sound_ofScheduler begins jobs
  have exact := Course.exact_ofScheduler begins jobs
  constructor
  · intro steps more between read ended inTime c d summary reads
    have sound : Course.Sound jobs c := initially.performAll steps
    have later : Course.Sound jobs d := sound.performAll more
    constructor
    · intro submitted
      obtain ⟨left, taken, _⟩ := c.queue_submittedAll more submitted
      rw [← taken]
      exact later.accounts left reads ended inTime
    · intro idle
      obtain ⟨_, taken, _⟩ := c.queue_submittedAll more idle.submitted
      have still : d.Idle := idle.performAll sound more
      have counted : (jobs.map (·.id)).Nodup → Course.Exact d := fun distinct =>
        (exact.performAll initially distinct steps).performAll sound distinct more
      exact ⟨taken ▸ later.accounts_idle still reads ended inTime,
        later.summary_idle counted still reads ended inTime⟩
  · intro stop begun turns summary begins summed
    obtain ⟨steps, ended, inTime, rfl, left, taken, fired, heard, idle⟩ :=
      summary_steps created sleeping begins summed
    have sound := initially.performAll steps
    have reads := sound.reads_stored left []
    refine ⟨taken ▸ sound.accounts left reads ended inTime, fun ends => ?_⟩
    obtain ⟨final, counts⟩ := sound.summary_idle
      (fun distinct => exact.performAll initially distinct steps) (idle ends) reads ended inTime
    refine ⟨final, fun distinct => ⟨counts distinct heard, fun few => (counts distinct heard).sum ?_⟩⟩
    exact Nat.le_trans fired few

/-- Of three jobs one has a blank name; the run ends when the other two have fired. -/
theorem runs_are_accounted_for_until_idle :
    let jobs : List Job := [.once "first" ⟨1, 0⟩, .once " " ⟨1, 0⟩, .once "second" ⟨2, 0⟩]
    ∃ r begun summary, create ⟨0, 0⟩ .initial = .ok r ∧
      begin ⟨0, 0⟩ .initial jobs ⟨true, none⟩ = .ok begun ∧
      (begun.proceed 100).summary? = some summary ∧
      summary.Accounts jobs ["first", "second"] summary.fired ∧ summary.rejected = 1 ∧ summary.IsFinal ∧
      summary.CountsFirings ∧ summary.fired = (summary.jobs.map (·.executions)).sum ∧
      summary.fired = 2 := by
  intro jobs
  obtain ⟨r, created, taken⟩ : ∃ r, create ⟨0, 0⟩ .initial = .ok r ∧ r.taken jobs = ["first", "second"] :=
    ⟨_, rfl, by decide +kernel⟩
  obtain ⟨begun, begins⟩ : ∃ begun, begin ⟨0, 0⟩ .initial jobs ⟨true, none⟩ = .ok begun := ⟨_, rfl⟩
  have fired : (((begin ⟨0, 0⟩ .initial jobs ⟨true, none⟩).toOption.bind fun begun =>
      (begun.proceed 100).summary?).map fun summary => (summary.rejected, summary.fired)) =
        some (1, 2) := by
    decide +kernel
  rw [begins] at fired
  simp only [Except.toOption, Option.bind_some, Option.map_eq_some_iff, Prod.mk.injEq] at fired
  obtain ⟨summary, summed, rejected, twice⟩ := fired
  obtain ⟨accounts, ends⟩ :=
    (runs_are_accounted_for created rfl jobs).2 ⟨true, none⟩ begun 100 summary begins summed
  obtain ⟨final, exact⟩ := ends (.inl rfl)
  obtain ⟨counts, sum⟩ := exact (by decide)
  exact ⟨r, begun, summary, created, begins, summed, taken ▸ accounts, rejected, final, counts,
    sum (by decide), twice⟩

/-- A run is told to end while its only job is claimed. Its executions are counted before the job is
executed, and the record is read after that. -/
theorem executions_outrun_their_count :
    let job := Job.once "job" ⟨1, 0⟩
    ∃ r, create ⟨0, 0⟩ .initial = .ok r ∧
      let c := (Course.ofScheduler r.simulation.scheduler [job]).performAll
        [.submit ⟨⟨0, 0⟩, 0⟩, .elapse 1, .claim 0]
      let between := [.execute 0, .complete 0 ⟨⟨1, 0⟩, 1000⟩ ⟨1, 0⟩]
      let summary := c.summary (c.performAll between).stored ⟨1, 0⟩ true
      c.left = [] ∧ c.Reads between (c.performAll between).stored ∧ summary.submitted = 1 ∧
        summary.fired = 0 ∧ (summary.jobs.map (·.executions)).sum = 1 := by
  intro job
  obtain ⟨r, created, same⟩ : ∃ r, create ⟨0, 0⟩ .initial = .ok r ∧
      r.simulation.scheduler = ((create ⟨0, 0⟩ .initial).toOption.map (·.simulation.scheduler)).getD .vacant :=
    ⟨_, rfl, rfl⟩
  obtain ⟨begins, _⟩ := create_begins created rfl [job]
  refine ⟨r, created, ?_⟩
  intro c between summary
  have submitted : c.left = [] := by
    simp only [c, same]
    decide +kernel
  have sound : Course.Sound [job] c := (Course.sound_ofScheduler begins [job]).performAll _
  refine ⟨submitted, sound.reads_stored submitted between, ?_⟩
  simp only [summary, c, same]
  decide +kernel

end DryRun

end Punctual
