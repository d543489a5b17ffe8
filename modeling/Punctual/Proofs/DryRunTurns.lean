import Punctual.Proofs.OpenCalls
import Punctual.Proofs.TaskTurns

/-!
A dry run's tasks and the calls that they stand for. Each task that has claimed a job waits for the
execution that it started, and for no other, and that execution is for no other call. So each turn of a
task is a few steps of the run, and what is known of runs holds of tasks that take turns.
-/
namespace Punctual

open Scheduler

namespace Work

/-- The timer whose call a firing or an execution is for. -/
def handle? : Work → Option Handle
  | .firing under => some under.handle
  | .execution _ job => job.handle?
  | _ => none

/-- The work is an execution. -/
def isExecution : Work → Bool
  | .execution .. => true
  | _ => false

/-- The execution that a firing waits for. -/
def awaited? : Work → Option Nat
  | .firing ⟨_, _, .executing awaited _ _, _⟩ => some awaited
  | _ => none

/-- Neither a firing under way nor an execution, nor what waits for the end of the run. -/
def isPlain : Work → Bool
  | .sleeping .. | .recovery _ | .loop .. | .loopScan .. => true
  | _ => false

/-- The execution for a timer's call. -/
def Delivers (handle : Handle) (work : Work) : Prop :=
  work.isExecution = true ∧ work.handle? = some handle

variable {work : Work} {handle : Handle}

theorem handle_plain (plain : work.isPlain = true) : work.handle? = none := by
  cases work <;> first | rfl | cases plain

theorem not_delivers (aside : work.handle? = none) (handle : Handle) : ¬ work.Delivers handle := by
  rintro ⟨_, named⟩
  simp [aside] at named

theorem not_delivers_idle (idle : work.isExecution = false) (handle : Handle) :
    ¬ work.Delivers handle := by
  rintro ⟨executes, _⟩
  simp [idle] at executes

end Work

namespace DryRun

/-- One task is the execution for a timer's call, or has been, and no other task is. -/
def Awaits (t : Tasks Work WorkResult) (execution : Nat) (handle : Handle) : Prop :=
  ∀ task work, (task, work) ∈ t.alive → (task = execution ↔ work.Delivers handle)

/-- What a task of a dry run may be about, as the run and its tasks stand. The main task, and it alone,
waits for the run's end; unless the run may be told to end, that is until the run is idle. -/
inductive Fits (told : Bool) (main : Nat) (c : Course) (t : Tasks Work WorkResult) : Nat → Work → Prop
  | plain {task : Nat} {work : Work} (apart : task ≠ main) (plain : work.isPlain = true) :
    Fits told main c t task work
  | attending {untilMs? lookMs? : Option Nat} {graceMs : Nat}
    (untold : told = false → untilMs? = none) :
    Fits told main c t main (.attending untilMs? lookMs? graceMs)
  | closing {loop? : Option Nat} {untilMs : Nat} (idle : told = false → c.Idle) :
    Fits told main c t main (.closing loop? untilMs)
  | firing {task execution : Nat} {id : JobId} {handle : Handle} {limit? untilMs? : Option Nat}
    (apart : task ≠ main) (started : execution < t.next)
    (isOpen : c.IsOpen handle id (t.result? execution).isSome)
    (results : ∀ result, t.result? execution = some result →
      ∃ answered, result = .executed (outcome answered id))
    (awaits : Awaits t execution handle) :
    Fits told main c t task
      (.firing ⟨id, handle, .executing execution limit? untilMs?, .confirm⟩)
  | execution {task : Nat} {job : Job} {handle : Handle} (apart : task ≠ main)
    (named : job.handle? = some handle) (isOpen : c.IsOpen handle job.id false) :
    Fits told main c t task (.execution .dryRun job)

/-- A run in progress and the tasks that carry it out. -/
structure Follows (told : Bool) (jobs : List Job) (main : Nat) (c : Course)
    (t : Tasks Work WorkResult) (s : Simulation) : Prop where
  sound : Course.Sound jobs c
  submitted : c.left = []
  heard : c.unheard = 0
  scheduler : c.process.scheduler = s.scheduler
  fired : c.fired = s.dryRuns
  kept : s.isDropped = false
  executors : s.scheduler.executors = [.dryRun]
  numbered : t.Numbered
  leads : t.main? = some main
  begun : main < t.next
  unended : t.result? main = none
  works : ∀ task work, (task, work) ∈ t.alive → Fits told main c t task work
  sole : ∀ task work other rest, (task, work) ∈ t.alive → (other, rest) ∈ t.alive →
    work.isExecution = rest.isExecution → work.handle? = rest.handle? → work.handle? ≠ none →
      task = other

variable {told : Bool} {jobs : List Job} {main task other execution : Nat} {c d : Course}
  {t u v : Tasks Work WorkResult} {s : Simulation} {work rest : Work} {handle : Handle}
  {turn : Simulation.WorkTurn}

theorem Awaits.onward (awaits : Awaits t execution handle)
    (alive : ∀ task work, (task, work) ∈ v.alive →
      (task, work) ∈ t.alive ∨ task ≠ execution ∧ ¬ work.Delivers handle) :
    Awaits v execution handle := by
  intro task work member
  rcases alive task work member with before | ⟨apart, idle⟩
  · exact awaits task work before
  · exact iff_of_false apart idle

/-- A task fits still, if the call that it is for is as it was and so is the execution that it waits
for. -/
theorem Fits.onward (fits : Fits told main c t task work) (next : t.next ≤ v.next)
    (idle : c.Idle → d.Idle)
    (isOpen : ∀ handle, work.handle? = some handle → ∀ id delivered,
      c.IsOpen handle id delivered → d.IsOpen handle id delivered)
    (awaited : ∀ execution handle, work.awaited? = some execution → work.handle? = some handle →
      execution < t.next → Awaits t execution handle →
      v.result? execution = t.result? execution ∧ Awaits v execution handle) :
    Fits told main d v task work := by
  cases fits with
  | plain apart plain => exact .plain apart plain
  | attending untold => exact .attending untold
  | closing idle' => exact .closing fun untold => idle (idle' untold)
  | firing apart started isOpen' results awaits =>
    obtain ⟨same, awaits'⟩ := awaited _ _ rfl rfl started awaits
    exact .firing apart (Nat.lt_of_lt_of_le started next) (same ▸ isOpen _ rfl _ _ isOpen')
      (same ▸ results) awaits'
  | execution apart named isOpen' => exact .execution apart named (isOpen _ named _ _ isOpen')

/-! ## The other tasks after a turn -/

/-- A turn that does not deliver for a call leaves the execution for it, or its result. -/
theorem Awaits.settle (awaits : Awaits t execution handle) (bound : execution < t.next)
    (picked : t.pick? = some (task, work, u)) (idle : ¬ work.Delivers handle)
    (started : ∀ rest ∈ turn.started, ¬ rest.Delivers handle)
    (again : ∀ wait rest, turn.pause = .waiting wait rest → ¬ rest.Delivers handle) :
    (u.settle task turn).result? execution = t.result? execution ∧
      Awaits (u.settle task turn) execution handle := by
  have leaves := Tasks.pick_leaves picked
  -- the execution that is awaited would deliver for the call, if it is there still
  have apart : task ≠ execution := fun same => idle ((awaits task work (Tasks.pick_mem picked)).mp same)
  refine ⟨?_, awaits.onward fun other rest member => ?_⟩
  · rw [Tasks.settle_result_other turn apart.symm, leaves.result]
  · cases Tasks.mem_settle member with
    | other before _ => exact .inl (Tasks.mem_of_pick picked before)
    | started number begins =>
      refine .inr ⟨?_, started rest (List.mem_of_getElem? begins)⟩
      have next := leaves.next
      dsimp only at number
      omega
    | again number waits => exact .inr ⟨fun same => apart (number ▸ same), again _ _ waits⟩

theorem Follows.settle (follows : Follows told jobs main c t s)
    (picked : t.pick? = some (task, work, u)) (steps : List CourseStep)
    (scheduler : (c.performAll steps).process.scheduler = turn.state.scheduler)
    (fired : (c.performAll steps).fired = turn.state.dryRuns)
    (heard : (c.performAll steps).unheard = c.unheard) (kept : turn.state.isDropped = s.isDropped)
    (ends : ∀ result, turn.pause = .ended result → task ≠ main)
    (works : ∀ other rest, u.Remains task turn (other, rest) →
      Fits told main (c.performAll steps) (u.settle task turn) other rest)
    (sole : ∀ other rest other' rest', u.Remains task turn (other, rest) →
      u.Remains task turn (other', rest') → rest.isExecution = rest'.isExecution →
      rest.handle? = rest'.handle? → rest.handle? ≠ none → other = other') :
    Follows told jobs main (c.performAll steps) (u.settle task turn) turn.state where
  sound := follows.sound.performAll steps
  submitted := (Course.queue_submittedAll c steps follows.submitted).1
  heard := heard.trans follows.heard
  scheduler := scheduler
  fired := fired
  kept := kept.trans follows.kept
  executors := by
    rw [← scheduler, Course.performAll_executors, follows.scheduler, follows.executors]
  numbered := (follows.numbered.turns picked).settle turn
  leads := by
    rw [Tasks.settle_main, (Tasks.pick_leaves picked).main?, follows.leads]
  begun := by
    rw [Tasks.settle_next, (Tasks.pick_leaves picked).next]
    exact Nat.lt_of_lt_of_le follows.begun (Nat.le_add_right ..)
  unended := by
    have before := ((Tasks.pick_leaves picked).result main).trans follows.unended
    cases pause : turn.pause with
    | ended result => rw [Tasks.settle_result_other turn (ends result pause).symm, before]
    | waiting wait rest =>
      rw [Tasks.result?, Tasks.settle_results, pause]
      exact before
  works other rest member := works other rest (Tasks.mem_settle member)
  sole other rest other' rest' member member' :=
    sole other rest other' rest' (Tasks.mem_settle member) (Tasks.mem_settle member')

/-- An execution is for an open call that was not executed. -/
theorem Fits.unanswered (fits : Fits told main c t task work) (delivers : work.Delivers handle) :
    task ≠ main ∧ ∃ id, c.IsOpen handle id false := by
  obtain ⟨executes, named⟩ := delivers
  cases fits with
  | plain _ plain => simp [Work.handle_plain plain] at named
  | attending _ | closing _ | firing _ _ _ _ _ => cases executes
  | execution apart same isOpen =>
    have equal := same.symm.trans named
    cases equal
    exact ⟨apart, _, isOpen⟩

theorem Follows.later (follows : Follows told jobs main c t s)
    (picked : t.pick? = some (task, work, u)) (turn : Simulation.WorkTurn) :
    t.next ≤ (u.settle task turn).next ∧ ∀ i, u.next + i ≠ main ∧ t.next ≤ u.next + i := by
  have next := (Tasks.pick_leaves picked).next
  have begun := follows.begun
  rw [Tasks.settle_next, next]
  exact ⟨Nat.le_add_right .., fun i => ⟨by omega, Nat.le_add_right ..⟩⟩

/-- After a turn that starts no task for a call, those that are for one were there before, each alone. -/
theorem Follows.sole_onward (follows : Follows told jobs main c t s)
    (picked : t.pick? = some (task, work, u)) (plain : ∀ rest ∈ turn.started, rest.isPlain = true)
    (again : ∀ wait rest, turn.pause = .waiting wait rest → rest = work ∨ rest.handle? = none) :
    ∀ other rest other' rest', u.Remains task turn (other, rest) → u.Remains task turn (other', rest') →
      rest.isExecution = rest'.isExecution → rest.handle? = rest'.handle? → rest.handle? ≠ none →
        other = other' := by
  have kind : ∀ other rest, u.Remains task turn (other, rest) → rest.handle? ≠ none →
      (other, rest) ∈ t.alive := by
    intro other rest remains held
    cases remains with
    | other before _ => exact Tasks.mem_of_pick picked before
    | started _ begins =>
      exact absurd (Work.handle_plain (plain rest (List.mem_of_getElem? begins))) held
    | again number waits =>
      rcases again _ _ waits with same | aside
      · dsimp only at number same
        rw [number, same]
        exact Tasks.pick_mem picked
      · exact absurd aside held
  intro other rest other' rest' remains remains' same named held
  exact follows.sole other rest other' rest' (kind other rest remains held)
    (kind other' rest' remains' (named ▸ held)) same named held

/-- A task has its turn that is not an execution, and waits again as it did or is for no call any more. -/
theorem Follows.passes (follows : Follows told jobs main c t s)
    (picked : t.pick? = some (task, work, u)) (steps : List CourseStep)
    (scheduler : (c.performAll steps).process.scheduler = turn.state.scheduler)
    (fired : (c.performAll steps).fired = turn.state.dryRuns)
    (heard : (c.performAll steps).unheard = c.unheard) (kept : turn.state.isDropped = s.isDropped)
    (isOpen : ∀ other rest, u.Remains task turn (other, rest) → (other, rest) ∈ t.alive →
      ∀ handle, rest.handle? = some handle → ∀ id delivered, c.IsOpen handle id delivered →
        (c.performAll steps).IsOpen handle id delivered)
    (plain : ∀ rest ∈ turn.started, rest.isPlain = true)
    (ends : ∀ result, turn.pause = .ended result → task ≠ main)
    (idle : work.isExecution = false)
    (again : ∀ wait rest, turn.pause = .waiting wait rest → rest = work ∨
      rest.handle? = none ∧ ∀ v, Fits told main (c.performAll steps) v task rest) :
    Follows told jobs main (c.performAll steps) (u.settle task turn) turn.state := by
  obtain ⟨later, numbers⟩ := follows.later picked turn
  have undelivered := Work.not_delivers_idle idle
  have old : ∀ {other rest}, u.Remains task turn (other, rest) → (other, rest) ∈ t.alive →
      Fits told main (c.performAll steps) (u.settle task turn) other rest := by
    intro other rest remains before
    refine (follows.works other rest before).onward later
      (fun idle => idle.performAll follows.sound steps) (isOpen other rest remains before) ?_
    intro execution handle _ _ bound awaits
    refine awaits.settle bound picked (undelivered handle) ?_ ?_
    · exact fun rest started => Work.not_delivers (Work.handle_plain (plain rest started)) handle
    · intro wait rest waits
      rcases again wait rest waits with rfl | ⟨aside, _⟩
      · exact undelivered handle
      · exact Work.not_delivers aside handle
  refine follows.settle picked steps scheduler fired heard kept ends ?_
    (follows.sole_onward picked plain fun wait rest waits => (again wait rest waits).imp_right And.left)
  intro other rest remains
  have whole := remains
  cases remains with
  | other before _ => exact old whole (Tasks.mem_of_pick picked before)
  | @started i number begins =>
    dsimp only at number
    rw [number]
    exact .plain (numbers i).1 (plain rest (List.mem_of_getElem? begins))
  | again number waits =>
    dsimp only at number
    subst number
    rcases again _ _ waits with same | ⟨_, fits⟩
    · dsimp only at same
      subst same
      exact old whole (Tasks.pick_mem picked)
    · exact fits _

/-- A task that is for a call is so while the call is open. -/
theorem Fits.isOpen (fits : Fits told main c t task work) (named : work.handle? = some handle) :
    ∃ id delivered, c.IsOpen handle id delivered := by
  cases fits with
  | plain _ plain => simp [Work.handle_plain plain] at named
  | attending _ | closing _ => cases named
  | firing _ _ isOpen _ _ =>
    cases named
    exact ⟨_, _, isOpen⟩
  | execution _ same isOpen =>
    have equal := same.symm.trans named
    cases equal
    exact ⟨_, _, isOpen⟩

/-! ## Claims -/

/-- A turn that claims a job for a timer's call. The execution is the first task that it starts, and it
waits for that. -/
structure Claims (next : Nat) (turn : Simulation.WorkTurn) (job : Job) (handle : Handle) : Prop where
  named : job.handle? = some handle
  starts : ∃ works, turn.started = .execution .dryRun job :: works ∧
    ∀ rest ∈ works, rest.isPlain = true
  waits : ∃ wait limit? untilMs?, turn.pause = .waiting wait
    (.firing ⟨job.id, handle, .executing next limit? untilMs?, .confirm⟩)

/-- A task after such a turn. -/
inductive Claimed (u : Tasks Work WorkResult) (task : Nat) (job : Job) (handle : Handle) :
    Nat → Work → Prop
  | other {number : Nat} {work : Work} (before : (number, work) ∈ u.alive) :
    Claimed u task job handle number work
  | execution : Claimed u task job handle u.next (.execution .dryRun job)
  | started {number : Nat} {work : Work} (later : u.next < number) (plain : work.isPlain = true) :
    Claimed u task job handle number work
  | firing {limit? untilMs? : Option Nat} : Claimed u task job handle task
      (.firing ⟨job.id, handle, .executing u.next limit? untilMs?, .confirm⟩)

variable {job : Job}

theorem Claims.remains (claims : Claims u.next turn job handle)
    (remains : u.Remains task turn (other, rest)) : Claimed u task job handle other rest := by
  obtain ⟨works, starts, plain⟩ := claims.starts
  obtain ⟨wait, limit?, untilMs?, waits⟩ := claims.waits
  cases remains with
  | other before _ => exact .other before
  | @started i number begun =>
    dsimp only at number begun
    rw [starts] at begun
    cases i with
    | zero =>
      cases begun
      rw [number]
      exact .execution
    | succ i => exact .started (by omega) (plain rest (List.mem_of_getElem? begun))
  | again number same =>
    dsimp only at number same
    rw [waits] at same
    cases same
    rw [number]
    exact .firing

/-- What a claim starts and waits for is for no other call. -/
theorem Claims.spares {foreign : Handle} (claims : Claims u.next turn job handle)
    (apart : foreign ≠ handle) : (∀ rest ∈ turn.started, ¬ rest.Delivers foreign) ∧
      ∀ wait rest, turn.pause = .waiting wait rest → ¬ rest.Delivers foreign := by
  obtain ⟨works, starts, plain⟩ := claims.starts
  obtain ⟨_, _, _, waits⟩ := claims.waits
  constructor
  · intro rest member
    rw [starts] at member
    rcases List.mem_cons.mp member with rfl | later
    · rintro ⟨_, same⟩
      exact apart (Option.some.inj (same.symm.trans claims.named))
    · exact Work.not_delivers (Work.handle_plain (plain rest later)) foreign
  · intro wait rest same
    rw [waits] at same
    cases same
    exact Work.not_delivers_idle rfl foreign

/-- The new execution is for the call, and no other task is. -/
theorem Claims.awaits (claims : Claims u.next turn job handle) (turns : u.Turns task)
    (foreign : ∀ other rest, (other, rest) ∈ u.alive → rest.handle? ≠ some handle) :
    Awaits (u.settle task turn) u.next handle := by
  intro other rest member
  cases claims.remains (Tasks.mem_settle member) with
  | other before =>
    have earlier := turns.numbered.started _ before
    exact iff_of_false (Nat.ne_of_lt earlier) fun delivers => foreign other rest before delivers.2
  | execution => exact iff_of_true rfl ⟨rfl, claims.named⟩
  | started later plain =>
    exact iff_of_false (Nat.ne_of_gt later) (Work.not_delivers (Work.handle_plain plain) handle)
  | firing => exact iff_of_false (Nat.ne_of_lt turns.started) (Work.not_delivers_idle rfl handle)

/-- A task that is for a call was there before, or is for this one, as its execution or its firing. -/
theorem Claimed.role (claimed : Claimed u task job handle other rest)
    (named : job.handle? = some handle) (held : rest.handle? ≠ none) :
    (other, rest) ∈ u.alive ∨
    rest.handle? = some handle ∧ other = if rest.isExecution then u.next else task := by
  cases claimed with
  | other before => exact .inl before
  | execution => exact .inr ⟨named, rfl⟩
  | started _ plain => exact absurd (Work.handle_plain plain) held
  | firing => exact .inr ⟨rfl, rfl⟩

/-- A task claims a job for a timer's call, starts the execution, and waits for it. -/
theorem Follows.claims (follows : Follows told jobs main c t s)
    (picked : t.pick? = some (task, work, u)) (steps : List CourseStep)
    (scheduler : (c.performAll steps).process.scheduler = turn.state.scheduler)
    (fired : (c.performAll steps).fired = turn.state.dryRuns)
    (heard : (c.performAll steps).unheard = c.unheard) (kept : turn.state.isDropped = s.isDropped)
    (isOpen : ∀ handle id delivered, c.IsOpen handle id delivered →
      (c.performAll steps).IsOpen handle id delivered)
    (apart : task ≠ main) (idle : work.isExecution = false)
    (fresh : ∀ id delivered, ¬ c.IsOpen handle id delivered)
    (claimed : (c.performAll steps).IsOpen handle job.id false)
    (claims : Claims u.next turn job handle) :
    Follows told jobs main (c.performAll steps) (u.settle task turn) turn.state := by
  have turns := follows.numbered.turns picked
  have next := (Tasks.pick_leaves picked).next
  have begun := follows.begun
  obtain ⟨later, _⟩ := follows.later picked turn
  obtain ⟨works, starts, _⟩ := claims.starts
  obtain ⟨_, _, _, waits⟩ := claims.waits
  have foreign : ∀ other rest, (other, rest) ∈ u.alive → rest.handle? ≠ some handle := by
    intro other rest before same
    obtain ⟨id, delivered, isOpen⟩ :=
      (follows.works other rest (Tasks.mem_of_pick picked before)).isOpen same
    exact fresh id delivered isOpen
  have unended : (u.settle task turn).result? u.next = none := by
    rw [Tasks.result?, Tasks.settle_results, waits, ← Option.not_isSome_iff_eq_none]
    exact fun ended => Nat.lt_irrefl _ (turns.numbered.ended _ ended).1
  refine follows.settle picked steps scheduler fired heard kept ?_ ?_ ?_
  · intro result ended
    simp [waits] at ended
  · intro other rest remains
    cases claims.remains remains with
    | other before =>
      refine (follows.works other rest (Tasks.mem_of_pick picked before)).onward later
        (fun idle => idle.performAll follows.sound steps)
        (fun handle _ id delivered => isOpen handle id delivered) ?_
      intro execution handle' _ same bound awaits
      have different : handle' ≠ handle := fun equal => foreign other rest before (equal ▸ same)
      obtain ⟨started, again⟩ := claims.spares different
      exact awaits.settle bound picked (Work.not_delivers_idle idle handle') started again
    | execution => exact .execution (by omega) claims.named claimed
    | started later plain => exact .plain (by omega) plain
    | firing =>
      refine .firing apart ?_ (by rw [unended]; exact claimed) ?_ (claims.awaits turns foreign)
      · rw [Tasks.settle_next, starts, List.length_cons]
        omega
      · intro result ended
        simp [unended] at ended
  · intro other rest other' rest' remains remains' kind same held
    rcases (claims.remains remains).role claims.named held with before | ⟨mine, role⟩ <;>
      rcases (claims.remains remains').role claims.named (same ▸ held) with before' | ⟨mine', role'⟩
    · exact follows.sole other rest other' rest' (Tasks.mem_of_pick picked before)
        (Tasks.mem_of_pick picked before') kind same held
    · exact absurd (same.trans mine') (foreign other rest before)
    · exact absurd (same.symm.trans mine) (foreign other' rest' before')
    · rw [role, role', kind]

/-! ## The end of a call -/

/-- A firing ends whose call is not open any more. -/
theorem Follows.completes {id : JobId} {limit? untilMs? : Option Nat} {result : WorkResult}
    (follows : Follows told jobs main c t s)
    (picked : t.pick? = some
      (task, .firing ⟨id, handle, .executing execution limit? untilMs?, .confirm⟩, u))
    (step : CourseStep) (scheduler : (c.perform step).process.scheduler = turn.state.scheduler)
    (fired : (c.perform step).fired = turn.state.dryRuns) (kept : turn.state.isDropped = s.isDropped)
    (handles : Course.Handles c (c.perform step) handle)
    (expired : (t.result? execution).isSome = true ∨ execution ∈ turn.stopped)
    (plain : ∀ rest ∈ turn.started, rest.isPlain = true) (ended : turn.pause = .ended result) :
    Follows told jobs main (c.perform step) (u.settle task turn) turn.state := by
  have member := Tasks.pick_mem picked
  have turns := follows.numbered.turns picked
  cases follows.works task _ member with
  | plain _ plain => cases plain
  | firing apart _ isOpen _ awaits =>
    refine follows.passes picked [step] scheduler fired handles.unheard kept ?_ plain
      (fun _ _ => apart) rfl fun wait rest waits => by simp [ended] at waits
    intro other rest remains before handle' named id' delivered isOpen'
    refine handles.others handle' id' delivered ?_ isOpen'
    rintro rfl
    cases remains with
    | other there kept =>
      cases executes : rest.isExecution with
      | false =>
        exact turns.apart there (follows.sole other rest task _ before member executes named
          (by simp [named]))
      | true =>
        -- an execution for the call is the one that was awaited, which has ended or was stopped
        have same := (awaits other rest before).mpr ⟨executes, named⟩
        subst same
        obtain ⟨aside, _, unanswered⟩ := (follows.works other rest before).unanswered ⟨executes, named⟩
        rcases expired with ended | stopped
        · rw [ended] at isOpen
          exact Bool.false_ne_true (follows.sound.isOpen_unique unanswered isOpen).2
        · have leads := turns.numbered.deferred _ (kept stopped)
          rw [(Tasks.pick_leaves picked).main?, follows.leads] at leads
          exact aside (Option.some.inj leads).symm
    | started _ begun =>
      simp [Work.handle_plain (plain rest (List.mem_of_getElem? begun))] at named
    | again _ waits => simp [ended] at waits

/-- The firing that waits for an execution has its answer when that ends. -/
theorem Fits.answered {job : Job} {now : Instant} (fits : Fits told main c t other rest)
    (named : rest.handle? = some handle) (waits : rest.isExecution = false) (sound : Course.Sound jobs c)
    (execution : (task, Work.execution .dryRun job) ∈ t.alive) (owned : job.handle? = some handle)
    (isOpen : c.IsOpen handle job.id false) (executed : d.IsOpen handle job.id true)
    (next : t.next ≤ v.next) (result : v.result? task = some (.executed (outcome now job.id)))
    (onward : Awaits t task handle → Awaits v task handle) : Fits told main d v other rest := by
  cases fits with
  | @firing _ awaited id _ _ _ apart started isOpen' _ awaits =>
    cases named
    have same : task = awaited := (awaits task _ execution).mpr ⟨rfl, owned⟩
    subst same
    have owner : id = job.id := (sound.isOpen_unique isOpen' isOpen).1
    subst owner
    refine .firing apart (Nat.lt_of_lt_of_le started next) ?_ ?_ (onward awaits)
    · rw [result]
      exact executed
    · intro told answer
      rw [result] at answer
      exact ⟨now, (Option.some.inj answer).symm⟩
  | plain _ plain => simp [Work.handle_plain plain] at named
  | attending _ | closing _ => cases named
  | execution _ _ _ => cases waits

/-- A job is executed. -/
theorem Follows.executes {job : Job} {now : Instant} (follows : Follows told jobs main c t s)
    (picked : t.pick? = some (task, .execution .dryRun job, u)) (named : job.handle? = some handle)
    (isOpen : c.IsOpen handle job.id false) (step : CourseStep)
    (scheduler : (c.perform step).process.scheduler = turn.state.scheduler)
    (fired : (c.perform step).fired = turn.state.dryRuns) (kept : turn.state.isDropped = s.isDropped)
    (executed : (c.perform step).IsOpen handle job.id true)
    (handles : Course.Handles c (c.perform step) handle)
    (plain : ∀ rest ∈ turn.started, rest.isPlain = true)
    (ended : turn.pause = .ended (.executed (outcome now job.id))) :
    Follows told jobs main (c.perform step) (u.settle task turn) turn.state := by
  have member := Tasks.pick_mem picked
  have turns := follows.numbered.turns picked
  obtain ⟨later, numbers⟩ := follows.later picked turn
  obtain ⟨apart, _⟩ := (follows.works task _ member).unanswered ⟨rfl, named⟩
  have undelivered : ∀ foreign, ∀ rest ∈ turn.started, ¬ rest.Delivers foreign :=
    fun foreign rest started => Work.not_delivers (Work.handle_plain (plain rest started)) foreign
  have old : ∀ other rest, (other, rest) ∈ u.alive →
      Fits told main (c.perform step) (u.settle task turn) other rest := by
    intro other rest there
    have before := Tasks.mem_of_pick picked there
    -- of the tasks for this call only the firing is left, which has its answer now
    by_cases mine : rest.handle? = some handle
    · have waits : rest.isExecution = false := by
        rw [Bool.eq_false_iff]
        intro executes
        exact turns.apart there (follows.sole other rest task _ before member executes
          (mine.trans named.symm) (by simp [mine]))
      refine (follows.works other rest before).answered mine waits follows.sound member named isOpen
        executed later (Tasks.settle_result_ended ended) fun awaits => awaits.onward ?_
      intro other' rest' there'
      cases Tasks.mem_settle there' with
      | other old _ => exact .inl (Tasks.mem_of_pick picked old)
      | @started i number begun =>
        have next := (numbers i).2
        have bound := (Tasks.pick_leaves picked).next ▸ turns.started
        dsimp only at number
        exact .inr ⟨by omega, undelivered _ _ (List.mem_of_getElem? begun)⟩
      | again _ waits => simp [ended] at waits
    · refine (follows.works other rest before).onward later
        (fun idle => idle.perform follows.sound step) ?_ ?_
      · intro handle' owns id delivered
        exact handles.others handle' id delivered fun equal => mine (equal ▸ owns)
      · intro execution handle' _ owns bound awaits
        refine awaits.settle bound picked ?_ (undelivered handle') ?_
        · exact fun delivers => mine (owns.trans (delivers.2.symm.trans named))
        · exact fun wait rest waits => by simp [ended] at waits
  refine follows.settle picked [step] scheduler fired handles.unheard kept (fun _ _ => apart) ?_
    (follows.sole_onward picked plain fun wait rest waits => by simp [ended] at waits)
  intro other rest remains
  cases remains with
  | other there _ => exact old other rest there
  | @started i number begun =>
    dsimp only at number
    rw [number]
    exact .plain (numbers i).1 (plain rest (List.mem_of_getElem? begun))
  | again _ waits => simp [ended] at waits

end DryRun

end Punctual
