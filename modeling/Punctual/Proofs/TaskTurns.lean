import Mathlib.Data.List.Nodup
import Mathlib.Data.List.Perm.Basic
import Mathlib.Logic.Function.Iterate
import Punctual.Tasks

/-!
Tasks by their numbers. Each task that has not ended is ready, deferred or waiting, once; a task's turn
leaves the others where they are but for those that it stops, and adds those that it starts. A run
is as many turns and movements of the clock, one after another.
-/
namespace Punctual

namespace Tasks

variable {σ τ ρ : Type} {t u : Tasks τ ρ} {task other : Nat} {work : τ} {x : Nat × τ}
  {turn : Turn σ τ ρ}

/-- The tasks that have not ended, with what they have yet to do. -/
def alive (t : Tasks τ ρ) : List (Nat × τ) :=
  t.ready ++ t.deferred ++ t.waiting.map fun (task, _, work) => (task, work)

/-- Tasks are numbered in the order in which they were started, no two alike, and none goes on once it
has ended. Only the main task is deferred. -/
structure Numbered (t : Tasks τ ρ) : Prop where
  distinct : (t.alive.map (·.1)).Nodup
  started : ∀ x ∈ t.alive, x.1 < t.next
  ended : ∀ task, (t.result? task).isSome = true → task < t.next ∧ task ∉ t.alive.map (·.1)
  deferred : ∀ x ∈ t.deferred, t.main? = some x.1

/-! ## Waking -/

/-- What is woken is split in two, and what is not stays. -/
private theorem woken_perm {α β : Type} (going : α → β) (woken : α → Bool) (isMain : β → Bool)
    (waiting : List α) :
    (((waiting.filter woken).map going).filter isMain ++
      ((waiting.filter woken).map going).filter (not ∘ isMain) ++
      (waiting.filter (not ∘ woken)).map going).Perm (waiting.map going) := by
  refine ((List.filter_append_perm isMain _).append_right _).trans ?_
  rw [← List.map_append]
  exact (List.filter_append_perm woken waiting).map _

/-- Wherever in line those go that are woken. -/
private theorem line_perm {α : Type} {main others rest all : List α} (ready deferred : List α)
    (parts : (main ++ others ++ rest).Perm all) :
    (ready ++ others ++ (deferred ++ main) ++ rest).Perm (ready ++ deferred ++ all) ∧
    (main ++ ready ++ others ++ deferred ++ rest).Perm (ready ++ deferred ++ all) := by
  classical
  simp only [List.perm_iff_count, List.count_append] at parts ⊢
  constructor <;> intro x <;> have part := parts x <;> omega

theorem wake_alive (t : Tasks τ ρ) (woken : Nat → Wait → Bool) :
    (t.wake woken).alive.Perm t.alive := by
  simp only [wake, alive, List.partition_eq_filter_filter]
  exact (line_perm t.ready t.deferred (woken_perm _ _ _ t.waiting)).1

theorem wakeAt_alive (t : Tasks τ ρ) (reading : Nat) : (t.wakeAt reading).alive.Perm t.alive := by
  simp only [wakeAt, alive, List.partition_eq_filter_filter]
  exact (line_perm t.ready t.deferred (woken_perm _ _ _ t.waiting)).2

theorem wake_deferred (t : Tasks τ ρ) (woken : Nat → Wait → Bool)
    (deferred : ∀ x ∈ t.deferred, t.main? = some x.1) :
    ∀ x ∈ (t.wake woken).deferred, t.main? = some x.1 := by
  intro x member
  simp only [wake, List.partition_eq_filter_filter, List.mem_append, List.mem_filter, beq_iff_eq]
    at member
  exact member.elim (deferred x) (·.2)

theorem Numbered.of_perm (numbered : t.Numbered) (alive : u.alive.Perm t.alive)
    (next : u.next = t.next) (results : u.results = t.results)
    (deferred : ∀ x ∈ u.deferred, u.main? = some x.1) : u.Numbered where
  distinct := (alive.map _).nodup_iff.mpr numbered.distinct
  started x member := next ▸ numbered.started x (alive.mem_iff.mp member)
  ended task result := by
    have same : u.result? task = t.result? task := by rw [result?, results, result?]
    rw [same] at result
    have before := numbered.ended task result
    rw [next, (alive.map _).mem_iff]
    exact before
  deferred := deferred

theorem Numbered.wake (numbered : t.Numbered) (woken : Nat → Wait → Bool) :
    (t.wake woken).Numbered :=
  numbered.of_perm (wake_alive t woken) rfl rfl (wake_deferred t woken numbered.deferred)

theorem Numbered.wakeAt (numbered : t.Numbered) (reading : Nat) : (t.wakeAt reading).Numbered :=
  numbered.of_perm (wakeAt_alive t reading) rfl rfl numbered.deferred

/-! ## Picking -/

theorem pick_alive (picked : t.pick? = some (task, work, u)) :
    t.alive.Perm ((task, work) :: u.alive) := by
  unfold pick? at picked
  split at picked <;> cases picked
  · rename_i ready
    simp only [alive, ready, List.cons_append]
    exact .refl _
  · rename_i ready deferred
    simp only [alive, ready, deferred, List.nil_append, List.cons_append]
    exact .refl _

/-- The other tasks are as they were. -/
structure Leaves (t u : Tasks τ ρ) : Prop where
  next : u.next = t.next
  results : u.results = t.results
  main? : u.main? = t.main?
  deferred : ∀ x ∈ u.deferred, x ∈ t.deferred

theorem pick_leaves (picked : t.pick? = some (task, work, u)) : Leaves t u := by
  unfold pick? at picked
  split at picked <;> cases picked
  · exact ⟨rfl, rfl, rfl, fun _ member => member⟩
  · rename_i deferred
    refine ⟨rfl, rfl, rfl, fun x member => ?_⟩
    rw [deferred]
    exact List.mem_cons_of_mem _ member

theorem Leaves.result (leaves : Leaves t u) (task : Nat) : u.result? task = t.result? task := by
  rw [result?, leaves.results, result?]

theorem pick_mem (picked : t.pick? = some (task, work, u)) : (task, work) ∈ t.alive :=
  (pick_alive picked).mem_iff.mpr List.mem_cons_self

theorem mem_of_pick (picked : t.pick? = some (task, work, u)) (member : x ∈ u.alive) :
    x ∈ t.alive :=
  (pick_alive picked).mem_iff.mpr (List.mem_cons_of_mem _ member)

/-- A task is having its turn. -/
structure Turns (u : Tasks τ ρ) (task : Nat) : Prop where
  numbered : u.Numbered
  started : task < u.next
  gone : task ∉ u.alive.map (·.1)
  unended : u.result? task = none

theorem Numbered.turns (numbered : t.Numbered) (picked : t.pick? = some (task, work, u)) :
    u.Turns task := by
  have perm := pick_alive picked
  have leaves := pick_leaves picked
  have distinct := (perm.map (·.1)).nodup_iff.mp numbered.distinct
  rw [List.map_cons, List.nodup_cons] at distinct
  constructor
  case numbered =>
    constructor
    case distinct => exact distinct.2
    case started =>
      intro x before
      rw [leaves.next]
      exact numbered.started x (mem_of_pick picked before)
    case ended =>
      intro other ended
      rw [leaves.result] at ended
      obtain ⟨started, gone⟩ := numbered.ended other ended
      rw [(perm.map _).mem_iff, List.map_cons, List.mem_cons, not_or] at gone
      exact ⟨leaves.next ▸ started, gone.2⟩
    case deferred =>
      intro x before
      rw [leaves.main?]
      exact numbered.deferred x (leaves.deferred x before)
  case started => exact leaves.next ▸ numbered.started _ (pick_mem picked)
  case gone => exact distinct.1
  case unended =>
    rw [leaves.result, ← Option.not_isSome_iff_eq_none]
    exact fun ended => (numbered.ended task ended).2 (List.mem_map_of_mem (pick_mem picked))

theorem Turns.apart (turns : u.Turns task) (member : (other, work) ∈ u.alive) : other ≠ task := by
  rintro rfl
  exact turns.gone (List.mem_map_of_mem member)

/-! ## A turn -/

theorem start_alive (t : Tasks τ ρ) (works : List τ) :
    (t.start works).alive.Perm (t.alive ++ works.mapIdx fun i work => (t.next + i, work)) := by
  simp only [start, alive, List.append_assoc]
  refine List.Perm.append_left _ ?_
  refine List.perm_append_comm.trans ?_
  rw [List.append_assoc]

theorem numbers_started (next : Nat) (works : List τ) :
    (works.mapIdx fun i work => (next + i, work)).map (·.1) = List.range' next works.length := by
  refine List.ext_getElem (by simp) fun i _ _ => ?_
  simp

theorem Numbered.start (numbered : t.Numbered) (works : List τ) : (t.start works).Numbered := by
  have perm := start_alive t works
  have numbers := numbers_started t.next works
  constructor
  case distinct =>
    rw [(perm.map _).nodup_iff, List.map_append, numbers, List.nodup_append]
    refine ⟨numbered.distinct, List.nodup_range', ?_⟩
    rintro a before b new rfl
    obtain ⟨x, member, rfl⟩ := List.mem_map.mp before
    have bound := numbered.started x member
    rw [List.mem_range'_1] at new
    omega
  case started =>
    intro x member
    change x.1 < t.next + works.length
    rcases List.mem_append.mp (perm.mem_iff.mp member) with before | new
    · exact Nat.lt_of_lt_of_le (numbered.started x before) (Nat.le_add_right ..)
    · have number := List.mem_map_of_mem (f := (·.1)) new
      rw [numbers, List.mem_range'_1] at number
      exact number.2
  case ended =>
    intro task result
    obtain ⟨started, gone⟩ := numbered.ended task result
    refine ⟨Nat.lt_of_lt_of_le started (Nat.le_add_right ..), ?_⟩
    rw [(perm.map _).mem_iff, List.map_append, numbers, List.mem_append, List.mem_range'_1]
    rintro (before | new)
    · exact gone before
    · omega
  case deferred => exact numbered.deferred

theorem numbered_empty : (empty : Tasks τ ρ).Numbered where
  distinct := .nil
  started _ member := absurd member List.not_mem_nil
  ended _ ended := by cases ended
  deferred _ member := absurd member List.not_mem_nil

/-- A main task is started while there is none. -/
theorem Numbered.startMain (numbered : t.Numbered) (leaderless : t.main? = none) (work : τ) :
    (t.startMain work).Numbered where
  distinct := by
    refine List.nodup_cons.mpr ⟨fun member => ?_, numbered.distinct⟩
    obtain ⟨x, there, same⟩ := List.mem_map.mp member
    have bound := numbered.started x there
    exact absurd same (Nat.ne_of_lt bound)
  started x member := by
    rcases List.mem_cons.mp member with rfl | before
    · exact Nat.lt_succ_self _
    · exact Nat.lt_succ_of_lt (numbered.started x before)
  ended task result := by
    obtain ⟨started, gone⟩ := numbered.ended task result
    refine ⟨Nat.lt_succ_of_lt started, fun member => ?_⟩
    rcases List.mem_cons.mp member with rfl | before
    · exact Nat.lt_irrefl _ started
    · exact gone before
  deferred x member := by
    have main := numbered.deferred x member
    simp [leaderless] at main

theorem stop_alive (t : Tasks τ ρ) (tasks : List Nat) : (t.stop tasks).alive.Sublist t.alive :=
  ((List.filter_sublist.append (.refl _)).append (List.filter_sublist.map _))

/-- Only a deferred task is not stopped. -/
theorem mem_stop {tasks : List Nat} (member : x ∈ (t.stop tasks).alive) :
    x.1 ∈ tasks → x ∈ t.deferred := by
  intro stopped
  simp only [alive, stop, List.mem_append, List.mem_filter, List.mem_map, Bool.not_eq_true',
    List.contains_eq_mem, decide_eq_false_iff_not] at member
  rcases member with (⟨_, kept⟩ | deferred) | ⟨_, ⟨_, kept⟩, rfl⟩
  · exact absurd stopped kept
  · exact deferred
  · exact absurd stopped kept

theorem Numbered.stop (numbered : t.Numbered) (tasks : List Nat) : (t.stop tasks).Numbered where
  distinct := numbered.distinct.sublist ((stop_alive t tasks).map _)
  started x member := numbered.started x ((stop_alive t tasks).subset member)
  ended task result :=
    have before := numbered.ended task result
    ⟨before.1, fun member => before.2 (((stop_alive t tasks).map _).subset member)⟩
  deferred := numbered.deferred

theorem waiting_alive (t : Tasks τ ρ) (task : Nat) (wait : Wait) (rest : τ) :
    Tasks.alive { t with waiting := t.waiting ++ [(task, wait, rest)] } =
      t.alive ++ [(task, rest)] := by
  simp only [alive, List.map_append, List.map_cons, List.map_nil, List.append_assoc]

/-- A task after another's turn: it was there before, or was started, or is the one that had the turn
and waits. -/
inductive Remains (u : Tasks τ ρ) (task : Nat) (turn : Turn σ τ ρ) (x : Nat × τ) : Prop
  | other (before : x ∈ u.alive) (kept : x.1 ∈ turn.stopped → x ∈ u.deferred)
  | started {i : Nat} (number : x.1 = u.next + i) (work : turn.started[i]? = some x.2)
  | again {wait : Wait} (number : x.1 = task) (waits : turn.pause = .waiting wait x.2)

/-- The tasks when all has been done for a turn but to note how it ended. -/
private def stirred (u : Tasks τ ρ) (turn : Turn σ τ ρ) : Tasks τ ρ :=
  ((u.start turn.started).stop turn.stopped).wake fun other _ => turn.woken.contains other

private theorem settle_eq (u : Tasks τ ρ) (task : Nat) (turn : Turn σ τ ρ) :
    u.settle task turn = match turn.pause with
      | .ended result => { u.stirred turn with results := (task, result) :: u.results }.wake
          fun _ wait => wait.tasks.contains task
      | .waiting wait rest =>
        { u.stirred turn with waiting := (u.stirred turn).waiting ++ [(task, wait, rest)] } := rfl

theorem settle_next (u : Tasks τ ρ) (task : Nat) (turn : Turn σ τ ρ) :
    (u.settle task turn).next = u.next + turn.started.length := by
  rw [settle_eq]
  split <;> rfl

theorem settle_main (u : Tasks τ ρ) (task : Nat) (turn : Turn σ τ ρ) :
    (u.settle task turn).main? = u.main? := by
  rw [settle_eq]
  split <;> rfl

/-- Only the task that has its turn may get a result. -/
theorem settle_results (u : Tasks τ ρ) (task : Nat) (turn : Turn σ τ ρ) :
    (u.settle task turn).results = match turn.pause with
      | .ended result => (task, result) :: u.results
      | .waiting _ _ => u.results := by
  rw [settle_eq]
  split <;> rfl

theorem settle_result_other (turn : Turn σ τ ρ) (apart : other ≠ task) :
    (u.settle task turn).result? other = u.result? other := by
  have different : (other == task) = false := by simpa using apart
  rw [result?, settle_results]
  split
  · rw [List.lookup_cons, different]
    rfl
  · rfl

theorem settle_result_ended {result : ρ} (ended : turn.pause = .ended result) :
    (u.settle task turn).result? task = some result := by
  rw [result?, settle_results, ended]
  simp

private theorem stirred_alive (member : x ∈ (u.stirred turn).alive) :
    (x ∈ u.alive ∧ (x.1 ∈ turn.stopped → x ∈ u.deferred)) ∨
    ∃ i, x.1 = u.next + i ∧ turn.started[i]? = some x.2 := by
  have stayed := (wake_alive _ _).mem_iff.mp member
  have before := (start_alive u turn.started).mem_iff.mp ((stop_alive _ _).subset stayed)
  rcases List.mem_append.mp before with before | new
  · exact .inl ⟨before, mem_stop (t := u.start turn.started) stayed⟩
  · obtain ⟨i, bound, same⟩ := List.mem_mapIdx.mp new
    rw [← same]
    exact .inr ⟨i, rfl, List.getElem?_eq_getElem bound⟩

theorem mem_settle (member : x ∈ (u.settle task turn).alive) : Remains u task turn x := by
  have stirred : x ∈ (u.stirred turn).alive → Remains u task turn x := by
    intro member
    rcases stirred_alive member with ⟨before, kept⟩ | ⟨i, number, work⟩
    · exact .other before kept
    · exact .started number work
  rw [settle_eq] at member
  cases pause : turn.pause with
  | ended result =>
    rw [pause] at member
    have before := (wake_alive { u.stirred turn with results := (task, result) :: u.results }
      fun _ wait => wait.tasks.contains task).mem_iff.mp member
    exact stirred before
  | waiting wait rest =>
    rw [pause] at member
    have waits := waiting_alive (u.stirred turn) task wait rest
    rcases List.mem_append.mp (waits ▸ member) with before | again
    · exact stirred before
    · rw [List.mem_singleton] at again
      subst again
      exact .again rfl pause

theorem Turns.settle (turns : u.Turns task) (turn : Turn σ τ ρ) : (u.settle task turn).Numbered := by
  have stirred : (u.stirred turn).Numbered :=
    ((turns.numbered.start turn.started).stop turn.stopped).wake _
  have later : task < (u.stirred turn).next := Nat.lt_of_lt_of_le turns.started (Nat.le_add_right ..)
  have gone : task ∉ (u.stirred turn).alive.map (·.1) := by
    intro member
    obtain ⟨x, there, same⟩ := List.mem_map.mp member
    rcases stirred_alive there with ⟨before, _⟩ | ⟨i, number, _⟩
    · exact turns.gone (List.mem_map.mpr ⟨x, before, same⟩)
    · have bound := turns.started
      omega
  rw [settle_eq]
  cases turn.pause with
  | ended result =>
    have noted : Numbered { u.stirred turn with results := (task, result) :: u.results } := by
      refine ⟨stirred.distinct, stirred.started, fun other ended => ?_, stirred.deferred⟩
      by_cases same : other = task
      · subst other
        exact ⟨later, gone⟩
      · have apart : (other == task) = false := by simpa using same
        simp only [result?, List.lookup_cons, apart] at ended
        exact stirred.ended other ended
    exact noted.wake _
  | waiting wait rest =>
    have alive := waiting_alive (u.stirred turn) task wait rest
    refine ⟨?_, fun x member => ?_, fun other ended => ?_, stirred.deferred⟩
    · rw [alive, List.map_append, List.map_singleton, List.nodup_append]
      refine ⟨stirred.distinct, List.nodup_singleton _, ?_⟩
      rintro a before b again rfl
      have same : a = task := List.mem_singleton.mp again
      exact gone (same ▸ before)
    · rw [alive] at member
      rcases List.mem_append.mp member with before | again
      · exact stirred.started x before
      · rw [List.mem_singleton] at again
        exact again ▸ later
    · obtain ⟨started, absent⟩ := stirred.ended other ended
      refine ⟨started, ?_⟩
      rw [alive, List.map_append, List.mem_append, List.map_singleton, List.mem_singleton]
      rintro (before | rfl)
      · exact absent before
      · have unended := turns.unended
        change (u.result? other).isSome = true at ended
        rw [unended] at ended
        cases ended

end Tasks

/-! ## Runs -/

namespace TaskRules

variable {σ τ ρ : Type}

/-- One turn, or one movement of the clock; nothing, if the run is at its end. -/
def advance (rules : TaskRules σ τ ρ) (now : Tasks τ ρ × σ) : Tasks τ ρ × σ :=
  match now.1.pick? with
  | some (task, work, others) =>
    let turn := rules.turn task others work now.2
    (others.settle task turn, turn.state)
  | none =>
    if (now.1.main?.bind now.1.result?).isSome then now
    else
      match now.1.main?.bind fun _ => now.1.nextReading? with
      | some reading => (now.1.wakeAt reading, rules.moveTo now.2 reading)
      | none => now

theorem run_eq_iterate (rules : TaskRules σ τ ρ) (turns : Nat) (tasks : Tasks τ ρ) (state : σ) :
    rules.run turns tasks state = rules.advance^[turns] (tasks, state) := by
  induction turns generalizing tasks state with
  | zero => rfl
  | succ more ih =>
    have stays : rules.advance (tasks, state) = (tasks, state) →
        rules.advance^[more] (rules.advance (tasks, state)) = (tasks, state) := by
      intro fixed
      rw [fixed, Function.iterate_fixed fixed]
    rw [Function.iterate_succ_apply]
    cases picked : tasks.pick? with
    | some found =>
      obtain ⟨task, work, others⟩ := found
      simp only [run, advance, picked]
      exact ih _ _
    | none =>
      by_cases ended : (tasks.main?.bind tasks.result?).isSome = true
      · rw [stays (by simp only [advance, picked, ended, if_true])]
        simp only [run, picked, ended, if_true]
      · cases next : tasks.main?.bind fun _ => tasks.nextReading? with
        | some reading =>
          simp only [run, advance, picked, ended, next]
          exact ih _ _
        | none =>
          rw [stays (by simp [advance, picked, ended, next])]
          simp [run, picked, ended, next]

end TaskRules

end Punctual
