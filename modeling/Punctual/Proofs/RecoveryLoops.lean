import Punctual.Manager

/-!
Starts and shutdowns of one manager, which overlap. A start is one step. A shutdown that finds a loop
tells it to end, lets others go on until it has ended, and then notes that no loop is running. That is
true unless a loop was started meanwhile, which takes a second shutdown: one that overtakes the first,
finds no loop to wait for and notes the same at once. As long as no shutdown is overtaken in this way, one
loop at most is left to itself, and the next shutdown stops it. A shutdown that is overtaken leaves the new
loop to itself in a manager that takes itself to be idle, and the next start loses it for good.
-/
namespace Punctual

/-- A manager with the loops that were started and the shutdowns that wait for loops to end. -/
structure Supervision where
  manager : Manager
  /-- loops started so far, which are numbered from one -/
  started : Nat
  /-- loops that have ended -/
  ended : List Nat
  /-- the loops for which shutdowns wait -/
  waiting : List Nat
deriving DecidableEq, Repr

namespace Supervision

/-- What may happen next to the manager or to one of its loops. -/
inductive Step
  | start
  /-- begin a shutdown, which is over at once if it finds no loop -/
  | shutdown
  /-- a loop ends, as it was told to or by itself -/
  | exit (loop : Nat)
  /-- a shutdown goes on, its loop having ended -/
  | resume (place : Nat)
deriving DecidableEq, Repr

/-- No loop was ever started. -/
def idle : Supervision := ⟨.idle, 0, [], []⟩

/-- The loop has ended for which the shutdown at a place waits. -/
def mayResume (s : Supervision) (place : Nat) : Bool := s.waiting[place]?.any s.ended.contains

/-- A step, if it is possible; any other is without effect. -/
def perform (s : Supervision) : Step → Supervision
  | .start =>
    match s.manager.start (s.started + 1) with
    | .ok manager => { s with manager, started := s.started + 1 }
    | .error _ => s
  | .shutdown =>
    match s.manager.beginShutdown with
    | .ok (some loop, manager) => { s with manager, waiting := s.waiting ++ [loop] }
    | .ok (none, manager) => { s with manager := manager.finishShutdown }
    | .error _ => s
  | .exit loop => if loop ≤ s.started then { s with ended := loop :: s.ended } else s
  | .resume place =>
    if s.mayResume place then
      { s with manager := s.manager.finishShutdown, waiting := s.waiting.eraseIdx place }
    else s

/-- Runs in which each step is one that is permitted at its time. -/
inductive Evolves (permitted : Supervision → Step → Bool) (s : Supervision) : Supervision → Prop
  | refl : Evolves permitted s s
  | step {t : Supervision} {step : Step} (before : Evolves permitted s t)
    (allowed : permitted t step = true) : Evolves permitted s (t.perform step)

/-- Steps one after another. -/
def performAll (s : Supervision) (steps : List Step) : Supervision := steps.foldl perform s

/-- Each of the steps is permitted at its time. -/
def permitsAll (s : Supervision) (permitted : Supervision → Step → Bool) : List Step → Bool
  | [] => true
  | step :: rest => permitted s step && (s.perform step).permitsAll permitted rest

variable {s t : Supervision} {step : Step} {permitted : Supervision → Step → Bool} {loop place : Nat}

/-- The loop was started and has not been told to end. -/
def AtLarge (s : Supervision) (loop : Nat) : Prop :=
  0 < loop ∧ loop ≤ s.started ∧ s.manager.isCancelled loop = false

instance : Decidable (s.AtLarge loop) :=
  inferInstanceAs (Decidable (0 < loop ∧ loop ≤ s.started ∧ s.manager.isCancelled loop = false))

/-- A shutdown goes on that was overtaken: a loop was started while it waited. -/
def isOvertaken (s : Supervision) : Step → Bool
  | .resume place => s.mayResume place && s.manager.loop?.isSome
  | _ => false

/-- A shutdown begins while another waits. -/
def overlaps (s : Supervision) : Step → Bool
  | .shutdown => !s.waiting.isEmpty
  | _ => false

/-- One loop at most is at large. It is the one that the manager holds, the manager is running, so that
nobody starts another, and a shutdown stops it. -/
structure Supervised (s : Supervision) : Prop where
  single : ∀ first second, s.AtLarge first → s.AtLarge second → first = second
  held : ∀ loop, s.AtLarge loop → s.manager.loop? = some loop
  running : ∀ loop, s.AtLarge loop → s.manager.isRunning = true
  refused : ∀ loop, s.AtLarge loop → ∀ next, s.manager.start next = .error .alreadyRunning
  stopped : ∀ loop, s.AtLarge loop →
    ∃ manager, s.manager.beginShutdown = .ok (some loop, manager) ∧ manager.isCancelled loop = true

/-- The manager holds the loop that is at large, if there is one, and runs as long as it holds one. -/
structure Orderly (s : Supervision) : Prop where
  held : ∀ loop, s.AtLarge loop → s.manager.loop? = some loop
  large : ∀ loop, s.manager.loop? = some loop → s.AtLarge loop
  running : ∀ loop, s.manager.loop? = some loop → s.manager.isRunning = true
  numbered : ∀ loop, s.manager.isCancelled loop = true → loop ≤ s.started

/-- A list of permitted steps is a run. -/
theorem Evolves.performAll (before : Evolves permitted s t) (steps : List Step)
    (allowed : t.permitsAll permitted steps = true) : Evolves permitted s (t.performAll steps) := by
  induction steps generalizing t with
  | nil => exact before
  | cons step rest ih =>
    obtain ⟨first, others⟩ := Bool.and_eq_true_iff.mp allowed
    exact ih (before.step first) others

/-! ## What one step does -/

theorem start_cases (s : Supervision) :
    (s.manager.isRunning = true ∧ s.perform .start = s) ∨
    (s.manager.isRunning = false ∧ s.perform .start =
      { s with
        manager := ⟨true, some (s.started + 1), s.manager.cancelled⟩
        started := s.started + 1 }) := by
  cases running : s.manager.isRunning with
  | true => exact .inl ⟨rfl, by simp [perform, Manager.start, running]⟩
  | false => exact .inr ⟨rfl, by simp [perform, Manager.start, running]⟩

/-- A shutdown is refused, or is over at once, or tells the loop to end and waits. -/
theorem shutdown_cases (s : Supervision) :
    (s.manager.isRunning = false ∧ s.perform .shutdown = s) ∨
    (s.manager.isRunning = true ∧ s.manager.loop? = none ∧
      s.perform .shutdown = { s with manager := s.manager.finishShutdown }) ∨
    (∃ loop, s.manager.isRunning = true ∧ s.manager.loop? = some loop ∧ s.perform .shutdown =
      { s with
        manager := ⟨true, none, loop :: s.manager.cancelled⟩
        waiting := s.waiting ++ [loop] }) := by
  cases running : s.manager.isRunning with
  | false => exact .inl ⟨rfl, by simp [perform, Manager.beginShutdown, running]⟩
  | true =>
    cases held : s.manager.loop? with
    | none =>
      refine .inr (.inl ⟨rfl, rfl, ?_⟩)
      simp [perform, Manager.beginShutdown, Manager.finishShutdown, running, held]
    | some loop =>
      refine .inr (.inr ⟨loop, rfl, rfl, ?_⟩)
      simp [perform, Manager.beginShutdown, running, held]

theorem resume_cases (s : Supervision) (place : Nat) :
    (s.mayResume place = false ∧ s.perform (.resume place) = s) ∨
    (s.mayResume place = true ∧ s.perform (.resume place) =
      { s with manager := s.manager.finishShutdown, waiting := s.waiting.eraseIdx place }) := by
  cases may : s.mayResume place with
  | false => exact .inl ⟨rfl, by simp [perform, may]⟩
  | true => exact .inr ⟨rfl, by simp [perform, may]⟩

/-- The end of a loop changes neither the manager nor the count of loops. -/
theorem exit_manager (s : Supervision) (loop : Nat) :
    (s.perform (.exit loop)).manager = s.manager ∧
      (s.perform (.exit loop)).started = s.started ∧
      (s.perform (.exit loop)).waiting = s.waiting := by
  simp only [perform]
  split <;> exact ⟨rfl, rfl, rfl⟩

/-- Besides those that were told before, the loop is told to end. -/
theorem isCancelled_cons (isRunning : Bool) (m : Manager) (loop other : Nat) :
    (Manager.mk isRunning none (loop :: m.cancelled)).isCancelled other =
      (other == loop || m.isCancelled other) :=
  List.contains_cons

/-! ## Order -/

theorem Orderly.supervised (orderly : Orderly s) : Supervised s := by
  have running : ∀ loop, s.AtLarge loop → s.manager.isRunning = true := fun loop large =>
    orderly.running loop (orderly.held loop large)
  constructor
  case single =>
    intro first second large large'
    have held := orderly.held first large
    rw [orderly.held second large'] at held
    exact (Option.some.inj held).symm
  case held => exact orderly.held
  case running => exact running
  case refused =>
    intro loop large next
    simp [Manager.start, running loop large]
  case stopped =>
    intro loop large
    have held := orderly.held loop large
    refine ⟨⟨true, none, loop :: s.manager.cancelled⟩, ?_, ?_⟩
    · simp [Manager.beginShutdown, running loop large, held]
    · simp [isCancelled_cons]

theorem orderly_idle : Orderly idle where
  held loop large := by
    have started := large.1
    have none := large.2.1
    simp only [idle] at none
    omega
  large loop held := by cases held
  running loop held := by cases held
  numbered loop cancelled := by cases cancelled

/-- Of a manager that is not running, no loop is at large, and a start makes the first. -/
theorem Orderly.start (orderly : Orderly s) : Orderly (s.perform .start) := by
  rcases start_cases s with ⟨_, same⟩ | ⟨stopped, same⟩
  · rw [same]
    exact orderly
  have none : ∀ loop, ¬ s.AtLarge loop := by
    intro loop large
    have running := orderly.running loop (orderly.held loop large)
    rw [stopped] at running
    cases running
  have new : s.manager.isCancelled (s.started + 1) = false := by
    cases cancelled : s.manager.isCancelled (s.started + 1) with
    | false => rfl
    | true =>
      have bound := orderly.numbered _ cancelled
      omega
  rw [same]
  constructor
  case held =>
    intro loop ⟨positive, bound, uncancelled⟩
    by_cases first : loop = s.started + 1
    · rw [first]
    · simp only at bound
      exact absurd ⟨positive, by omega, uncancelled⟩ (none loop)
  case large =>
    intro loop held
    cases held
    exact ⟨Nat.succ_pos _, Nat.le_refl _, new⟩
  case running => exact fun _ _ => rfl
  case numbered =>
    intro loop cancelled
    exact Nat.le_succ_of_le (orderly.numbered loop cancelled)

/-- Once the loop is told to end, none is at large. -/
theorem Orderly.shutdown (orderly : Orderly s) : Orderly (s.perform .shutdown) := by
  rcases shutdown_cases s with ⟨_, same⟩ | ⟨_, vacant, same⟩ | ⟨told, _, held, same⟩
  · rw [same]
    exact orderly
  · rw [same]
    refine ⟨orderly.held, orderly.large, ?_, orderly.numbered⟩
    intro loop held
    change s.manager.loop? = some loop at held
    rw [vacant] at held
    cases held
  · have large := orderly.large told held
    rw [same]
    constructor
    case held =>
      intro loop ⟨positive, bound, uncancelled⟩
      rw [isCancelled_cons, Bool.or_eq_false_iff, beq_eq_false_iff_ne] at uncancelled
      have only := orderly.held loop ⟨positive, bound, uncancelled.2⟩
      rw [held] at only
      exact absurd (Option.some.inj only).symm uncancelled.1
    case large => exact fun loop held => nomatch held
    case running => exact fun loop held => nomatch held
    case numbered =>
      intro loop cancelled
      rw [isCancelled_cons, Bool.or_eq_true, beq_iff_eq] at cancelled
      rcases cancelled with rfl | cancelled
      · exact large.2.1
      · exact orderly.numbered loop cancelled

/-- Every step keeps order but that of a shutdown that was overtaken. -/
theorem Orderly.perform (orderly : Orderly s) (prompt : s.isOvertaken step = false) :
    Orderly (s.perform step) := by
  cases step with
  | start => exact orderly.start
  | shutdown => exact orderly.shutdown
  | exit loop =>
    obtain ⟨manager, started, _⟩ := exit_manager s loop
    obtain ⟨held, large, running, numbered⟩ := orderly
    simp only [AtLarge, ← manager, ← started] at held large running numbered
    exact ⟨held, large, running, numbered⟩
  | resume place =>
    rcases resume_cases s place with ⟨_, same⟩ | ⟨may, same⟩
    · rw [same]
      exact orderly
    · have vacant : s.manager.loop? = none := by simpa [isOvertaken, may] using prompt
      rw [same]
      refine ⟨orderly.held, orderly.large, ?_, orderly.numbered⟩
      intro loop held
      change s.manager.loop? = some loop at held
      rw [vacant] at held
      cases held

/-- A shutdown that was overtaken leaves a loop at large of a manager that does not run. -/
theorem Orderly.lost (orderly : Orderly s) (overtaken : s.isOvertaken step = true) :
    ¬ (s.perform step).Supervised := by
  intro supervised
  cases step with
  | resume place =>
    simp only [isOvertaken, Bool.and_eq_true, Option.isSome_iff_exists] at overtaken
    obtain ⟨may, loop, held⟩ := overtaken
    have large := orderly.large loop held
    rcases resume_cases s place with ⟨not, _⟩ | ⟨_, same⟩
    · rw [may] at not
      cases not
    · rw [same] at supervised
      have running := supervised.running loop large
      cases running
  | _ => cases overtaken

theorem orderly_evolves (run : Evolves permitted idle s)
    (prompt : ∀ s step, permitted s step = true → s.isOvertaken step = false) : Orderly s := by
  induction run with
  | refl => exact orderly_idle
  | @step t step _ allowed ih => exact ih.perform (prompt t step allowed)

/-! ## Shutdowns one at a time -/

/-- One shutdown at most waits. While it does, the manager counts as running and holds no loop. -/
structure Alone (s : Supervision) : Prop where
  single : s.waiting.length ≤ 1
  vacant : s.waiting ≠ [] → s.manager.isRunning = true ∧ s.manager.loop? = none

theorem Alone.perform (alone : Alone s) (apart : s.overlaps step = false) :
    Alone (s.perform step) := by
  cases step with
  | start =>
    rcases start_cases s with ⟨_, same⟩ | ⟨stopped, same⟩
    · rw [same]
      exact alone
    · have idle : s.waiting = [] := by
        refine Decidable.byContradiction fun waits => ?_
        have running := (alone.vacant waits).1
        rw [stopped] at running
        cases running
      rw [same]
      exact ⟨alone.single, fun waits => absurd idle waits⟩
  | shutdown =>
    have idle : s.waiting = [] := by simpa [overlaps] using apart
    rcases shutdown_cases s with ⟨_, same⟩ | ⟨_, _, same⟩ | ⟨loop, _, _, same⟩
    · rw [same]
      exact alone
    · rw [same]
      exact ⟨alone.single, fun waits => absurd idle waits⟩
    · rw [same]
      exact ⟨by simp [idle], fun _ => ⟨rfl, rfl⟩⟩
  | exit loop =>
    obtain ⟨manager, _, waiting⟩ := exit_manager s loop
    obtain ⟨single, vacant⟩ := alone
    rw [← manager, ← waiting] at vacant
    rw [← waiting] at single
    exact ⟨single, vacant⟩
  | resume place =>
    rcases resume_cases s place with ⟨_, same⟩ | ⟨may, same⟩
    · rw [same]
      exact alone
    · -- the only shutdown that waited is the one that goes on
      have last : s.waiting.eraseIdx place = [] := by
        obtain ⟨loop, found, _⟩ := (Option.any_eq_true _ _).mp may
        obtain ⟨bound, _⟩ := List.getElem?_eq_some_iff.mp found
        have single := alone.single
        apply List.eq_nil_of_length_eq_zero
        rw [List.length_eraseIdx_of_lt bound]
        omega
      rw [same]
      exact ⟨by simp [last], fun waits => absurd last waits⟩

/-- While only one shutdown waits, nobody can start a loop, so that it is not overtaken. -/
theorem Alone.prompt (alone : Alone s) (step : Step) : s.isOvertaken step = false := by
  cases step with
  | resume place =>
    cases may : s.mayResume place with
    | false => simp [isOvertaken, may]
    | true =>
      have waits : s.waiting ≠ [] := by
        intro none
        simp [mayResume, none] at may
      simp [isOvertaken, (alone.vacant waits).2]
  | _ => rfl

theorem alone_evolves (run : Evolves permitted idle s)
    (apart : ∀ s step, permitted s step = true → s.overlaps step = false) : Orderly s ∧ Alone s := by
  induction run with
  | refl => exact ⟨orderly_idle, by decide, fun waits => absurd rfl waits⟩
  | @step t step _ allowed ih =>
    obtain ⟨orderly, alone⟩ := ih
    exact ⟨orderly.perform (alone.prompt step), alone.perform (apart t step allowed)⟩

/-- However starts and shutdowns are interleaved: as long as no shutdown is overtaken by a shutdown and
a start, the loop at large is supervised, and one that is overtaken ends this. As long as no two
shutdowns overlap, none is overtaken. -/
theorem loops_stay_supervised (run : Evolves permitted idle s) :
    ((∀ s step, permitted s step = true → s.isOvertaken step = false) →
      Supervised s ∧ ∀ step, s.isOvertaken step = true → ¬ (s.perform step).Supervised) ∧
    ((∀ s step, permitted s step = true → s.overlaps step = false) →
      Supervised s ∧ ∀ step, s.isOvertaken step = false) := by
  constructor
  · intro prompt
    have orderly := orderly_evolves run prompt
    exact ⟨orderly.supervised, fun step overtaken => orderly.lost overtaken⟩
  · intro apart
    obtain ⟨orderly, alone⟩ := alone_evolves run apart
    exact ⟨orderly.supervised, alone.prompt⟩

/-- A loop that was started after a shutdown is supervised, and a start while the shutdown waits has been
refused. -/
theorem loops_stay_supervised_after_a_restart :
    let s := idle.performAll [.start, .shutdown, .start, .exit 1, .resume 0, .start]
    Supervised s ∧ s.AtLarge 2 ∧ s.started = 2 := by
  intro s
  have run : Evolves (fun s step => !s.overlaps step) idle s := Evolves.refl.performAll _ (by decide)
  have supervised := ((loops_stay_supervised run).2 fun s step apart => by simpa using apart).1
  exact ⟨supervised, by decide, rfl⟩

/-- A shutdown is overtaken by another and by a start, and then notes that nothing is running. So a third
loop is started beside the second, and no shutdown stops the second any more. -/
theorem overtaken_shutdowns_lose_loops :
    let s := idle.performAll [.start, .shutdown, .shutdown, .start, .exit 1, .resume 0]
    let t := s.perform .start
    s.AtLarge 2 ∧ s.manager.isRunning = false ∧ t.AtLarge 2 ∧ t.AtLarge 3 ∧
      t.manager.loop? = some 3 ∧ (t.perform .shutdown).AtLarge 2 := by
  decide

end Supervision

end Punctual
