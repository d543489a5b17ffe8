/-!
Cooperative tasks in virtual time. A task runs until it waits, for a reading of the clock or for other
tasks to end. Tasks that can go on do so in the order in which they became able to; the clock stands
still meanwhile. When all wait, the clock moves to the earliest reading that one waits for.

One task may be the main one. Its own waiting over, it goes on before the others; woken by another
task's end, it goes on after the others.
-/
namespace Punctual

/-- What a task waits for: the first of these to happen. -/
structure Wait where
  /-- any of these tasks ends -/
  tasks : List Nat
  /-- the clock reads so much -/
  reading? : Option Nat
deriving DecidableEq, Repr

/-- How a task's turn ends. -/
inductive Pause (τ ρ : Type)
  | ended (result : ρ)
  | waiting (wait : Wait) (rest : τ)

/-- What a task does in one turn. -/
structure Turn (σ τ ρ : Type) where
  state : σ
  /-- tasks to start, which are numbered on from the next free number -/
  started : List τ
  /-- tasks that are not to go on -/
  stopped : List Nat
  /-- tasks to go on with whatever they wait for -/
  woken : List Nat
  pause : Pause τ ρ

/-- All tasks as they stand. -/
structure Tasks (τ ρ : Type) where
  next : Nat
  ready : List (Nat × τ)
  /-- the main task, woken by another's end -/
  deferred : List (Nat × τ)
  waiting : List (Nat × Wait × τ)
  /-- of the tasks that have ended, the latest first -/
  results : List (Nat × ρ)
  main? : Option Nat

namespace Tasks

variable {τ ρ : Type}

/-- No task was ever started. -/
def empty : Tasks τ ρ := ⟨1, [], [], [], [], none⟩

/-- What a task left behind, once it has ended. -/
def result? (t : Tasks τ ρ) (task : Nat) : Option ρ := t.results.lookup task

/-- Starts tasks. -/
def start (t : Tasks τ ρ) (works : List τ) : Tasks τ ρ :=
  { t with
    next := t.next + works.length
    ready := t.ready ++ works.mapIdx fun i work => (t.next + i, work) }

/-- Starts the main task, which goes on before all others. -/
def startMain (t : Tasks τ ρ) (work : τ) : Tasks τ ρ :=
  { t with next := t.next + 1, main? := some t.next, ready := (t.next, work) :: t.ready }

/-- Lets the waiting tasks go on of which this is true, other than by the clock. -/
def wake (t : Tasks τ ρ) (woken : Nat → Wait → Bool) : Tasks τ ρ :=
  let (going, waiting) := t.waiting.partition fun (task, wait, _) => woken task wait
  let going := going.map fun (task, _, work) => (task, work)
  let (main, others) := going.partition fun (task, _) => t.main? == some task
  { t with ready := t.ready ++ others, deferred := t.deferred ++ main, waiting }

/-- Lets the tasks go on that wait for a reading up to this one. -/
def wakeAt (t : Tasks τ ρ) (reading : Nat) : Tasks τ ρ :=
  let (going, waiting) := t.waiting.partition fun (_, wait, _) => wait.reading?.any (· ≤ reading)
  let going := going.map fun (task, _, work) => (task, work)
  let (main, others) := going.partition fun (task, _) => t.main? == some task
  { t with ready := main ++ t.ready ++ others, waiting }

/-- The earliest reading that a task waits for. -/
def nextReading? (t : Tasks τ ρ) : Option Nat :=
  (t.waiting.filterMap fun (_, wait, _) => wait.reading?).min?

/-- Lets tasks not go on. -/
def stop (t : Tasks τ ρ) (tasks : List Nat) : Tasks τ ρ :=
  { t with
    ready := t.ready.filter fun (task, _) => !tasks.contains task
    waiting := t.waiting.filter fun (task, _, _) => !tasks.contains task }

/-- After a task's turn. -/
def settle {σ : Type} (t : Tasks τ ρ) (task : Nat) (turn : Turn σ τ ρ) : Tasks τ ρ :=
  let t := (t.start turn.started).stop turn.stopped
  let t := t.wake fun other _ => turn.woken.contains other
  match turn.pause with
  | .ended result =>
    { t with results := (task, result) :: t.results }.wake fun _ wait => wait.tasks.contains task
  | .waiting wait rest => { t with waiting := t.waiting ++ [(task, wait, rest)] }

/-- The task that goes on next, and the others. -/
def pick? (t : Tasks τ ρ) : Option (Nat × τ × Tasks τ ρ) :=
  match t.ready, t.deferred with
  | (task, work) :: ready, _ => some (task, work, { t with ready })
  | [], (task, work) :: deferred => some (task, work, { t with deferred })
  | [], [] => none

end Tasks

/-- How tasks run: what a task does in its turn, given its number and all tasks as they stand, and the
clock. -/
structure TaskRules (σ τ ρ : Type) where
  turn : Nat → Tasks τ ρ → τ → σ → Turn σ τ ρ
  reading : σ → Nat
  moveTo : σ → Nat → σ

namespace TaskRules

variable {σ τ ρ : Type}

/-- Runs tasks until none can go on without the clock moving and the main task has ended. Takes at
most so many turns. -/
def run (rules : TaskRules σ τ ρ) : Nat → Tasks τ ρ → σ → Tasks τ ρ × σ
  | 0, tasks, state => (tasks, state)
  | more + 1, tasks, state =>
    match tasks.pick? with
    | some (task, work, others) =>
      let turn := rules.turn task others work state
      run rules more (others.settle task turn) turn.state
    | none =>
      if (tasks.main?.bind tasks.result?).isSome then (tasks, state)
      else
        match tasks.main?.bind fun _ => tasks.nextReading? with
        | some reading => run rules more (tasks.wakeAt reading) (rules.moveTo state reading)
        | none => (tasks, state)

/-- Turns that a run may take. -/
def turnLimit : Nat := 100000000

/-- Runs a main task to its end and answers its result. -/
def runMain (rules : TaskRules σ τ ρ) (tasks : Tasks τ ρ) (work : τ) (state : σ) :
    Option ρ × Tasks τ ρ × σ :=
  let tasks := tasks.startMain work
  let (tasks, state) := rules.run turnLimit tasks state
  (tasks.main?.bind tasks.result?, { tasks with main? := none }, state)

/-- Runs tasks until none can go on without the clock moving. -/
def runReady (rules : TaskRules σ τ ρ) (tasks : Tasks τ ρ) (state : σ) : Tasks τ ρ × σ :=
  rules.run turnLimit { tasks with main? := none } state

end TaskRules

end Punctual
