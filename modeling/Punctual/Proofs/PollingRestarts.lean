import Punctual.Proofs.Bookkeeping
import Punctual.Timers.Trial

/-!
A polling service that is shut down and started again. A shutdown leaves a mark, by which timers that
elapse tell that they are to hand over nothing, and a start does not take the mark away. So timers hand
over what they were armed with as long as no shutdown was granted, and from the first one on none does,
however often the service runs again.

Whether it runs again is up to the scheduler underneath, which may answer anything to a request to start. A
service whose start failed that way holds itself to be started nonetheless: it refuses to start, and takes
timers that nobody looks for.
-/
namespace Punctual

/-- A call of a polling service, or of the scheduler underneath. -/
inductive ServiceCall (α : Type)
  /-- with the answer of the scheduler underneath -/
  | start (underneath : Except TimerFault Unit)
  | shutDown
  | arm (clock : Clock) (delay : Nat) (payload : α)
  | disarm (handle : Handle)
  /-- the scheduler underneath finds a timer due, for which it looks only while it runs -/
  | elapse (number : Nat)

namespace Timers

variable {α : Type} {t u : Timers α} {call : ServiceCall α} {n : Nat} {payload : α}

/-- The service after a call. -/
def serve (t : Timers α) : ServiceCall α → Timers α
  | .start underneath => (t.start underneath).2
  | .shutDown => t.shutDown.toOption.getD t
  | .arm clock delay payload => (t.arm clock delay payload).2
  | .disarm handle => (t.disarm handle).2
  | .elapse n => if t.isPolling then (t.elapse n).2 else t

/-- Calls one after another. -/
def serveAll (t : Timers α) (calls : List (ServiceCall α)) : Timers α := calls.foldl serve t

/-- The call is a shutdown that is granted. -/
def ends (t : Timers α) : ServiceCall α → Bool
  | .shutDown => t.isRunning
  | _ => false

/-- A shutdown among the calls found the service running. -/
def isEnded (t : Timers α) : List (ServiceCall α) → Bool
  | [] => false
  | call :: rest => t.ends call || (t.serve call).isEnded rest

/-- The call neither disarms nor elapses the timer. -/
def spares (n : Nat) : ServiceCall α → Bool
  | .disarm handle => handle ≠ .issued n
  | .elapse m => m ≠ n
  | _ => true

/-- A polling service, whose requests to arm succeed. -/
structure Polls (t : Timers α) : Prop where
  service : t.service = .polling
  failures : t.failures = 0
  numbered : t.Numbered

theorem polls_ofService : Polls (ofService .polling : Timers α) where
  service := rfl
  failures := rfl
  numbered := ⟨nofun, List.nodup_nil⟩

theorem Polls.shrink (polls : Polls t) (shrinks : Shrinks t u) : Polls u where
  service := shrinks.service.trans polls.service
  failures := Nat.le_zero.mp (polls.failures ▸ shrinks.failures)
  numbered := polls.numbered.shrink shrinks

/-- A start and a shutdown change how the service stands, but none of its timers. -/
theorem serve_start (t : Timers α) (underneath : Except TimerFault Unit) :
    t.serve (.start underneath) = { t with
      isRunning := true, isPolling := t.isPolling || !t.isRunning && underneath.isOk } := by
  obtain ⟨service, issued, pending, delays, disarms, failures, isShutDown, isRunning, isPolling⟩ := t
  cases isRunning <;> cases underneath <;> simp [serve, Timers.start, Except.isOk, Except.toBool]

theorem Polls.serve_shutDown (polls : Polls t) : t.serve .shutDown =
    { t with
      isRunning := false, isShutDown := t.isShutDown || t.isRunning
      isPolling := t.isPolling && !t.isRunning } := by
  obtain ⟨service, issued, pending, delays, disarms, failures, isShutDown, isRunning, isPolling⟩ := t
  cases polls.service
  cases isRunning <;> simp [serve, Timers.shutDown, Except.toOption]

theorem Polls.arm (polls : Polls t) (clock : Clock) (delay : Nat) (payload : α) :
    ∃ timer : ArmedTimer α, timer.handle = t.issued + 1 ∧ timer.payload = payload ∧
      t.arm clock delay payload = (.ok (t.issued + 1), { t with
        issued := t.issued + 1, pending := t.pending ++ [timer], delays := delay :: t.delays }) := by
  simp [Timers.arm, polls.failures, polls.service]

theorem Polls.serve (polls : Polls t) (call : ServiceCall α) : Polls (t.serve call) := by
  cases call with
  | start =>
    rw [serve_start]
    exact ⟨polls.service, polls.failures, ⟨polls.numbered.issued, polls.numbered.distinct⟩⟩
  | shutDown =>
    rw [polls.serve_shutDown]
    exact ⟨polls.service, polls.failures, ⟨polls.numbered.issued, polls.numbered.distinct⟩⟩
  | arm clock delay payload =>
    obtain ⟨timer, next, _, armed⟩ := polls.arm clock delay payload
    simp only [Timers.serve, armed]
    exact ⟨polls.service, polls.failures, numbered_append polls.numbered timer next rfl rfl⟩
  | disarm handle => exact polls.shrink (t.disarm_shrinks handle)
  | elapse m =>
    simp only [Timers.serve]
    split
    · exact polls.shrink (t.drop_shrinks m)
    · exact polls

/-- A timer that a call spares stays as it was armed. -/
theorem Polls.payload_serve (polls : Polls t) (spared : spares n call = true)
    (pending : t.payload? (.issued n) = some payload) :
    (t.serve call).payload? (.issued n) = some payload := by
  cases call with
  | start =>
    rw [serve_start]
    exact pending
  | shutDown =>
    rw [polls.serve_shutDown]
    exact pending
  | arm clock delay other =>
    obtain ⟨timer, next, _, armed⟩ := polls.arm clock delay other
    obtain ⟨m, bound, same⟩ := issued_of_payload polls.numbered pending
    have earlier : Handle.issued n ≠ .issued (t.issued + 1) := by
      cases same
      intro same
      cases same
      omega
    simp only [Timers.serve, armed]
    rw [payload_append polls.numbered timer next rfl, if_neg earlier]
    exact pending
  | disarm handle =>
    have other : Handle.issued n ≠ handle := fun same => by simp [spares, same] at spared
    rw [Timers.serve, payload_disarm, if_neg other]
    exact pending
  | elapse m =>
    simp only [Timers.serve]
    split
    · have other : Handle.issued n ≠ .issued m := fun same => by
        cases same
        simp [spares] at spared
      rw [Timers.elapse, payload_drop, if_neg other]
      exact pending
    · exact pending

/-- Only a shutdown that is granted leaves the mark, and nothing takes it away. -/
theorem Polls.isShutDown_serve (polls : Polls t) (call : ServiceCall α) :
    (t.serve call).isShutDown = (t.isShutDown || t.ends call) := by
  cases call with
  | start underneath => simp only [serve_start, ends, Bool.or_false]
  | shutDown => rw [polls.serve_shutDown, ends]
  | arm clock delay payload =>
    obtain ⟨timer, _, _, armed⟩ := polls.arm clock delay payload
    simp only [Timers.serve, armed, ends, Bool.or_false]
  | disarm handle => simp only [Timers.serve, (t.disarm_shrinks handle).isShutDown, ends, Bool.or_false]
  | elapse m =>
    simp only [Timers.serve, ends, Bool.or_false]
    split <;> rfl

theorem Polls.isShutDown_serveAll (polls : Polls t) (calls : List (ServiceCall α)) :
    (t.serveAll calls).isShutDown = (t.isShutDown || t.isEnded calls) := by
  induction calls generalizing t with
  | nil => rw [serveAll, List.foldl_nil, isEnded, Bool.or_false]
  | cons call rest ih =>
    rw [serveAll, List.foldl_cons, ← serveAll, ih (polls.serve call), polls.isShutDown_serve, isEnded,
      Bool.or_assoc]

theorem Polls.serveAll (polls : Polls t) (calls : List (ServiceCall α)) : Polls (t.serveAll calls) := by
  induction calls generalizing t with
  | nil => exact polls
  | cons call rest ih => exact ih (polls.serve call)

theorem Polls.payload_serveAll (polls : Polls t) {calls : List (ServiceCall α)}
    (spared : ∀ call ∈ calls, spares n call = true)
    (pending : t.payload? (.issued n) = some payload) :
    (t.serveAll calls).payload? (.issued n) = some payload := by
  induction calls generalizing t with
  | nil => exact pending
  | cons call rest ih =>
    exact ih (polls.serve call) (fun other member => spared other (List.mem_cons_of_mem call member))
      (polls.payload_serve (spared call List.mem_cons_self) pending)

/-- What a timer of a polling service hands over when it elapses. -/
theorem Polls.elapse (polls : Polls t) (n : Nat) :
    (t.elapse n).1 = if t.isShutDown then none else t.payload? (.issued n) := by
  simp [Timers.elapse, polls.service, payload?]

/-! ## Starts that fail -/

/-- Only a start and a shutdown change how the service stands. -/
theorem Polls.serve_stands (polls : Polls t) (call : ServiceCall α) :
    ((t.serve call).isRunning, (t.serve call).isPolling) =
      match call with
      | .start underneath => (true, t.isPolling || !t.isRunning && underneath.isOk)
      | .shutDown => (false, t.isPolling && !t.isRunning)
      | _ => (t.isRunning, t.isPolling) := by
  cases call with
  | start underneath => rw [serve_start]
  | shutDown => rw [polls.serve_shutDown]
  | arm clock delay payload =>
    obtain ⟨timer, _, _, armed⟩ := polls.arm clock delay payload
    simp only [Timers.serve, armed]
  | disarm handle =>
    cases handle with
    | foreign id => rfl
    | issued n =>
      simp only [Timers.serve, Timers.disarm]
      split <;> rfl
  | elapse n =>
    simp only [Timers.serve]
    split <;> rfl

/-- Nobody looks for the timers of a service that does not hold itself to be started. -/
theorem Polls.unattended (polls : Polls t) (unattended : t.isRunning = false → t.isPolling = false)
    (calls : List (ServiceCall α)) :
    (t.serveAll calls).isRunning = false → (t.serveAll calls).isPolling = false := by
  induction calls generalizing t with
  | nil => exact unattended
  | cons call rest ih =>
    refine ih (polls.serve call) ?_
    have stands := polls.serve_stands call
    cases running : t.isRunning <;> cases call <;> simp_all

/-- The service holds itself to be started, and nobody looks for its timers. -/
structure FalselyRunning (t : Timers α) : Prop where
  polls : Polls t
  running : t.isRunning = true
  unattended : t.isPolling = false

theorem Polls.start_fails (polls : Polls t) (stopped : t.isRunning = false) (idle : t.isPolling = false)
    (fault : TimerFault) : FalselyRunning (t.serve (.start (.error fault))) := by
  obtain ⟨running, unattended⟩ := Prod.mk.inj (polls.serve_stands (.start (.error fault)))
  refine ⟨polls.serve _, running, unattended.trans ?_⟩
  rw [idle, stopped]
  rfl

theorem FalselyRunning.serve (falsely : FalselyRunning t) (kept : call ≠ .shutDown) :
    FalselyRunning (t.serve call) := by
  obtain ⟨polls, running, unattended⟩ := falsely
  have stands := polls.serve_stands call
  cases call with
  | shutDown => exact absurd rfl kept
  | _ => exact ⟨polls.serve _, by simp_all, by simp_all⟩

theorem FalselyRunning.serveAll (falsely : FalselyRunning t) {calls : List (ServiceCall α)}
    (kept : ∀ call ∈ calls, call ≠ .shutDown) : FalselyRunning (t.serveAll calls) := by
  induction calls generalizing t with
  | nil => exact falsely
  | cons call rest ih =>
    exact ih (falsely.serve (kept call List.mem_cons_self))
      fun other member => kept other (List.mem_cons_of_mem call member)

/-- It refuses to start, and none of its timers elapses. -/
theorem FalselyRunning.refuses (falsely : FalselyRunning t) :
    (∀ underneath, t.start underneath = (.error .alreadyRunning, t)) ∧
      ∀ n, t.serve (.elapse n) = t := by
  constructor
  · intro underneath
    unfold Timers.start
    rw [if_pos falsely.running]
  · intro n
    rw [Timers.serve, falsely.unattended, if_neg Bool.false_ne_true]

/-! ## Timers -/

/-- Whatever a polling service is called to do: a timer that was armed, and has neither been disarmed nor
elapsed since, is pending. When it elapses it hands over what it was armed with, and is not pending any
more; unless a shutdown was ever granted, before the timer was armed or after, and then it hands over
nothing. Where the scheduler underneath refuses a start, no timer elapses at all until the next shutdown, and
the service refuses to start, as it holds itself to be started. -/
theorem one_shots_fire_until_the_first_shutdown (before after : List (ServiceCall α)) {clock : Clock}
    {delay : Nat}
    (armed : (((ofService .polling : Timers α).serveAll before).arm clock delay payload).1 = .ok n)
    (spared : ∀ call ∈ after, spares n call = true) :
    let calls := before ++ .arm clock delay payload :: after
    let t : Timers α := (ofService .polling).serveAll calls
    t.isPending n = true ∧ (t.elapse n).2.isPending n = false ∧
      ((t.elapse n).1 = if (ofService .polling : Timers α).isEnded calls then none else some payload) ∧
      (t.isRunning = false → ∀ fault later, (∀ call ∈ later, call ≠ .shutDown) →
        let u := (t.serve (.start (.error fault))).serveAll later
        u.isRunning = true ∧ (∀ underneath, u.start underneath = (.error .alreadyRunning, u)) ∧
          ∀ m, u.serve (.elapse m) = u) := by
  intro calls t
  have polls : Polls t := polls_ofService.serveAll calls
  have pending : t.payload? (.issued n) = some payload := by
    have earlier : Polls ((ofService .polling : Timers α).serveAll before) :=
      polls_ofService.serveAll before
    obtain ⟨timer, next, same, answer⟩ := earlier.arm clock delay payload
    have entered : (((ofService .polling : Timers α).serveAll before).serve
        (.arm clock delay payload)).payload? (.issued n) = some payload := by
      rw [answer] at armed
      cases armed
      simp only [serve, answer]
      rw [payload_append earlier.numbered timer next rfl, if_pos rfl, same]
    have onward := (earlier.serve (.arm clock delay payload)).payload_serveAll spared entered
    simpa only [t, calls, Timers.serveAll, List.foldl_append, List.foldl_cons] using onward
  have isPending : ∀ u : Timers α, u.isPending n = (u.payload? (.issued n)).isSome := by
    intro u
    simp [Timers.isPending, payload?]
  refine ⟨?_, ?_, ?_, ?_⟩
  · rw [isPending, pending]
    rfl
  · rw [isPending, Timers.elapse, payload_drop, if_pos rfl]
    rfl
  · rw [polls.elapse, pending]
    have mark := polls_ofService.isShutDown_serveAll calls
    rw [show t.isShutDown = (ofService .polling : Timers α).isEnded calls from mark]
  · intro stopped fault later kept
    have idle : t.isPolling = false := polls_ofService.unattended (fun _ => rfl) calls stopped
    have falsely := (polls.start_fails stopped idle fault).serveAll kept
    exact ⟨falsely.running, falsely.refuses⟩

/-- A timer that outlives others and a shutdown that is refused hands over what it was armed with. -/
theorem one_shots_fire_until_the_first_shutdown_among_others :
    let clock : Clock := ⟨⟨0, 0⟩, 0⟩
    let t : Timers Nat := (ofService .polling).serveAll [.shutDown, .arm clock 0 10, .start (.ok ()),
      .arm clock 0 20, .elapse 1, .arm clock 0 30, .disarm (.issued 3), .start (.error .shutDown)]
    t.isPending 2 = true ∧ (t.elapse 2).2.isPending 2 = false ∧ (t.elapse 2).1 = some 20 := by
  obtain ⟨pending, dropped, handed, _⟩ := one_shots_fire_until_the_first_shutdown
    [.shutDown, .arm ⟨⟨0, 0⟩, 0⟩ 0 10, .start (.ok ())]
    [.elapse 1, .arm ⟨⟨0, 0⟩, 0⟩ 0 30, .disarm (.issued 3), .start (.error .shutDown)] rfl (by decide)
  exact ⟨pending, dropped, handed⟩

/-- Over a scheduler that starts a second time, a service that runs again after a shutdown takes a request
to arm, finds the timer due and calls nobody back. Over the one that does not, the second start fails, and the
service holds itself to be started and takes a timer that never elapses. -/
theorem restarted_services_call_nobody_back :
    let clock : Clock := ⟨⟨0, 0⟩, 0⟩
    let t : Timers Nat := (ofService .polling).serveAll
      [.start (.ok ()), .shutDown, .start (.ok ()), .arm clock 0 10]
    let steps : List TrialStep := [.start, .shutDown, .start, .arm (2 * nanosPerSecond) 0, .advance 5000]
    let r := steps.foldl (fun r step => (r.step step).2) (TrialRun.ofService ⟨0, 0⟩ .polling)
    (t.isRunning = true ∧ t.isPolling = true ∧ t.isPending 1 = true ∧ (t.elapse 1).1 = none ∧
      (t.serve (.elapse 1)).isPending 1 = false) ∧
    r.trial.timers.isRunning = true ∧ r.trial.timers.isPolling = false ∧ r.trial.timers.issued = 1 ∧
      r.trial.timers.isPending 1 = true ∧ r.trial.firings = [] := by
  decide +kernel

end Timers

end Punctual
