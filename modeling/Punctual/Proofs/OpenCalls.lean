import Punctual.Proofs.RunAccounts

/-!
Calls of a dry run that are being executed. Each is told by the handle of its timer, which no other call
has. A step leaves all of them but the one that it executes, completes or lets run out of time, and a
claim adds one. Claims succeed, as nothing fails in a dry run; completions do, or break off.
-/
namespace Punctual

open Scheduler

namespace Scheduler

/-! ## Executors stay -/

@[simp] theorem read_executors (s : Scheduler) (id : JobId) : (s.read id).2.executors = s.executors := by
  unfold read
  split <;> rfl

@[simp] theorem write_executors (s : Scheduler) (job : Job) :
    (s.write job).2.executors = s.executors := by
  unfold write
  split <;> rfl

@[simp] theorem armAndWrite_executors (s : Scheduler) (clock : Clock) (job : Job) (due : Instant) :
    (s.armAndWrite clock job due).2.executors = s.executors := by
  unfold armAndWrite
  grind [write_executors, disarmHandle]

@[simp] theorem writeUnarmed_executors (s : Scheduler) (clock : Clock) (job : Job) :
    (s.writeUnarmed clock job).2.executors = s.executors := write_executors ..

@[simp] theorem armOrDefer_executors (s : Scheduler) (clock : Clock) (job : Job)
    (due horizon : Instant) : (s.armOrDefer clock job due horizon).2.executors = s.executors := by
  unfold armOrDefer
  split <;> simp

@[simp] theorem finalize_executors (s : Scheduler) (clock : Clock) (job : Job) :
    (s.finalize clock job).2.executors = s.executors := by
  unfold finalize
  grind [writeUnarmed_executors]

theorem schedule_executors (s : Scheduler) (clock : Clock) (job : Job) :
    (s.schedule clock job).2.executors = s.executors := by
  unfold schedule
  grind [read_executors, armOrDefer_executors, disarm]

@[simp] theorem abandon_executors (s : Scheduler) (clock : Clock) (job : Job) :
    (s.abandon clock job).2.executors = s.executors := by
  rw [(abandon_state s clock job).2, writeUnarmed_executors]

@[simp] theorem resume_executors (s : Scheduler) (clock : Clock) (job : Job) (due : Instant)
    (answer : Job → Recovery) : (s.resume clock job due answer).2.executors = s.executors := by
  unfold resume
  grind [armOrDefer_executors]

@[simp] theorem takeUp_executors (s : Scheduler) (clock : Clock) (job : Job) :
    (s.takeUp clock job).2.executors = s.executors := by
  unfold takeUp fastForward
  grind [abandon_executors, resume_executors]

theorem recover_executors (s : Scheduler) (clock : Clock) (id : JobId) :
    (s.recover clock id).2.executors = s.executors := by
  unfold recover
  grind [read_executors, takeUp_executors, disarm]

theorem claim_executors (s : Scheduler) (id : JobId) (handle : Handle) :
    (s.claim id handle).2.executors = s.executors := by
  unfold claim
  grind [read_executors]

theorem complete_executors (s : Scheduler) (clock : Clock) (id : JobId) (handle : Handle)
    (outcome : ExecutionOutcome) : (s.complete clock id handle outcome).2.executors = s.executors := by
  unfold complete succeed fail
  grind [read_executors, armOrDefer_executors, armAndWrite_executors, finalize_executors, release]

end Scheduler
theorem Scheduler.claim_answers {s : Scheduler} (reliable : s.Reliable) (id : JobId)
    (handle : Handle) : (∃ job?, (s.claim id handle).1 = .ok job?) ∧
      ∀ job, (s.claim id handle).1 = .ok (some job) →
        s.record? id = some job ∧ isCurrent job handle = true := by
  rcases claim_cases s id handle with
    ⟨e, t, _, _, fails⟩ | ⟨t, job, _, record, current, same⟩ | ⟨t, _, _, same⟩
  · exact absurd reliable fails
  · rw [same]
    exact ⟨⟨_, rfl⟩, fun _ told => by cases told; exact ⟨record, current⟩⟩
  · rw [same]
    exact ⟨⟨_, rfl⟩, fun _ told => by cases told⟩

/-- A completion has its answer, or breaks off. -/
def Scheduler.AnswersOrBreaks (answer : Except SchedulerError (Option Job)) : Prop :=
  (∃ job?, answer = .ok job?) ∨ ∃ id, answer = .error (.stuck id)

theorem Scheduler.complete_answers {s : Scheduler} (reliable : s.Reliable)
    (numbered : s.timers.Numbered) (clock : Clock) (id : JobId) (handle : Handle)
    (outcome : ExecutionOutcome) : AnswersOrBreaks (s.complete clock id handle outcome).1 := by
  rcases complete_cases s clock id handle outcome with
    ⟨e, t, _, _, _, fails⟩ | ⟨t, _, _, same⟩ | ⟨t, job, _, _, _, _, _, same⟩ |
    ⟨t, job, answer, unchanged, _, _, concludes, same⟩
  · exact absurd reliable fails
  · rw [same]
    exact .inl ⟨_, rfl⟩
  · rw [same]
    exact .inr ⟨_, rfl⟩
  · obtain ⟨status, settles⟩ := concludes.settles (unchanged.numbered numbered)
    obtain ⟨result, u⟩ := answer
    cases result with
    | error e => exact absurd (unchanged.reliable reliable) settles.fails
    | ok saved =>
      rw [same]
      exact .inl ⟨_, rfl⟩

/-- The call whose execution a step is about. -/
def CourseStep.call? : CourseStep → Option Nat
  | .execute call | .complete call _ _ | .timeOut call _ _ => some call
  | _ => none

namespace Course

variable {c : Course} {step : CourseStep} {jobs : List Job} {id other : JobId} {job : Job}
  {number : Nat} {call : FireCall} {handle : Handle} {delivered : Bool}

theorem perform_executors (c : Course) (step : CourseStep) :
    (c.perform step).process.scheduler.executors = c.process.scheduler.executors := by
  have completed : ∀ number clock outcome,
      (c.process.perform (.complete number clock outcome)).scheduler.executors =
        c.process.scheduler.executors := by
    intro number clock outcome
    simp only [Process.perform]
    split
    · exact complete_executors ..
    · rfl
  refine process_preserved (fun p => p.scheduler.executors = c.process.scheduler.executors) rfl ?_
  intro action acts
  cases step <;> simp only [action?, Option.map_eq_some_iff, Option.ite_none_right_eq_some,
    Option.some.injEq, reduceCtorEq] at acts
  case submit =>
    obtain ⟨job, _, rfl⟩ := acts
    exact schedule_executors ..
  case recover =>
    subst acts
    exact recover_executors ..
  case elapse =>
    subst acts
    rfl
  case claim =>
    subst acts
    simp only [Process.perform]
    split
    · exact claim_executors ..
    · rfl
  case complete =>
    obtain ⟨_, _, _, rfl⟩ := acts
    exact completed ..
  case timeOut =>
    obtain ⟨_, rfl⟩ := acts
    exact completed ..
  case release =>
    subst acts
    simp only [Process.perform]
    split <;> rfl

theorem performAll_executors (c : Course) (steps : List CourseStep) :
    (c.performAll steps).process.scheduler.executors = c.process.scheduler.executors := by
  induction steps generalizing c with
  | nil => rfl
  | cons step rest ih => exact (ih (c.perform step)).trans (perform_executors c step)

/-- The call for a timer's handle is being executed for a job, and was executed or not. -/
def IsOpen (c : Course) (handle : Handle) (id : JobId) (delivered : Bool) : Prop :=
  ∃ number call, c.process.calls[number]? = some call ∧ call.phase = .executing ∧
    call.handle = handle ∧ call.id = id ∧ (number ∈ c.delivered ↔ delivered = true)

theorem delivered_other (apart : step.call? ≠ some number) :
    number ∈ (c.perform step).delivered ↔ number ∈ c.delivered := by
  have moved := tallies c step
  generalize c.perform step = d at moved ⊢
  cases moved with
  | kept _ same _ _ _ | late _ same _ => rw [same]
  | @executed other _ _ _ _ same _ =>
    have different : number ≠ other := fun equal => apart (equal ▸ rfl)
    simp [same, different]
  | @answered other _ _ _ _ _ same _ | @overdue other _ _ _ _ _ same _ =>
    have different : number ≠ other := fun equal => apart (equal ▸ rfl)
    rw [same, List.mem_erase_of_ne different]

/-- A step leaves the calls that it is not about. -/
theorem IsOpen.perform (isOpen : c.IsOpen handle id delivered)
    (apart : ∀ number call, c.process.calls[number]? = some call → call.handle = handle →
      step.call? ≠ some number) : (c.perform step).IsOpen handle id delivered := by
  obtain ⟨number, call, found, executing, named, owner, told⟩ := isOpen
  have different := apart number call found named
  have still : (c.perform step).process.calls[number]? = some call := by
    refine calls_perform found executing ?_ ?_
    · rintro clock answered rfl
      exact different rfl
    · rintro clock limit rfl
      exact different rfl
  exact ⟨number, call, still, executing, named, owner, (delivered_other different).trans told⟩

/-- A step that is about no call leaves all of them. -/
theorem IsOpen.aside (isOpen : c.IsOpen handle id delivered) (aside : step.call? = none) :
    (c.perform step).IsOpen handle id delivered :=
  isOpen.perform fun number _ _ _ same => by simp [aside] at same

theorem Sound.isOpen_unique {delivered' : Bool} (sound : Sound jobs c)
    (isOpen : c.IsOpen handle id delivered) (isOpen' : c.IsOpen handle other delivered') :
    id = other ∧ delivered = delivered' := by
  obtain ⟨number, call, found, _, named, owner, told⟩ := isOpen
  obtain ⟨number', call', found', _, named', owner', told'⟩ := isOpen'
  have same := Process.call_of_handle sound.distinct found found' (named.trans named'.symm)
  subst same
  rw [found] at found'
  cases found'
  exact ⟨owner.symm.trans owner', Bool.eq_iff_iff.mpr (told.symm.trans told')⟩

/-- What a step that is about one open call does to the others. -/
theorem others_open (found : c.process.calls[number]? = some call)
    (about : step.call? = some number) :
    ∀ handle id delivered, handle ≠ call.handle → c.IsOpen handle id delivered →
      (c.perform step).IsOpen handle id delivered := by
  intro handle id delivered apart isOpen
  refine isOpen.perform fun number' call' found' named same => ?_
  rw [about] at same
  cases same
  rw [found] at found'
  cases found'
  exact apart named.symm

/-- What a step that is about one call, or about none, makes of the calls that are being executed. -/
structure Handles (c d : Course) (handle : Handle) : Prop where
  unheard : d.unheard = c.unheard
  others : ∀ other id delivered, other ≠ handle → c.IsOpen other id delivered →
    d.IsOpen other id delivered

/-- The job of an open call is executed. -/
theorem IsOpen.execute (isOpen : c.IsOpen handle id false) : ∃ step, let d := c.perform step
    d.process = c.process ∧ d.fired = c.fired + 1 ∧ d.IsOpen handle id true ∧ Handles c d handle := by
  obtain ⟨number, call, found, executing, rfl, owner, told⟩ := isOpen
  have fresh : number ∉ c.delivered := fun member => Bool.false_ne_true (told.mp member)
  have executes : c.isExecuting number = true := isExecuting_iff.mpr ⟨call, found, executing⟩
  have noted : c.noted (.execute number) =
      { c with fired := c.fired + 1, delivered := number :: c.delivered } := by
    have missing : c.delivered.contains number = false := by simpa using fresh
    simp only [Course.noted, executes, missing, Bool.not_false, Bool.and_true, if_true]
  refine ⟨.execute number, rfl, ?_, ⟨number, call, found, executing, rfl, owner, ?_⟩, ?_, ?_⟩
  · simp only [Course.perform, noted]
  · simp [Course.perform, noted]
  · simp only [Course.perform, noted]
  · exact others_open found rfl

/-- The answer of an open call's execution is taken. -/
theorem IsOpen.complete (isOpen : c.IsOpen handle id true) (clock : Clock) (answered : Instant) :
    ∃ step, let d := c.perform step
    d.process.scheduler =
      (c.process.scheduler.complete clock id handle (DryRun.outcome answered id)).2 ∧
    d.fired = c.fired ∧ Handles c d handle := by
  obtain ⟨number, call, found, executing, rfl, rfl, told⟩ := isOpen
  have member : number ∈ c.delivered := told.mpr rfl
  refine ⟨.complete number clock answered, ?_, rfl, rfl, others_open found rfl⟩
  have acts : c.action? (.complete number clock answered) =
      some (.complete number clock (DryRun.outcome answered call.id)) := by
    simp [action?, member, found]
  rw [process_perform, acts]
  simp only [Option.elim_some]
  rw [Process.perform_complete found executing]

/-- An open call runs out of time before its job is executed. -/
theorem IsOpen.timeOut (isOpen : c.IsOpen handle id false) (clock : Clock) (limit : Nat) :
    ∃ step, let d := c.perform step
    d.process.scheduler =
      (c.process.scheduler.complete clock id handle (.error (.timeout limit))).2 ∧
    d.fired = c.fired ∧ Handles c d handle := by
  obtain ⟨number, call, found, executing, rfl, rfl, told⟩ := isOpen
  have fresh : number ∉ c.delivered := fun member => Bool.false_ne_true (told.mp member)
  have executes : c.isExecuting number = true := isExecuting_iff.mpr ⟨call, found, executing⟩
  have missing : c.delivered.contains number = false := by simpa using fresh
  have noted : c.noted (.timeOut number clock limit) = { c with overdue := number :: c.overdue } := by
    simp only [Course.noted, executes, missing, Bool.not_true, Bool.false_eq_true, if_false]
  refine ⟨.timeOut number clock limit, ?_, ?_, ?_, others_open found rfl⟩
  · have acts : c.action? (.timeOut number clock limit) =
        some (.complete number clock (.error (.timeout limit))) := by
      simp [action?, executes]
    rw [process_perform, acts]
    simp only [Option.elim_some]
    rw [Process.perform_complete found executing]
  · simp only [Course.perform, noted]
  · simp only [Course.perform, noted]

/-- A job is recovered. -/
theorem recovers (c : Course) (clock : Clock) (id : JobId) : ∃ step, let d := c.perform step
    d.process.scheduler = (c.process.scheduler.recover clock id).2 ∧ d.fired = c.fired ∧
    d.unheard = c.unheard ∧ ∀ handle id delivered, c.IsOpen handle id delivered →
      d.IsOpen handle id delivered :=
  ⟨.recover clock id, rfl, rfl, rfl, fun _ _ _ isOpen => isOpen.aside rfl⟩

/-- A timer elapses, for a job or for none. -/
theorem elapses (c : Course) (number : Nat) : ∃ step, let d := c.perform step
    d.process.scheduler = { c.process.scheduler with
      timers := (c.process.scheduler.timers.elapse number).2 } ∧ d.fired = c.fired ∧
    d.unheard = c.unheard ∧ ∀ handle id delivered, c.IsOpen handle id delivered →
      d.IsOpen handle id delivered :=
  ⟨.elapse number, rfl, rfl, rfl, fun _ _ _ isOpen => isOpen.aside rfl⟩

/-- A timer elapses for a job, which is claimed if its record names the timer. No call for the timer
was open before. -/
theorem Sound.claims (sound : Sound jobs c) {s : Scheduler}
    (elapses : (c.process.scheduler.timers.elapse number).1 = some id)
    (same : s = { c.process.scheduler with
      timers := (c.process.scheduler.timers.elapse number).2 }) :
    (∀ other delivered, ¬ c.IsOpen (.issued number) other delivered) ∧
    ∃ steps, let d := c.performAll steps
      d.process.scheduler = (s.claim id (.issued number)).2 ∧ d.fired = c.fired ∧
      d.unheard = c.unheard ∧
      (∀ handle id delivered, c.IsOpen handle id delivered → d.IsOpen handle id delivered) ∧
      ∀ job, (s.claim id (.issued number)).1 = .ok (some job) → d.IsOpen (.issued number) id false := by
  have begun : (c.perform (.elapse number)).process =
      { c.process with scheduler := s, calls := c.process.calls ++ [.begin id (.issued number)] } := by
    rw [process_perform, same]
    simp only [action?, Option.elim_some, Process.perform, elapses, Option.toList_some, List.map_cons,
      List.map_nil]
  have found : (c.perform (.elapse number)).process.calls[c.process.calls.length]? =
      some (.begin id (.issued number)) := by
    simp [begun]
  have sound' := sound.perform (.elapse number)
  refine ⟨?_, [.elapse number, .claim c.process.calls.length], ?_⟩
  · rintro other delivered ⟨place, call, there, executing, named, _, _⟩
    have still : (c.perform (.elapse number)).process.calls[place]? = some call :=
      calls_perform there executing (fun _ _ same => by cases same) (fun _ _ same => by cases same)
    have equal := Process.call_of_handle sound'.distinct still found named
    have bound := (List.getElem?_eq_some_iff.mp there).1
    omega
  · have claimed : (c.performAll [.elapse number, .claim c.process.calls.length]).process =
        { (c.perform (.elapse number)).process with
          scheduler := (s.claim id (.issued number)).2
          calls := (c.perform (.elapse number)).process.calls.set c.process.calls.length
            ((FireCall.begin id (.issued number)).afterClaim (s.claim id (.issued number)).1) } := by
      have waiting : (c.perform (.elapse number)).process.call? [.waiting] c.process.calls.length =
          some (.begin id (.issued number)) := by
        rw [Process.call?, found]
        rfl
      have scheduler : (c.perform (.elapse number)).process.scheduler = s := by rw [begun]
      change ((c.perform (.elapse number)).perform (.claim c.process.calls.length)).process = _
      rw [process_perform]
      simp only [action?, Option.elim_some, Process.perform, waiting, scheduler, FireCall.begin]
    refine ⟨by rw [claimed], rfl, rfl, fun handle id delivered isOpen => ?_, fun job answer => ?_⟩
    · have first : (c.perform (.elapse number)).IsOpen handle id delivered := isOpen.aside rfl
      exact first.aside rfl
    · refine ⟨c.process.calls.length, (FireCall.begin id (.issued number)).afterClaim (.ok (some job)),
        ?_, rfl, rfl, rfl, ?_⟩
      · rw [claimed, answer]
        simp [begun]
      · refine ⟨fun member => ?_, fun executed => absurd executed Bool.false_ne_true⟩
        obtain ⟨call, there, _⟩ := isExecuting_iff.mp (sound.executing _ member)
        simp at there

end Course

end Punctual
