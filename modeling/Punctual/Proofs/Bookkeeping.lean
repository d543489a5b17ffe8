import Punctual.Scheduler.Admission
import Punctual.Scheduler.Firing
import Punctual.Scheduler.Scan

/-!
What the scheduler keeps about each job: its record in the store, its entry in the armed index, and
the pending timers that were armed for it. Every operation on a job is made of a few calls on the
store, the index and the timer service. The theorems here say what one such call does to all three,
whether it succeeds or fails; operations are taken apart into these calls, never further.
-/
namespace Punctual

/-- What an evaluation answers, it answers without an error. -/
theorem ok_of_toOption {ε α : Type} {answer : Except ε α} {value : α}
    (same : answer.toOption = some value) : answer = .ok value := by
  cases answer <;> cases same
  rfl

/-! ## Timers by what they hand over -/

namespace Timers

variable {α : Type} {t u v : Timers α}

/-- What a pending timer hands over when it elapses; nothing for any other handle. -/
def payload? (t : Timers α) : Handle → Option α
  | .issued n => (t.find? n).map (·.payload)
  | .foreign _ => none

/-- Timers are numbered in the order in which they were armed, no two alike. -/
structure Numbered (t : Timers α) : Prop where
  issued : ∀ timer ∈ t.pending, timer.handle ≤ t.issued
  distinct : (t.pending.map (·.handle)).Nodup

/-- Some timers may have ended, or a request to arm been refused; nothing else has happened. -/
structure Shrinks (t u : Timers α) : Prop where
  pending : u.pending.Sublist t.pending
  issued : u.issued = t.issued
  service : u.service = t.service
  isShutDown : u.isShutDown = t.isShutDown
  failures : u.failures ≤ t.failures

theorem Shrinks.refl (t : Timers α) : Shrinks t t := ⟨.refl _, rfl, rfl, rfl, Nat.le_refl _⟩

theorem Shrinks.trans (first : Shrinks t u) (second : Shrinks u v) : Shrinks t v :=
  ⟨second.pending.trans first.pending, second.issued.trans first.issued,
    second.service.trans first.service, second.isShutDown.trans first.isShutDown,
    Nat.le_trans second.failures first.failures⟩

/-- Every request to arm succeeds, and every timer that elapses hands over. -/
structure Reliable (t : Timers α) : Prop where
  failures : t.failures = 0
  serving : t.isShutDown = false

theorem Reliable.shrink (reliable : Reliable t) (shrinks : Shrinks t u) : Reliable u :=
  ⟨Nat.le_zero.mp (reliable.failures ▸ shrinks.failures), shrinks.isShutDown.trans reliable.serving⟩

theorem Numbered.shrink (numbered : Numbered t) (shrinks : Shrinks t u) : Numbered u := by
  refine ⟨?_, numbered.distinct.sublist (shrinks.pending.map _)⟩
  intro timer member
  rw [shrinks.issued]
  exact numbered.issued timer (shrinks.pending.subset member)

theorem payload_of_mem (numbered : Numbered t) {timer : ArmedTimer α} (member : timer ∈ t.pending) :
    t.payload? (.issued timer.handle) = some timer.payload := by
  have distinct := numbered.distinct
  have found : t.pending.find? (·.handle == timer.handle) = some timer := by
    generalize t.pending = pending at member distinct
    induction pending with
    | nil => cases member
    | cons first rest ih =>
      obtain ⟨apart, distinct⟩ := List.nodup_cons.mp distinct
      rcases List.mem_cons.mp member with rfl | member
      · simp
      · have different : first.handle ≠ timer.handle := by
          intro same
          exact apart (List.mem_map.mpr ⟨timer, member, same.symm⟩)
        simpa [different] using ih member distinct
  simp [payload?, find?, found]

theorem mem_of_payload {handle : Handle} {payload : α} (held : t.payload? handle = some payload) :
    ∃ timer ∈ t.pending, handle = .issued timer.handle ∧ timer.payload = payload := by
  cases handle with
  | foreign id => cases held
  | issued n =>
    obtain ⟨timer, found, same⟩ := Option.map_eq_some_iff.mp held
    have number : timer.handle = n := by simpa using List.find?_some found
    exact ⟨timer, List.mem_of_find?_eq_some found, by rw [number], same⟩

theorem issued_of_payload (numbered : Numbered t) {handle : Handle} {payload : α}
    (held : t.payload? handle = some payload) : ∃ n ≤ t.issued, handle = .issued n := by
  obtain ⟨timer, member, rfl, _⟩ := mem_of_payload held
  exact ⟨timer.handle, numbered.issued timer member, rfl⟩

theorem payload_of_pending (same : u.pending = t.pending) : u.payload? = t.payload? := by
  funext handle
  cases handle <;> simp [payload?, find?, same]

theorem payload_drop (t : Timers α) (n : Nat) (handle : Handle) :
    (t.drop n).payload? handle = if handle = .issued n then none else t.payload? handle := by
  cases handle with
  | foreign id => simp [payload?]
  | issued m =>
    by_cases same : m = n
    · subst m
      simp [payload?, find?, drop, List.find?_filter]
    · have kept : (t.drop n).find? m = t.find? m := by
        simp only [find?, drop, List.find?_filter]
        congr 1
        funext timer
        by_cases named : timer.handle = m <;> simp [named, same]
      simp [payload?, kept, same]

theorem drop_shrinks (t : Timers α) (n : Nat) : Shrinks t (t.drop n) :=
  ⟨List.filter_sublist, rfl, rfl, rfl, Nat.le_refl _⟩

theorem payload_disarm (t : Timers α) (handle other : Handle) :
    (t.disarm handle).2.payload? other = if other = handle then none else t.payload? other := by
  cases handle with
  | foreign id =>
    by_cases same : other = .foreign id
    · subst other
      simp [payload?]
    · simp [disarm, same]
  | issued n =>
    by_cases pending : t.isPending n = true
    · simp only [disarm, pending, ↓reduceIte]
      rw [← payload_drop]
      exact congrFun (payload_of_pending rfl) other
    · have unchanged : (t.disarm (.issued n)).2 = t := by simp [disarm, pending]
      rw [unchanged]
      by_cases same : other = .issued n
      · subst other
        simpa [payload?, isPending] using pending
      · simp [same]

theorem disarm_shrinks (t : Timers α) (handle : Handle) : Shrinks t (t.disarm handle).2 := by
  cases handle with
  | foreign id => exact .refl t
  | issued n =>
    simp only [disarm]
    split
    · exact ⟨List.filter_sublist, rfl, rfl, rfl, Nat.le_refl _⟩
    · exact .refl t

/-- Disarming handles one after another ends exactly the timers they name. -/
theorem payload_disarm_all (handles : List Handle) (t : Timers α) (other : Handle) :
    (handles.foldl (fun timers handle => (timers.disarm handle).2) t).payload? other =
      if other ∈ handles then none else t.payload? other := by
  induction handles generalizing t with
  | nil => simp
  | cons handle rest ih =>
    rw [List.foldl_cons, ih, payload_disarm]
    by_cases first : other = handle <;> simp [first]

theorem disarm_all_shrinks (handles : List Handle) (t : Timers α) :
    Shrinks t (handles.foldl (fun timers handle => (timers.disarm handle).2) t) := by
  induction handles generalizing t with
  | nil => exact .refl t
  | cons handle rest ih => exact (disarm_shrinks t handle).trans (ih _)

/-- A request to arm is refused, or adds a timer under the next number. -/
theorem arm_cases (t : Timers α) (clock : Clock) (delay : Nat) (payload : α) :
    (∃ fault u, t.arm clock delay payload = (.error fault, u) ∧ u.pending = t.pending ∧
      Shrinks t u ∧ ¬ t.Reliable) ∨
    (∃ timer : ArmedTimer α, timer.handle = t.issued + 1 ∧ timer.payload = payload ∧
      t.arm clock delay payload = (.ok (t.issued + 1), { t with
        issued := t.issued + 1, pending := t.pending ++ [timer], delays := delay :: t.delays })) := by
  unfold arm
  split
  · rename_i staged
    exact .inl ⟨_, _, rfl, rfl, ⟨.refl _, rfl, rfl, rfl, Nat.sub_le ..⟩, fun reliable =>
      staged reliable.failures⟩
  split
  · rename_i ended
    exact .inl ⟨_, _, rfl, rfl, .refl t, fun reliable => by simp [reliable.serving] at ended⟩
  · exact .inr ⟨_, rfl, rfl, rfl⟩

/-- The state after a timer was armed. -/
theorem payload_append (numbered : Numbered t) (timer : ArmedTimer α)
    (next : timer.handle = t.issued + 1) (pending : u.pending = t.pending ++ [timer])
    (handle : Handle) :
    u.payload? handle =
      if handle = .issued (t.issued + 1) then some timer.payload else t.payload? handle := by
  cases handle with
  | foreign id => simp [payload?]
  | issued n =>
    by_cases same : n = t.issued + 1
    · subst n
      have absent : t.pending.find? (·.handle == t.issued + 1) = none := by
        apply List.find?_eq_none.mpr
        intro other member
        have bound := numbered.issued other member
        simp only [beq_iff_eq]
        omega
      simp [payload?, find?, pending, List.find?_append, absent, next]
    · have different : ¬ t.issued + 1 = n := fun reverse => same reverse.symm
      simp [payload?, find?, pending, List.find?_append, next, same, different]

theorem numbered_append (numbered : Numbered t) (timer : ArmedTimer α)
    (next : timer.handle = t.issued + 1) (pending : u.pending = t.pending ++ [timer])
    (issued : u.issued = t.issued + 1) : Numbered u := by
  constructor
  · intro other member
    rw [pending] at member
    rcases List.mem_append.mp member with member | member
    · have bound := numbered.issued other member
      omega
    · rw [List.mem_singleton.mp member]
      omega
  · rw [pending, List.map_append, List.nodup_append]
    refine ⟨numbered.distinct, by simp, ?_⟩
    intro left leftMember right rightMember same
    obtain ⟨other, member, rfl⟩ := List.mem_map.mp leftMember
    have bound := numbered.issued other member
    simp only [List.map_cons, List.map_nil, List.mem_singleton] at rightMember
    omega

end Timers

/-! ## Entries of the armed index -/

namespace ArmedIndex

variable {a : ArmedIndex}

theorem get_insert (a : ArmedIndex) (id other : JobId) (entry : ArmedJob) :
    (a.insert id entry).get? other = if other = id then some entry else a.get? other := by
  simp only [get?, insert, Std.TreeMap.getElem?_insert, Std.LawfulEqCmp.compare_eq_iff_eq]
  simp only [eq_comm]

theorem get_erase (a : ArmedIndex) (id other : JobId) :
    (a.erase id).get? other = if other = id then none else a.get? other := by
  simp only [get?, erase, Std.TreeMap.getElem?_erase, Std.LawfulEqCmp.compare_eq_iff_eq]
  simp only [eq_comm]

/-- An entry under another handle stays. -/
theorem get_eraseIf (a : ArmedIndex) (id other : JobId) (handle : Handle) :
    (a.eraseIf id handle).get? other =
      if other = id then (a.get? id).filter (·.handle ≠ handle) else a.get? other := by
  unfold eraseIf holds
  cases held : a.get? id with
  | none => by_cases same : other = id <;> simp [same, held]
  | some entry =>
    by_cases named : entry.handle = handle
    · by_cases same : other = id <;> simp [named, same, get_erase, Option.filter]
    · by_cases same : other = id <;> simp [named, same, held, Option.filter]

theorem get_markFiring (a : ArmedIndex) (id other : JobId) (handle : Handle) :
    (a.markFiring id handle).get? other =
      if other = id then
        (a.get? id).map fun entry =>
          if entry.handle = handle then { entry with firing := true } else entry
      else a.get? other := by
  unfold markFiring
  cases held : a.get? id with
  | none => by_cases same : other = id <;> simp [same, held]
  | some entry =>
    by_cases named : entry.handle = handle
    · by_cases same : other = id <;> simp [named, same, get_insert]
    · by_cases same : other = id <;> simp [named, same, held]

end ArmedIndex

/-! ## Calls of the scheduler -/

/-- The job as it is stored at an instant, with the handle of its timer if one was armed. -/
def Job.stamped (job : Job) (handle? : Option Handle) (now : Instant) : Job :=
  { job with handle?, lastUpdate? := some now }

/-- Every read and every write of the store succeeds. -/
structure Store.Reliable (s : Store) : Prop where
  available : s.available = true
  reads : s.readFaults = []
  writes : s.writeFaults = []

theorem Store.read_reliable {s : Store} (reliable : s.Reliable) (id : JobId) :
    s.read id = (.ok s.jobs[id]?, s) := by
  simp [read, reliable.reads, get?, reliable.available]

/-- A write fails and changes no record, or puts the job in place of the record with its id. -/
theorem Store.write_cases (s : Store) (job : Job) :
    (∃ e t, s.write job = (.error e, t) ∧ t.jobs = s.jobs ∧ ¬ s.Reliable) ∨
    (∃ t, s.write job = (.ok (), t) ∧ t.jobs = s.jobs.insert job.id job ∧
      (s.Reliable → t.Reliable)) := by
  have through : ∀ t : Store, t.jobs = s.jobs → (s.Reliable → t.Reliable) →
      (∃ e u, t.writeThrough job = (.error e, u) ∧ u.jobs = s.jobs ∧ ¬ s.Reliable) ∨
      (∃ u, t.writeThrough job = (.ok (), u) ∧ u.jobs = s.jobs.insert job.id job ∧
        (s.Reliable → u.Reliable)) := by
    intro t same kept
    unfold writeThrough save
    cases switch : t.available with
    | true =>
      refine .inr ⟨_, rfl, by simp [same], fun reliable => ?_⟩
      exact ⟨rfl, (kept reliable).reads, (kept reliable).writes⟩
    | false =>
      refine .inl ⟨_, _, rfl, same, fun reliable => ?_⟩
      simp [(kept reliable).available] at switch
  unfold write
  split
  · rename_i staged
    exact .inl ⟨_, _, rfl, rfl, fun reliable => by simp [reliable.writes] at staged⟩
  · rename_i staged
    exact through _ rfl fun reliable => by simp [reliable.writes] at staged
  · exact through s rfl id

namespace Scheduler

variable {s t u : Scheduler} {id : JobId} {job : Job} {clock : Clock} {due : Instant}

/-- A job's record in the store. -/
def record? (s : Scheduler) (id : JobId) : Option Job := s.store.jobs[id]?

/-- A job's entry in the armed index. -/
def armed? (s : Scheduler) (id : JobId) : Option ArmedJob := s.armed.get? id

/-- The job for which a pending timer was armed. -/
def owner? (s : Scheduler) (handle : Handle) : Option JobId := s.timers.payload? handle

/-- The handle that the next timer to be armed will get. -/
def nextHandle (s : Scheduler) : Handle := .issued (s.timers.issued + 1)

/-- No call on the store or the timer service fails. -/
structure Reliable (s : Scheduler) : Prop where
  store : s.store.Reliable
  timers : s.timers.Reliable

/-- The index without a job's entry. -/
def forget (s : Scheduler) (id : JobId) : Scheduler := { s with armed := s.armed.erase id }

/-- What is kept about every job stays, and the timer service goes on numbering. -/
structure Keeps (s t : Scheduler) : Prop where
  record : t.record? = s.record?
  entry : t.armed? = s.armed?
  owner : t.owner? = s.owner?
  issued : s.timers.issued ≤ t.timers.issued
  isShutDown : t.timers.isShutDown = s.timers.isShutDown
  numbered : s.timers.Numbered → t.timers.Numbered

/-- At most, staged faults were met and timers armed and ended again. -/
structure Unchanged (s t : Scheduler) : Prop extends Keeps s t where
  config : t.config = s.config
  reliable : s.Reliable → t.Reliable

/-- The job is stored as it stands, without a timer and without an entry in the index. -/
structure Parks (s : Scheduler) (job : Job) (t : Scheduler) : Prop where
  record : ∀ other, t.record? other = if other = job.id then some job else s.record? other
  unnamed : job.handle? = none
  entry : ∀ other, t.armed? other = if other = job.id then none else s.armed? other
  timers : t.timers = s.timers
  config : t.config = s.config
  reliable : s.Reliable → t.Reliable

/-- The job is stored as it stands, with the handle of a timer armed for it just now, and so it is
entered in the index. -/
structure Arms (s : Scheduler) (job : Job) (t : Scheduler) : Prop where
  record : ∀ other, t.record? other = if other = job.id then some job else s.record? other
  named : job.handle? = some s.nextHandle
  entry : ∃ due, ∀ other, t.armed? other =
    if other = job.id then some ⟨s.nextHandle, due, false⟩ else s.armed? other
  owner : ∀ handle, t.owner? handle = if handle = s.nextHandle then some job.id else s.owner? handle
  config : t.config = s.config
  issued : t.timers.issued = s.timers.issued + 1
  isShutDown : t.timers.isShutDown = s.timers.isShutDown
  numbered : t.timers.Numbered
  reliable : s.Reliable → t.Reliable

theorem Keeps.refl (s : Scheduler) : Keeps s s where
  record := rfl
  entry := rfl
  owner := rfl
  issued := Nat.le_refl _
  isShutDown := rfl
  numbered numbered := numbered

theorem Unchanged.refl (s : Scheduler) : Unchanged s s := ⟨.refl s, rfl, fun reliable => reliable⟩

private theorem unchanged_store {store : Store} (jobs : store.jobs = s.store.jobs)
    (reliable : s.store.Reliable → store.Reliable) : Unchanged s { s with store } where
  record := by funext other; simp [record?, jobs]
  entry := rfl
  owner := rfl
  config := rfl
  issued := Nat.le_refl _
  isShutDown := rfl
  numbered numbered := numbered
  reliable before := ⟨reliable before.store, before.timers⟩

theorem read_unchanged (s : Scheduler) (id : JobId) : Unchanged s (s.read id).2 := by
  have jobs : (s.store.read id).2.jobs = s.store.jobs := by
    unfold Store.read
    split <;> rfl
  have state : (s.read id).2 = { s with store := (s.store.read id).2 } := by
    unfold read
    split <;> simp_all
  rw [state]
  refine unchanged_store jobs fun reliable => ?_
  rw [Store.read_reliable reliable]
  exact reliable

theorem read_timers (s : Scheduler) (id : JobId) : (s.read id).2.timers = s.timers := by
  unfold read
  split <;> rfl

theorem read_reliable (reliable : s.Reliable) (id : JobId) :
    s.read id = (.ok (s.record? id), s) := by
  simp [read, Store.read_reliable reliable.store, record?]

/-- A read that succeeds answers the record. -/
theorem read_found {job? : Option Job} (found : (s.read id).1 = .ok job?) :
    job? = s.record? id := by
  have answer : (s.store.read id).1 = .ok job? := by
    unfold read at found
    split at found <;> simp_all
  unfold Store.read at answer
  split at answer
  · cases answer
  all_goals
    simp only [Store.get?] at answer
    split at answer <;> cases answer
    rfl

/-- A write fails and changes no record, or stores the job. -/
theorem write_cases (s : Scheduler) (job : Job) :
    (∃ e t, s.write job = (.error e, t) ∧ Unchanged s t ∧ ¬ s.Reliable) ∨
    (∃ store, s.write job = (.ok job, { s with store }) ∧
      store.jobs = s.store.jobs.insert job.id job ∧ (s.store.Reliable → store.Reliable)) := by
  unfold write
  rcases Store.write_cases s.store job with ⟨e, store, answer, jobs, fails⟩ | ⟨store, answer, done⟩
  · rw [answer]
    exact .inl ⟨_, _, rfl, unchanged_store jobs fun reliable => absurd reliable fails,
      fun reliable => fails reliable.store⟩
  · rw [answer]
    exact .inr ⟨store, rfl, done⟩

private theorem record_insert {store : Store} (jobs : store.jobs = s.store.jobs.insert job.id job)
    (other : JobId) :
    { s with store }.record? other = if other = job.id then some job else s.record? other := by
  simp only [record?, jobs, Std.TreeMap.getElem?_insert, Std.LawfulEqCmp.compare_eq_iff_eq]
  simp only [eq_comm]

private theorem unchanged_timers {timers : Timers JobId}
    (pending : timers.pending = s.timers.pending) (shrinks : s.timers.Shrinks timers) :
    Unchanged s { s with timers } where
  record := rfl
  entry := rfl
  owner := Timers.payload_of_pending pending
  config := rfl
  issued := Nat.le_of_eq shrinks.issued.symm
  isShutDown := shrinks.isShutDown
  numbered numbered := numbered.shrink shrinks
  reliable reliable := ⟨reliable.store, reliable.timers.shrink shrinks⟩

/-- No pending timer has the next handle yet. -/
theorem owner_next (numbered : s.timers.Numbered) : s.owner? s.nextHandle = none := by
  cases held : s.owner? s.nextHandle with
  | none => rfl
  | some id =>
    obtain ⟨n, bound, same⟩ := Timers.issued_of_payload numbered held
    cases same
    omega

/-- Storing a job without a timer fails and changes nothing, or puts the job in place of its record. -/
theorem writeUnarmed_cases (s : Scheduler) (clock : Clock) (job : Job) :
    (∃ e t, s.writeUnarmed clock job = (.error e, t) ∧ Unchanged s t ∧ ¬ s.Reliable) ∨
    (∃ store, s.writeUnarmed clock job = (.ok (job.stamped none clock.now), { s with store }) ∧
      (∀ other, { s with store }.record? other =
        if other = job.id then some (job.stamped none clock.now) else s.record? other) ∧
      (s.store.Reliable → store.Reliable)) := by
  rcases write_cases s (job.stamped none clock.now) with failed | ⟨store, answer, jobs, reliable⟩
  · exact .inl failed
  · exact .inr ⟨store, answer, record_insert jobs, reliable⟩

/-- Arming a job fails and changes nothing, a timer armed meanwhile being ended again, or arms it. -/
theorem armAndWrite_cases (numbered : s.timers.Numbered) (clock : Clock) (job : Job)
    (due : Instant) :
    (∃ e t, s.armAndWrite clock job due = (.error e, t) ∧ Unchanged s t ∧ ¬ s.Reliable) ∨
    (∃ t, s.armAndWrite clock job due = (.ok (job.stamped (some s.nextHandle) clock.now), t) ∧
      Arms s (job.stamped (some s.nextHandle) clock.now) t) := by
  unfold armAndWrite
  rcases s.timers.arm_cases clock (due.since clock.now).toNat job.id with
    ⟨fault, timers, answer, pending, shrinks, fails⟩ | ⟨timer, next, payload, answer⟩
  · rw [answer]
    exact .inl ⟨_, _, rfl, unchanged_timers pending shrinks, fun reliable => fails reliable.timers⟩
  rw [answer]
  generalize grown : { s.timers with
    issued := s.timers.issued + 1
    pending := s.timers.pending ++ [timer]
    delays := (due.since clock.now).toNat :: s.timers.delays } = timers
  have pending : timers.pending = s.timers.pending ++ [timer] := by rw [← grown]
  have issued : timers.issued = s.timers.issued + 1 := by rw [← grown]
  have isShutDown : timers.isShutDown = s.timers.isShutDown := by rw [← grown]
  have failures : timers.failures = s.timers.failures := by rw [← grown]
  have owner := Timers.payload_append numbered timer next pending
  have stillNumbered := Timers.numbered_append numbered timer next pending issued
  have stillReliable : s.timers.Reliable → timers.Reliable := fun reliable =>
    ⟨failures.trans reliable.failures, isShutDown.trans reliable.serving⟩
  dsimp only
  rcases write_cases { s with timers } (job.stamped (some s.nextHandle) clock.now) with
    ⟨e, t, written, unchanged, fails⟩ | ⟨store, written, jobs, reliable⟩
  · -- the new timer is the only one that is disarmed
    simp only [Job.stamped, nextHandle] at written
    rw [written]
    have fails : ¬ s.Reliable := fun reliable =>
      fails ⟨reliable.store, stillReliable reliable.timers⟩
    have shrinks := Timers.disarm_shrinks t.timers s.nextHandle
    refine .inl ⟨e, _, rfl, ?_, fails⟩
    refine ⟨?_, unchanged.config, fun reliable => absurd reliable fails⟩
    constructor
    case record => exact unchanged.record
    case entry => exact unchanged.entry
    case numbered => exact fun _ => (unchanged.numbered stillNumbered).shrink shrinks
    case isShutDown => exact shrinks.isShutDown.trans (unchanged.isShutDown.trans isShutDown)
    case issued =>
      have grew := unchanged.issued
      have kept := shrinks.issued
      change s.timers.issued ≤ (t.timers.disarm s.nextHandle).2.issued
      change timers.issued ≤ t.timers.issued at grew
      omega
    case owner =>
      funext handle
      have held : t.timers.payload? = timers.payload? := unchanged.owner
      have ended : (t.disarmHandle s.nextHandle).owner? handle =
          if handle = s.nextHandle then none else timers.payload? handle := by
        rw [← held]
        exact Timers.payload_disarm t.timers s.nextHandle handle
      refine ended.trans ?_
      split
      · rename_i same
        rw [same, owner_next numbered]
      · rename_i different
        rw [owner handle]
        exact if_neg different
  · simp only [Job.stamped, nextHandle] at written
    rw [written]
    refine .inr ⟨_, rfl, ?_⟩
    constructor
    case record => exact record_insert (s := { s with timers }) jobs
    case named => rfl
    case entry => exact ⟨due, fun other => ArmedIndex.get_insert ..⟩
    case config => rfl
    case issued => exact issued
    case isShutDown => exact isShutDown
    case numbered => exact stillNumbered
    case reliable => exact fun before => ⟨reliable before.store, stillReliable before.timers⟩
    case owner =>
      intro handle
      have held := owner handle
      rw [payload] at held
      exact held

/-! ## Disarming -/

theorem mem_handlesOf {handle : Handle} :
    handle ∈ s.handlesOf job ↔
      (∃ entry, s.armed? job.id = some entry ∧ entry.handle = handle) ∨ job.handle? = some handle := by
  unfold handlesOf armed?
  cases s.armed.get? job.id with
  | none => cases job.handle? <;> simp [eq_comm]
  | some entry =>
    cases job.handle? with
    | none => simp [eq_comm]
    | some recorded =>
      by_cases same : recorded = entry.handle <;> simp [same, eq_comm]

theorem disarm_record (s : Scheduler) (job : Job) : (s.disarm job).record? = s.record? := rfl

theorem disarm_entry (s : Scheduler) (job : Job) (other : JobId) :
    (s.disarm job).armed? other = if other = job.id then none else s.armed? other :=
  ArmedIndex.get_erase ..

theorem disarm_owner (s : Scheduler) (job : Job) (handle : Handle) :
    (s.disarm job).owner? handle = if handle ∈ s.handlesOf job then none else s.owner? handle :=
  Timers.payload_disarm_all ..

theorem disarm_timers (s : Scheduler) (job : Job) : s.timers.Shrinks (s.disarm job).timers :=
  Timers.disarm_all_shrinks ..

theorem disarm_reliable (job : Job) (reliable : s.Reliable) : (s.disarm job).Reliable :=
  ⟨reliable.store, reliable.timers.shrink (disarm_timers s job)⟩

theorem forget_entry (s : Scheduler) (id other : JobId) :
    (s.forget id).armed? other = if other = id then none else s.armed? other :=
  ArmedIndex.get_erase ..

theorem release_entry (s : Scheduler) (id other : JobId) (handle : Handle) :
    (s.release id handle).armed? other =
      if other = id then (s.armed? id).filter (·.handle ≠ handle) else s.armed? other :=
  ArmedIndex.get_eraseIf ..

end Scheduler

end Punctual
