import Mathlib.Data.List.Chain
import Punctual.Proofs.Instants
import Punctual.Proofs.Scans

/-!
The windows of the scan. A job whose firing lies beyond the chunk is stored without a timer and left to
the scan. A scan looks one load interval further than the chunk, and scans are at most a load interval
apart, which is at most the chunk. So a scan that does not find the job yet is followed by another
before the firing is due, and one of them finds the job and arms it in time. At the end of the range of
instants the windows end too, and no scan comes after that.
-/
namespace Punctual

/-! ## Windows -/

/-- What a clock shows: instants in the range and outside leap seconds. -/
structure Instant.IsReading (t : Instant) : Prop where
  plain : t.isLeap = false
  inRange : t.inRange = true

instance (t : Instant) : Decidable t.IsReading :=
  decidable_of_iff (t.isLeap = false ∧ t.inRange = true)
    ⟨fun reading => ⟨reading.1, reading.2⟩, fun reading => ⟨reading.plain, reading.inRange⟩⟩

namespace SchedulerConfig

variable {c : SchedulerConfig} {now later fire : Instant}

/-- The configuration is one with which a scheduler can be working. -/
def Accepted (c : SchedulerConfig) : Prop :=
  ∃ given : SchedulerConfig, given.validate = .ok () ∧ c = given.clamped

theorem accepted_of_create {given : SchedulerConfig} {store : Store} {timers : Timers JobId}
    {executors : List Executor} {s : Scheduler}
    (created : Scheduler.create given store timers executors = .ok s) : s.config.Accepted := by
  unfold Scheduler.create at created
  split at created <;> cases created
  exact ⟨given, by assumption, rfl⟩

theorem accepted_of_reconfigure {given : SchedulerConfig} {s t : Scheduler}
    (reconfigured : s.reconfigure given = .ok t) : t.config.Accepted := by
  unfold Scheduler.reconfigure at reconfigured
  split at reconfigured <;> cases reconfigured
  exact ⟨given, by assumption, rfl⟩

/-- A scan comes after another, or after something else, by a load interval at most. -/
def Follows (c : SchedulerConfig) (earlier later : Instant) : Prop :=
  earlier ≤ later ∧ later ≤ earlier.shift (c.loadSeconds * nanosPerSecond)

instance (c : SchedulerConfig) (earlier later : Instant) : Decidable (c.Follows earlier later) :=
  inferInstanceAs (Decidable (_ ∧ _))

theorem chunkEnd_reading (reading : now.IsReading) : (c.chunkEnd now).IsReading :=
  ⟨Instant.after_plain reading.plain _, Instant.after_inRange ..⟩

/-- Within a load interval the end of the chunk is not passed. -/
theorem Accepted.within_chunk (accepted : c.Accepted) (reading : now.IsReading)
    (reading' : later.IsReading) (follows : c.Follows now later) : later ≤ c.chunkEnd now := by
  obtain ⟨given, _, rfl⟩ := accepted
  by_cases fits : (given.chunkMinutes : Int) * 60000 ≤ maxInt64
  · refine Instant.le_after reading'.plain reading'.inRange (le_trans follows.2 ?_)
    refine Instant.shift_le_shift reading.plain reading.plain le_rfl ?_
    have load : given.clamped.loadSeconds ≤ given.chunkMinutes * 60 := by
      simp only [loadSeconds, clamped]
      omega
    have chunk : given.clamped.chunkMs = given.chunkMinutes * 60000 := if_pos fits
    rw [chunk, nanosPerSecond, nanosPerMilli]
    omega
  · -- so long a chunk reaches the end of the range from anywhere
    have beyond : (now.shift (given.clamped.chunkMs * nanosPerMilli)).inRange = false := by
      rw [Bool.eq_false_iff]
      intro within
      have ended := (Instant.toNanos_bounds (Instant.shift_plain reading.plain _) within).2
      have began := (Instant.toNanos_bounds reading.plain reading.inRange).1
      have longest : given.clamped.chunkMs = maxInt64 := if_neg fits
      rw [Instant.toNanos_shift reading.plain, longest] at ended
      have distance : Instant.latest.toNanos < Instant.earliest.toNanos + maxInt64 * nanosPerMilli := by
        decide
      omega
    have last : given.clamped.chunkEnd now = .latest := by
      simp [chunkEnd, Instant.after, Instant.shift?, beyond]
    rw [last]
    exact ((Instant.inRange_iff reading'.plain).mp reading'.inRange).2

theorem le_chunkEnd (reading : now.IsReading) : now ≤ c.chunkEnd now := by
  have forward : 0 ≤ c.chunkMs := by
    simp only [chunkMs, maxInt64]
    omega
  exact Instant.le_after reading.plain reading.inRange
    (Instant.le_shift reading.plain (Int.mul_nonneg forward (Int.natCast_nonneg _)))

/-- Nor is, with another chunk, the end of what a scan looks for. -/
theorem within_scan (reading : now.IsReading) (reading' : later.IsReading)
    (follows : c.Follows now later) : later ≤ c.scanEnd now := by
  refine Instant.le_after reading'.plain reading'.inRange (le_trans follows.2 ?_)
  exact Instant.shift_le_shift reading.plain (chunkEnd_reading reading).plain (le_chunkEnd reading)
    (Int.le_refl _)

/-- What is yet to come has not been missed, whatever the tolerance. -/
theorem not_expired (reading : now.IsReading) (ahead : now < fire) : c.isExpired now fire = false := by
  unfold isExpired
  cases missed : c.missedBefore? now with
  | none => rfl
  | some limit =>
    obtain ⟨rfl, _⟩ := Instant.shift?_eq_some missed
    have before : now.shift (-(c.toleranceHeldMs * nanosPerMilli)) ≤ now := by
      refine Instant.shift_le reading.plain ?_
      simp only [toleranceHeldMs, nanosPerMilli, maxInt64]
      omega
    simpa using le_trans before (le_of_lt ahead)

end SchedulerConfig

/-! ## Jobs that wait for a scan -/

namespace Scheduler

variable {s t : Scheduler} {id : JobId} {job saved : Job} {clock : Clock}
  {now fire due horizon : Instant} {found : List Job}

/-- The job is active and has no timer; its next firing is known. -/
structure Awaits (s : Scheduler) (id : JobId) (fire : Instant) : Prop where
  record : ∃ job, s.record? id = some job ∧ job.status.isActive = true ∧ job.next? = some fire
  unarmed : s.armed? id = none

/-- Recovery arms the job, at an instant before its firing, for exactly as long as it takes from then to
the firing. -/
structure ArmsAhead (s : Scheduler) (clock : Clock) (id : JobId) (fire : Instant) : Prop where
  ahead : clock.now < fire
  unexpired : s.config.isExpired clock.now fire = false
  admitted : ∃ saved, (s.recover clock id).1 = .ok (.admitted saved)
  entered : ∃ handle, (s.recover clock id).2.armed? id = some ⟨handle, fire, false⟩ ∧
    (s.recover clock id).2.owner? handle = some id
  delay : ∃ delay : Nat, (delay : Int) = fire.since clock.now ∧
    (s.recover clock id).2.timers.delays = delay :: s.timers.delays

theorem Awaits.of_untouched (awaits : s.Awaits id fire) (untouched : Untouched id s t) :
    t.Awaits id fire := by
  constructor
  · rw [untouched.record]
    exact awaits.record
  · rw [untouched.entry]
    exact awaits.unarmed

/-- What is left without a timer lies beyond the horizon. -/
theorem armOrDefer_deferred (numbered : s.timers.Numbered)
    (answer : s.armOrDefer clock job due horizon = (.ok saved, t)) (untimed : saved.handle? = none) :
    horizon < due := by
  unfold armOrDefer at answer
  split at answer
  · assumption
  · rcases armAndWrite_cases numbered clock job due with ⟨e, u, same, _⟩ | ⟨u, same, _⟩
    · rw [same] at answer
      cases answer
    · rw [same] at answer
      cases answer
      cases untimed

/-- A job that was stored without a timer, if it is active, waits for its next firing. -/
theorem awaits_of_settles {now : Instant} (settles : Settles s now job (.ok saved, t))
    (active : job.status.isActive = true) (untimed : saved.handle? = none)
    (next : saved.next? = some fire) : t.Awaits job.id fire ∧ job.next? = some fire := by
  cases settles with
  | parked parks =>
    have record := (parks.record job.id).trans (if_pos rfl)
    exact ⟨⟨⟨_, record, active, next⟩, (parks.entry _).trans (if_pos rfl)⟩, next⟩
  | armed _ _ => cases untimed

/-- A job is armed for its next firing, or at once. -/
theorem dueOf_cases {now : Instant} {config : SchedulerConfig} (dated : dueOf config now job = .ok due) :
    due = now ∨ job.next? = some due := by
  unfold dueOf at dated
  split at dated
  · cases dated
  split at dated
  · split at dated <;> cases dated
    exact .inl rfl
  · cases dated
    exact .inr (by assumption)

theorem schedule_defers (numbered : s.timers.Numbered) (reading : clock.now.IsReading)
    (answer : s.schedule clock job = (.ok saved, t)) (untimed : saved.handle? = none)
    (next : saved.next? = some fire) :
    t.Awaits job.id fire ∧ s.config.chunkEnd clock.now < fire := by
  rcases schedule_cases s clock job with ⟨e, u, same, _⟩ | ⟨u, due, unchanged, unfinished, dated, same⟩
  · rw [answer] at same
    cases same
  rw [answer] at same
  have settles : Settles (u.freed (s.record? job.id)) clock.now (requested (s.record? job.id) job)
      (.ok saved, t) := by
    rw [same]
    exact requested_settles numbered unchanged unfinished
  obtain ⟨awaits, next⟩ :=
    awaits_of_settles settles (requested_active unfinished job) untimed next
  rw [requested_id] at awaits
  refine ⟨awaits, ?_⟩
  have freed := (unchanged.numbered numbered).shrink (freed_timers u (s.record? job.id))
  have beyond := armOrDefer_deferred freed same.symm untimed
  rcases dueOf_cases dated with rfl | dated
  · exact absurd beyond (not_lt_of_ge (SchedulerConfig.le_chunkEnd reading))
  · rw [next] at dated
    cases dated
    exact beyond

theorem complete_defers {handle : Handle} {outcome : ExecutionOutcome} (keyed : Keyed s)
    (record : s.record? id = some job) (current : isCurrent job handle = true)
    (succeeded : hasSucceeded outcome = true)
    (answer : s.complete clock id handle outcome = (.ok (some saved), t))
    (untimed : saved.handle? = none) (next : saved.next? = some fire) :
    t.Awaits id fire ∧ s.config.chunkEnd clock.now < fire := by
  rcases complete_cases s clock id handle outcome with
    ⟨e, u, same, _⟩ | ⟨u, _, renamed, _⟩ | ⟨u, fired, _, _, _, _, _, same⟩ |
    ⟨u, fired, result, unchanged, held, _, concludes, same⟩
  · rw [answer] at same
    cases same
  · simp [renamed job record] at current
  · rw [answer] at same
    cases same
  rw [record] at held
  cases held
  have numbered := unchanged.numbered keyed.numbered
  rw [answer] at same
  have result : result = (.ok saved, t) := by
    rcases result with ⟨_ | _, _⟩ <;> cases same
    rfl
  rw [succeeded] at concludes
  cases concludes with
  | @rearmed fire' _ _ following =>
    have settles : Settles u clock.now { job.advanced with status := .scheduled } (.ok saved, t) := by
      rw [← result]
      exact armOrDefer_settles numbered rfl
    obtain ⟨awaits, next⟩ := awaits_of_settles settles rfl untimed next
    have beyond := armOrDefer_deferred numbered result untimed
    cases following.symm.trans next
    rw [← unchanged.config]
    exact ⟨keyed.keyed id job record ▸ awaits, beyond⟩
  | executed _ _ last =>
    have settles : Settles u clock.now { job.advanced with status := .executed } (.ok saved, t) := by
      rw [← result]
      exact finalize_settles
    cases settles with
    | parked _ => cases last.symm.trans next
    | armed _ _ => cases untimed
  | retried fails _ => cases fails
  | ended fails _ => cases fails

/-! ## Recovering a job that waits -/

theorem disarm_delays (s : Scheduler) (job : Job) :
    (s.disarm job).timers.delays = s.timers.delays := by
  have ended : ∀ (handles : List Handle) (timers : Timers JobId),
      (handles.foldl (fun timers handle => (timers.disarm handle).2) timers).delays = timers.delays := by
    intro handles
    induction handles with
    | nil => exact fun _ => rfl
    | cons handle rest ih =>
      intro timers
      refine (ih _).trans ?_
      cases handle with
      | foreign other => rfl
      | issued number =>
        simp only [Timers.disarm]
        split <;> rfl
  exact ended ..

/-- A job is armed for its due instant, and the timer asked for the time until then. -/
theorem armAndWrite_timed (answer : s.armAndWrite clock job due = (.ok saved, t)) :
    t.armed? job.id = some ⟨s.nextHandle, due, false⟩ ∧
      t.timers.delays = (due.since clock.now).toNat :: s.timers.delays := by
  unfold armAndWrite at answer
  rcases s.timers.arm_cases clock (due.since clock.now).toNat job.id with
    ⟨fault, timers, same, _⟩ | ⟨timer, _, _, same⟩
  · rw [same] at answer
    cases answer
  rw [same] at answer
  dsimp only at answer
  split at answer
  · rename_i written
    cases answer
    rcases write_cases _ _ with ⟨e, u, same, _⟩ | ⟨store, same, _⟩
    · rw [same] at written
      cases written
    · rw [same] at written
      cases written
      exact ⟨(ArmedIndex.get_insert ..).trans (if_pos rfl), rfl⟩
  · cases answer

/-- Recovery, if it answers, takes up an active job that has no entry. -/
theorem recover_takes {answer : Recovery} (record : s.record? id = some job)
    (active : job.status.isActive = true) (unarmed : s.armed? id = none)
    (recovers : (s.recover clock id).1 = .ok answer) :
    s.recover clock id = ((s.read id).2.disarm job).takeUp clock job := by
  unfold recover at recovers ⊢
  have unchanged := read_unchanged s id
  cases readable : s.read id with
  | mk found t =>
    rw [readable] at recovers unchanged
    cases found with
    | error e => cases recovers
    | ok job? =>
      have same : job? = some job := (read_found (by rw [readable])).trans record
      subst same
      have entry : t.armed.get? id = none := (congrFun unchanged.entry id).trans unarmed
      simp [active, entry]

/-- A waiting job whose firing is yet to come and within reach of the scan is armed for it. -/
theorem recover_awaiting {answer : Recovery} (keyed : Keyed s) (reading : clock.now.IsReading)
    (awaits : s.Awaits id fire) (ahead : clock.now < fire)
    (reached : fire ≤ s.config.scanEnd clock.now)
    (recovers : (s.recover clock id).1 = .ok answer) : s.ArmsAhead clock id fire := by
  obtain ⟨job, record, active, next⟩ := awaits.record
  have named := keyed.keyed id job record
  have unchanged := read_unchanged s id
  have unexpired := s.config.not_expired reading ahead
  have taken := recover_takes record active awaits.unarmed recovers
  generalize ready : (s.read id).2.disarm job = u at taken
  have config : u.config = s.config := by
    rw [← ready]
    exact unchanged.config
  have numbered : u.timers.Numbered := by
    rw [← ready]
    exact (unchanged.numbered keyed.numbered).shrink (disarm_timers ..)
  have delays : u.timers.delays = s.timers.delays := by
    rw [← ready, disarm_delays, read_timers]
  rw [takeUp_unmissed next (by rw [config]; exact unexpired), resume, config, armOrDefer,
    if_neg (not_lt_of_ge reached)] at taken
  rcases armAndWrite_cases numbered clock job fire with ⟨e, t, same, _⟩ | ⟨t, same, arms⟩
  · rw [same] at taken
    rw [taken] at recovers
    cases recovers
  rw [same] at taken
  obtain ⟨entry, asked⟩ := armAndWrite_timed same
  have positive := Instant.since_pos reading.plain ahead
  constructor
  case ahead => exact ahead
  case unexpired => exact unexpired
  case admitted => exact ⟨_, congrArg Prod.fst taken⟩
  case entered =>
    rw [taken, ← named]
    exact ⟨u.nextHandle, entry, (arms.owner _).trans (if_pos rfl)⟩
  case delay =>
    rw [taken, ← delays]
    exact ⟨(fire.since clock.now).toNat, Int.toNat_of_nonneg (Int.le_of_lt positive), asked⟩

end Scheduler

/-! ## Runs with scans -/

namespace Process

open Scheduler

variable {p q r : Process} {id : JobId} {action : Action} {clock : Clock} {fire last : Instant}
  {found : List Job}

/-- The action leaves the job alone and the configuration as it is. -/
def avoids (id : JobId) (p : Process) (action : Action) : Bool :=
  p.subject? action ≠ some id && !reconfigures action

/-- A request, or the completion of a successful firing, stores a job without a timer although it has a
next firing. -/
inductive Defers (p : Process) (id : JobId) (clock : Clock) (fire : Instant) : Action → Prop
  | scheduled {action : Action} {incoming saved : Job} (named : incoming.id = id)
    (carried : p.operation? action = some (.schedule clock incoming))
    (answer : (p.scheduler.schedule clock incoming).1 = .ok saved) (untimed : saved.handle? = none)
    (next : saved.next? = some fire) : Defers p id clock fire action
  | completed {number : Nat} {call : FireCall} {outcome : ExecutionOutcome} {fired saved : Job}
    (found : p.calls[number]? = some call) (executing : call.phase = .executing)
    (named : call.id = id) (record : p.scheduler.record? id = some fired)
    (current : isCurrent fired call.handle = true) (succeeded : hasSucceeded outcome = true)
    (answer : (p.scheduler.complete clock id call.handle outcome).1 = .ok (some saved))
    (untimed : saved.handle? = none) (next : saved.next? = some fire) :
    Defers p id clock fire (.complete number clock outcome)

/-- A scan that succeeds. -/
structure Round where
  clock : Clock
  /-- the scheduler as it is when the job is recovered, if the scan hands the job over -/
  taken? : Option Scheduler

/-- Runs in which a job is left alone, save by scans. A scan that does not find the job, or finds it
armed, does nothing with it; one that hands it over recovers it at the time of the scan. -/
inductive Rounds (id : JobId) : Process → List Round → Process → Prop
  | ended {p q : Process} (after : Evolves (avoids id) p q) : Rounds id p [] q
  | passed {p q r : Process} {clock : Clock} {found : List Job} {rounds : List Round}
    (before : Evolves (avoids id) p q) (scanned : q.scheduler.scanned clock.now = .ok found)
    (absent : id ∉ q.scheduler.unarmed found)
    (after : Rounds id (q.perform (.scan clock.now)) rounds r) :
    Rounds id p (⟨clock, none⟩ :: rounds) r
  | handed {p q u r : Process} {clock : Clock} {found : List Job} {rounds : List Round} {place : Nat}
    {answer : Recovery} (before : Evolves (avoids id) p q)
    (scanned : q.scheduler.scanned clock.now = .ok found) (present : id ∈ q.scheduler.unarmed found)
    (between : Evolves (avoids id) (q.perform (.scan clock.now)) u)
    (listed : u.found[place]? = some id)
    (recovers : (u.scheduler.recover clock id).1 = .ok answer)
    (after : Rounds id (u.perform (.recoverFound clock place)) rounds r) :
    Rounds id p (⟨clock, some u.scheduler⟩ :: rounds) r

theorem Defers.awaits (keyed : p.scheduler.Keyed) (reading : clock.now.IsReading)
    (defers : p.Defers id clock fire action) :
    (p.perform action).scheduler.Awaits id fire ∧ p.scheduler.config.chunkEnd clock.now < fire := by
  cases defers with
  | scheduled named carried answer untimed next =>
    rw [perform_operation carried, ← named]
    exact schedule_defers keyed.numbered reading (Prod.ext answer rfl) untimed next
  | completed found executing named record current succeeded answer untimed next =>
    rw [perform_complete found executing, named]
    exact complete_defers keyed record current succeeded (Prod.ext answer rfl) untimed next

theorem Defers.kept_config (defers : p.Defers id clock fire action) : reconfigures action = false := by
  cases defers with
  | scheduled _ carried _ _ _ =>
    cases action with
    | reconfigure config => cases carried
    | _ => rfl
  | completed _ _ _ _ _ _ _ _ _ => rfl

/-- Whatever avoids a job changes neither what is kept about it nor the configuration. -/
theorem evolves_untouched (owned : p.scheduler.Owned) (evolves : Evolves (avoids id) p q) :
    q.scheduler.Owned ∧ Untouched id p.scheduler q.scheduler ∧
      q.scheduler.config = p.scheduler.config := by
  induction evolves with
  | refl => exact ⟨owned, .refl .., rfl⟩
  | @step q action _ allowed ih =>
    obtain ⟨owned, untouched, config⟩ := ih
    simp only [avoids, Bool.and_eq_true, decide_eq_true_eq, Bool.not_eq_true'] at allowed
    exact ⟨perform_owned owned action,
      untouched.trans ((perform_moves q action).untouched owned allowed.1),
      (perform_config owned.toKeyed allowed.2).trans config⟩

/-- To look for jobs changes nothing. -/
theorem scan_scheduler (p : Process) (now : Instant) :
    (p.perform (.scan now)).scheduler = p.scheduler := by
  simp only [perform]
  split <;> rfl

/-- A scan hands a waiting job over if and only if its firing is within reach. -/
theorem handed_iff {s : Scheduler} (keyed : s.Keyed) (awaits : s.Awaits id fire)
    (within : Instant.earliest ≤ fire) {now : Instant} (scanned : s.scanned now = .ok found) :
    id ∈ s.unarmed found ↔ fire ≤ s.config.scanEnd now := by
  obtain ⟨job, record, active, next⟩ := awaits.record
  have queried : (Store.queried? .earliest (s.config.scanEnd now) [.scheduled, .retry] job).isSome ↔
      fire ≤ s.config.scanEnd now := by
    have wanted : [JobStatus.scheduled, JobStatus.retry].contains job.status = true := by
      revert active
      cases job.status <;> decide
    simp only [Store.queried?, wanted, ↓reduceIte, next, Option.isSome_filter, Option.any_some,
      within, decide_true, Bool.true_and, decide_eq_true_eq]
  rw [← queried, mem_unarmed keyed scanned]
  constructor
  · rintro ⟨other, held, wanted, _⟩
    cases record.symm.trans held
    exact wanted
  · exact fun wanted => ⟨job, record, wanted, awaits.unarmed⟩

/-- No scan hands over a job that is entered in the index. -/
theorem Rounds.none_taken {rounds : List Round} (rounded : Rounds id p rounds r)
    (owned : p.scheduler.Owned) {entry : ArmedJob} (entered : p.scheduler.armed? id = some entry) :
    ∀ round ∈ rounds, round.taken? = none := by
  induction rounded with
  | ended _ => exact fun _ member => nomatch member
  | @passed p q r clock found rounds before scanned absent _ ih =>
    obtain ⟨owned, untouched, _⟩ := evolves_untouched owned before
    have same := scan_scheduler q clock.now
    have rest := ih (same ▸ owned) (by rw [same, untouched.entry]; exact entered)
    intro round member
    rcases List.mem_cons.mp member with rfl | member
    · rfl
    · exact rest round member
  | @handed p q u r clock found rounds place answer before scanned present _ _ _ _ _ =>
    obtain ⟨_, untouched, _⟩ := evolves_untouched owned before
    have still : q.scheduler.armed? id = some entry := untouched.entry.trans entered
    obtain ⟨job, member, rfl⟩ := List.mem_map.mp present
    have vacant := (List.mem_filter.mp member).2
    simp only [armed?] at still
    simp [still] at vacant

/-- Scans at most a load interval apart, the first of them soon enough, arm a waiting job in time. -/
theorem Rounds.arms_ahead {rounds : List Round} (rounded : Rounds id p rounds r)
    (owned : p.scheduler.Owned) (accepted : p.scheduler.config.Accepted)
    (awaits : p.scheduler.Awaits id fire) (within : Instant.earliest ≤ fire)
    (readings : ∀ round ∈ rounds, round.clock.now.IsReading)
    (soon : ∀ now : Instant, now.IsReading → p.scheduler.config.Follows last now → now < fire)
    (timely : List.IsChain p.scheduler.config.Follows (last :: rounds.map (·.clock.now)))
    (reached : ∃ round ∈ rounds, fire ≤ round.clock.now) :
    ∃ earlier clock s later, rounds = earlier ++ ⟨clock, some s⟩ :: later ∧
      (∀ round ∈ earlier ++ later, round.taken? = none) ∧ s.ArmsAhead clock id fire := by
  induction rounded generalizing last with
  | ended _ =>
    obtain ⟨round, member, _⟩ := reached
    cases member
  | @passed p q r clock found rounds before scanned absent _ ih =>
    obtain ⟨owned, untouched, config⟩ := evolves_untouched owned before
    have awaits := awaits.of_untouched untouched
    have reading := readings _ List.mem_cons_self
    obtain ⟨follows, timely⟩ := List.isChain_cons_cons.mp timely
    have beyond := lt_of_not_ge (mt (handed_iff owned.toKeyed awaits within scanned).mpr absent)
    rw [← scan_scheduler q clock.now] at owned awaits config beyond
    rw [← config] at accepted timely
    obtain ⟨earlier, scan, s, later, parted, untaken, arms⟩ := ih owned accepted awaits
      (fun round member => readings round (List.mem_cons_of_mem _ member))
      (fun next reading' follows =>
        lt_of_le_of_lt (SchedulerConfig.within_scan reading reading' follows) beyond)
      timely (by
        obtain ⟨round, member, late⟩ := reached
        rcases List.mem_cons.mp member with rfl | member
        · exact absurd (soon _ reading follows) (not_lt_of_ge late)
        · exact ⟨round, member, late⟩)
    refine ⟨⟨clock, none⟩ :: earlier, scan, s, later, by rw [parted]; rfl, ?_, arms⟩
    intro round member
    rcases List.mem_cons.mp member with rfl | member
    · rfl
    · exact untaken round member
  | @handed p q u r clock found rounds place answer before scanned present between listed recovers
      after _ =>
    obtain ⟨owned, untouched, config⟩ := evolves_untouched owned before
    have awaits := awaits.of_untouched untouched
    have reading := readings _ List.mem_cons_self
    have ahead := soon _ reading (List.isChain_cons_cons.mp timely).1
    have near := (handed_iff owned.toKeyed awaits within scanned).mp present
    rw [← scan_scheduler q clock.now] at owned awaits near
    obtain ⟨owned, untouched, config⟩ := evolves_untouched owned between
    have awaits := awaits.of_untouched untouched
    rw [← config] at near
    have arms := recover_awaiting owned.toKeyed reading awaits ahead near recovers
    refine ⟨[], clock, u.scheduler, rounds, rfl, ?_, arms⟩
    have carried : u.operation? (.recoverFound clock place) = some (.recover clock id) := by
      rw [operation?, listed]
      rfl
    obtain ⟨handle, entered, _⟩ := arms.entered
    exact after.none_taken (perform_owned owned _) (by rw [perform_operation carried]; exact entered)

/-- What a scheduler works with at any time after it was created is an accepted configuration. -/
theorem accepted_of_run {given : SchedulerConfig} {store : Store} {timers : Timers JobId}
    {executors : List Executor} {s : Scheduler} (created : create given store timers executors = .ok s)
    (begins : Begins (ofScheduler s)) (reaches : Reaches (fun _ => True) (ofScheduler s) p) :
    p.scheduler.config.Accepted := by
  refine (reaches.invariant (fun q => q.scheduler.Owned ∧ q.scheduler.config.Accepted)
    ⟨begins.owned, SchedulerConfig.accepted_of_create created⟩ ?_).2
  intro q action _ ⟨owned, accepted⟩
  refine ⟨perform_owned owned action, ?_⟩
  cases kept : reconfigures action with
  | false => exact perform_config owned.toKeyed kept ▸ accepted
  | true =>
    cases action with
    | reconfigure config =>
      simp only [perform]
      cases answer : q.scheduler.reconfigure config with
      | ok t => exact SchedulerConfig.accepted_of_reconfigure answer
      | error e => exact accepted
    | _ => cases kept

/-- From the deferral of a job on, scans that keep to the load interval and go on until the job's firing
is due, arm it exactly once, before the firing and for its time, and never take it for one that was
missed. -/
theorem scan_windows_leave_no_gap {start : Process} {rounds : List Round} (begins : Begins start)
    (reaches : Reaches (fun _ => True) start p) (accepted : p.scheduler.config.Accepted)
    (defers : p.Defers id clock fire action) (rounded : Rounds id (p.perform action) rounds r)
    (reading : clock.now.IsReading) (readings : ∀ round ∈ rounds, round.clock.now.IsReading)
    (timely : List.IsChain p.scheduler.config.Follows (clock.now :: rounds.map (·.clock.now)))
    (reached : ∃ round ∈ rounds, fire ≤ round.clock.now) :
    ∃ earlier scan s later, rounds = earlier ++ ⟨scan, some s⟩ :: later ∧
      (∀ round ∈ earlier ++ later, round.taken? = none) ∧ s.ArmsAhead scan id fire := by
  have owned : p.scheduler.Owned :=
    reaches.invariant (·.scheduler.Owned) begins.owned fun _ action _ owned => perform_owned owned action
  obtain ⟨awaits, beyond⟩ := defers.awaits owned.toKeyed reading
  have config := perform_config owned.toKeyed defers.kept_config
  have chunk := p.scheduler.config.chunkEnd_reading reading
  have within : Instant.earliest ≤ fire :=
    le_trans ((Instant.inRange_iff chunk.plain).mp chunk.inRange).1 (le_of_lt beyond)
  rw [← config] at beyond accepted timely
  exact rounded.arms_ahead (perform_owned owned action) accepted awaits within readings
    (fun now reading' follows =>
      lt_of_le_of_lt (accepted.within_chunk reading reading' follows) beyond)
    timely reached

/-- A process that has deferred a job for its firing in forty minutes. -/
def deferring : Process :=
  (ofScheduler .vacant).perform (.operate (.schedule ⟨⟨0, 0⟩, 0⟩ (.once "job" ⟨2400, 0⟩)))

/-- With scans every ten minutes, the second of which looks just as far as the firing, it is the second
that arms the job. -/
theorem scan_windows_leave_no_gap_at_the_edge :
    ∃ rounds r, Rounds "job" deferring rounds r ∧
      rounds.map (fun round => (round.clock.now.second, round.taken?.isSome)) =
        [(600, false), (1200, true), (1800, false), (2400, false)] ∧
      ∃ s, ⟨⟨⟨1200, 0⟩, 0⟩, some s⟩ ∈ rounds ∧ s.ArmsAhead ⟨⟨1200, 0⟩, 0⟩ "job" ⟨2400, 0⟩ := by
  let reading (second : Int) : Clock := ⟨⟨second, 0⟩, 0⟩
  let scan (p : Process) (second : Int) : Process := p.perform (.scan (reading second).now)
  let found : Process := scan (scan deferring 600) 1200
  let armed : Process := found.perform (.recoverFound (reading 1200) 0)
  let rounds : List Round := [⟨reading 600, none⟩, ⟨reading 1200, some found.scheduler⟩,
    ⟨reading 1800, none⟩, ⟨reading 2400, none⟩]
  let job : Job := { Job.once "job" ⟨2400, 0⟩ with lastUpdate? := some ⟨0, 0⟩ }
  have passes : ∀ {p r : Process} {clock : Clock} {rest : List Round},
      (p.scheduler.scanned clock.now).toOption.map p.scheduler.unarmed = some [] →
      Rounds "job" (p.perform (.scan clock.now)) rest r →
      Rounds "job" p (⟨clock, none⟩ :: rest) r := by
    intro p r clock rest vacant after
    obtain ⟨jobs, scanned, none⟩ := Option.map_eq_some_iff.mp vacant
    exact .passed .refl (ok_of_toOption scanned) (by simp [none]) after
  have idle : Rounds "job" armed [⟨reading 1800, none⟩, ⟨reading 2400, none⟩]
      (scan (scan armed 1800) 2400) :=
    passes (by decide +kernel) (passes (by decide +kernel) (.ended .refl))
  have scanned : (scan deferring 600).scheduler.scanned (reading 1200).now = .ok [job] :=
    ok_of_toOption (by decide +kernel)
  have recovers : (found.scheduler.recover (reading 1200) "job").1 = .ok (.admitted
      { job with handle? := some (.issued 1), lastUpdate? := some ⟨1200, 0⟩ }) :=
    ok_of_toOption (by decide +kernel)
  have handed : Rounds "job" (scan deferring 600) rounds.tail (scan (scan armed 1800) 2400) :=
    .handed .refl scanned (by decide +kernel) .refl (by decide +kernel) recovers idle
  have rounded : Rounds "job" deferring rounds (scan (scan armed 1800) 2400) :=
    passes (by decide +kernel) handed
  have deferred : ((ofScheduler .vacant).scheduler.schedule (reading 0) (.once "job" ⟨2400, 0⟩)).1 =
      .ok job := ok_of_toOption (by decide +kernel)
  have defers : (ofScheduler .vacant).Defers "job" (reading 0) ⟨2400, 0⟩
      (.operate (.schedule (reading 0) (.once "job" ⟨2400, 0⟩))) :=
    .scheduled rfl rfl deferred rfl rfl
  have readings : ∀ round ∈ rounds, round.clock.now.IsReading := by
    have whole : ∀ now ∈ rounds.map (·.clock.now), now.IsReading := by decide +kernel
    exact fun round member => whole _ (List.mem_map_of_mem member)
  have timely : List.IsChain SchedulerConfig.initial.Follows
      ((reading 0).now :: rounds.map (·.clock.now)) := by decide +kernel
  have created : create .initial .empty (.ofService .recording) [] = .ok vacant := rfl
  have reached : ∃ round ∈ rounds, (⟨2400, 0⟩ : Instant) ≤ round.clock.now :=
    ⟨⟨reading 2400, none⟩, by simp [rounds], by decide⟩
  obtain ⟨earlier, clock, s, later, parted, _, arms⟩ := scan_windows_leave_no_gap begins_vacant .refl
    (accepted_of_run created begins_vacant .refl) defers rounded (by decide) readings timely reached
  have member : ⟨clock, some s⟩ ∈ rounds := by simp [parted]
  obtain ⟨rfl, rfl⟩ : clock = reading 1200 ∧ s = found.scheduler := by simpa [rounds] using member
  exact ⟨rounds, _, rounded, by decide +kernel, found.scheduler, member, arms⟩

end Process

end Punctual
