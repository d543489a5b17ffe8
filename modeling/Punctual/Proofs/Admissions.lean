import Punctual.Proofs.Readings
import Punctual.Proofs.ScanWindows

/-!
Requests to schedule a job, while no call on the store or the timer service fails. What a request
carries is laid over the job's record, except for what only the scheduler says about a job. The request
is refused for one of four reasons, of which the first that applies is told, and then nothing happens.
Otherwise the job is placed: it is stored, and armed by one new timer or left to the scan.
-/
namespace Punctual

/-! ## Windows of any length -/

/-- The range of instants is shorter than what 64 bits hold in milliseconds. -/
theorem Instant.shift?_far {t : Instant} {length : Int} (valid : t.Valid)
    (far : maxInt64 * nanosPerMilli ≤ length ∨ length ≤ -(maxInt64 * nanosPerMilli)) :
    t.shift? length = none := by
  cases moved : t.shift? length with
  | none => rfl
  | some after =>
    have bounds : ∀ {a : Instant}, a.inRange = true →
        Instant.firstSecond ≤ a.second ∧ a.second ≤ Instant.lastSecond := fun within => by
      simpa [Instant.inRange] using within
    obtain ⟨first, last⟩ := bounds valid.inRange
    obtain ⟨first', last'⟩ := bounds (Instant.shift_valid moved).inRange
    have nano := valid.nano
    have nano' := (Instant.shift_valid moved).nano
    have ahead := t.toNanos_shift_le length
    have behind := t.le_toNanos_shift length
    have leap := t.leapNanos_le
    rw [← (Instant.shift?_eq_some moved).1] at ahead behind
    simp only [Instant.toNanos, Instant.firstSecond, Instant.lastSecond, nanosPerSecond,
      nanosPerMilli, maxInt64] at *
    omega

/-- So the range ends within a window that long. -/
theorem Instant.after_far {t : Instant} {length : Int} (valid : t.Valid)
    (far : maxInt64 * nanosPerMilli ≤ length) : t.after length = .latest := by
  rw [Instant.after, Instant.shift?_far valid (.inl far)]
  rfl

theorem Instant.after_valid (t : Instant) (length : Int) : (t.after length).Valid := by
  unfold Instant.after
  cases moved : t.shift? length with
  | none => exact ⟨by decide, by decide⟩
  | some stop => exact Instant.shift_valid moved

namespace SchedulerConfig

variable {c : SchedulerConfig} {now fire : Instant}

/-- Of a tolerance only so much is held as makes a difference. -/
theorem missedBefore_eq (valid : now.Valid) :
    c.missedBefore? now = now.shift? (-(c.toleranceMs * nanosPerMilli)) := by
  unfold missedBefore? toleranceHeldMs
  by_cases fits : (c.toleranceMs : Int) ≤ maxInt64
  · rw [Int.min_eq_left fits]
  · have second : (0 : Int) < nanosPerMilli := by decide
    rw [Int.min_eq_right (by omega), Instant.shift?_far valid (.inr (Int.le_refl _)),
      Instant.shift?_far valid (.inr ?_)]
    exact Int.neg_le_neg (Int.mul_le_mul_of_nonneg_right (by omega) (by omega))

/-- Of a chunk only so much is held as makes a difference. -/
theorem chunkEnd_eq (valid : now.Valid) :
    c.chunkEnd now = now.after (c.chunkMinutes * 60000 * nanosPerMilli) := by
  unfold chunkEnd chunkMs
  dsimp only
  split
  · rfl
  · rename_i longer
    rw [Instant.after_far valid (Int.le_refl _), Instant.after_far valid]
    exact Int.mul_le_mul_of_nonneg_right (by omega) (by decide)

/-- How far a chunk and then a load interval reach, or the last instant. -/
def reach (c : SchedulerConfig) (now : Instant) : Instant :=
  (now.after (c.chunkMinutes * 60000 * nanosPerMilli)).after (c.loadMinutes * 60 * nanosPerSecond)

/-- Nor, then, of a load interval. -/
theorem scanEnd_eq (valid : now.Valid) : c.scanEnd now = c.reach now := by
  rw [scanEnd, chunkEnd_eq valid, loadSeconds, reach]
  by_cases fits : c.loadMinutes * 60 ≤ maxNat64
  · rw [Nat.min_eq_left fits]
    push_cast
    rfl
  · have chunk := now.after_valid (c.chunkMinutes * 60000 * nanosPerMilli)
    rw [Nat.min_eq_right (by omega), Instant.after_far chunk (by decide), Instant.after_far chunk]
    simp only [maxNat64, maxInt64, nanosPerMilli, nanosPerSecond] at fits ⊢
    omega

/-- A firing at the instant lies further back than the tolerance allows. -/
def Misses (c : SchedulerConfig) (now fire : Instant) : Prop :=
  ∃ limit, now.shift? (-(c.toleranceMs * nanosPerMilli)) = some limit ∧ fire < limit

theorem isExpired_iff (valid : now.Valid) : c.isExpired now fire = true ↔ c.Misses now fire := by
  rw [isExpired, missedBefore_eq valid, Option.any_eq_true]
  simp [Misses]

end SchedulerConfig

/-! ## What is stored for a request -/

namespace Job

/-- A request over a record: what every job has is the request's, and so is what the request has of
that which a job may lack; the rest is the record's. -/
def laidOver (incoming : Job) (stored? : Option Job) : Job :=
  { incoming with
    correlationId? := incoming.correlationId?.or (stored?.bind (·.correlationId?))
    lastUpdate? := incoming.lastUpdate?.or (stored?.bind (·.lastUpdate?))
    handle? := incoming.handle?.or (stored?.bind (·.handle?))
    timeout? := incoming.timeout?.or (stored?.bind (·.timeout?))
    timeoutUnit? := incoming.timeoutUnit?.or (stored?.bind (·.timeoutUnit?)) }

/-- The job as far as its record says it has come, or at its beginning. -/
def governed (job : Job) (stored? : Option Job) : Job :=
  { job with
    status := (stored?.map (·.status)).getD .scheduled
    retries := (stored?.map (·.retries)).getD 0
    executions := (stored?.map (·.executions)).getD 0 }

end Job

/-! ## Jobs that are placed -/

namespace Scheduler

variable {s t : Scheduler} {id : JobId} {job saved incoming : Job} {clock : Clock}
  {now due fire horizon : Instant} {handle : Handle} {e : SchedulerError}

/-- A job that has a record may be armed under the handle, as the record or the index says. -/
def MayHold (s : Scheduler) (id : JobId) (handle : Handle) : Prop :=
  ∃ job, s.record? id = some job ∧
    (job.handle? = some handle ∨ ∃ entry, s.armed? id = some entry ∧ entry.handle = handle)

/-- A new timer is armed for the job and the instant, and the record and the index name it. -/
structure Timed (s : Scheduler) (now due : Instant) (saved : Job) (t : Scheduler) : Prop where
  named : saved.handle? = some s.nextHandle
  entry : t.armed? saved.id = some ⟨s.nextHandle, due, false⟩
  owner : t.owner? s.nextHandle = some saved.id
  issued : t.timers.issued = s.timers.issued + 1
  delays : t.timers.delays = (due.since now).toNat :: s.timers.delays

/-- No timer is armed for the job, and neither the record nor the index names one. -/
structure Untimed (s : Scheduler) (saved : Job) (t : Scheduler) : Prop where
  unnamed : saved.handle? = none
  entry : t.armed? saved.id = none
  owner : t.owner? s.nextHandle = none
  issued : t.timers.issued = s.timers.issued
  delays : t.timers.delays = s.timers.delays

/-- The job is stored in place of its record, whose timers are ended, and all else stays. -/
structure Replaces (s : Scheduler) (saved : Job) (t : Scheduler) : Prop where
  record : ∀ other, t.record? other = if other = saved.id then some saved else s.record? other
  entries : ∀ other, other ≠ saved.id → t.armed? other = s.armed? other
  ended : ∀ handle, handle ≠ s.nextHandle → s.MayHold saved.id handle → t.owner? handle = none
  spared : ∀ handle, handle ≠ s.nextHandle → ¬ s.MayHold saved.id handle →
    t.owner? handle = s.owner? handle
  config : t.config = s.config

/-- The job is stored, with a timer if the instant is not beyond the horizon. -/
structure Places (s : Scheduler) (now due horizon : Instant) (saved : Job) (t : Scheduler) : Prop
    extends Replaces s saved t where
  within : due ≤ horizon → Timed s now due saved t
  beyond : horizon < due → Untimed s saved t

theorem freed_owner (keyed : Keyed s) (id : JobId) (handle : Handle) :
    (s.MayHold id handle → (s.freed (s.record? id)).owner? handle = none) ∧
      (¬ s.MayHold id handle → (s.freed (s.record? id)).owner? handle = s.owner? handle) := by
  unfold MayHold
  cases record : s.record? id with
  | none => simp [freed]
  | some job =>
    have same := keyed.keyed id job record
    simp only [freed, disarm_owner, mem_handlesOf, same, Option.some.injEq, exists_eq_left']
    constructor
    · intro held
      exact if_pos held.symm
    · intro unheld
      exact if_neg fun held => unheld held.symm

theorem freed_entries (keyed : Keyed s) {other : JobId} (different : other ≠ id) :
    (s.freed (s.record? id)).armed? other = s.armed? other := by
  cases record : s.record? id with
  | none => rfl
  | some job =>
    rw [freed, disarm_entry, keyed.keyed id job record]
    exact if_neg different

theorem freed_record (s : Scheduler) (stored? : Option Job) : (s.freed stored?).record? = s.record? := by
  cases stored? <;> rfl

theorem freed_delays (s : Scheduler) (stored? : Option Job) :
    (s.freed stored?).timers.delays = s.timers.delays := by
  cases stored? with
  | none => rfl
  | some stored => exact disarm_delays s stored

theorem freed_nextHandle (s : Scheduler) (stored? : Option Job) :
    (s.freed stored?).nextHandle = s.nextHandle := by
  rw [nextHandle, (freed_timers s stored?).issued, nextHandle]

/-- What is done for a job after it was freed. -/
theorem replaces_of_freed (keyed : Keyed s)
    (record : ∀ other, t.record? other = if other = saved.id then some saved else s.record? other)
    (entries : ∀ other, other ≠ saved.id →
      t.armed? other = (s.freed (s.record? saved.id)).armed? other)
    (owner : ∀ handle, handle ≠ s.nextHandle →
      t.owner? handle = (s.freed (s.record? saved.id)).owner? handle)
    (config : t.config = s.config) : Replaces s saved t where
  record := record
  entries other different := (entries other different).trans (freed_entries keyed different)
  ended handle old held := (owner handle old).trans ((freed_owner keyed saved.id handle).1 held)
  spared handle old unheld := (owner handle old).trans ((freed_owner keyed saved.id handle).2 unheld)
  config := config

/-- Without a failing call a job that is freed can be stored without a timer. -/
theorem writeUnarmed_replaces (keyed : Keyed s) (reliable : s.Reliable) (clock : Clock) (job : Job)
    {armed : ArmedIndex} (gone : armed.get? job.id = none) (others : ∀ other, other ≠ job.id →
      armed.get? other = (s.freed (s.record? job.id)).armed? other) :
    ∃ t, { s.freed (s.record? job.id) with armed }.writeUnarmed clock job =
        (.ok (job.stamped none clock.now), t) ∧
      Replaces s (job.stamped none clock.now) t ∧ Untimed s (job.stamped none clock.now) t := by
  have still := freed_reliable (s.record? job.id) reliable
  rcases writeUnarmed_cases { s.freed (s.record? job.id) with armed } clock job with
    ⟨e, t, _, _, fails⟩ | ⟨store, same, record, _⟩
  · exact absurd ⟨still.store, still.timers⟩ fails
  refine ⟨_, same, replaces_of_freed keyed ?_ others (fun _ _ => rfl) (freed_config ..), ?_⟩
  · intro other
    rw [record other]
    exact congrArg (ite _ _) (congrFun (freed_record ..) other)
  · constructor
    case unnamed => rfl
    case entry => exact gone
    case issued => exact (freed_timers ..).issued
    case delays => exact freed_delays ..
    case owner =>
      rw [← freed_nextHandle s (s.record? job.id)]
      exact owner_next (keyed.numbered.shrink (freed_timers ..))

/-- Without a failing call a job that is freed is placed. -/
theorem armOrDefer_places (keyed : Keyed s) (reliable : s.Reliable) (clock : Clock) (job : Job)
    (due horizon : Instant) : ∃ handle? t,
    (s.freed (s.record? job.id)).armOrDefer clock job due horizon =
      (.ok (job.stamped handle? clock.now), t) ∧
    Places s clock.now due horizon (job.stamped handle? clock.now) t := by
  unfold armOrDefer
  split
  · rename_i beyond
    have erased := forget_entry (s.freed (s.record? job.id)) job.id
    obtain ⟨t, same, replaces, untimed⟩ := writeUnarmed_replaces keyed reliable clock job
      ((erased job.id).trans (if_pos rfl)) fun other different => (erased other).trans (if_neg different)
    exact ⟨none, t, same, replaces, fun within => absurd beyond within, fun _ => untimed⟩
  · rename_i within
    have next := freed_nextHandle s (s.record? job.id)
    rcases armAndWrite_cases (keyed.numbered.shrink (freed_timers s (s.record? job.id))) clock job due with
      ⟨e, t, _, _, fails⟩ | ⟨t, same, arms⟩
    · exact absurd (freed_reliable _ reliable) fails
    obtain ⟨entry, asked⟩ := armAndWrite_timed same
    rw [next] at same arms entry
    obtain ⟨_, entered⟩ := arms.entry
    refine ⟨some s.nextHandle, t, same, replaces_of_freed keyed ?_ ?_ ?_ ?_, fun _ => ?_,
      fun beyond => absurd beyond within⟩
    · intro other
      rw [arms.record other, freed_record]
    · intro other different
      exact (entered other).trans (if_neg different)
    · intro handle old
      rw [← next] at old
      exact (arms.owner handle).trans (if_neg old)
    · exact arms.config.trans (freed_config ..)
    · constructor
      case named => rfl
      case entry => exact entry
      case owner =>
        rw [← next]
        exact (arms.owner _).trans (if_pos rfl)
      case issued => rw [arms.issued, (freed_timers ..).issued]
      case delays => rw [asked, freed_delays]

/-! ## Requests -/

theorem requested_stamped (stored? : Option Job) (incoming : Job) (handle? : Option Handle)
    (now : Instant) : (requested stored? incoming).stamped handle? now =
      ((incoming.laidOver stored?).governed stored?).stamped handle? now := by
  cases stored? <;> simp [requested, Job.laidOver, Job.governed, Job.stamped, Job.merge, Job.asPatch]

theorem requested_next (stored? : Option Job) (incoming : Job) :
    (requested stored? incoming).next? = (incoming.laidOver stored?).next? := by
  cases stored? <;> rfl

/-- No record says that the job is finished. -/
def Unfinished (s : Scheduler) (id : JobId) : Prop :=
  ∀ stored, s.record? id = some stored → stored.status.isTerminal = false

/-- Why a request is refused; each reason presumes that none before it applies. -/
inductive Refuses (s : Scheduler) (now : Instant) (incoming : Job) : SchedulerError → Prop
  | blank (blank : Job.isBlankId incoming.id = true) : Refuses s now incoming (.invalid .blankId)
  | finalized {stored : Job} (named : Job.isBlankId incoming.id = false)
    (record : s.record? incoming.id = some stored) (final : stored.status.isTerminal = true) :
    Refuses s now incoming (.finalized stored.id stored.status)
  | spent (named : Job.isBlankId incoming.id = false) (unfinished : s.Unfinished incoming.id)
    (spent : (incoming.laidOver (s.record? incoming.id)).next? = none) :
    Refuses s now incoming (.invalid (.noFiringLeft incoming.id))
  | expired {fire : Instant} (named : Job.isBlankId incoming.id = false)
    (unfinished : s.Unfinished incoming.id)
    (next : (incoming.laidOver (s.record? incoming.id)).next? = some fire)
    (missed : s.config.Misses now fire)
    (unretried : ∀ stored, s.record? incoming.id = some stored → stored.status ≠ .retry)
    (unforced : s.config.forceExpired = false) : Refuses s now incoming (.expired incoming.id fire)

theorem requested_retry {stored? : Option Job} : (requested stored? incoming).status = .retry ↔
    ∃ stored, stored? = some stored ∧ stored.status = .retry := by
  cases stored? <;> simp [requested_status]

theorem unfinished_filter : s.Unfinished incoming.id ↔
    (s.record? incoming.id).filter (·.status.isTerminal) = none := by
  unfold Unfinished
  cases s.record? incoming.id <;> simp [Option.filter]

/-- A request that there is a reason to refuse is refused, and nothing happens. -/
theorem Refuses.schedule (reliable : s.Reliable) (valid : clock.now.Valid)
    (refuses : Refuses s clock.now incoming e) : s.schedule clock incoming = (.error e, s) := by
  unfold Scheduler.schedule
  rw [read_reliable reliable]
  cases refuses with
  | blank blank => rw [if_pos blank]
  | finalized named record final => simp [named, record, final, Option.filter]
  | spent named unfinished spent =>
    rw [← requested_next] at spent
    simp [named, unfinished_filter.mp unfinished, dueOf, spent, requested_id]
  | expired named unfinished next missed unretried unforced =>
    rw [← requested_next] at next
    have retried : ¬ (requested (s.record? incoming.id) incoming).status = .retry := by
      rw [requested_retry]
      exact fun ⟨stored, record, retried⟩ => unretried stored record retried
    simp [named, unfinished_filter.mp unfinished, dueOf, next, requested_id, retried, unforced,
      (SchedulerConfig.isExpired_iff valid).mpr missed]

/-- Where a request is due that is not refused: at its next firing or, if that was missed, now. -/
structure Due (c : SchedulerConfig) (now fire due : Instant) : Prop where
  missed : c.Misses now fire → due = now
  unmissed : ¬ c.Misses now fire → due = fire

/-- Unless there is a reason to refuse a request, its job is freed and armed or deferred. -/
theorem schedule_unrefused (reliable : s.Reliable) (valid : clock.now.Valid)
    (unrefused : ∀ e, ¬ Refuses s clock.now incoming e) : ∃ fire due,
    (incoming.laidOver (s.record? incoming.id)).next? = some fire ∧ Due s.config clock.now fire due ∧
    s.schedule clock incoming = (s.freed (s.record? incoming.id)).armOrDefer clock
      (requested (s.record? incoming.id) incoming) due (s.config.chunkEnd clock.now) := by
  have named : Job.isBlankId incoming.id = false := by
    by_contra blank
    exact unrefused _ (.blank (by simpa using blank))
  have unfinished : s.Unfinished incoming.id := by
    intro stored record
    by_contra final
    exact unrefused _ (.finalized named record (by simpa using final))
  cases next : (incoming.laidOver (s.record? incoming.id)).next? with
  | none => exact absurd (.spent named unfinished next) (unrefused _)
  | some fire =>
    obtain ⟨due, at_due, dated⟩ : ∃ due, Due s.config clock.now fire due ∧
        dueOf s.config clock.now (requested (s.record? incoming.id) incoming) = .ok due := by
      rw [dueOf, requested_next, next]
      dsimp only
      cases missed : s.config.isExpired clock.now fire with
      | false =>
        have unmissed : ¬ s.config.Misses clock.now fire := by
          rw [← SchedulerConfig.isExpired_iff valid, missed]
          exact Bool.false_ne_true
        exact ⟨fire, ⟨fun missed => absurd missed unmissed, fun _ => rfl⟩, rfl⟩
      | true =>
        have missed := (SchedulerConfig.isExpired_iff valid).mp missed
        refine ⟨clock.now, ⟨fun _ => rfl, fun unmissed => absurd missed unmissed⟩, ?_⟩
        rw [if_pos rfl, if_pos]
        by_contra! late
        refine unrefused _ (.expired named unfinished next missed ?_ (by simpa using late.2))
        intro stored record retried
        exact late.1 (requested_retry.mpr ⟨stored, record, retried⟩)
    refine ⟨fire, due, rfl, at_due, ?_⟩
    unfold Scheduler.schedule
    rw [read_reliable reliable]
    simp only [named, unfinished_filter.mp unfinished, dated]
    cases record : s.record? incoming.id <;> simp [freed, disarm]

/-- What comes of a request. -/
structure Answers (s : Scheduler) (clock : Clock) (incoming : Job) : Prop where
  refuses : ∀ e, (s.schedule clock incoming).1 = .error e ↔ Refuses s clock.now incoming e
  refused : ∀ e, Refuses s clock.now incoming e → (s.schedule clock incoming).2 = s
  admits : (∀ e, ¬ Refuses s clock.now incoming e) → ∃ fire due handle?,
    (incoming.laidOver (s.record? incoming.id)).next? = some fire ∧ Due s.config clock.now fire due ∧
    (s.schedule clock incoming).1 = .ok (((incoming.laidOver (s.record? incoming.id)).governed
      (s.record? incoming.id)).stamped handle? clock.now) ∧
    Places s clock.now due (clock.now.after (s.config.chunkMinutes * 60000 * nanosPerMilli))
      (((incoming.laidOver (s.record? incoming.id)).governed (s.record? incoming.id)).stamped handle?
        clock.now) (s.schedule clock incoming).2

/-- Whatever a request carries and whatever is stored and armed, while no call fails the request is
refused for the first reason there is and nothing happens, or its job takes the place of its record. -/
theorem request_is_refused_or_placed (keyed : Keyed s) (reliable : s.Reliable)
    (valid : clock.now.Valid) (incoming : Job) : Answers s clock incoming := by
  have admits : (∀ e, ¬ Refuses s clock.now incoming e) → ∃ fire due handle? t,
      (incoming.laidOver (s.record? incoming.id)).next? = some fire ∧ Due s.config clock.now fire due ∧
      s.schedule clock incoming = (.ok (((incoming.laidOver (s.record? incoming.id)).governed
        (s.record? incoming.id)).stamped handle? clock.now), t) ∧
      Places s clock.now due (clock.now.after (s.config.chunkMinutes * 60000 * nanosPerMilli))
        (((incoming.laidOver (s.record? incoming.id)).governed (s.record? incoming.id)).stamped handle?
          clock.now) t := by
    intro unrefused
    obtain ⟨fire, due, next, at_due, same⟩ := schedule_unrefused reliable valid unrefused
    obtain ⟨handle?, t, answer, places⟩ := armOrDefer_places keyed reliable clock
      (requested (s.record? incoming.id) incoming) due (s.config.chunkEnd clock.now)
    rw [requested_id] at answer
    rw [requested_stamped] at answer places
    rw [SchedulerConfig.chunkEnd_eq valid] at places
    exact ⟨fire, due, handle?, t, next, at_due, same.trans answer, places⟩
  constructor
  case refused =>
    intro e refuses
    rw [refuses.schedule reliable valid]
  case admits =>
    intro unrefused
    obtain ⟨fire, due, handle?, t, next, at_due, same, places⟩ := admits unrefused
    rw [same]
    exact ⟨fire, due, handle?, next, at_due, rfl, places⟩
  case refuses =>
    intro e
    constructor
    · intro failed
      by_cases refused : ∃ e', Refuses s clock.now incoming e'
      · obtain ⟨e', refuses⟩ := refused
        rw [refuses.schedule reliable valid] at failed
        cases failed
        exact refuses
      · obtain ⟨_, _, _, _, _, _, same, _⟩ := admits fun e' refuses => refused ⟨e', refuses⟩
        rw [same] at failed
        cases failed
    · intro refuses
      rw [refuses.schedule reliable valid]

theorem schedule_ready (ready : Keyed s ∧ s.Reliable) (clock : Clock) (incoming : Job) :
    Keyed (s.schedule clock incoming).2 ∧ (s.schedule clock incoming).2.Reliable := by
  have operates := schedule_operates ready.1.numbered clock incoming
  exact ⟨operates.keyed ready.1, operates.reliable ready.2⟩

theorem vacant_ready : Keyed vacant ∧ vacant.Reliable :=
  ⟨Process.begins_vacant.owned.toKeyed, ⟨⟨rfl, rfl, rfl⟩, ⟨rfl, rfl⟩⟩⟩

/-- A request cannot say how far its job has come, nor under which handle it is armed. -/
theorem forged_request_is_placed :
    let first := (vacant.schedule ⟨⟨0, 0⟩, 0⟩ (.once "job" ⟨60, 0⟩)).2
    let forged : Job := { Job.once "job" ⟨120, 0⟩ with
      status := .executed, retries := 7, executions := 9, handle? := some (.issued 5) }
    let answer := first.schedule ⟨⟨30, 0⟩, 0⟩ forged
    Answers first ⟨⟨30, 0⟩, 0⟩ forged ∧
      answer.1.toOption = some { Job.once "job" ⟨120, 0⟩ with
        handle? := some (.issued 2), lastUpdate? := some ⟨30, 0⟩ } ∧
      answer.2.timers.pending.map (·.handle) = [2] ∧
      answer.2.timers.delays = [90000000000, 60000000000] := by
  intro first forged answer
  obtain ⟨keyed, reliable⟩ := schedule_ready vacant_ready ⟨⟨0, 0⟩, 0⟩ (.once "job" ⟨60, 0⟩)
  refine ⟨request_is_refused_or_placed keyed reliable ⟨by decide, by decide⟩ forged, ?_, ?_, ?_⟩
  · decide +kernel
  · decide +kernel
  · decide +kernel

end Scheduler

end Punctual
