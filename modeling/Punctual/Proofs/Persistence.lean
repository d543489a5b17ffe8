import Punctual.Config.Record
import Punctual.Proofs.Encodings

/-!
Records survive being kept. Whatever record a job, a patch or a configuration was read from, with fields
left out, null or unknown, as an object or as an array, and with instants and identifiers in any of their
spellings: the record it is written as reads back as the same job, patch or configuration. Every field is
written, under the name that it is read by.
-/
namespace Punctual

open Json

theorem TimeUnit.restores : Restores TimeUnit.ofJson? (fun unit => .str unit.name) :=
  word_restores fun unit => by cases unit <;> rfl

theorem JobStatus.restores : Restores JobStatus.ofJson? (fun status => .str status.name) :=
  word_restores fun status => by cases status <;> rfl

/-! ## Recipients -/

namespace Recipient

theorem mapM_texts (texts : List (String × String)) :
    (texts.map fun (name, value) => (name, Json.str value)).mapM
      (fun (name, value) => value.string?.map (name, ·)) = some texts := by
  induction texts with
  | nil => rfl
  | cons text rest ih =>
    rw [List.map_cons, List.mapM_cons, ih]
    rfl

theorem texts_restores : Restores texts? textsToJson where
  again := by
    intro j texts read
    have sorted : Named.Sorted texts := by
      unfold texts? at read
      split at read
      · obtain ⟨entries, _, same⟩ := do_eq_some_iff.mp read
        cases same
        exact Named.ofList_sorted entries
      · cases read
    refine do_eq_some_iff.mpr ⟨texts, mapM_texts texts, ?_⟩
    exact congrArg some (Named.ofList_of_sorted sorted)
  present _ := by simp [textsToJson]

theorem readPayload_again {r s : Record} {payload? : Option Json} (found : readPayload? r = some payload?)
    (written : s.lookup "payload" = some (.ofOption id payload?)) : readPayload? s = some payload? := by
  unfold readPayload? Record.optional at found ⊢
  rw [written]
  split at found
  · cases found
    rfl
  · cases found
    rfl
  · rename_i value present _
    cases found
    -- what was read as a payload is written as something else than null
    have kept := canonical_ne_null present
    simp [ofOption, canonical_canonical]

theorem restores : Restores ofJson? toJson where
  again := by
    intro j recipient read
    unfold ofJson? at read
    simp only [↓do_eq_some_iff] at read
    obtain ⟨⟨kind, fields⟩, _, read⟩ := read
    dsimp only at read
    split at read
    · cases read
    simp only [↓do_eq_some_iff] at read
    obtain ⟨r, _, url, hasUrl, method, hasMethod, headers, hasHeaders, params, hasParams, payload?,
      hasPayload, same⟩ := read
    cases same
    unfold ofJson?
    simp only [↓do_eq_some_iff]
    refine ⟨("http", _), tagged_obj rfl, ?_⟩
    simp only [ne_eq, not_true_eq_false, ↓reduceIte]
    simp only [↓do_eq_some_iff]
    exact ⟨_, record_obj rfl (by decide),
      url, string_restores.required hasUrl rfl,
      method, string_restores.withDefault hasMethod rfl rfl,
      headers, texts_restores.withDefault hasHeaders rfl rfl,
      params, texts_restores.withDefault hasParams rfl rfl,
      payload?, readPayload_again hasPayload rfl, rfl⟩
  present _ := by simp [toJson]

end Recipient

/-! ## Triggers -/

theorem Interval.ofRecord_fields {j : Json} {t : Interval} (read : ofRecord? j = some t) :
    ofRecord? (.obj t.fields) = some t := by
  unfold ofRecord? at read
  simp only [↓do_eq_some_iff] at read
  obtain ⟨r, _, start, hasStart, stop?, hasStop, limit, hasLimit, count, hasCount, period, hasPeriod, next?,
    hasNext, same⟩ := read
  cases same
  unfold ofRecord?
  simp only [↓do_eq_some_iff]
  exact ⟨_, record_obj rfl (by decide),
    start, instant_restores.required hasStart rfl,
    stop?, instant_restores.optional hasStop rfl,
    limit, int32_restores.withDefault hasLimit rfl rfl,
    count, int32_restores.withDefault hasCount rfl rfl,
    period, int64_restores.required hasPeriod rfl,
    next?, instant_restores.nullable hasNext rfl, rfl⟩

theorem SimpleTimer.ofRecord_fields {j : Json} {t : SimpleTimer} (read : ofRecord? j = some t) :
    ofRecord? (.obj t.fields) = some t := by
  unfold ofRecord? at read
  simp only [↓do_eq_some_iff] at read
  obtain ⟨r, _, start, hasStart, period, hasPeriod, unit, hasUnit, repetitions, hasRepetitions, stop?, hasStop,
    zoneName, hasZone, next?, hasNext, index, hasIndex, ended, hasEnded, same⟩ := read
  cases same
  unfold ofRecord?
  simp only [↓do_eq_some_iff]
  exact ⟨_, record_obj rfl (by decide),
    start, instant_restores.required hasStart rfl,
    period, int64_restores.required hasPeriod rfl,
    unit, TimeUnit.restores.required hasUnit rfl,
    repetitions, int32_restores.withDefault hasRepetitions rfl rfl,
    stop?, instant_restores.optional hasStop rfl,
    zoneName, string_restores.required hasZone rfl,
    next?, instant_restores.nullable hasNext rfl,
    index, int32_restores.withDefault hasIndex rfl rfl,
    ended, bool_restores.withDefault hasEnded rfl rfl, rfl⟩

theorem Trigger.restores : Restores Trigger.ofJson? Trigger.toJson where
  again := by
    intro j t read
    unfold Trigger.ofJson? at read
    simp only [↓do_eq_some_iff] at read
    obtain ⟨⟨kind, rest⟩, _, read⟩ := read
    dsimp only at read
    unfold Trigger.ofJson?
    simp only [↓do_eq_some_iff]
    split at read
    · obtain ⟨r, _, read⟩ := do_eq_some_iff.mp read
      obtain ⟨next?, hasNext, same⟩ := do_eq_some_iff.mp read
      cases same
      refine ⟨("point_in_time", _), tagged_obj rfl, ?_⟩
      dsimp only
      simp only [↓do_eq_some_iff]
      exact ⟨_, record_obj rfl (by decide), next?, instant_restores.nullable hasNext rfl, rfl⟩
    · obtain ⟨t, made, same⟩ := do_eq_some_iff.mp read
      cases same
      refine ⟨("interval", _), tagged_obj rfl, ?_⟩
      exact do_eq_some_iff.mpr ⟨t, Interval.ofRecord_fields made, rfl⟩
    · obtain ⟨t, made, same⟩ := do_eq_some_iff.mp read
      cases same
      refine ⟨("simple_timer", _), tagged_obj rfl, ?_⟩
      exact do_eq_some_iff.mpr ⟨t, SimpleTimer.ofRecord_fields made, rfl⟩
    · cases read
  present _ := by simp [toJson]

/-! ## Jobs and patches -/

theorem JobPatch.restores : Restores JobPatch.ofJson? JobPatch.toJson where
  again := by
    intro j patch read
    unfold JobPatch.ofJson? at read
    simp only [↓do_eq_some_iff] at read
    obtain ⟨r, _, id?, hasId, correlationId?, hasCorrelationId, status?, hasStatus, lastUpdate?, hasLastUpdate,
      retries?, hasRetries, priority?, hasPriority, executions?, hasExecutions, handle?, hasHandle, recipient?,
      hasRecipient, trigger?, hasTrigger, timeout?, hasTimeout, timeoutUnit?, hasTimeoutUnit, same⟩ := read
    cases same
    unfold JobPatch.ofJson?
    simp only [↓do_eq_some_iff]
    exact ⟨_, record_obj rfl (by decide),
      id?, string_restores.optional hasId rfl,
      correlationId?, string_restores.optional hasCorrelationId rfl,
      status?, JobStatus.restores.optional hasStatus rfl,
      lastUpdate?, instant_restores.optional hasLastUpdate rfl,
      retries?, nat32_restores.optional hasRetries rfl,
      priority?, int32_restores.optional hasPriority rfl,
      executions?, nat32_restores.optional hasExecutions rfl,
      handle?, handle_restores.optional hasHandle rfl,
      recipient?, Recipient.restores.optional hasRecipient rfl,
      trigger?, Trigger.restores.optional hasTrigger rfl,
      timeout?, nat64_restores.optional hasTimeout rfl,
      timeoutUnit?, TimeUnit.restores.optional hasTimeoutUnit rfl, rfl⟩
  present _ := by simp [JobPatch.toJson]

theorem Job.restores : Restores Job.ofJson? Job.toJson where
  again := by
    intro j job read
    unfold Job.ofJson? at read
    simp only [↓do_eq_some_iff] at read
    obtain ⟨r, _, id, hasId, correlationId?, hasCorrelationId, status, hasStatus, lastUpdate?, hasLastUpdate,
      retries, hasRetries, priority, hasPriority, executions, hasExecutions, handle?, hasHandle, recipient,
      hasRecipient, trigger, hasTrigger, timeout?, hasTimeout, timeoutUnit?, hasTimeoutUnit, same⟩ := read
    cases same
    unfold Job.ofJson?
    simp only [↓do_eq_some_iff]
    exact ⟨_, record_obj rfl (by decide),
      id, string_restores.required hasId rfl,
      correlationId?, string_restores.optional hasCorrelationId rfl,
      status, JobStatus.restores.withDefault hasStatus rfl rfl,
      lastUpdate?, instant_restores.optional hasLastUpdate rfl,
      retries, nat32_restores.withDefault hasRetries rfl rfl,
      priority, int32_restores.withDefault hasPriority rfl rfl,
      executions, nat32_restores.withDefault hasExecutions rfl rfl,
      handle?, handle_restores.optional hasHandle rfl,
      recipient, Recipient.restores.required hasRecipient rfl,
      trigger, Trigger.restores.required hasTrigger rfl,
      timeout?, nat64_restores.optional hasTimeout rfl,
      timeoutUnit?, TimeUnit.restores.optional hasTimeoutUnit rfl, rfl⟩
  present _ := by simp [Job.toJson, JobPatch.toJson]

/-! ## Configurations -/

theorem Backoff.restores : Restores Backoff.ofJson? Backoff.toJson where
  again := by
    intro j backoff read
    unfold Backoff.ofJson? readWith? at read
    simp only [↓do_eq_some_iff] at read
    obtain ⟨⟨kind, rest⟩, _, read⟩ := read
    dsimp only at read
    unfold Backoff.ofJson? readWith?
    simp only [↓do_eq_some_iff]
    split at read
    · simp only [↓do_eq_some_iff] at read
      obtain ⟨r, _, delay, hasDelay, same⟩ := read
      cases same
      refine ⟨("fixed", _), tagged_obj rfl, ?_⟩
      dsimp only
      simp only [↓do_eq_some_iff]
      exact ⟨_, record_obj rfl (by decide), delay, nat64_restores.required hasDelay rfl, rfl⟩
    · simp only [↓do_eq_some_iff] at read
      obtain ⟨r, _, first, hasFirst, multiplier, hasMultiplier, most, hasMost, same⟩ := read
      cases same
      refine ⟨("exponential", _), tagged_obj rfl, ?_⟩
      dsimp only
      simp only [↓do_eq_some_iff]
      exact ⟨_, record_obj rfl (by decide),
        first, nat64_restores.required hasFirst rfl,
        multiplier, real_restores.required hasMultiplier rfl,
        most, nat64_restores.required hasMost rfl, rfl⟩
    · cases read
  present {_ backoff} _ := by cases backoff <;> simp [toJson]

theorem RetryPolicy.restores : Restores RetryPolicy.ofJson? RetryPolicy.toJson where
  again := by
    intro j policy read
    unfold RetryPolicy.ofJson? at read
    simp only [↓do_eq_some_iff] at read
    obtain ⟨r, _, retries, hasRetries, backoff, hasBackoff, same⟩ := read
    cases same
    unfold RetryPolicy.ofJson?
    simp only [↓do_eq_some_iff]
    exact ⟨_, record_obj rfl (by decide),
      retries, nat32_restores.withDefault hasRetries rfl rfl,
      backoff, Backoff.restores.withDefault hasBackoff rfl (by decide), rfl⟩
  present _ := by simp [toJson]

theorem SchedulerConfig.restores : Restores SchedulerConfig.ofJson? SchedulerConfig.toJson where
  again := by
    intro j config read
    unfold SchedulerConfig.ofJson? at read
    simp only [↓do_eq_some_iff] at read
    obtain ⟨r, _, chunk, hasChunk, load, hasLoad, forced, hasForced, tolerance, hasTolerance, retry, hasRetry,
      same⟩ := read
    cases same
    unfold SchedulerConfig.ofJson?
    simp only [↓do_eq_some_iff]
    exact ⟨_, record_obj rfl (by decide),
      chunk, nat64_restores.withDefault hasChunk rfl rfl,
      load, nat64_restores.withDefault hasLoad rfl rfl,
      forced, bool_restores.withDefault hasForced rfl rfl,
      tolerance, nat64_restores.withDefault hasTolerance rfl rfl,
      retry, RetryPolicy.restores.withDefault hasRetry rfl (by decide), rfl⟩
  present _ := by simp [toJson]

/-! ## Persistence -/

/-- A job, a patch or a configuration read from any record is read again from the record it is written as,
which is written the same from then on. The job read again has the same firing pending, and the same
firings to come. -/
theorem records_survive_persistence (j : Json) :
    (∀ job, Job.ofJson? j = some job → Job.ofJson? job.toJson = some job ∧
      ∀ copy, Job.ofJson? job.toJson = some copy → copy.toJson = job.toJson ∧
        copy.next? = job.next? ∧ ∀ n, copy.trigger.preview? n = job.trigger.preview? n) ∧
    (∀ patch, JobPatch.ofJson? j = some patch → JobPatch.ofJson? patch.toJson = some patch ∧
      ∀ copy, JobPatch.ofJson? patch.toJson = some copy → copy.toJson = patch.toJson) ∧
    (∀ config, SchedulerConfig.ofJson? j = some config →
      SchedulerConfig.ofJson? config.toJson = some config ∧
      ∀ copy, SchedulerConfig.ofJson? config.toJson = some copy → copy.toJson = config.toJson) := by
  refine ⟨?_, ?_, ?_⟩
  · intro job read
    refine ⟨Job.restores.again read, fun copy copied => ?_⟩
    obtain rfl := Job.restores.copy_eq read copied
    exact ⟨rfl, rfl, fun _ => rfl⟩
  · intro patch read
    refine ⟨JobPatch.restores.again read, fun copy copied => ?_⟩
    obtain rfl := JobPatch.restores.copy_eq read copied
    rfl
  · intro config read
    refine ⟨SchedulerConfig.restores.again read, fun copy copied => ?_⟩
    obtain rfl := SchedulerConfig.restores.copy_eq read copied
    rfl

/-- A record of a job with an unknown field, a null one and others left out. Its instants are in a leap
second and in a year of five digits, its identifier is in braces, and a name in its payload occurs twice. -/
def Json.spelledFreely : Json :=
  .obj [
    ("id", .str "a"), ("note", .bool true), ("correlation_id", .null),
    ("last_update", .str "2017-1-1 00:59:60.5+01:00"),
    ("scheduled_id", .str "\x7b67E55044-10B1-426F-9247-BB680E5FE0C8\x7d"),
    ("trigger", .obj [
      ("start_time", .str "+12345-01-01T00:00:00Z"), ("type", .str "interval"), ("period_ms", .int 1000)]),
    ("recipient", .obj [
      ("type", .str "http"), ("url", .str "http://svc/hook"),
      ("payload", .obj [("b", .int 1), ("a", .null), ("b", .int 2)])])]

/-- The job that the record tells. -/
def Job.spelledFreely : Job where
  id := "a"
  correlationId? := none
  status := .scheduled
  lastUpdate? := some ⟨1483228799, 1500000000⟩
  retries := 0
  priority := 0
  executions := 0
  handle? := some (.foreign ⟨0x67E5504410B1426F9247BB680E5FE0C8, by decide⟩)
  recipient := ⟨"http://svc/hook", "POST", [], [], some (.obj [("a", .null), ("b", .int 2)])⟩
  trigger := .interval ⟨⟨327403382400, 0⟩, none, 0, 0, 1000, none⟩
  timeout? := none
  timeoutUnit? := none

/-- The record reads back once it is written in the usual way, and so does the usual configuration. -/
theorem records_survive_persistence_spelled_freely :
    Job.ofJson? .spelledFreely = some .spelledFreely ∧
      Job.ofJson? Job.spelledFreely.toJson = some .spelledFreely ∧
      SchedulerConfig.ofJson? SchedulerConfig.initial.toJson = some .initial := by
  have told : Job.ofJson? .spelledFreely = some .spelledFreely := by decide +kernel
  have usual : SchedulerConfig.ofJson? (.obj []) = some .initial := rfl
  exact ⟨told, ((records_survive_persistence .spelledFreely).1 _ told).1,
    ((records_survive_persistence (.obj [])).2.2 _ usual).1⟩

end Punctual
