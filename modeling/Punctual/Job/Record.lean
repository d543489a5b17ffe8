import Punctual.Job
import Punctual.Trigger.Record

/-!
Jobs and patches as records.
-/
namespace Punctual

/-- The status that a word in a record names. -/
def JobStatus.ofJson? (j : Json) : Option JobStatus := j.word?.bind JobStatus.ofName?

/-- The field names of jobs and patches, in order. -/
def Job.fieldNames : List String :=
  ["id", "correlation_id", "status", "last_update", "retries", "priority", "execution_counter",
   "scheduled_id", "recipient", "trigger", "execution_timeout", "execution_timeout_unit"]

namespace Job

/-- The job that a record spells. -/
def ofJson? (j : Json) : Option Job := do
  let r ← j.record? fieldNames
  return {
    id := ← r.required "id" Json.string?
    correlationId? := ← r.optional "correlation_id" Json.string?
    status := ← r.withDefault "status" JobStatus.ofJson? .initial
    lastUpdate? := ← r.optional "last_update" Json.instant?
    retries := ← r.withDefault "retries" Json.nat32? 0
    priority := ← r.withDefault "priority" Json.int32? 0
    executions := ← r.withDefault "execution_counter" Json.nat32? 0
    handle? := ← r.optional "scheduled_id" Handle.ofJson?
    recipient := ← r.required "recipient" Recipient.ofJson?
    trigger := ← r.required "trigger" Trigger.ofJson?
    timeout? := ← r.optional "execution_timeout" Json.nat64?
    timeoutUnit? := ← r.optional "execution_timeout_unit" TimeUnit.ofJson? }

end Job

namespace JobPatch

/-- The patch that a record spells. -/
def ofJson? (j : Json) : Option JobPatch := do
  let r ← j.record? Job.fieldNames
  return {
    id? := ← r.optional "id" Json.string?
    correlationId? := ← r.optional "correlation_id" Json.string?
    status? := ← r.optional "status" JobStatus.ofJson?
    lastUpdate? := ← r.optional "last_update" Json.instant?
    retries? := ← r.optional "retries" Json.nat32?
    priority? := ← r.optional "priority" Json.int32?
    executions? := ← r.optional "execution_counter" Json.nat32?
    handle? := ← r.optional "scheduled_id" Handle.ofJson?
    recipient? := ← r.optional "recipient" Recipient.ofJson?
    trigger? := ← r.optional "trigger" Trigger.ofJson?
    timeout? := ← r.optional "execution_timeout" Json.nat64?
    timeoutUnit? := ← r.optional "execution_timeout_unit" TimeUnit.ofJson? }

/-- The record of a patch. -/
def toJson (p : JobPatch) : Json :=
  .obj [
    ("id", .ofOption .str p.id?),
    ("correlation_id", .ofOption .str p.correlationId?),
    ("status", .ofOption (fun s => .str s.name) p.status?),
    ("last_update", .ofOption .ofInstant p.lastUpdate?),
    ("retries", .ofOption (fun n : Nat => .int n) p.retries?),
    ("priority", .ofOption .int p.priority?),
    ("execution_counter", .ofOption (fun n : Nat => .int n) p.executions?),
    ("scheduled_id", .ofOption Handle.toJson p.handle?),
    ("recipient", .ofOption Recipient.toJson p.recipient?),
    ("trigger", .ofOption Trigger.toJson p.trigger?),
    ("execution_timeout", .ofOption (fun n : Nat => .int n) p.timeout?),
    ("execution_timeout_unit", .ofOption (fun u => .str u.name) p.timeoutUnit?)]

end JobPatch

/-- A job is written like the patch that names all it has. -/
def Job.toJson (j : Job) : Json := j.asPatch.toJson

end Punctual
