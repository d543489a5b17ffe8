import Punctual.Scheduler.Admission

/-!
Merges. A patch that is laid over a job, or over another patch, prevails field by field: what it names is
as it says, and all else as it was. So two patches laid over a job one after the other do what the two do
that are made one first. The patch made from a job names whatever the job has; over the same job it
changes nothing.

This is what patching a stored job relies on. The patch is laid over the record, and the result, made a
patch of its own, over the record once more when it is scheduled: the second time adds nothing.
-/
namespace Punctual

/-- The fields of a job. -/
inductive JobField
  | id | correlationId | status | lastUpdate | retries | priority | executions | handle
  | recipient | trigger | timeout | timeoutUnit
deriving DecidableEq, Repr

namespace JobField

/-- What may stand in a field. -/
def Value : JobField → Type
  | id => JobId
  | correlationId => String
  | status => JobStatus
  | lastUpdate => Instant
  | retries => Nat
  | priority => Int
  | executions => Nat
  | handle => Handle
  | recipient => Recipient
  | trigger => Trigger
  | timeout => Nat
  | timeoutUnit => TimeUnit

/-- No job lacks the field. -/
def isMandatory : JobField → Bool
  | id | status | retries | priority | executions | recipient | trigger => true
  | correlationId | lastUpdate | handle | timeout | timeoutUnit => false

/-- What a job has in a field. -/
def of? : (f : JobField) → Job → Option f.Value
  | id, j => some j.id
  | correlationId, j => j.correlationId?
  | status, j => some j.status
  | lastUpdate, j => j.lastUpdate?
  | retries, j => some j.retries
  | priority, j => some j.priority
  | executions, j => some j.executions
  | handle, j => j.handle?
  | recipient, j => some j.recipient
  | trigger, j => some j.trigger
  | timeout, j => j.timeout?
  | timeoutUnit, j => j.timeoutUnit?

/-- What a patch names for a field. -/
def named? : (f : JobField) → JobPatch → Option f.Value
  | id, p => p.id?
  | correlationId, p => p.correlationId?
  | status, p => p.status?
  | lastUpdate, p => p.lastUpdate?
  | retries, p => p.retries?
  | priority, p => p.priority?
  | executions, p => p.executions?
  | handle, p => p.handle?
  | recipient, p => p.recipient?
  | trigger, p => p.trigger?
  | timeout, p => p.timeout?
  | timeoutUnit, p => p.timeoutUnit?

end JobField

/-- The patch that names what either of two names; where both name a field, the second prevails. -/
def JobPatch.overlaid (p q : JobPatch) : JobPatch where
  id? := q.id?.or p.id?
  correlationId? := q.correlationId?.or p.correlationId?
  status? := q.status?.or p.status?
  lastUpdate? := q.lastUpdate?.or p.lastUpdate?
  retries? := q.retries?.or p.retries?
  priority? := q.priority?.or p.priority?
  executions? := q.executions?.or p.executions?
  handle? := q.handle?.or p.handle?
  recipient? := q.recipient?.or p.recipient?
  trigger? := q.trigger?.or p.trigger?
  timeout? := q.timeout?.or p.timeout?
  timeoutUnit? := q.timeoutUnit?.or p.timeoutUnit?

/-! ## Field by field -/

namespace JobField

variable {a b : Job} {p q : JobPatch}

/-- A job is what it has in its fields. -/
theorem job_ext (same : ∀ f : JobField, f.of? a = f.of? b) : a = b := by
  cases a
  cases b
  simp only [Job.mk.injEq]
  exact ⟨Option.some.inj (same id), same correlationId, Option.some.inj (same status), same lastUpdate,
    Option.some.inj (same retries), Option.some.inj (same priority), Option.some.inj (same executions),
    same handle, Option.some.inj (same recipient), Option.some.inj (same trigger), same timeout,
    same timeoutUnit⟩

/-- A patch is what it names for the fields. -/
theorem patch_ext (same : ∀ f : JobField, f.named? p = f.named? q) : p = q := by
  cases p
  cases q
  simp only [JobPatch.mk.injEq]
  exact ⟨same id, same correlationId, same status, same lastUpdate, same retries, same priority,
    same executions, same handle, same recipient, same trigger, same timeout, same timeoutUnit⟩

theorem isSome_of_mandatory (f : JobField) (mandatory : f.isMandatory = true) (j : Job) :
    (f.of? j).isSome = true := by
  cases f <;> first | rfl | cases mandatory

@[simp]
theorem of_merge (f : JobField) (j : Job) (p : JobPatch) :
    f.of? (j.merge p) = (f.named? p).or (f.of? j) := by
  cases f <;> first | rfl | exact Option.or_some.symm

@[simp]
theorem named_asPatch (f : JobField) (j : Job) : f.named? j.asPatch = f.of? j := by
  cases f <;> rfl

@[simp]
theorem named_overlaid (f : JobField) (p q : JobPatch) :
    f.named? (p.overlaid q) = (f.named? q).or (f.named? p) := by
  cases f <;> rfl

end JobField

/-! ## The laws of merging -/

namespace Job

open JobField

variable (j : Job) (p q : JobPatch)

/-- One patch after the other is the patch that both make. -/
theorem merge_merge : (j.merge p).merge q = j.merge (p.overlaid q) :=
  job_ext fun f => by simp only [of_merge, named_overlaid, Option.or_assoc]

theorem merge_asPatch : j.merge j.asPatch = j :=
  job_ext fun f => by simp only [of_merge, named_asPatch, Option.or_self]

/-- The patch made from a merge is a merge of patches. -/
theorem asPatch_merge : (j.merge p).asPatch = j.asPatch.overlaid p :=
  patch_ext fun f => by simp only [named_asPatch, named_overlaid, of_merge]

/-- A merge laid over the same job again adds nothing. -/
theorem merge_again : j.merge (j.merge p).asPatch = j.merge p := by
  calc j.merge (j.merge p).asPatch
    _ = j.merge (j.asPatch.overlaid p) := by rw [asPatch_merge]
    _ = (j.merge j.asPatch).merge p := (merge_merge ..).symm
    _ = j.merge p := by rw [merge_asPatch]

/-- Merging obeys the laws of an overlay. Two patches may be laid over a job one after the other or be made
one first. Its own patch leaves a job as it is. A merge that is laid over the job again adds nothing, so
that scheduling a patched record stores that record, save how far the job has come. Another job laid over
it prevails wherever it has something, hence in all that no job lacks; elsewhere the job is as it was. -/
theorem merges_are_overlays (b c : Job) (p q : JobPatch) :
    (b.merge p).merge q = b.merge (p.overlaid q) ∧
    b.merge b.asPatch = b ∧
    b.merge (b.merge p).asPatch = b.merge p ∧
    Scheduler.requested (some b) (b.merge p) =
      { b.merge p with status := b.status, retries := b.retries, executions := b.executions } ∧
    ∀ f : JobField,
      (f.isMandatory = true → (f.of? c).isSome = true ∧ f.of? (b.merge c.asPatch) = f.of? c) ∧
      (∀ value, f.of? c = some value → f.of? (b.merge c.asPatch) = some value) ∧
      (f.of? c = none → f.of? (b.merge c.asPatch) = f.of? b) := by
  have carried : ∀ (f : JobField) value, f.of? c = some value →
      f.of? (b.merge c.asPatch) = some value := by
    intro f value held
    rw [of_merge, named_asPatch, held, Option.some_or]
  refine ⟨merge_merge b p q, merge_asPatch b, merge_again b p, ?_, fun f => ⟨?_, carried f, ?_⟩⟩
  · rw [Scheduler.requested, merge_again]
  · intro mandatory
    have held := f.isSome_of_mandatory mandatory c
    obtain ⟨value, some_value⟩ := Option.isSome_iff_exists.mp held
    exact ⟨held, (carried f value some_value).trans some_value.symm⟩
  · intro lacking
    rw [of_merge, named_asPatch, lacking, Option.none_or]

/-- An order to be delivered once. -/
def delivery : Job :=
  ⟨"delivery", some "order-77", .scheduled, none, 0, 5, 0, none, .ofUrl "http://svc/hook",
    .pointInTime (some ⟨60, 0⟩), none, none⟩

/-- A request with another priority that does not name the order leaves that as it is. -/
theorem merges_are_overlays_of_urgent_requests :
    let urgent : Job := { delivery with correlationId? := none, priority := 9 }
    (delivery.merge urgent.asPatch).priority = 9 ∧
      (delivery.merge urgent.asPatch).correlationId? = some "order-77" := by
  intro urgent
  obtain ⟨_, _, _, _, fields⟩ := merges_are_overlays delivery urgent .empty .empty
  have hurried := ((fields .priority).1 rfl).2
  exact ⟨Option.some.inj hurried, (fields .correlationId).2.2 rfl⟩

end Job

end Punctual
