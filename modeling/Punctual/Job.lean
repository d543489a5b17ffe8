import Punctual.Handle
import Punctual.Recipient
import Punctual.Text.Blank
import Punctual.Trigger

/-!
Jobs: what is delivered where and when, and how far that has come. A patch names some fields of a job
and their new values.
-/
namespace Punctual

/-- How far a job has come, the type `JobStatus`. The first two are active, the others final. -/
inductive JobStatus
  | scheduled | retry | executed | canceled | error
deriving DecidableEq, Repr

namespace JobStatus

/-- The operation `is_terminal`: no firing is possible any more. -/
def isTerminal : JobStatus → Bool
  | scheduled | retry => false
  | executed | canceled | error => true

/-- The operation `is_active`: the job may still fire. -/
def isActive (s : JobStatus) : Bool := !s.isTerminal

/-- All statuses. -/
def all : List JobStatus := [scheduled, retry, executed, canceled, error]

/-- The word for the status in records. -/
def name : JobStatus → String
  | scheduled => "SCHEDULED"
  | retry => "RETRY"
  | executed => "EXECUTED"
  | canceled => "CANCELED"
  | error => "ERROR"

/-- The status that a word names. -/
def ofName? (name : String) : Option JobStatus := all.find? (·.name == name)

/-- The status of a job that nothing is known of. -/
def initial : JobStatus := scheduled

end JobStatus

/-- What names a job. -/
abbrev JobId := String

/-- The record of a job, the type `JobDetails`. -/
structure Job where
  id : JobId
  correlationId? : Option String
  status : JobStatus
  lastUpdate? : Option Instant
  /-- failures since the last success -/
  retries : Nat
  /-- a scan takes higher ones first -/
  priority : Int
  /-- successes so far -/
  executions : Nat
  /-- the timer armed for the next firing -/
  handle? : Option Handle
  recipient : Recipient
  trigger : Trigger
  /-- how long one firing may take, in `timeoutUnit?` or milliseconds -/
  timeout? : Option Nat
  timeoutUnit? : Option TimeUnit
deriving DecidableEq, Repr

/-- New values for some fields of a job, the type `JobDetailsPatch`. -/
structure JobPatch where
  id? : Option JobId
  correlationId? : Option String
  status? : Option JobStatus
  lastUpdate? : Option Instant
  retries? : Option Nat
  priority? : Option Int
  executions? : Option Nat
  handle? : Option Handle
  recipient? : Option Recipient
  trigger? : Option Trigger
  timeout? : Option Nat
  timeoutUnit? : Option TimeUnit
deriving DecidableEq, Repr

namespace Job

/-- The operation `execution_timeout`: how long one firing may take, in milliseconds. -/
def timeoutMs? (j : Job) : Option Nat :=
  j.timeout?.map (j.timeoutUnit?.getD .millis).millisOf

/-- The firing that comes next. -/
def next? (j : Job) : Option Instant := j.trigger.next?

/-- The operation `merge`: the job with the fields that the patch names. -/
def merge (j : Job) (p : JobPatch) : Job where
  id := p.id?.getD j.id
  correlationId? := p.correlationId?.or j.correlationId?
  status := p.status?.getD j.status
  lastUpdate? := p.lastUpdate?.or j.lastUpdate?
  retries := p.retries?.getD j.retries
  priority := p.priority?.getD j.priority
  executions := p.executions?.getD j.executions
  handle? := p.handle?.or j.handle?
  recipient := p.recipient?.getD j.recipient
  trigger := p.trigger?.getD j.trigger
  timeout? := p.timeout?.or j.timeout?
  timeoutUnit? := p.timeoutUnit?.or j.timeoutUnit?

/-- The operation `from`: the patch that names every field the job has. -/
def asPatch (j : Job) : JobPatch where
  id? := some j.id
  correlationId? := j.correlationId?
  status? := some j.status
  lastUpdate? := j.lastUpdate?
  retries? := some j.retries
  priority? := some j.priority
  executions? := some j.executions
  handle? := j.handle?
  recipient? := some j.recipient
  trigger? := some j.trigger
  timeout? := j.timeout?
  timeoutUnit? := j.timeoutUnit?

/-- An identifier must hold something other than blanks. -/
def isBlankId (id : JobId) : Bool := Text.isAllBlank id.toList

end Job

/-- What a job definition lacks. -/
inductive JobFault
  | missingId
  | missingRecipient (id : JobId)
  | missingTrigger (id : JobId)
  /-- a fault in someone else's words -/
  | stated (text : String)
deriving DecidableEq, Repr

/-- The wording of a fault. -/
def JobFault.message : JobFault → String
  | missingId => "job id is required"
  | missingRecipient id => "job " ++ id ++ " has no recipient"
  | missingTrigger id => "job " ++ id ++ " has no trigger"
  | stated text => text

namespace JobPatch

/-- A patch that changes nothing. -/
def empty : JobPatch := ⟨none, none, none, none, none, none, none, none, none, none, none, none⟩

/-- The operation `build`: the job made of the fields that the patch names; an identifier, a recipient and a
trigger are needed. -/
def build (p : JobPatch) : Except JobFault Job :=
  match p.id? with
  | none => .error .missingId
  | some id =>
    if Job.isBlankId id then .error .missingId
    else
      match p.recipient?, p.trigger? with
      | none, _ => .error (.missingRecipient id)
      | some _, none => .error (.missingTrigger id)
      | some recipient, some trigger =>
        .ok {
          id
          correlationId? := p.correlationId?
          status := p.status?.getD .initial
          lastUpdate? := p.lastUpdate?
          retries := p.retries?.getD 0
          priority := p.priority?.getD 0
          executions := p.executions?.getD 0
          handle? := p.handle?
          recipient
          trigger
          timeout? := p.timeout?
          timeoutUnit? := p.timeoutUnit? }

end JobPatch

end Punctual
