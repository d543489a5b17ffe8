import Punctual.Error

/-!
What an executor reports after a firing.
-/
namespace Punctual

/-- The type `JobExecutionResponse`. -/
structure ExecutionResponse where
  jobId : JobId
  succeeded : Bool
  message? : Option String
  instant : Instant
deriving DecidableEq, Repr

namespace ExecutionResponse

/-- A success at an instant. -/
def success (now : Instant) (jobId : JobId) : ExecutionResponse := ⟨jobId, true, none, now⟩

/-- A failure at an instant, with a message. -/
def failure (now : Instant) (jobId : JobId) (message : String) : ExecutionResponse :=
  ⟨jobId, false, some message, now⟩

/-- With another message. -/
def withMessage (r : ExecutionResponse) (message : String) : ExecutionResponse :=
  { r with message? := some message }

/-- The word for success or failure in records. -/
def code (r : ExecutionResponse) : String := if r.succeeded then "success" else "failure"

/-- The word for success or failure, read. -/
def readCode? (j : Json) : Option Bool :=
  match j.word? with
  | some "success" => some true
  | some "failure" => some false
  | _ => none

/-- The response that a record spells. -/
def ofJson? (j : Json) : Option ExecutionResponse := do
  let r ← j.record? ["job_id", "code", "message", "timestamp"]
  return {
    jobId := ← r.required "job_id" Json.string?
    succeeded := ← r.required "code" readCode?
    message? := ← r.optional "message" Json.string?
    instant := ← r.required "timestamp" Json.instant? }

/-- The record of a response. -/
def toJson (r : ExecutionResponse) : Json :=
  .obj [
    ("job_id", .str r.jobId),
    ("code", .str r.code),
    ("message", .ofOption .str r.message?),
    ("timestamp", .ofInstant r.instant)]

end ExecutionResponse

/-- How a firing ended. -/
abbrev ExecutionOutcome := Except ExecutionError ExecutionResponse

end Punctual
