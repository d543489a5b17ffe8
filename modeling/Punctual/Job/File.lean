import Punctual.Job.Record
import Punctual.Json.Reader

/-!
Files of jobs: an array of records.
-/
namespace Punctual.Job

/-- The jobs of a file's text. -/
def listOfText? (text : String) : Option (List Job) :=
  match Json.ofText? text with
  | some (.arr items) => items.mapM ofJson?
  | _ => none

/-- The job with the firings that come next, at most so many, a line each. -/
def preview? (count : Nat) (job : Job) : Option (List Char) := do
  let instants ← job.trigger.preview? count
  let lines :=
    if instants.isEmpty then "  no remaining fire time\n".toList
    else instants.flatMap fun t => ' ' :: ' ' :: t.listingText ++ ['\n']
  return job.id.toList ++ " (".toList ++ job.trigger.kind.toList ++ ")\n".toList ++ lines

/-- The operation `render_preview`: each job with the firings that come next, unless calculating those of
one job breaks off. -/
def previews? (count : Nat) (jobs : List Job) : Option String :=
  (jobs.mapM (preview? count)).map fun texts => String.ofList texts.flatten

end Punctual.Job
