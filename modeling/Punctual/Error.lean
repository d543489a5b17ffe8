import Punctual.Config
import Punctual.Job
import Punctual.Text.Length

/-!
What can go wrong, as causes, and the wording of each.
-/
namespace Punctual

/-- A definition that makes no sense. -/
inductive DefinitionError
  | config (fault : ConfigFault)
  | trigger (fault : TriggerFault)
  | unknownZone (name : String)
  | job (fault : JobFault)
deriving DecidableEq, Repr

namespace DefinitionError

/-- The wording of an error, the type `TypesError`. -/
def message : DefinitionError → String
  | config fault => "Configuration error: " ++ fault.message
  | trigger fault => "Invalid trigger: " ++ fault.message
  | unknownZone name => "Invalid timezone: " ++ name
  | job fault => "Validation error: " ++ fault.message

/-- A trigger that could not be made is a bad definition. -/
def ofRejection : Trigger.Rejection → DefinitionError
  | .fault fault => trigger fault
  | .unknownZone name => unknownZone name

end DefinitionError

/-- A failure of the store. -/
inductive StorageError
  | unavailable (reason : String)
  | conflict (id : JobId)
  | notFound (id : JobId)
deriving DecidableEq, Repr

/-- The wording of a failure of the store. -/
def StorageError.message : StorageError → String
  | unavailable reason => "Storage unavailable: " ++ reason
  | conflict id => "Storage conflict on job " ++ id
  | notFound id => "Job not found: " ++ id

/-- A failure of the timer service. -/
inductive TimerFault
  | shutDown
  /-- a fault in someone else's words -/
  | stated (text : String)
deriving DecidableEq, Repr

/-- The wording of a failure of the timer service. -/
def TimerFault.message : TimerFault → String
  | shutDown => "timer service is shut down"
  | stated text => text

/-- Why a job is not one that can be scheduled. -/
inductive JobObjection
  | blankId
  | noFiringLeft (id : JobId)
  | otherJob (patchId id : JobId)
  | definition (e : DefinitionError)
  /-- an objection in someone else's words -/
  | stated (text : String)
deriving DecidableEq, Repr

/-- The wording of an objection. -/
def JobObjection.message : JobObjection → String
  | blankId => "job id is required"
  | noFiringLeft id => "job " ++ id ++ " has no remaining fire time"
  | otherJob patchId id => "patch id " ++ patchId ++ " does not match job " ++ id
  | definition e => e.message
  | stated text => text

/-- A failure of the scheduler. -/
inductive SchedulerError
  | invalid (objection : JobObjection)
  | finalized (id : JobId) (status : JobStatus)
  | expired (id : JobId) (instant : Instant)
  | notFound (id : JobId)
  | storage (e : StorageError)
  | timer (fault : TimerFault)
  | config (fault : ConfigFault)
  | alreadyRunning
  | notRunning
  /-- no error that is answered: a calculation on the job's trigger breaks off -/
  | stuck (id : JobId)
deriving DecidableEq, Repr

namespace SchedulerError

/-- The wording of an error; of a calculation that breaks off nothing is answered. -/
def message : SchedulerError → String
  | invalid objection => "Invalid job: " ++ objection.message
  | finalized id status => "Job " ++ id ++ " is already finalized with status " ++ status.name
  | expired id instant =>
    "Job " ++ id ++ " expired: fire time " ++ String.ofList instant.messageText ++ " is in the past"
  | notFound id => "Job not found: " ++ id
  | storage e => e.message
  | timer fault => "Timer error: " ++ fault.message
  | config fault => "Configuration error: " ++ fault.message
  | alreadyRunning => "Scheduler is already running"
  | notRunning => "Scheduler is not running"
  | stuck id => "Job " ++ id ++ " has a trigger with which calculations break off"

/-- A configuration keeps its fault; any other bad definition makes the job invalid. -/
def ofDefinition : DefinitionError → SchedulerError
  | .config fault => config fault
  | e => invalid (.definition e)

end SchedulerError

/-- Why a firing failed. -/
inductive ExecutionError
  | failed (text : String)
  /-- in nanoseconds -/
  | timeout (limit : Nat)
  | noExecutor (kind : String)
deriving DecidableEq, Repr

/-- The wording of a failed firing. -/
def ExecutionError.message : ExecutionError → String
  | failed text => "Execution failed: " ++ text
  | timeout limit => "Execution timed out after " ++ String.ofList (Text.lengthText limit)
  | noExecutor kind => "No executor accepts recipient kind '" ++ kind ++ "'"

end Punctual
