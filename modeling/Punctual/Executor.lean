import Punctual.Execution
import Punctual.Text.Quoted

/-!
Executors deliver fired jobs. Each accepts the recipients whose URL begins in a certain way; of
several, the one registered first delivers. A scripted executor plays outcomes in the order in
which they were put on its script.
-/
namespace Punctual

/-- What an executor does with a job. -/
inductive Behavior
  /-- plays the script -/
  | scripted
  /-- breaks down -/
  | aborting
  | succeeding
  /-- succeeds, with a note that nothing was delivered -/
  | dryRun
deriving DecidableEq, Repr

/-- What delivers jobs: a `JobExecutor`. -/
structure Executor where
  name : String
  /-- how the URLs of accepted recipients begin -/
  urlStart : String
  behavior : Behavior
deriving DecidableEq, Repr

namespace Executor

/-- The operation `accepts`: the executor delivers to the recipient. -/
def accepts (e : Executor) (r : Recipient) : Bool := e.urlStart.toList.isPrefixOf r.url.toList

/-- The operation `resolve`: the executor that delivers to a recipient. -/
def resolve? (executors : List Executor) (r : Recipient) : Option Executor :=
  executors.find? (·.accepts r)

/-- The names of executors, in order. -/
def describe (executors : List Executor) : String :=
  "JobExecutorResolver \x7b executors: [" ++
    ", ".intercalate (executors.map fun e => Text.quoted e.name) ++ "] \x7d"

/-- Plays the script, for every recipient. -/
def scripted : Executor := ⟨"scripted", "", .scripted⟩

/-- Breaks down, for recipients whose URL says so. -/
def aborting : Executor := ⟨"panics", "panic:", .aborting⟩

/-- Delivers to URLs that begin with the word, and succeeds. -/
def forWord (word : String) : Executor := ⟨word, word, .succeeding⟩

/-- Delivers nothing and succeeds, for every recipient: the type `DryRunExecutor`. -/
def dryRun : Executor := ⟨"dry-run", "", .dryRun⟩

end Executor

/-- What a scripted executor does with one job. -/
inductive ScriptedOutcome
  | succeed
  | fail (message : String)
  | error (message : String)
  /-- waits, then succeeds -/
  | sleep (ms : Nat)
deriving DecidableEq, Repr

/-- What the scripted executor is to do, and what it has done. -/
structure Script where
  outcomes : List ScriptedOutcome
  /-- played when no outcome is left -/
  fallback : ScriptedOutcome
  /-- jobs executed so far, the latest first -/
  executed : List JobId
deriving DecidableEq, Repr

namespace Script

/-- Every job succeeds. -/
def empty : Script := ⟨[], .succeed, []⟩

/-- Takes the next outcome, for a job. -/
def play (s : Script) (id : JobId) : ScriptedOutcome × Script :=
  match s.outcomes with
  | [] => (s.fallback, { s with executed := id :: s.executed })
  | outcome :: rest => (outcome, { s with outcomes := rest, executed := id :: s.executed })

end Script

/-- The outcome of a firing, after the waiting that it asks for. -/
def ScriptedOutcome.result (outcome : ScriptedOutcome) (now : Instant) (id : JobId) :
    ExecutionOutcome :=
  match outcome with
  | succeed => .ok (.success now id)
  | fail message => .ok (.failure now id message)
  | error message => .error (.failed message)
  | sleep _ => .ok (.success now id)

end Punctual
