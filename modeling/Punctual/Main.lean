import Punctual.CommandLine
import Punctual.Daemon
import Std.Time.DateTime.Timestamp

/-!
The program: it reads its arguments, its surroundings and the file of jobs, and waits in a run for
the clock. All else is decided by `Daemon` and `DryRun`.
-/
namespace Punctual.Program

/-- The text of a file, if it can be read. -/
def textOf? (path : String) : IO (Option String) := do
  try return some (← IO.FS.readFile path)
  catch _ => return none

/-- The surroundings, with those files that settings may be read from. -/
def surroundings (config? : Option String) : IO Daemon.Surroundings := do
  let environment := Daemon.variablesOf ((← textOf? "/proc/self/environ").getD "")
  let directory := Daemon.settingsDirectory environment
  let usual ← (Settings.candidates Daemon.usualFile).filterMapM fun name => do
    return (← textOf? (directory ++ "/" ++ name)).map (name, ·)
  let named ← (config?.elim [] Settings.candidates).filterMapM fun name => do
    return (← textOf? name).map (name, ·)
  return ⟨usual ++ named, environment⟩

/-- Takes a run to its end, as the clock goes on from a reading in milliseconds. -/
partial def attend (began : Nat) (r : DryRun) : IO DryRunSummary := do
  match r.summary? with
  | some summary => return summary
  | none =>
    if let some reading := r.awaited? then
      let passed := (← IO.monoMsNow) - began
      IO.sleep (UInt32.ofNat (min (reading - passed) 4000000000))
    attend began (r.proceed 1)

/-- Tells an error, and answers the code of a failure. -/
def printError (message : String) : IO UInt32 := do
  IO.eprintln message
  return 1

/-- Prints an answer. -/
def answer (text : Except DaemonError String) : IO UInt32 :=
  match text with
  | .ok text => do
    IO.print text
    return 0
  | .error e => printError e.message

/-- The operation `run_jobs`: fires the jobs of a file, and tells what became of them. -/
def run (around : Daemon.Surroundings) (line : CommandLine) (path : String) (force idle : Bool) :
    IO UInt32 := do
  match Daemon.settings around line.config? line.logLevel? with
  | .error e => printError e.message
  | .ok settings =>
    match Daemon.loadJobs (← textOf? path) path with
    | .error e => printError e.message
    | .ok jobs =>
      let settings := settings.forcing force
      let now := Instant.ofNanos (← Std.Time.Timestamp.now).toNanosecondsSinceUnixEpoch.val
      match DryRun.begin now settings jobs ⟨idle, none⟩ with
      | .error e => printError (DaemonError.scheduler e).message
      | .ok r =>
        let summary ← attend (← IO.monoMsNow) r
        if Daemon.isLogged around settings summary then IO.print summary.report
        return 0

end Punctual.Program

open Punctual in
/-- Reads the arguments and carries out the command. -/
def main (args : List String) : IO UInt32 := do
  match CommandLine.read args with
  | .error fault =>
    if fault.isWish then
      IO.println fault.message
      return 0
    else
      IO.eprintln fault.message
      return 2
  | .ok line =>
    match line.command with
    | .config =>
      Program.answer (Daemon.showSettings (← Program.surroundings line.config?) line.config?
        line.logLevel?)
    | .preview path count => Program.answer (Daemon.preview (← Program.textOf? path) path count)
    | .run path force idle =>
      Program.run (← Program.surroundings line.config?) line path force idle
