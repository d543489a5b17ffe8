import Punctual.DryRun
import Punctual.Job.File
import Punctual.Settings.Record
import Punctual.Settings.Sources

/-!
The program's commands: showing the settings, showing the next firings of the jobs in a file, and
running these jobs.
-/
namespace Punctual

/-- Why a command fails. -/
inductive DaemonError
  | settings (fault : ConfigFault)
  | missingJobs (path : String)
  | invalidJobs (path : String)
  | scheduler (e : SchedulerError)
  /-- no error that is answered: calculating the firings of a job breaks off -/
  | stuck
deriving DecidableEq, Repr

/-- The wording of an error. -/
def DaemonError.message : DaemonError → String
  | settings _ => "Failed to load configuration"
  | missingJobs path => "Failed to read jobs file " ++ path
  | invalidJobs path => "Failed to parse jobs file " ++ path
  | scheduler _ => "Failed to create scheduler"
  | stuck => "Failed to calculate fire times"

namespace Daemon

/-- The usual place of the program's own file, below the directory for such files. -/
def usualFile : String := "job-timer/config"

/-- The variable that may hold a log filter. -/
def logVariable : String := "RUST_LOG"

/-- What the program finds around it. -/
structure Surroundings where
  files : Files
  environment : List (String × String)

/-- Variables from a text in which each, a name and its value around an equals sign, ends with the
character zero. -/
def variablesOf (text : String) : List (String × String) :=
  (text.toList.foldr (fun c entries =>
    if c = '\x00' then [] :: entries
    else match entries with
      | entry :: others => (c :: entry) :: others
      | [] => [[c]]) []).map fun entry =>
    (String.ofList (entry.takeWhile (· ≠ '=')), String.ofList ((entry.dropWhile (· ≠ '=')).drop 1))

/-- The directory below which programs have their own files. -/
def settingsDirectory (environment : List (String × String)) : String :=
  match environment.lookup "XDG_CONFIG_HOME", environment.lookup "HOME" with
  | some directory, home? =>
    if directory.startsWith "/" then directory
    else home?.elim "." (· ++ "/.config")
  | none, home? => home?.elim "." (· ++ "/.config")

/-- The operation `load_settings`: the settings under a command line's options. -/
def settings (around : Surroundings) (config? logLevel? : Option String) :
    Except DaemonError Settings :=
  match Settings.load around.files usualFile config? around.environment with
  | .ok settings => .ok (settings.withLogLevel logLevel?)
  | .error fault => .error (.settings fault)

/-- The operation `show_config`: the settings as they are shown. -/
def showSettings (around : Surroundings) (config? logLevel? : Option String) :
    Except DaemonError String :=
  (settings around config? logLevel?).map (·.listing)

/-- The operation `load_jobs`: the jobs of a file, which goes by its path in what is said of it. -/
def loadJobs (text? : Option String) (path : String) : Except DaemonError (List Job) :=
  match text? with
  | none => .error (.missingJobs path)
  | some text =>
    match Job.listOfText? text with
    | some jobs => .ok jobs
    | none => .error (.invalidJobs path)

/-- The operation `preview_jobs`: shows the next firings of the jobs in a file. -/
def preview (text? : Option String) (path : String) (count : Nat) : Except DaemonError String := do
  match Job.previews? count (← loadJobs text? path) with
  | some text => return text
  | none => throw .stuck

/-- Log lines of the filter in force are written in a run. -/
def isLogged (around : Surroundings) (settings : Settings) (summary : DryRunSummary) : Bool :=
  let filter := LogFilter.choose (around.environment.lookup logVariable) settings.logLevel
  (summary.logLines settings).any filter.passes

end Daemon

end Punctual
