import Punctual.Bounds
import Punctual.Text.Numeral

/-!
The command line: options and a command, which has options of its own. An option's value stands behind
it, or is attached to it. Which of several faults is told depends on the order of reading: a value that
stands behind its option is looked at only when the next option is met or the arguments end, and those
before the command after those behind it.
-/
namespace Punctual

/-- What the program is asked to do, the type `Commands`. -/
inductive Command
  /-- schedule the jobs of a file and fire them -/
  | run (jobs : String) (forceExpired exitWhenIdle : Bool)
  /-- show the next firings of the jobs of a file -/
  | preview (jobs : String) (count : Nat)
  /-- show the settings -/
  | config
deriving DecidableEq, Repr

/-- A command line that was read, the type `Cli`. -/
structure CommandLine where
  config? : Option String
  logLevel? : Option String
  command : Command
deriving DecidableEq, Repr

/-- Why a command line is not carried out. -/
inductive CommandLineFault
  | unknownArgument
  | unknownCommand
  | missingCommand
  /-- nothing at all is given -/
  | nothing
  /-- an option that must be given is not -/
  | missingOption
  /-- an option is given twice -/
  | repeated
  /-- a flag is given a value -/
  | needlessValue
  /-- an option has no value, or an empty one that must not be -/
  | missingValue
  | invalidValue
  | helpWanted
  | versionWanted
deriving DecidableEq, Repr

/-- What is said of a fault, or in answer to a wish. -/
def CommandLineFault.message : CommandLineFault → String
  | unknownArgument => "unexpected argument"
  | unknownCommand => "unrecognized command"
  | missingCommand => "a command is required: run, preview or config"
  | nothing | helpWanted => "commands: run --jobs FILE [--force-expired] [--exit-when-idle], " ++
      "preview --jobs FILE [--count N], config; options: --config FILE, --log-level LEVEL"
  | missingOption => "--jobs must be given"
  | repeated => "an option is given more than once"
  | needlessValue => "a flag takes no value"
  | missingValue => "an option lacks its value"
  | invalidValue => "a count must be a number"
  | versionWanted => "punctual 0.3.0"

/-- The fault is a wish that is fulfilled by its message. -/
def CommandLineFault.isWish : CommandLineFault → Bool
  | helpWanted | versionWanted => true
  | _ => false

/-- What may be given on the command line. -/
inductive Switch
  | config | logLevel | jobs | count | forceExpired | exitWhenIdle | help | version
deriving DecidableEq, Repr

namespace Switch

/-- Its name behind two dashes. -/
def name : Switch → String
  | config => "config"
  | logLevel => "log-level"
  | jobs => "jobs"
  | count => "count"
  | forceExpired => "force-expired"
  | exitWhenIdle => "exit-when-idle"
  | help => "help"
  | version => "version"

/-- Its letter behind one dash. -/
def letter? : Switch → Option Char
  | config => some 'c'
  | logLevel => some 'l'
  | jobs => some 'j'
  | count => some 'n'
  | help => some 'h'
  | version => some 'V'
  | forceExpired | exitWhenIdle => none

/-- It is an option, not a flag. -/
def takesValue : Switch → Bool
  | config | logLevel | jobs | count => true
  | _ => false

/-- A number on the command line. -/
def number? (value : String) : Option Nat :=
  let digits := match value.toList with
    | '+' :: digits => digits
    | digits => digits
  (Numeral.whole? digits).bind fun n => if n ≤ maxNat64 then some n else none

/-- A name of a file must not be empty, and a count must be a number. -/
def check (s : Switch) (value : String) : Except CommandLineFault Unit :=
  match s with
  | jobs => if value.isEmpty then .error .missingValue else .ok ()
  | count => if (number? value).isSome then .ok () else .error .invalidValue
  | _ => .ok ()

end Switch

/-- What stands before a command, or behind one of the commands. -/
inductive Scope
  | program | run | preview | config
deriving DecidableEq, Repr

namespace Scope

/-- What may be given in each place. -/
def switches : Scope → List Switch
  | program => [.config, .logLevel, .help, .version]
  | run => [.jobs, .forceExpired, .exitWhenIdle, .config, .logLevel, .help]
  | preview => [.jobs, .count, .config, .logLevel, .help]
  | config => [.config, .logLevel, .help]

/-- The switch of a name, where it may be given. -/
def named? (scope : Scope) (name : String) : Option Switch := scope.switches.find? (·.name == name)

/-- The switch of a letter, where it may be given. -/
def lettered? (scope : Scope) (letter : Char) : Option Switch :=
  scope.switches.find? (·.letter? == some letter)

/-- The scope behind a command. -/
def ofCommand? : String → Option Scope
  | "run" => some run
  | "preview" => some preview
  | "config" => some config
  | _ => none

end Scope

/-- The switches read so far in one scope. -/
structure Reading where
  /-- with their values -/
  given : List (Switch × String)
  /-- not looked at yet, with its value if that was there -/
  pending? : Option (Switch × Option String)

namespace Reading

/-- Nothing is read yet. -/
def empty : Reading := ⟨[], none⟩

/-- The value given for a switch. -/
def value? (r : Reading) (s : Switch) : Option String := r.given.lookup s

/-- Takes a switch with its value. -/
def give (r : Reading) (s : Switch) (value : String) : Except CommandLineFault Reading :=
  if (r.value? s).isSome then .error .repeated
  else (s.check value).map fun _ => { r with given := (s, value) :: r.given }

/-- Takes the switch that was left pending. -/
def settle (r : Reading) : Except CommandLineFault Reading :=
  match r.pending? with
  | none => .ok r
  | some (_, none) => .error .missingValue
  | some (s, some value) => { r with pending? := none }.give s value

/-- A switch that has no value attached. -/
def meet (r : Reading) (s : Switch) : Except CommandLineFault Reading := do
  let r ← r.settle
  if s.takesValue then return { r with pending? := some (s, none) }
  else match s with
    | .help => .error .helpWanted
    | .version => .error .versionWanted
    | s => r.give s ""

/-- A switch with a value attached. -/
def meetWith (r : Reading) (s : Switch) (value : String) : Except CommandLineFault Reading :=
  if s.takesValue then do (← r.settle).give s value else .error .needlessValue

/-- An argument with two dashes. -/
def readName (r : Reading) (scope : Scope) (cs : List Char) : Except CommandLineFault Reading :=
  let name := cs.takeWhile (· ≠ '=')
  match scope.named? (String.ofList name), cs.drop name.length with
  | none, _ => .error .unknownArgument
  | some s, [] => r.meet s
  | some s, _ :: value => r.meetWith s (String.ofList value)

/-- An argument with one dash. -/
def readLetter (r : Reading) (scope : Scope) (letter : Char) (rest : List Char) :
    Except CommandLineFault Reading :=
  match scope.lettered? letter with
  | none => .error .unknownArgument
  | some s =>
    if s.takesValue then
      match rest with
      | [] => r.meet s
      | '=' :: value => r.meetWith s (String.ofList value)
      | value => r.meetWith s (String.ofList value)
    else r.meet s

/-- The switch that waits for its value. -/
def awaited? (r : Reading) : Option Switch :=
  match r.pending? with
  | some (s, none) => some s
  | _ => none

/-- The fault of an argument that is neither switch nor value. -/
def stray (scope : Scope) (afterDashes : Bool) (arg : String) : CommandLineFault :=
  if scope ≠ .program then .unknownArgument
  else if afterDashes && ((Scope.ofCommand? arg).isSome || arg = "help") then .unknownArgument
  else .unknownCommand

/-- Reads arguments up to a command, or to the end. Behind two bare dashes no switch may stand. -/
def read (r : Reading) (scope : Scope) : (afterDashes : Bool) → List String →
    Except CommandLineFault (Reading × Option (String × List String))
  | _, [] => .ok (r, none)
  | true, arg :: _ => .error (stray scope true arg)
  | false, arg :: rest =>
    let awaited? := r.awaited?
    if awaited?.isNone && scope = .program && ((Scope.ofCommand? arg).isSome || arg = "help") then
      .ok (r, some (arg, rest))
    else match arg.toList with
      | ['-', '-'] => read r scope true rest
      | '-' :: '-' :: name => do read (← r.readName scope name) scope false rest
      | '-' :: letter :: more => do read (← r.readLetter scope letter more) scope false rest
      | _ =>
        match awaited? with
        | some s => read { r with pending? := some (s, some arg) } scope false rest
        | none => .error (stray scope false arg)

end Reading

namespace CommandLine

/-- The command that a scope's switches make up. -/
def commandOf (scope : Scope) (r : Reading) : Except CommandLineFault Command :=
  match scope with
  | .run =>
    match r.value? .jobs with
    | some jobs =>
      .ok (.run jobs (r.value? .forceExpired).isSome (r.value? .exitWhenIdle).isSome)
    | none => .error .missingOption
  | .preview =>
    match r.value? .jobs with
    | some jobs => .ok (.preview jobs (((r.value? .count).bind Switch.number?).getD 5))
    | none => .error .missingOption
  | .config => .ok .config
  | .program => .error .missingCommand

/-- Reads arguments, without the program's name. What stands behind the command wins. -/
def read (args : List String) : Except CommandLineFault CommandLine := do
  let (before, found?) ← Reading.empty.read .program false args
  match found? with
  | some (word, rest) =>
    match Scope.ofCommand? word with
    | some scope =>
      let (behind, _) ← Reading.empty.read scope false rest
      let behind ← behind.settle
      let command ← commandOf scope behind
      let before ← before.settle
      return {
        config? := behind.value? .config <|> before.value? .config
        logLevel? := behind.value? .logLevel <|> before.value? .logLevel
        command }
    | none =>
      match rest with
      | [] => .error .helpWanted
      | [topic] =>
        .error (if (Scope.ofCommand? topic).isSome || topic = "help" then .helpWanted
          else .unknownCommand)
      | _ => .error .unknownCommand
  | none =>
    let before ← before.settle
    .error (if before.given.isEmpty then .nothing else .missingCommand)

end CommandLine

end Punctual
