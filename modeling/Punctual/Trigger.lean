import Punctual.Instant.Text
import Punctual.Trigger.Interval
import Punctual.Trigger.SimpleTimer

/-!
Triggers say when a job fires. A trigger is a value: taking a firing, or passing over missed ones,
gives the trigger that is left, unless the calculation breaks off. The three constructors check what they
are given; a trigger read from a record is taken as it is.
-/
namespace Punctual

/-- What is wrong with the definition of a trigger. -/
inductive TriggerFault
  | intervalPeriod (ms : Int)
  | timerPeriod (period : Int)
  | window (start stop : Instant)
  /-- a fault in someone else's words -/
  | stated (text : String)
deriving DecidableEq, Repr

/-- The wording of a fault. -/
def TriggerFault.message : TriggerFault → String
  | intervalPeriod ms => "period must be positive, got " ++ String.ofList (Numeral.ofInt ms) ++ "ms"
  | timerPeriod period => "period must be positive, got " ++ String.ofList (Numeral.ofInt period)
  | window start stop =>
    "end time " ++ String.ofList stop.messageText ++ " is before start time " ++
      String.ofList start.messageText
  | stated text => text

/-- The type `Trigger`. -/
inductive Trigger
  /-- fires once -/
  | pointInTime (next? : Option Instant)
  | interval (t : Interval)
  | simpleTimer (t : SimpleTimer)
deriving DecidableEq, Repr

namespace Trigger

/-- Why a trigger could not be made. -/
inductive Rejection
  | fault (fault : TriggerFault)
  | unknownZone (name : String)
deriving DecidableEq, Repr

/-- The operation `check_window`: the last instant is not before the start. -/
def checkWindow (start : Instant) (stop? : Option Instant) : Except TriggerFault Unit :=
  match stop? with
  | some stop => if stop < start then .error (.window start stop) else .ok ()
  | none => .ok ()

/-- The constructor `interval`: every `periodMs` milliseconds from the start. -/
def newInterval (start : Instant) (stop? : Option Instant) (limit periodMs : Int) :
    Except TriggerFault Trigger := do
  if periodMs ≤ 0 then .error (.intervalPeriod periodMs)
  checkWindow start stop?
  return .interval ⟨start, stop?, limit, 0, periodMs, some start⟩

/-- The constructor `simple_timer`: every `period` units from the start, in a zone. -/
def newSimpleTimer (start : Instant) (period : Int) (unit : TimeUnit) (repetitions : Int)
    (stop? : Option Instant) (zoneName : String) : Except Rejection Trigger := do
  if period ≤ 0 then .error (.fault (.timerPeriod period))
  (checkWindow start stop?).mapError .fault
  if (Zone.named? zoneName).isNone then .error (.unknownZone zoneName)
  return .simpleTimer ⟨start, period, unit, repetitions, stop?, zoneName, some start, 0, false⟩

/-- The operation `kind`: the word for the kind of trigger. -/
def kind : Trigger → String
  | pointInTime _ => "point_in_time"
  | interval _ => "interval"
  | simpleTimer _ => "simple_timer"

/-- The operation `has_next_fire_time`: the firing that comes next. -/
def next? : Trigger → Option Instant
  | pointInTime next? => next?
  | interval t => t.next?
  | simpleTimer t => t.next?

/-- The operation `next_fire_time`: takes the firing that comes next and answers its instant and the
trigger that is left. Only a simple timer that counts days from a start without a local time has no
answer. -/
def advance? : Trigger → Option (Option Instant × Trigger)
  | pointInTime next? => some (next?, .pointInTime none)
  | interval t => some (t.advance.1, .interval t.advance.2)
  | simpleTimer t => t.advance?.map fun (taken?, after) => (taken?, .simpleTimer after)

/-- The operation `skip_until`: passes over the firings before the threshold. There is no answer for an
interval whose period is zero nor for a simple timer that counts days from a start without a local time,
when its next firing is before the threshold. -/
def skipUntil? (threshold : Instant) : Trigger → Option Trigger
  | pointInTime next? => some (.pointInTime (next?.filter (threshold ≤ ·)))
  | interval t => (t.skipUntil? threshold).map .interval
  | simpleTimer t => (t.skipUntil? threshold).map .simpleTimer

/-- The operation `preview`: the instants of the coming firings, at most so many. Breaks off where taking
one of them does. -/
def preview? : Nat → Trigger → Option (List Instant)
  | 0, _ => some []
  | n + 1, t =>
    match t.advance? with
    | none => none
    | some (none, _) => some []
    | some (some instant, rest) => (preview? n rest).map (instant :: ·)

/-- A trigger that counts days has a start that shows as a local time. -/
def startShows : Trigger → Bool
  | simpleTimer t => t.startShows
  | _ => true

end Trigger

end Punctual
