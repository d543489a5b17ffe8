import Punctual.Json.Record
import Punctual.Trigger

/-!
Triggers as records. Reading checks types only: neither periods nor zones are looked at.
-/
namespace Punctual

/-- The unit that a word in a record names. -/
def TimeUnit.ofJson? (j : Json) : Option TimeUnit := j.word?.bind TimeUnit.ofName?

namespace Interval

/-- The interval that the fields of a record spell. -/
def ofRecord? (j : Json) : Option Interval := do
  let r ← j.record?
    ["start_time", "end_time", "repeat_limit", "repeat_count", "period_ms", "next_fire_time"]
  return {
    start := ← r.required "start_time" Json.instant?
    stop? := ← r.optional "end_time" Json.instant?
    limit := ← r.withDefault "repeat_limit" Json.int32? 0
    count := ← r.withDefault "repeat_count" Json.int32? 0
    periodMs := ← r.required "period_ms" Json.int64?
    next? := ← r.nullable "next_fire_time" Json.instant? }

/-- The fields of an interval's record. -/
def fields (t : Interval) : List (String × Json) :=
  [("start_time", .ofInstant t.start),
   ("end_time", .ofOption .ofInstant t.stop?),
   ("repeat_limit", .int t.limit),
   ("repeat_count", .int t.count),
   ("period_ms", .int t.periodMs),
   ("next_fire_time", .ofOption .ofInstant t.next?)]

end Interval

namespace SimpleTimer

/-- The timer that the fields of a record spell. -/
def ofRecord? (j : Json) : Option SimpleTimer := do
  let r ← j.record?
    ["start_time", "period", "period_unit", "repeat_count", "end_time", "zone_id",
     "next_fire_time", "current_repeat_count", "end_time_reached"]
  return {
    start := ← r.required "start_time" Json.instant?
    period := ← r.required "period" Json.int64?
    unit := ← r.required "period_unit" TimeUnit.ofJson?
    repetitions := ← r.withDefault "repeat_count" Json.int32? 0
    stop? := ← r.optional "end_time" Json.instant?
    zoneName := ← r.required "zone_id" Json.string?
    next? := ← r.nullable "next_fire_time" Json.instant?
    index := ← r.withDefault "current_repeat_count" Json.int32? 0
    ended := ← r.withDefault "end_time_reached" Json.bool? false }

/-- The fields of a timer's record. -/
def fields (t : SimpleTimer) : List (String × Json) :=
  [("start_time", .ofInstant t.start),
   ("period", .int t.period),
   ("period_unit", .str t.unit.name),
   ("repeat_count", .int t.repetitions),
   ("end_time", .ofOption .ofInstant t.stop?),
   ("zone_id", .str t.zoneName),
   ("next_fire_time", .ofOption .ofInstant t.next?),
   ("current_repeat_count", .int t.index),
   ("end_time_reached", .bool t.ended)]

end SimpleTimer

namespace Trigger

/-- The trigger that a record spells; nothing is checked that the constructors check. -/
def ofJson? (j : Json) : Option Trigger := do
  let (kind, rest) ← j.tagged? "type"
  match kind with
  | "point_in_time" =>
    let r ← rest.record? ["next_fire_time"]
    return .pointInTime (← r.nullable "next_fire_time" Json.instant?)
  | "interval" => return .interval (← Interval.ofRecord? rest)
  | "simple_timer" => return .simpleTimer (← SimpleTimer.ofRecord? rest)
  | _ => none

/-- The record of a trigger. -/
def toJson (t : Trigger) : Json :=
  let fields := match t with
    | pointInTime next? => [("next_fire_time", .ofOption .ofInstant next?)]
    | interval t => t.fields
    | simpleTimer t => t.fields
  .obj (("type", .str t.kind) :: fields)

end Trigger

end Punctual
