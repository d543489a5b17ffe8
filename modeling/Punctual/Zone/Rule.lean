import Punctual.Calendar

/-!
The history of a time zone as the time zone database writes it: eras with a base offset, and
rules that say when clocks are put forward within an era. `Era.history` unrolls both into the list
of offset changes. Rules without an end are unrolled through the year 2099; the offset in force then
stays in force.
-/
namespace Punctual

/-- A day of a month, as rules name it. -/
inductive MonthDay
  | on (day : Nat)
  | last (weekday : Weekday)
  | onOrAfter (weekday : Weekday) (day : Nat)
  | onOrBefore (weekday : Weekday) (day : Nat)
deriving DecidableEq, Repr

/-- The day's number, counted from 1970-01-01. -/
def MonthDay.toDays (year : Int) (month : Nat) : MonthDay → Int
  | on day => Date.toDays ⟨year, month, day⟩
  | last weekday =>
    let final := Date.toDays ⟨year, month, Date.daysInMonth year month⟩
    final - (Date.weekdayIndex final - weekday.index) % 7
  | onOrAfter weekday day =>
    let first := Date.toDays ⟨year, month, day⟩
    first + (weekday.index - Date.weekdayIndex first) % 7
  | onOrBefore weekday day =>
    let final := Date.toDays ⟨year, month, day⟩
    final - (Date.weekdayIndex final - weekday.index) % 7

/-- The clock a time of day is read from. -/
inductive RuleClock
  /-- what people's clocks show -/
  | wall
  /-- the base offset, without the saving -/
  | standard
  | universal
deriving DecidableEq, Repr

/-- A time of day on a day of the year. -/
structure YearTime where
  month : Nat
  day : MonthDay
  clock : RuleClock
  /-- seconds after midnight, also before it or past the next one -/
  second : Int
deriving DecidableEq, Repr

namespace YearTime

def days (t : YearTime) (year : Int) : Int := t.day.toDays year t.month

/-- The instant, in seconds since 1970, where the base offset and the saving are in force. -/
def toInstant (t : YearTime) (year base saving : Int) : Int :=
  let reading := t.days year * 86400 + t.second
  match t.clock with
  | .wall => reading - (base + saving)
  | .standard => reading - base
  | .universal => reading

end YearTime

/-- From the first to the last year, clocks are set to the saving at the given time. -/
structure SavingRule where
  firstYear : Int
  lastYear : Int
  time : YearTime
  saving : Int
deriving DecidableEq, Repr

/-- How far clocks are ahead of the base offset. -/
inductive Saving
  | fixed (seconds : Int)
  | byRules (rules : List SavingRule)
deriving DecidableEq, Repr

/-- A stretch of time with one base offset; the last era of a zone has no end. -/
structure Era where
  base : Int
  saving : Saving
  until? : Option (Int × YearTime)
deriving DecidableEq, Repr

/-- A change of the offset from UTC. -/
structure OffsetChange where
  /-- seconds since 1970 -/
  instant : Int
  /-- seconds east of UTC, in force from that instant -/
  offset : Int
deriving DecidableEq, Repr

namespace SavingRule

/-- The last year for which rules are unrolled. -/
def horizon : Int := 2099

/-- The rule acts no later in the year than the other. -/
def actsBy (year : Int) (a b : SavingRule) : Bool :=
  let day := a.time.days year
  let otherDay := b.time.days year
  day < otherDay || (day == otherDay && a.time.second ≤ b.time.second)

/-- Inserts a rule before the first one that acts after it. -/
def insertByDay (year : Int) (r : SavingRule) : List SavingRule → List SavingRule
  | [] => [r]
  | s :: rest => if actsBy year r s then r :: s :: rest else s :: insertByDay year r rest

/-- The rules that act in a year, in the order of their days. -/
def ofYear (rules : List SavingRule) (year : Int) : List SavingRule :=
  (rules.filter fun r => r.firstYear ≤ year && year ≤ r.lastYear).foldr (insertByDay year) []

/-- Each rule at each year in which it acts, up to the last year given, in order of time. -/
def occurrences (rules : List SavingRule) (lastYear : Int) : List (Int × SavingRule) :=
  match (rules.map (·.firstYear)).min? with
  | none => []
  | some first =>
    (List.range (lastYear - first + 1).toNat).flatMap fun (i : Nat) =>
      (ofYear rules (first + i)).map fun r => (first + i, r)

end SavingRule

namespace Era

/-- What an era contributes: the saving it starts with, its own changes in order, and the saving it
ends with. -/
structure Course where
  initial : Int
  changes : List OffsetChange
  final : Int

/-- Runs through rule occurrences. Those at or before the start only settle the initial saving;
the era's end, read with the saving then in force, stops the run. -/
def run (e : Era) (start? : Option Int) : List (Int × SavingRule) → Course → Course
  | [], course => course
  | (year, rule) :: rest, course =>
    let moment := rule.time.toInstant year e.base course.final
    let ended := e.until?.any fun (y, t) => t.toInstant y e.base course.final ≤ moment
    if ended then course
    else if start?.any (moment ≤ ·) then
      e.run start? rest { course with initial := rule.saving, final := rule.saving }
    else
      e.run start? rest
        { course with
          changes := course.changes ++ [⟨moment, e.base + rule.saving⟩]
          final := rule.saving }

def course (e : Era) (start? : Option Int) : Course :=
  match e.saving with
  | .fixed s => ⟨s, [], s⟩
  | .byRules rules =>
    let lastYear := match e.until? with
      | some (year, _) => min year SavingRule.horizon
      | none => SavingRule.horizon
    e.run start? (SavingRule.occurrences rules lastYear) ⟨0, [], 0⟩

/-- The offset before all changes, and the changes in order, among them the starts of the eras. -/
def unroll (start? : Option Int) : List Era → List OffsetChange
  | [] => []
  | e :: rest =>
    let c := e.course start?
    let opening := match start? with
      | some start => [⟨start, e.base + c.initial⟩]
      | none => []
    let next := match e.until? with
      | some (year, t) => some (t.toInstant year e.base c.final)
      | none => none
    opening ++ c.changes ++ unroll next rest

def initialOffset : List Era → Int
  | [] => 0
  | e :: _ => e.base + (e.course none).initial

end Era

namespace OffsetChange

/-- Merges a change into the one before it when, on wall clocks, it comes no later than that one:
both were meant as one change. The list holds the latest change first. -/
def push (initial : Int) : List OffsetChange → OffsetChange → List OffsetChange
  | last :: before, c =>
    let offsetBefore := (before.head?.map (·.offset)).getD initial
    if c.instant + last.offset ≤ last.instant + offsetBefore then
      { last with offset := c.offset } :: before
    else c :: last :: before
  | [], c => [c]

/-- Leaves out changes that change nothing. -/
def dropIdle : Int → List OffsetChange → List OffsetChange
  | _, [] => []
  | offset, c :: rest =>
    if c.offset = offset then dropIdle offset rest else c :: dropIdle c.offset rest

end OffsetChange

/-- The first offset and the changes of offset that the eras amount to. -/
def Era.history (eras : List Era) : Int × List OffsetChange :=
  let initial := Era.initialOffset eras
  let merged := ((Era.unroll none eras).foldl (OffsetChange.push initial) []).reverse
  (initial, OffsetChange.dropIdle initial merged)

end Punctual
