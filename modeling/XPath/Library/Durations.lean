import XPath.Function.Call

/-!
# Functions on durations

The components of a duration. Each has the sign of the duration.
-/

namespace XPath.Library

/-- The months and the seconds of a duration of any type, as durations. -/
def durationParts? (args : List Sequence) : Option (YearMonthDuration × DayTimeDuration) :=
  match Arguments.atomic? args 0 with
  | some (.duration d) => some (d.yearMonth, d.dayTime)
  | some (.yearMonthDuration d) => some (d, ⟨.zero⟩)
  | some (.dayTimeDuration d) => some (.ofMonths 0, d)
  | _ => none

/-- A component with the sign of its duration. -/
def signedComponent (component : Int) (negative : Bool) : Item :=
  .integer (if negative then -component else component)

def monthsComponent (f : YearMonthDuration → Int) : FunctionBody := fun _ args =>
  .ok ((durationParts? args).map fun (d, _) => signedComponent (f d) d.negative).toList

def secondsComponent (f : DayTimeDuration → Nat) : FunctionBody := fun _ args =>
  .ok ((durationParts? args).map fun (_, d) => signedComponent (f d) d.negative).toList

def yearsFromDuration : FunctionBody := monthsComponent YearMonthDuration.year

def monthsFromDuration : FunctionBody := monthsComponent YearMonthDuration.month

def daysFromDuration : FunctionBody := secondsComponent DayTimeDuration.days

def hoursFromDuration : FunctionBody := secondsComponent DayTimeDuration.hours

def minutesFromDuration : FunctionBody := secondsComponent DayTimeDuration.minutes

def secondsFromDuration : FunctionBody := fun _ args =>
  .ok ((durationParts? args).map fun (_, d) =>
    Item.atomic (.decimal (if d.negative then d.secondsPart.neg else d.secondsPart))).toList

end XPath.Library
