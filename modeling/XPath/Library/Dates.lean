import XPath.Function.Call

/-!
# Functions on dates and times

Components, adjustment to time zones, and the current time.
-/

namespace XPath.Library

def dateTime? (args : List Sequence) (i : Nat) : Option DateTime :=
  match Arguments.atomic? args i with
  | some (.dateTime v) => some v
  | _ => none

def date? (args : List Sequence) (i : Nat) : Option Date :=
  match Arguments.atomic? args i with
  | some (.date v) => some v
  | _ => none

def time? (args : List Sequence) (i : Nat) : Option Time :=
  match Arguments.atomic? args i with
  | some (.time v) => some v
  | _ => none

def ofDateTime (f : DateTime → Option Atomic) : FunctionBody := fun _ args =>
  .ok ((dateTime? args 0).bind f |>.map Item.atomic).toList

def ofDate (f : Date → Option Atomic) : FunctionBody := fun _ args =>
  .ok ((date? args 0).bind f |>.map Item.atomic).toList

def ofTime (f : Time → Option Atomic) : FunctionBody := fun _ args =>
  .ok ((time? args 0).bind f |>.map Item.atomic).toList

def zoneValue (z : Option TimeZone) : Option Atomic :=
  z.map fun z => .dayTimeDuration z.toDuration

def yearFromDateTime : FunctionBody := ofDateTime fun v => some (.integer v.fields.day.year)

def monthFromDateTime : FunctionBody := ofDateTime fun v => some (.integer v.fields.day.month)

def dayFromDateTime : FunctionBody := ofDateTime fun v => some (.integer v.fields.day.dayOfMonth)

def hoursFromDateTime : FunctionBody :=
  ofDateTime fun v => some (.integer v.fields.clock.hour)

def minutesFromDateTime : FunctionBody :=
  ofDateTime fun v => some (.integer v.fields.clock.minute)

def secondsFromDateTime : FunctionBody :=
  ofDateTime fun v => some (.decimal (Temporal.seconds v.fields.clock))

def timezoneFromDateTime : FunctionBody := ofDateTime fun v => zoneValue v.zone

def yearFromDate : FunctionBody := ofDate fun v => some (.integer v.day.year)

def monthFromDate : FunctionBody := ofDate fun v => some (.integer v.day.month)

def dayFromDate : FunctionBody := ofDate fun v => some (.integer v.day.dayOfMonth)

def timezoneFromDate : FunctionBody := ofDate fun v => zoneValue v.zone

def hoursFromTime : FunctionBody := ofTime fun v => some (.integer v.clock.hour)

def minutesFromTime : FunctionBody := ofTime fun v => some (.integer v.clock.minute)

def secondsFromTime : FunctionBody := ofTime fun v => some (.decimal (Temporal.seconds v.clock))

def timezoneFromTime : FunctionBody := ofTime fun v => zoneValue v.zone

/-- The time zone to adjust to: the implicit one if there is no second argument, none if that is
empty. -/
def targetZone (call : Call) (args : List Sequence) : Result (Option TimeZone) :=
  if args.length ≤ 1 then .ok (some call.dynamic.timeZone)
  else match Arguments.atomic? args 1 with
    | none => .ok none
    | some (.dayTimeDuration d) => (TimeZone.ofDuration d).map some
    | some v => .error (.typeError ("timezone must be xs:dayTimeDuration, got " ++ v.typeName))

def adjustDateTime : FunctionBody := fun call args =>
  match dateTime? args 0 with
  | none => .ok []
  | some v => do return [.atomic (.dateTime (← v.adjust (← targetZone call args)))]

def adjustDate : FunctionBody := fun call args =>
  match date? args 0 with
  | none => .ok []
  | some v => do return [.atomic (.date (← v.adjust (← targetZone call args)))]

def adjustTime : FunctionBody := fun call args =>
  match time? args 0 with
  | none => .ok []
  | some v => do return [.atomic (.time (v.adjust (← targetZone call args)))]

/-- Joins a date and a time of day; if both have a time zone it has to be the same. -/
def makeDateTime : FunctionBody := fun _ args =>
  match date? args 0, time? args 1 with
  | some d, some t =>
    if d.zone.isSome && t.zone.isSome && d.zone != t.zone then
      .error (.of .FORG0008
        ("date " ++ d.text ++ " and time " ++ t.text ++ " have different timezones"))
    else .ok [.atomic (.dateTime (.ofParts d.day t (d.zone.orElse fun _ => t.zone)))]
  | _, _ => .ok []

def currentDateTime : FunctionBody := fun call _ => .ok [.atomic (.dateTime call.dynamic.now)]

def currentDate : FunctionBody := fun call _ => .ok [.atomic (.date call.dynamic.now.date)]

def currentTime : FunctionBody := fun call _ => .ok [.atomic (.time call.dynamic.now.time)]

def implicitTimezone : FunctionBody := fun call _ =>
  .ok [.atomic (.dayTimeDuration call.dynamic.timeZone.toDuration)]

end XPath.Library
