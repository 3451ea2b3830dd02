import XPath.Text.Base64
import XPath.Text.Hex
import XPath.Time.Temporal
import XPath.Value.AtomicType
import XPath.Value.Numeric

/-!
# Atomic values

A value of one of the atomic types, its type, and its canonical text.
-/

namespace XPath

open XPath.Number XPath.Text

/-- An atomic value. Values of the binary types are lists of bytes. -/
inductive Atomic where
  | string (s : String)
  | untyped (s : String)
  | anyURI (s : String)
  | boolean (b : Bool)
  | numeric (n : Numeric)
  | qname (q : QName)
  | dateTime (v : DateTime)
  | date (v : Date)
  | time (v : Time)
  | gregorian (v : Gregorian)
  | yearMonthDuration (d : YearMonthDuration)
  | dayTimeDuration (d : DayTimeDuration)
  | duration (d : Duration)
  | hexBinary (bytes : List UInt8)
  | base64Binary (bytes : List UInt8)
  deriving Inhabited

def GregorianKind.type : GregorianKind → AtomicType
  | yearMonth => .gYearMonth
  | year => .gYear
  | monthDay => .gMonthDay
  | day => .gDay
  | month => .gMonth

def Numeric.type : Numeric → AtomicType
  | integer _ => .integer
  | decimal _ => .decimal
  | float _ => .float
  | double _ => .double

namespace Atomic

def integer (i : Int) : Atomic := numeric (.integer i)

def decimal (d : Decimal) : Atomic := numeric (.decimal d)

def float (x : Float32) : Atomic := numeric (.float x)

def double (x : Float) : Atomic := numeric (.double x)

def type : Atomic → AtomicType
  | string _ => .string
  | untyped _ => .untypedAtomic
  | anyURI _ => .anyURI
  | boolean _ => .boolean
  | numeric n => n.type
  | qname _ => .qname
  | dateTime _ => .dateTime
  | date _ => .date
  | time _ => .time
  | gregorian v => v.kind.type
  | yearMonthDuration _ => .yearMonthDuration
  | dayTimeDuration _ => .dayTimeDuration
  | duration _ => .duration
  | hexBinary _ => .hexBinary
  | base64Binary _ => .base64Binary

def typeName (v : Atomic) : String := v.type.display

/-- The canonical text, which is also what a cast to xs:string gives. -/
def text : Atomic → String
  | string s | untyped s | anyURI s => s
  | boolean b => if b then "true" else "false"
  | numeric n => n.text
  | qname q => q.lexical
  | dateTime v => v.text
  | date v => v.text
  | time v => v.text
  | gregorian v => v.text
  | yearMonthDuration d => d.text
  | dayTimeDuration d => d.text
  | duration d => d.text
  | hexBinary b => hexText b
  | base64Binary b => base64Text b

def numeric? : Atomic → Option Numeric
  | numeric n => some n
  | _ => none

/-- The text of a string, an untyped value or a URI: these three compare as strings. -/
def stringLike? : Atomic → Option String
  | string s | untyped s | anyURI s => some s
  | _ => none

/-- Sameness of values: one type, equal fields, numbers by value. A NaN differs from itself. -/
instance : BEq Atomic where
  beq
    | string s, string t | untyped s, untyped t | anyURI s, anyURI t => s == t
    | boolean b, boolean c => b == c
    | numeric m, numeric n => m == n
    | qname p, qname q => p == q
    | dateTime v, dateTime w => v == w
    | date v, date w => v == w
    | time v, time w => v == w
    | gregorian v, gregorian w => v == w
    | yearMonthDuration d, yearMonthDuration e => d == e
    | dayTimeDuration d, dayTimeDuration e => d.seconds == e.seconds
    | duration d, duration e => d.months == e.months && d.seconds == e.seconds
    | hexBinary b, hexBinary c | base64Binary b, base64Binary c => b == c
    | _, _ => false

end Atomic

end XPath
