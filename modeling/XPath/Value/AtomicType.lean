import XPath.Name

/-!
# Atomic types

The built-in atomic types form a tree under xs:anyAtomicType: every type but the root has one
parent, from which it is derived.
-/

namespace XPath

inductive AtomicType where
  | anyAtomic | untypedAtomic | string | boolean | decimal | integer | float | double
  | duration | yearMonthDuration | dayTimeDuration | dateTime | date | time
  | gYearMonth | gYear | gMonthDay | gDay | gMonth
  | hexBinary | base64Binary | anyURI | qname
  deriving DecidableEq, Repr, Inhabited

namespace AtomicType

/-- All atomic types, the root first. -/
def all : List AtomicType :=
  [anyAtomic, untypedAtomic, string, boolean, decimal, integer, float, double, duration,
   yearMonthDuration, dayTimeDuration, dateTime, date, time, gYearMonth, gYear, gMonthDay, gDay,
   gMonth, hexBinary, base64Binary, anyURI, qname]

/-- The name within the namespace of the atomic types. -/
def localName : AtomicType → String
  | anyAtomic => "anyAtomicType"
  | untypedAtomic => "untypedAtomic"
  | string => "string"
  | boolean => "boolean"
  | decimal => "decimal"
  | integer => "integer"
  | float => "float"
  | double => "double"
  | duration => "duration"
  | yearMonthDuration => "yearMonthDuration"
  | dayTimeDuration => "dayTimeDuration"
  | dateTime => "dateTime"
  | date => "date"
  | time => "time"
  | gYearMonth => "gYearMonth"
  | gYear => "gYear"
  | gMonthDay => "gMonthDay"
  | gDay => "gDay"
  | gMonth => "gMonth"
  | hexBinary => "hexBinary"
  | base64Binary => "base64Binary"
  | anyURI => "anyURI"
  | qname => "QName"

def display (t : AtomicType) : String := "xs:" ++ t.localName

def ofLocalName? (s : String) : Option AtomicType :=
  all.find? (·.localName == s)

def ofName? (n : ExpandedName) : Option AtomicType :=
  if n.namespaceUri == some Namespace.schema then ofLocalName? n.localName else none

def parent? : AtomicType → Option AtomicType
  | anyAtomic => none
  | integer => some decimal
  | yearMonthDuration | dayTimeDuration => some duration
  | _ => some anyAtomic

/-- Whether `t` is `u` or derived from it; no type is more than two steps below the root. -/
def derivesFrom (t u : AtomicType) : Bool :=
  t == u || (t.parent?.any fun p => p == u || p.parent? == some u)

def isNumeric : AtomicType → Bool
  | integer | decimal | float | double => true
  | _ => false

/-- The root is abstract, so nothing can be cast to it. -/
def isCastTarget (t : AtomicType) : Bool := t != anyAtomic

theorem ofLocalName?_localName (t : AtomicType) : ofLocalName? t.localName = some t := by
  cases t <;> rfl

theorem derivesFrom_refl (t : AtomicType) : t.derivesFrom t = true := by
  cases t <;> rfl

theorem derivesFrom_anyAtomic (t : AtomicType) : t.derivesFrom anyAtomic = true := by
  cases t <;> rfl

end AtomicType

end XPath
