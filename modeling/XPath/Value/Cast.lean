import XPath.Unicode.Property
import XPath.Value.Lexical

/-!
# Casting

A value is cast to a type by reading its text, where it is a string, or by a conversion between
the two types. Other pairs of types have no cast. Names need the namespaces in scope.
-/

namespace XPath

open XPath.Number XPath.Text

/-- The namespaces that prefixes are bound to, and the one of element and type names without
prefix. -/
structure Namespaces where
  bindings : List (String × String)
  defaultElement : Option String
  deriving Repr, Inhabited

namespace Namespaces

def resolve? (scope : Namespaces) (p : String) : Option String := scope.bindings.lookup p

/-- Binds a prefix anew. The prefix `xml` keeps its binding. -/
def bind (scope : Namespaces) (p uri : String) : Namespaces :=
  if p == "xml" then scope
  else { scope with bindings := (p, uri) :: scope.bindings.filter (·.1 != p) }

end Namespaces

/-- A name without colon: a letter or `_`, then letters, digits and some punctuation. -/
def isNCName (s : List Char) : Bool :=
  match s with
  | [] => false
  | c :: r =>
    (Unicode.isAlphabetic c || c == '_') &&
      r.all fun c => Unicode.isAlphanumeric c || c == '_' || c == '-' || c == '.' || c == '·'

/-- Reads a name and finds its namespace. -/
def QName.read (lexical : String) (scope : Option Namespaces) : Result QName :=
  let t := trim lexical.toList
  let (p?, l) := match splitFirst? ':' t with
    | some (p, l) => (some p, l)
    | none => (none, t)
  if !isNCName l || p?.any (!isNCName ·) then
    .error (.of .FORG0001 ("invalid lexical QName: '" ++ lexical ++ "'"))
  else
    match p?.map String.ofList with
    | none => .ok ⟨none, String.ofList l, scope.bind (·.defaultElement)⟩
    | some p =>
      match scope.bind (·.resolve? p) with
      | some uri => .ok ⟨some p, String.ofList l, some uri⟩
      | none => .error (.of .FONS0004 ("no namespace bound to prefix '" ++ p ++ "'"))

namespace Atomic

def noCast (v : Atomic) (t : AtomicType) : Error :=
  .typeError ("cannot cast " ++ v.typeName ++ " to " ++ t.display)

/-- A NaN or an infinity has no counterpart in the type. -/
def notFinite (t : AtomicType) : Error :=
  .of .FOCA0002 ("NaN or infinity cannot be cast to " ++ t.display)

def decimalOfDouble (x : Float) : Result Decimal :=
  if !x.isFinite then .error (notFinite .decimal)
  else match Decimal.ofDouble? x with
    | some d => .ok d
    | none => .error (.of .FOCA0001 "value too large for xs:decimal")

def integerOfDouble (x : Float) : Result Int :=
  match truncate? x with
  | some i => .ok i
  | none => .error (notFinite .integer)

def toDecimal : Atomic → Result Decimal
  | boolean b => .ok (if b then .one else .zero)
  | numeric (.integer i) =>
    match Decimal.ofInt? i with
    | some d => .ok d
    | none => .error (.of .FOCA0001 "integer too large for xs:decimal")
  | numeric (.decimal d) => .ok d
  | numeric (.float x) => decimalOfDouble x.toFloat
  | numeric (.double x) => decimalOfDouble x
  | v => .error (v.noCast .decimal)

/-- The cast to xs:integer: the part before the point. -/
def toInteger : Atomic → Result Int
  | boolean b => .ok (if b then 1 else 0)
  | numeric (.integer i) => .ok i
  | numeric (.decimal d) => .ok d.truncate
  | numeric (.float x) => integerOfDouble x.toFloat
  | numeric (.double x) => integerOfDouble x
  | v => .error (v.noCast .integer)

def toGregorian (v : Atomic) (kind : GregorianKind) : Result Gregorian :=
  match v with
  | dateTime t => .ok (.ofDay kind t.fields.day t.zone)
  | date d => .ok (.ofDay kind d.day d.zone)
  | v => .error (v.noCast kind.type)

/-- The cast of a value that is neither a string nor untyped to a type other than its own. -/
def convert (v : Atomic) (t : AtomicType) : Result Atomic :=
  match t with
  | .string => .ok (string v.text)
  | .untypedAtomic => .ok (untyped v.text)
  | .boolean =>
    match v with
    | numeric n => .ok (boolean (!(n.isZero || n.isNaN)))
    | _ => .error (v.noCast t)
  | .double =>
    match v with
    | boolean b => .ok (double (if b then 1 else 0))
    | numeric n => .ok (double n.toDouble)
    | _ => .error (v.noCast t)
  | .float =>
    match v with
    | boolean b => .ok (float (if b then 1 else 0))
    | numeric n => .ok (float n.toSingle)
    | _ => .error (v.noCast t)
  | .decimal => v.toDecimal.map decimal
  | .integer => v.toInteger.map integer
  | .duration =>
    match v with
    | yearMonthDuration d => .ok (duration (.ofYearMonth d))
    | dayTimeDuration d => .ok (duration (.ofDayTime d))
    | _ => .error (v.noCast t)
  | .yearMonthDuration =>
    match v with
    | duration d => .ok (yearMonthDuration d.yearMonth)
    | dayTimeDuration _ => .ok (yearMonthDuration (.ofMonths 0))
    | _ => .error (v.noCast t)
  | .dayTimeDuration =>
    match v with
    | duration d => .ok (dayTimeDuration d.dayTime)
    | yearMonthDuration _ => .ok (dayTimeDuration ⟨.zero⟩)
    | _ => .error (v.noCast t)
  | .dateTime =>
    match v with
    | date d => .ok (dateTime ⟨.midnight d.day, d.zone⟩)
    | _ => .error (v.noCast t)
  | .date =>
    match v with
    | dateTime d => .ok (date d.date)
    | _ => .error (v.noCast t)
  | .time =>
    match v with
    | dateTime d => .ok (time d.time)
    | _ => .error (v.noCast t)
  | .gYearMonth => (v.toGregorian .yearMonth).map gregorian
  | .gYear => (v.toGregorian .year).map gregorian
  | .gMonthDay => (v.toGregorian .monthDay).map gregorian
  | .gDay => (v.toGregorian .day).map gregorian
  | .gMonth => (v.toGregorian .month).map gregorian
  | .hexBinary =>
    match v with
    | base64Binary b => .ok (hexBinary b)
    | _ => .error (v.noCast t)
  | .base64Binary =>
    match v with
    | hexBinary b => .ok (base64Binary b)
    | _ => .error (v.noCast t)
  | .anyURI | .qname | .anyAtomic => .error (v.noCast t)

/-- Reads a string as a value of a type; names are looked up in the namespaces in scope. -/
def readAs (s : String) (t : AtomicType) (scope : Option Namespaces) : Result Atomic :=
  match t with
  | .qname => (QName.read s scope).map qname
  | t => ofLexical t s

def cast (v : Atomic) (t : AtomicType) (scope : Option Namespaces) : Result Atomic :=
  if t == .anyAtomic then
    .error (.of .XPST0051 "xs:anyAtomicType is not a valid cast target")
  else if v.type == t then .ok v
  else match v with
    | string s | untyped s => readAs s t scope
    | v => v.convert t

def castable (v : Atomic) (t : AtomicType) (scope : Option Namespaces) : Bool :=
  (v.cast t scope).isOk

/-- The integer of an integer value, cut to 64 bits. -/
def integer64? : Atomic → Option Int
  | numeric (.integer i) => some (max (-(2 ^ 63)) (min i (2 ^ 63 - 1)))
  | _ => none

end Atomic

end XPath
