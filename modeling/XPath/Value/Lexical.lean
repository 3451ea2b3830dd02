import XPath.Value.Atomic

/-!
# Reading values

Every atomic type but xs:QName and the abstract root reads its values from a lexical form alone.
-/

namespace XPath

open XPath.Number XPath.Text

/-- Reads `true`, `false`, `1` or `0` between white space. -/
def parseBoolean? (s : String) : Option Bool :=
  let t := trim s.toList
  if t == "true".toList || t == "1".toList then some true
  else if t == "false".toList || t == "0".toList then some false
  else none

def Gregorian.parse (kind : GregorianKind) (lexical : String) : Result Gregorian :=
  match read? kind (trim lexical.toList) with
  | some v => .ok v
  | none => .error (.invalidLexical kind.type.display lexical)

namespace Atomic

/-- The value of type `t` with a lexical form. -/
def ofLexical (t : AtomicType) (lexical : String) : Result Atomic :=
  let orInvalid (v : Option Atomic) : Result Atomic :=
    match v with
    | some v => .ok v
    | none => .error (.invalidLexical t.display lexical)
  match t with
  | .string => .ok (string lexical)
  | .untypedAtomic => .ok (untyped lexical)
  | .anyURI => .ok (anyURI (collapse lexical))
  | .boolean => orInvalid ((parseBoolean? lexical).map boolean)
  | .integer => orInvalid ((Numeric.parseInteger? lexical).map integer)
  | .decimal => (Numeric.parseDecimal lexical).map decimal
  | .float => orInvalid ((parseSingle? lexical).map float)
  | .double => orInvalid ((parseDouble? lexical).map double)
  | .dateTime => (DateTime.parse lexical).map dateTime
  | .date => (Date.parse lexical).map date
  | .time => (Time.parse lexical).map time
  | .gYearMonth => (Gregorian.parse .yearMonth lexical).map gregorian
  | .gYear => (Gregorian.parse .year lexical).map gregorian
  | .gMonthDay => (Gregorian.parse .monthDay lexical).map gregorian
  | .gDay => (Gregorian.parse .day lexical).map gregorian
  | .gMonth => (Gregorian.parse .month lexical).map gregorian
  | .yearMonthDuration => (YearMonthDuration.parse lexical).map yearMonthDuration
  | .dayTimeDuration => (DayTimeDuration.parse lexical).map dayTimeDuration
  | .duration => (Duration.parse lexical).map duration
  | .hexBinary => orInvalid ((hexBytes? (trim lexical.toList)).map hexBinary)
  | .base64Binary =>
    orInvalid ((base64Bytes? (lexical.toList.filter (!isSpace ·))).map base64Binary)
  | .qname | .anyAtomic =>
    .error (.typeError ("cannot construct " ++ t.display ++ " from a lexical form alone"))

/-- The value of a type that is named with or without the prefix `xs:`. -/
def parse (typeName lexical : String) : Result Atomic :=
  let localName := match dropStart? "xs:".toList typeName.toList with
    | some l => String.ofList l
    | none => typeName
  match AtomicType.ofLocalName? localName with
  | some t => ofLexical t lexical
  | none => .error (.of .XPST0051 ("unknown atomic type " ++ typeName))

end Atomic

end XPath
