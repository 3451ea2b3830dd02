import XPath.Function.Signature

/-!
# Argument conversion

The arguments of a call are converted to the types of the parameters. For an atomic parameter they
are atomized; then untyped values are cast, numbers are promoted to xs:double or xs:float, and
URIs to xs:string. The number of items is checked last.
-/

namespace XPath

/-- Words for the number of items that an occurrence allows. -/
def Occurrence.words : Occurrence → String
  | one => "exactly one"
  | zeroOrOne => "at most one"
  | oneOrMore => "at least one"
  | zeroOrMore => "any number of"

namespace ParameterItem

def convertTo (t : AtomicType) (v : Atomic) : Result Atomic :=
  if v.type == .untypedAtomic then v.cast t none
  else if v.type.derivesFrom t then .ok v
  else match t, v with
    | .float, .numeric _ | .double, .numeric _ => v.cast t none
    | .string, .anyURI s => .ok (.string s)
    | _, _ => .error (.typeError ("expected " ++ t.display ++ ", got " ++ v.typeName))

def convertToNumeric (v : Atomic) : Result Atomic :=
  match v with
  | .untyped _ => v.cast .double none
  | .numeric _ => .ok v
  | _ => .error (.typeError ("expected a numeric value, got " ++ v.typeName))

def convertEach (convert : Atomic → Result Atomic) (s : Sequence) : Result Sequence :=
  s.atomize.mapM fun v => (convert v).map Item.atomic

def convertItems (p : ParameterItem) (s : Sequence) : Result Sequence :=
  match p with
  | item => .ok s
  | node =>
    match s.findSome? Item.atomic? with
    | some v => .error (.typeError ("expected a node, got " ++ v.typeName))
    | none => .ok s
  | anyAtomic => convertEach .ok s
  | atomic t => convertEach (convertTo t) s
  | numeric => convertEach convertToNumeric s

end ParameterItem

namespace ParameterType

def convert (p : ParameterType) (s : Sequence) : Result Sequence := do
  let converted ← p.item.convertItems s
  if p.occurrence.allows converted.length then return converted
  else
    .error (.typeError
      ("expected " ++ p.occurrence.words ++ " item(s), got " ++ toString converted.length))

end ParameterType

namespace Signature

def atArgument (s : Signature) (i : Nat) (e : Error) : Error :=
  if e.errorCode == .XPTY0004 then
    .typeError (s.name.display ++ ": argument " ++ toString (i + 1) ++ ": " ++ e.message)
  else e

/-- Converts the argument number `i`, counted from zero. -/
def convertArgument (s : Signature) (i : Nat) (arg : Sequence) : Result Sequence :=
  match s.parameter? i with
  | some p => (p.convert arg).mapError (s.atArgument i)
  | none => .ok arg

/-- Converts all arguments of a call, the first from number `i` on. -/
def convertFrom (s : Signature) : Nat → List Sequence → Result (List Sequence)
  | _, [] => .ok []
  | i, arg :: rest => do
    let converted ← s.convertArgument i arg
    return converted :: (← s.convertFrom (i + 1) rest)

def convertArguments (s : Signature) (args : List Sequence) : Result (List Sequence) :=
  s.convertFrom 0 args

end Signature

end XPath
