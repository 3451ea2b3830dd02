import XPath.Function.Call
import XPath.Library.DeepEqual
import XPath.Library.Strings

/-!
# Functions on sequences
-/

namespace XPath

namespace Atomic

/-- The places of the values that are equal to `v`, counted from one. -/
def placesOf (v : Atomic) (values : List Atomic) (c : Collation) (tz : TimeZone) : List Nat :=
  (values.zipIdx 1).filterMap fun (w, i) => if w.equal v c tz false then some i else none

/-- The values that are not equal to an earlier one, nor to one of `seen`. -/
def distinctFrom (c : Collation) (tz : TimeZone) (seen : List Atomic) : List Atomic → List Atomic
  | [] => []
  | v :: r =>
    if seen.any fun w => w.equal v c tz true then distinctFrom c tz seen r
    else v :: distinctFrom c tz (seen ++ [v]) r

/-- The first of the values that are equal to each other. -/
def distinct (c : Collation) (tz : TimeZone) (values : List Atomic) : List Atomic :=
  distinctFrom c tz [] values

end Atomic

namespace Library

/-- An integer argument; zero if there is none. -/
def positionArgument (args : List Sequence) (i : Nat) : Int := (Arguments.integer? args i).getD 0

def indexOf : FunctionBody := fun call args => do
  let c ← call.collationArgument args 2
  match Arguments.atomic? args 1 with
  | none => return []
  | some v =>
    return (v.placesOf (Arguments.get args 0).atomize c call.dynamic.timeZone).map
      fun (i : Nat) => Item.integer i

def isEmptyArgument : FunctionBody := fun _ args => .ok [.boolean (Arguments.get args 0).isEmpty]

def isNonEmptyArgument : FunctionBody := fun _ args =>
  .ok [.boolean !(Arguments.get args 0).isEmpty]

def countItems : FunctionBody := fun _ args => .ok [.integer (Arguments.get args 0).length]

def distinctValues : FunctionBody := fun call args => do
  let c ← call.collationArgument args 1
  return (Atomic.distinct c call.dynamic.timeZone (Arguments.get args 0).atomize).map Item.atomic

def insertBefore : FunctionBody := fun _ args =>
  let target := Arguments.get args 0
  let before := ((max (positionArgument args 1) 1) - 1).toNat
  .ok (target.take before ++ Arguments.get args 2 ++ target.drop before)

def removeAt : FunctionBody := fun _ args =>
  let p := positionArgument args 1
  .ok (if p ≥ 1 then (Arguments.get args 0).eraseIdx (p - 1).toNat else Arguments.get args 0)

def reversed : FunctionBody := fun _ args => .ok (Arguments.get args 0).reverse

def subsequence : FunctionBody := fun _ args =>
  .ok ((windowArgument args).select (Arguments.get args 0))

def anyOrder : FunctionBody := fun _ args => .ok (Arguments.get args 0)

def zeroOrOne : FunctionBody := fun _ args =>
  let s := Arguments.get args 0
  if s.length ≤ 1 then .ok s
  else .error (.of .FORG0003 ("fn:zero-or-one got " ++ toString s.length ++ " items"))

def oneOrMore : FunctionBody := fun _ args =>
  let s := Arguments.get args 0
  if s.isEmpty then .error (.of .FORG0004 "fn:one-or-more got an empty sequence") else .ok s

def exactlyOne : FunctionBody := fun _ args =>
  let s := Arguments.get args 0
  if s.length == 1 then .ok s
  else .error (.of .FORG0005 ("fn:exactly-one got " ++ toString s.length ++ " items"))

def deepEqual : FunctionBody := fun call args => do
  let d : DeepEquality := ⟨← call.collationArgument args 2, call.dynamic.timeZone⟩
  return [.boolean (d.sequences (Arguments.get args 0) (Arguments.get args 1))]

def negation : FunctionBody := fun _ args => do
  return [.boolean !(← Sequence.truth (Arguments.get args 0))]

def effectiveBoolean : FunctionBody := fun _ args => do
  return [.boolean (← Sequence.truth (Arguments.get args 0))]

def constantTrue : FunctionBody := fun _ _ => .ok [.boolean true]

def constantFalse : FunctionBody := fun _ _ => .ok [.boolean false]

end Library

end XPath
