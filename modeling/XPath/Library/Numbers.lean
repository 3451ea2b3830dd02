import XPath.Function.Call
import XPath.Value.Rounding

/-!
# Functions on numbers
-/

namespace XPath.Library

open XPath.Number

/-- A function that maps a number to a number of its type; it leaves an empty argument empty. -/
def onNumeric (f : Numeric → Numeric) : FunctionBody := fun _ args =>
  .ok (((Arguments.numeric? args 0).map fun n => Item.atomic (.numeric (f n))).toList)

def absolute : FunctionBody := onNumeric Numeric.abs

def ceilingOf : FunctionBody := onNumeric Numeric.ceiling

def floorOf : FunctionBody := onNumeric Numeric.floor

def rounded : FunctionBody := onNumeric Numeric.roundHalfUp

def roundedHalfToEven : FunctionBody := fun call args =>
  onNumeric (·.roundHalfEven ((Arguments.integer? args 1).getD 0)) call args

/-- The double that a value casts to; a NaN if there is none. -/
def numberOf : FunctionBody := fun call args => do
  let values ← match args[0]? with
    | some s => pure s.atomize
    | none => call.contextItem.map Item.typedValue
  match values with
  | [v] =>
    match v.cast .double none with
    | .ok x => return [.atomic x]
    | .error _ => return [.atomic (.double notANumber)]
  | _ => return [.atomic (.double notANumber)]

end XPath.Library
