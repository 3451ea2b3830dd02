import XPath.Function.Overloads
import XPath.SequenceType

/-!
# Signatures

The signature of a function gives its name, the numbers of arguments that it takes, and the types
of its parameters and of its result. A function without limit repeats its last parameter.
-/

namespace XPath

/-- What a parameter takes: any items, nodes, or atomic values of any type, of one type, or of the
numeric types. -/
inductive ParameterItem where
  | item | node | anyAtomic | atomic (t : AtomicType) | numeric
  deriving DecidableEq, Repr, Inhabited

structure ParameterType where
  item : ParameterItem
  occurrence : Occurrence
  deriving DecidableEq, Repr, Inhabited

structure Signature where
  name : ExpandedName
  arity : Arity
  parameters : List ParameterType
  result : ParameterType
  deriving DecidableEq, Repr, Inhabited

/-- The type of the parameter number `i`, counted from zero. -/
def Signature.parameter? (s : Signature) (i : Nat) : Option ParameterType :=
  match s.parameters[i]? with
  | some p => some p
  | none => if s.arity.most.isNone then s.parameters.getLast? else none

/-- The signatures that expressions are bound to. -/
abbrev Signatures := FunctionTable Signature

namespace Signatures

def add (t : Signatures) (s : Signature) : Signatures := t.register s.name s.arity s

def forCall (t : Signatures) (name : ExpandedName) (n : Nat) : Result Signature :=
  (t.firstRegistered name n).map (·.2)

end Signatures

end XPath
