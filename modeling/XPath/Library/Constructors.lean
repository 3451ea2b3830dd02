import XPath.Function.Call

/-!
# Constructor functions
-/

namespace XPath.Library

/-- Casts the argument to a type; an empty argument stays empty. -/
def construct (t : AtomicType) : FunctionBody := fun call args =>
  match Arguments.atomic? args 0 with
  | none => .ok []
  | some v => do return [.atomic (← v.cast t (some call.static.namespaces))]

end XPath.Library
