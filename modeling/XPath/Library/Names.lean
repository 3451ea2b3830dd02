import XPath.Library.Nodes
import XPath.Value.Cast

/-!
# Functions on names

Making names, taking them apart, and the namespaces in scope of an element.
-/

namespace XPath

open XPath.Text

def Error.invalidName (lexical : String) : Error :=
  .of .FOCA0002 ("invalid lexical QName: '" ++ lexical ++ "'")

/-- The prefix, if there is one, and the local part of a lexical name. -/
def splitName (lexical : String) : Result (Option String × String) :=
  let (p, l) := match splitFirst? ':' lexical.toList with
    | some (p, l) => (some p, l)
    | none => (none, lexical.toList)
  if isNCName l && p.all isNCName then .ok (p.map String.ofList, String.ofList l)
  else .error (.invalidName lexical)

namespace Library

def elementArgument (call : Call) (args : List Sequence) (i : Nat) : Result Node :=
  match (node? args i).filter (·.kind == .element) with
  | some n => .ok n
  | none => .error (call.typeError "expected an element node")

def resolveQName : FunctionBody := fun call args => do
  match Arguments.text? args 0 with
  | none => return []
  | some lexical =>
    let scope := (← elementArgument call args 1).inScopeNamespaces
    let (p?, l) ← splitName (String.ofList (trim lexical.toList))
    match p? with
    | none => return [.atomic (.qname ⟨none, l, scope.lookup ""⟩)]
    | some p =>
      match scope.lookup p with
      | some uri => return [.atomic (.qname ⟨some p, l, some uri⟩)]
      | none => .error (.of .FONS0004 ("no namespace bound to prefix '" ++ p ++ "'"))

def makeQName : FunctionBody := fun _ args => do
  let uri := (Arguments.text? args 0).filter (· != "")
  let lexical := Arguments.text args 1
  let (p, l) ← splitName lexical
  if p.isSome && uri.isNone then
    .error (.of .FOCA0002 ("prefixed QName '" ++ lexical ++ "' needs a namespace URI"))
  else return [.atomic (.qname ⟨p, l, uri⟩)]

def name? (args : List Sequence) (i : Nat) : Option QName :=
  match Arguments.atomic? args i with
  | some (.qname q) => some q
  | _ => none

def prefixFromQName : FunctionBody := fun _ args =>
  .ok (atomicResult (((name? args 0).bind QName.pre?).map Atomic.string))

def localNameFromQName : FunctionBody := fun _ args =>
  .ok (atomicResult ((name? args 0).map fun q => .string q.localName))

def namespaceUriFromQName : FunctionBody := fun _ args =>
  .ok (atomicResult ((name? args 0).map fun q => .anyURI (q.namespaceUri.getD "")))

def namespaceUriForPrefix : FunctionBody := fun call args => do
  let scope := (← elementArgument call args 1).inScopeNamespaces
  return atomicResult ((scope.lookup (Arguments.text args 0)).map Atomic.anyURI)

def inScopePrefixes : FunctionBody := fun call args => do
  return (← elementArgument call args 0).inScopeNamespaces.map fun b => .string b.1

end Library

end XPath
