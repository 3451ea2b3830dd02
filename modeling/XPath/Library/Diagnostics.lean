import XPath.Function.Call

/-!
# Errors, tracing and the focus
-/

namespace XPath.Library

/-- Fails with the error that the arguments describe: its code, its message, and items that are
shown behind the message. -/
def raise : FunctionBody := fun _ args =>
  let code := match Arguments.atomic? args 0 with
    | some (.qname q) => q.expanded
    | _ => ErrorCode.FOER0000.name
  let message := if args.length ≤ 1 then "error raised by fn:error" else Arguments.text args 1
  let shown := (Arguments.get args 2).map Item.text
  .error ⟨code, if shown.isEmpty then message
    else message ++ " [" ++ ", ".intercalate shown ++ "]"⟩

def traced : FunctionBody := fun _ args => .ok (Arguments.get args 0)

def focusPosition : FunctionBody := fun call _ => do
  return [.integer (← call.focusOrError).position]

def focusLast : FunctionBody := fun call _ => do
  return [.integer (← call.focusOrError).last]

def defaultCollation : FunctionBody := fun call _ => .ok [.string call.collation.uri]

def staticBaseUri : FunctionBody := fun call _ =>
  .ok (call.static.baseUri.map fun u => Item.atomic (.anyURI u)).toList

end XPath.Library
