import XPath.Function.Call
import XPath.Uri.Read

/-!
# Functions with URIs

Resolving references, and retrieving what a URI stands for.
-/

namespace XPath

namespace Error

def noBaseUri (reference : String) : Error :=
  .of .FONS0005 ("no base URI to resolve '" ++ reference ++ "'")

def unresolvable (reference base : String) : Error :=
  .of .FORG0009 ("cannot resolve '" ++ reference ++ "' against '" ++ base ++ "'")

def invalidUri (code : ErrorCode) (uri : String) (cause : Error) : Error :=
  .of code ("invalid URI '" ++ uri ++ "': " ++ cause.message)

end Error

/-- The URI that a reference stands for. One that is absolute does not need the base. -/
def Uri.resolve (reference : String) (base? : Option String) : Result String :=
  match Uri.read? none reference with
  | some u => .ok u.text
  | none =>
    match base? with
    | none => .error (.noBaseUri reference)
    | some base =>
      match (Uri.read? none base).bind fun b => Uri.read? (some b) reference with
      | some u => .ok u.text
      | none => .error (.unresolvable reference base)

namespace Library

def resolvedUri : FunctionBody := fun call args =>
  match Arguments.text? args 0 with
  | none => .ok []
  | some reference =>
    let base? := if 1 < args.length then Arguments.text? args 1 else call.static.baseUri
    return [.atomic (.anyURI (← Uri.resolve reference base?))]

/-- The absolute form of an argument, which may be relative to the base of the static context. -/
def absoluteUri (call : Call) (code : ErrorCode) (uri : String) : Result String :=
  (Uri.resolve uri call.static.baseUri).mapError (.invalidUri code uri)

def documentAt : FunctionBody := fun call args => do
  match Arguments.text? args 0 with
  | none => return []
  | some uri => return [.node (← call.dynamic.document (← absoluteUri call .FODC0005 uri))]

/-- A document that cannot be retrieved is not available, but a malformed URI is an error. -/
def documentAvailable : FunctionBody := fun call args => do
  match Arguments.text? args 0 with
  | none => return [.boolean false]
  | some uri =>
    let resolved ← absoluteUri call .FODC0005 uri
    return [.boolean (call.dynamic.document resolved).isOk]

def collectionAt : FunctionBody := fun call args => do
  let uri? ← (Arguments.text? args 0).mapM (absoluteUri call .FODC0004)
  return (← call.dynamic.collection uri?).map Item.node

end Library

end XPath
