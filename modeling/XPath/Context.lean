import XPath.Collation
import XPath.Function.Signature
import XPath.Regex.Provider

/-!
# Contexts

The static context is what an expression is bound to: namespaces, variables and signatures. The
dynamic context is what a bound expression is evaluated in: the context item, the values of
variables, what the host supplies, and the current time.
-/

namespace XPath

def Error.unboundPrefix (p : String) : Error :=
  .of .XPST0081 ("namespace prefix '" ++ p ++ "' is not bound")

def Error.undeclaredVariable (name : ExpandedName) : Error :=
  .of .XPST0008 ("variable $" ++ name.display ++ " is not declared")

/-- A type is not known, or cannot stand in its place. -/
def Error.unknownType (q : QName) : Error :=
  .of .XPST0051 ("unknown atomic type " ++ q.lexical)

/-- The context in which names are bound. -/
structure StaticContext where
  baseUri : Option String
  /-- The namespace of function names without prefix. -/
  functionNamespace : Option String
  namespaces : Namespaces
  defaultCollation : Option String
  variableTypes : List (ExpandedName × SequenceType)
  signatures : Signatures
  deriving Inhabited

namespace StaticContext

/-- The context with the usual prefixes, the code point collation and no variables. -/
def initial (signatures : Signatures) : StaticContext where
  baseUri := none
  functionNamespace := some Namespace.functions
  namespaces :=
    { bindings :=
        [("xml", Namespace.xml), ("xs", Namespace.schema), ("fn", Namespace.functions),
         ("err", Namespace.errors)]
      defaultElement := none }
  defaultCollation := some Collation.codepoint.uri
  variableTypes := []
  signatures := signatures

/-- Binds a prefix, other than `xml`. -/
def bindPrefix (c : StaticContext) (p uri : String) : StaticContext :=
  { c with namespaces := c.namespaces.bind p uri }

/-- Declares a variable; an earlier declaration of the name is dropped. -/
def declare (c : StaticContext) (name : ExpandedName) (type : SequenceType) : StaticContext :=
  { c with variableTypes := c.variableTypes.filter (·.1 != name) ++ [(name, type)] }

def variableType? (c : StaticContext) (name : ExpandedName) : Option SequenceType :=
  c.variableTypes.lookup name

end StaticContext

/-- Where documents and collections come from. The collection without URI is the default one. -/
structure Documents where
  document : String → Result (Option Node) := fun _ => .ok none
  collection : Option String → Result (Option (List Node)) := fun _ => .ok none
  deriving Inhabited

/-- The documents and collections of two lists; a document may fail. Of two entries for one URI
the first counts. -/
def Documents.ofLists (documents : List (String × Result Node))
    (collections : List (Option String × List Node)) : Documents where
  document uri := (documents.lookup uri).mapM id
  collection uri := .ok (collections.lookup uri)

/-- The context in which expressions are evaluated. -/
structure DynamicContext where
  contextItem : Option Item
  variableValues : List (ExpandedName × Sequence)
  defaultCollation : Option String
  collations : Collations := .builtIn
  documents : Documents
  regex : RegexProvider := RegexEngine.backtracking.provider
  /-- The current time, in the implicit time zone. -/
  now : DateTime
  timeZone : TimeZone

namespace DynamicContext

/-- The context without context item, variables and documents, and with nothing from a host. -/
def initial (now : DateTime) (timeZone : TimeZone) : DynamicContext where
  contextItem := none
  variableValues := []
  defaultCollation := none
  documents := {}
  now := now
  timeZone := timeZone

def value? (c : DynamicContext) (name : ExpandedName) : Option Sequence :=
  c.variableValues.lookup name

def setVariable (c : DynamicContext) (name : ExpandedName) (value : Sequence) : DynamicContext :=
  { c with variableValues := c.variableValues.filter (·.1 != name) ++ [(name, value)] }

def document (c : DynamicContext) (uri : String) : Result Node := do
  match ← c.documents.document uri with
  | some n => return n
  | none => .error (.of .FODC0002 ("document not available: " ++ uri))

def collection (c : DynamicContext) (uri : Option String) : Result (List Node) := do
  match ← c.documents.collection uri with
  | some nodes => return nodes
  | none => .error (.of .FODC0002 ("collection not available: " ++ uri.getD "(default)"))

end DynamicContext

/-- The item that an expression is evaluated for, its place among the items of its sequence, and
their number. -/
structure Focus where
  item : Item
  position : Nat
  last : Nat
  deriving Inhabited

/-- The context item is asked for, and there is none. -/
def Error.noContextItem : Error := .of .XPDY0002 "context item is undefined"

end XPath
