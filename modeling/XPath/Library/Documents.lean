import XPath.Function.Call
import XPath.Tree.Axis

/-!
# Functions on documents

Looking for IDs and for references to IDs in a document, and retrieving documents and collections.
-/

namespace XPath

open XPath.Text

namespace Node

def documentRoot (n : Node) : Result Node :=
  if n.root.kind == .document then .ok n.root
  else .error (.of .FODC0001 "tree containing the reference node is not a document")

/-- The attributes of the node and of all below it, in document order. -/
def attributesBelow (n : Node) : List Node := n.descendantsOrSelf.flatMap (·.attributes)

def withId (n : Node) (ids : List (List Char)) : List Node :=
  (n.attributesBelow.filter fun a => a.isId && ids.contains (trim a.stringValue.toList)).filterMap
    (·.parent?)

/-- The attributes that refer to an ID among `ids`. -/
def withIdref (n : Node) (ids : List (List Char)) : List Node :=
  n.attributesBelow.filter fun a => a.isIdref && (words a.stringValue.toList).any ids.contains

end Node

namespace Library

def wordsArgument (args : List Sequence) (i : Nat) : List (List Char) :=
  (Arguments.get args i).flatMap fun item => words item.text.toList

/-- A function that looks for words in the document of a node. -/
def searchDocument (search : Node → List (List Char) → List Node) : FunctionBody := fun call args =>
  do
    match ← call.nodeArgument args 1 with
    | none => return []
    | some n =>
      let root ← n.documentRoot
      let wanted := wordsArgument args 0
      if wanted.isEmpty then return []
      return (← Node.sortDistinct (search root wanted)).map Item.node

def elementsWithId : FunctionBody := searchDocument Node.withId

def attributesWithIdref : FunctionBody := searchDocument Node.withIdref

end Library

end XPath
