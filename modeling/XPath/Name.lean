import XPath.Text.Space

/-!
# Names

A lexical name has a prefix and a local part; a static context gives it a namespace. Two names
are the same when their expanded forms are: the namespace and the local part.
-/

namespace XPath

/-! ## Well-known namespaces -/

namespace Namespace

/-- The namespace of the function library. -/
def functions : String := "http://www.w3.org/2005/xpath-functions"

/-- The namespace of the atomic types and their constructor functions. -/
def schema : String := "http://www.w3.org/2001/XMLSchema"

def errors : String := "http://www.w3.org/2005/xqt-errors"

/-- The namespace that the prefix `xml` is always bound to. -/
def xml : String := "http://www.w3.org/XML/1998/namespace"

/-- The namespace of the attributes that instance documents may carry. -/
def schemaInstance : String := "http://www.w3.org/2001/XMLSchema-instance"

end Namespace

/-- A namespace, if any, and a local name. -/
structure ExpandedName where
  namespaceUri : Option String
  localName : String
  deriving DecidableEq, Repr, Inhabited

namespace ExpandedName

def unqualified (l : String) : ExpandedName := ⟨none, l⟩

def function (l : String) : ExpandedName := ⟨some Namespace.functions, l⟩

def schema (l : String) : ExpandedName := ⟨some Namespace.schema, l⟩

/-- The name that `s` writes: a namespace in braces, if there is one, and the local name. -/
def ofBraced (s : String) : ExpandedName :=
  match s.toList with
  | '\x7b' :: r =>
    match Text.splitFirst? '\x7d' r with
    | some (uri, l) => ⟨some (String.ofList uri), String.ofList l⟩
    | none => unqualified s
  | _ => unqualified s

/-- The display form: two namespaces have their usual prefix, others are written out. -/
def display (n : ExpandedName) : String :=
  match n.namespaceUri with
  | none => n.localName
  | some u =>
    if u == Namespace.functions then "fn:" ++ n.localName
    else if u == Namespace.schema then "xs:" ++ n.localName
    else "Q\x7b" ++ u ++ "\x7d" ++ n.localName

end ExpandedName

/-- A name as it is written, with the namespace that it stands for once that is known. An absent
prefix and an empty one are written alike. -/
structure QName where
  pre : Option String
  localName : String
  namespaceUri : Option String
  deriving DecidableEq, Repr, Inhabited

namespace QName

def unqualified (l : String) : QName := ⟨none, l, none⟩

/-- The name that `s` writes: prefix and local part meet at the first colon. -/
def ofLexical (s : String) : QName :=
  match Text.splitFirst? ':' s.toList with
  | some (p, l) => ⟨some (String.ofList p), String.ofList l, none⟩
  | none => unqualified s

/-- The prefix, unless it is absent or empty. -/
def pre? (q : QName) : Option String :=
  q.pre.filter (· != "")

def lexical (q : QName) : String :=
  match q.pre? with
  | some p => p ++ ":" ++ q.localName
  | none => q.localName

def expanded (q : QName) : ExpandedName := ⟨q.namespaceUri, q.localName⟩

/-- Equality of local parts and of namespaces, where no namespace counts as the empty one. -/
def sameName (a b : QName) : Bool :=
  a.localName == b.localName && a.namespaceUri.getD "" == b.namespaceUri.getD ""

end QName

end XPath
