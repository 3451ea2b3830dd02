import XPath.NodeTest
import XPath.Sequence

/-!
# Sequence types

A sequence type says what items a sequence holds, and how many.
-/

namespace XPath

/-- How many items a sequence may have. -/
inductive Occurrence where
  | one | zeroOrOne | zeroOrMore | oneOrMore
  deriving DecidableEq, Repr, Inhabited

namespace Occurrence

def allows (o : Occurrence) (n : Nat) : Bool :=
  match o with
  | one => n == 1
  | zeroOrOne => n ≤ 1
  | zeroOrMore => true
  | oneOrMore => 1 ≤ n

def indicator : Occurrence → String
  | one => ""
  | zeroOrOne => "?"
  | zeroOrMore => "*"
  | oneOrMore => "+"

def ofIndicator? (s : String) : Option Occurrence :=
  [one, zeroOrOne, zeroOrMore, oneOrMore].find? (·.indicator == s)

end Occurrence

inductive ItemType where
  | item
  | node
  | kind (t : KindTest)
  | atomic (name : QName)
  deriving DecidableEq, Repr, Inhabited

inductive SequenceType where
  | empty
  | items (type : ItemType) (occurrence : Occurrence)
  deriving DecidableEq, Repr, Inhabited

/-- The target of a cast: an atomic type, and whether an empty sequence may be cast. -/
structure CastTarget where
  type : QName
  optional : Bool
  deriving DecidableEq, Repr, Inhabited

namespace ItemType

/-- Whether an item has the type. A type name that is not known has no items. -/
def hasItem (t : ItemType) (i : Item) : Bool :=
  match t, i with
  | item, _ => true
  | node, .node _ => true
  | kind k, .node n => n.passesKind k
  | atomic q, .atomic v => (AtomicType.ofName? q.expanded).any v.type.derivesFrom
  | _, _ => false

def display : ItemType → String
  | item => "item()"
  | node => "node()"
  | kind k => k.display
  | atomic q => ((AtomicType.ofName? q.expanded).map (·.display)).getD q.lexical

end ItemType

namespace SequenceType

def any : SequenceType := items .item .zeroOrMore

def hasSequence (t : SequenceType) (s : Sequence) : Bool :=
  match t with
  | empty => s.isEmpty
  | items type occurrence => occurrence.allows s.length && s.all type.hasItem

def display : SequenceType → String
  | empty => "empty-sequence()"
  | items type occurrence => type.display ++ occurrence.indicator

/-- A short description of a sequence by its length and its first item. -/
def describeSequence (s : Sequence) : String :=
  match s with
  | [] => "empty-sequence()"
  | i :: r =>
    let first := match i with
      | .atomic v => v.typeName
      | .node n => n.kind.display
    if r.isEmpty then first
    else "sequence of " ++ toString s.length ++ " items starting with " ++ first

def check (t : SequenceType) (s : Sequence) : Result Unit :=
  if t.hasSequence s then .ok ()
  else .error (.typeError ("expected " ++ t.display ++ ", got " ++ describeSequence s))

end SequenceType

end XPath
