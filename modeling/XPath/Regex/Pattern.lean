import XPath.Regex.CharSet

/-!
# Patterns

The trees that regular expressions are read into.
-/

namespace XPath.Regex

open XPath.Text XPath.Unicode

/-- A condition on a place in a text. -/
inductive Anchor where
  | textStart | textEnd
  /-- The end of the text, or before newlines that end it. -/
  | lastLineEnd
  | lineStart | lineEnd | wordBoundary | notWordBoundary | wordStart | wordEnd
  deriving DecidableEq, Repr, Inhabited

namespace Anchor

def isWordAt (text : Array Char) (i : Nat) : Bool := text[i]?.any isWordChar

def isWordBefore (text : Array Char) (i : Nat) : Bool := 0 < i && isWordAt text (i - 1)

/-- Whether the condition holds before the character with index `i`. -/
def holds (a : Anchor) (text : Array Char) (i : Nat) : Bool :=
  match a with
  | textStart => i == 0
  | textEnd => i == text.size
  | lastLineEnd => (text.toList.drop i).all (· == '\n')
  | lineStart => i == 0 || text[i - 1]? == some '\n'
  | lineEnd => i == text.size || text[i]? == some '\n'
  | wordBoundary => isWordBefore text i != isWordAt text i
  | notWordBoundary => isWordBefore text i == isWordAt text i
  | wordStart => !isWordBefore text i && isWordAt text i
  | wordEnd => isWordBefore text i && !isWordAt text i

def looksAtWords : Anchor → Bool
  | wordBoundary | notWordBoundary | wordStart | wordEnd => true
  | _ => false

end Anchor

inductive Pattern where
  | empty
  | char (c : Char) (ignoreCase : Bool)
  | any (newline : Bool)
  | set (s : CharSet) (ignoreCase : Bool)
  | anchor (a : Anchor)
  | seq (p q : Pattern)
  | alt (p q : Pattern)
  | loop (p : Pattern) (least : Nat) (most : Option Nat) (greedy : Bool)
  | group (index : Nat) (p : Pattern)
  | backref (index : Nat) (ignoreCase : Bool)
  | ahead (negated : Bool) (p : Pattern)
  | behind (negated : Bool) (length : Nat) (p : Pattern)
  | atomic (p : Pattern)
  /-- Lets the match begin here. -/
  | keep
  /-- Holds where the search began. -/
  | searchStart
  /-- Holds if a group has been matched. -/
  | matched (index : Nat)
  /-- `p` behind the condition if that matches, otherwise `q` in its place. -/
  | conditional (condition p q : Pattern)
  deriving Repr, Inhabited

namespace Pattern

/-- The number of characters of all texts that the pattern matches, if it is one number for all. -/
def length? : Pattern → Option Nat
  | empty | anchor _ | ahead _ _ | behind _ _ _ | keep | searchStart | matched _ => some 0
  | char _ _ | any _ | set _ _ => some 1
  | seq p q => do return (← p.length?) + (← q.length?)
  | alt p q => do
    let n ← p.length?
    if (← q.length?) == n then return n else none
  | loop p least most _ => if most == some least then p.length?.map (· * least) else none
  | group _ p | atomic p => p.length?
  | conditional c p q => do
    let n ← q.length?
    if (← c.length?) + (← p.length?) == n then return n else none
  | backref _ _ => none

/-- Whether what may follow depends on what groups hold. -/
def refersBack : Pattern → Bool
  | backref _ _ | matched _ => true
  | seq p q | alt p q => p.refersBack || q.refersBack
  | conditional c p q => c.refersBack || p.refersBack || q.refersBack
  | loop p _ _ _ | group _ p | ahead _ p | behind _ _ p | atomic p => p.refersBack
  | _ => false

/-- Whether the pattern does no more than to describe a regular set of texts. -/
def isRegular : Pattern → Bool
  | anchor a => !a.looksAtWords && a != .lastLineEnd
  | seq p q | alt p q => p.isRegular && q.isRegular
  | loop p _ _ _ | group _ p => p.isRegular
  | backref _ _ | ahead _ _ | behind _ _ _ | atomic _ => false
  | keep | searchStart | matched _ | conditional _ _ _ => false
  | _ => true

/-- Whether no loop asks for more repetitions than it allows. -/
def hasSaneLoops : Pattern → Bool
  | seq p q | alt p q => p.hasSaneLoops && q.hasSaneLoops
  | conditional c p q => c.hasSaneLoops && p.hasSaneLoops && q.hasSaneLoops
  | loop p least most _ => most.all (least ≤ ·) && p.hasSaneLoops
  | group _ p | ahead _ p | behind _ _ p | atomic p => p.hasSaneLoops
  | _ => true

end Pattern

end XPath.Regex
