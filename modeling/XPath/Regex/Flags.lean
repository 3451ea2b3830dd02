import XPath.Regex.Pattern

/-!
# Flags

Flags change how a pattern is read. They are given apart from the pattern, and groups of the
pattern can change them.
-/

namespace XPath.Regex

structure Flags where
  ignoreCase : Bool := false
  /-- `^` and `$` hold at the ends of lines. -/
  multiLine : Bool := false
  /-- The dot matches newlines. -/
  dotAll : Bool := false
  /-- White space and comments in a pattern have no meaning. -/
  freeSpacing : Bool := false
  /-- Loops are lazy unless marked. -/
  lazyLoops : Bool := false
  deriving DecidableEq, Repr, Inhabited

namespace Flags

/-- Sets the flag that a letter stands for. -/
def set? (f : Flags) (c : Char) (on : Bool) : Option Flags :=
  match c with
  | 'i' => some { f with ignoreCase := on }
  | 'm' => some { f with multiLine := on }
  | 's' => some { f with dotAll := on }
  | 'x' => some { f with freeSpacing := on }
  | 'U' => some { f with lazyLoops := on }
  | _ => none

end Flags

namespace Pattern

/-- A regular pattern is read under its outer flags throughout: a group of it can set a flag but
not clear it, and white space is dropped even where it is quoted. -/
def underFlags (f : Flags) : Pattern → Pattern
  | char c ignoreCase =>
    if f.freeSpacing && Text.isSpace c then empty else char c (ignoreCase || f.ignoreCase)
  | any newline => any (newline || f.dotAll)
  | set s ignoreCase => set s (ignoreCase || f.ignoreCase)
  | anchor .textStart => anchor (if f.multiLine then .lineStart else .textStart)
  | anchor .textEnd => anchor (if f.multiLine then .lineEnd else .textEnd)
  | seq p q => seq (p.underFlags f) (q.underFlags f)
  | alt p q => alt (p.underFlags f) (q.underFlags f)
  | loop p least most greedy => loop (p.underFlags f) least most greedy
  | group n p => group n (p.underFlags f)
  | p => p

end Pattern

end XPath.Regex
