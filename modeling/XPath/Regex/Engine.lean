import XPath.Regex.Reader

/-!
# Engines

The functions with regular expressions leave matching to an engine. It compiles a pattern, and what
it gives is asked for the matches in texts. All of that may fail with a message: a pattern may be
malformed, and a search may be given up. The backtracking matcher is one engine, which never gives
up.
-/

namespace XPath

/-- A compiled regular expression. A search goes from left to right and ends with its first
failure. -/
structure CompiledRegex where
  /-- The number of groups, the whole match among them. -/
  groupCount : Nat
  isMatch : String → Except String Bool
  /-- The spans of the matches. -/
  spans : String → List (Except String Regex.Span)
  /-- The matches with what their groups hold. -/
  captures : String → List (Except String Regex.Match)

/-- What compiles regular expressions. -/
structure RegexEngine where
  compile : Regex.Flags → String → Except String CompiledRegex

def Regex.compiled (r : Regex) : CompiledRegex where
  groupCount := r.groupCount + 1
  isMatch text := .ok (r.occursIn text.toList.toArray)
  spans text := (r.findAll text.toList.toArray).map fun m => .ok m.span
  captures text := (r.findAll text.toList.toArray).map .ok

namespace RegexEngine

/-- The engine that matches by backtracking. -/
def backtracking : RegexEngine where
  compile flags pattern :=
    match Regex.ofText? flags pattern with
    | some r => .ok r.compiled
    | none => .error pattern

end RegexEngine

end XPath
