import XPath.Error
import XPath.Regex.Engine
import XPath.Regex.Replacement

/-!
# Providers

A host can supply the three operations with regular expressions. The provider that is there
otherwise has them from an engine: it reads the flags and the template of a replacement, refuses
patterns that match the empty text, and cuts the text at the matches.
-/

namespace XPath

open XPath.Regex

namespace Error

def unsupportedFlag (c : Char) : Error :=
  .of .FORX0001 ("unsupported regex flag: " ++ String.singleton c)

def ofEngine (message : String) : Error :=
  .of .FORX0002 ("invalid regular expression: " ++ message)

/-- A pattern matches the empty text, which a function does not admit. -/
def matchesEmpty (function : String) : Error :=
  .of .FORX0003 ("pattern matches zero-length string in fn:" ++ function)

def malformedReplacement (s : String) : Error :=
  .of .FORX0004 ("invalid replacement string: '" ++ s ++ "'")

end Error

/-- The operations with regular expressions. -/
structure RegexProvider where
  isMatch (pattern flags text : String) : Result Bool
  replace (pattern flags text replacement : String) : Result String
  tokenize (pattern flags text : String) : Result (List String)

def Regex.Flags.read (letters : List Char) : Result Flags :=
  letters.foldlM (fun f c =>
    match if "imsx".toList.contains c then f.set? c true else none with
    | some f => .ok f
    | none => .error (.unsupportedFlag c)) {}

/-- Reads the template of a replacement, for a pattern with a number of groups. -/
def Regex.Template.read (groups : Nat) (s : String) : Result Template :=
  match Template.read? groups s.toList with
  | some t => .ok t
  | none => .error (.malformedReplacement s)

namespace CompiledRegex

/-- Fails if the empty text is matched, which a function does not admit. -/
def rejectEmptyMatch (r : CompiledRegex) (function : String) : Result Unit := do
  if ← (r.isMatch "").mapError .ofEngine then .error (.matchesEmpty function)

def replace (r : CompiledRegex) (template : Template) (text : String) : Result String := do
  let matched ← (r.captures text).mapM (·.mapError .ofEngine)
  return String.ofList (spliceFrom text.toList (template.expand text.toList) 0 matched)

def split (r : CompiledRegex) (text : String) : Result (List String) := do
  let spans ← (r.spans text).mapM (·.mapError .ofEngine)
  return (splitFrom text.toList 0 spans).map String.ofList

end CompiledRegex

namespace RegexEngine

variable (engine : RegexEngine)

def build (pattern flags : String) : Result CompiledRegex := do
  (engine.compile (← Flags.read flags.toList) pattern).mapError .ofEngine

/-- The provider with the matches of an engine. The empty text has no pieces. -/
def provider : RegexProvider where
  isMatch pattern flags text := do
    ((← engine.build pattern flags).isMatch text).mapError .ofEngine
  replace pattern flags text replacement := do
    let r ← engine.build pattern flags
    r.rejectEmptyMatch "replace"
    r.replace (← Template.read (r.groupCount - 1) replacement) text
  tokenize pattern flags text := do
    let r ← engine.build pattern flags
    r.rejectEmptyMatch "tokenize"
    if text.isEmpty then return []
    r.split text

end RegexEngine

end XPath
