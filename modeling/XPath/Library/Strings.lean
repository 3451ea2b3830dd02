import XPath.Collation.Search
import XPath.Function.Call
import XPath.Library.Window
import XPath.Text.Percent
import XPath.Unicode.Case
import XPath.Unicode.Normal

/-!
# Functions on strings
-/

namespace XPath

open XPath.Text

/-- Whether a number is the code point of a character that may stand in an XML document. -/
def isXmlChar (n : Int) : Bool :=
  n == 0x9 || n == 0xA || n == 0xD || (0x20 ≤ n && n ≤ 0xD7FF) || (0xE000 ≤ n && n ≤ 0xFFFD) ||
    (0x10000 ≤ n && n ≤ 0x10FFFF)

/-- Replaces each character of `source` by the one at the same place of `target`; characters that
have none there are dropped. -/
def translateChars (source target s : List Char) : List Char :=
  s.flatMap fun c =>
    match source.idxOf? c with
    | none => [c]
    | some i => target[i]?.toList

namespace Library

def textResult (s : List Char) : Sequence := [.string (String.ofList s)]

def charOf (i : Item) : Result Char :=
  match (i.atomic?.bind Atomic.integer64?).filter isXmlChar with
  | some n => .ok (Char.ofNat n.toNat)
  | none => .error (.of .FOCH0001 ("invalid XML character: " ++ i.text))

def codepointsToString : FunctionBody := fun _ args => do
  return textResult (← (Arguments.get args 0).mapM charOf)

def stringToCodepoints : FunctionBody := fun _ args =>
  .ok ((Arguments.text args 0).toList.map fun c => .integer c.toNat)

def orderSign : Ordering → Int
  | .lt => -1
  | .eq => 0
  | .gt => 1

def compareTexts : FunctionBody := fun call args => do
  let c ← call.collationArgument args 2
  match Arguments.text? args 0, Arguments.text? args 1 with
  | some s, some t => return [.integer (orderSign (c.compare s t))]
  | _, _ => return []

def codepointEqual : FunctionBody := fun _ args =>
  match Arguments.text? args 0, Arguments.text? args 1 with
  | some s, some t => .ok [.boolean (s == t)]
  | _, _ => .ok []

def concatenation : FunctionBody := fun _ args =>
  .ok [.string (String.join (args.map fun a => (a.head?.map Item.text).getD ""))]

def stringJoin : FunctionBody := fun _ args =>
  .ok [.string ((Arguments.text args 1).intercalate ((Arguments.get args 0).map Item.text))]

def windowArgument (args : List Sequence) : Window :=
  ⟨Arguments.double args 1, if args.length ≤ 2 then none else some (Arguments.double args 2)⟩

def substringOf : FunctionBody := fun _ args =>
  .ok (textResult ((windowArgument args).select (Arguments.text args 0).toList))

def stringLength : FunctionBody := fun call args => do
  return [.integer (← call.textArgument args 0).length]

def normalizeSpace : FunctionBody := fun call args => do
  let words := wordsBy isXmlSpace (← call.textArgument args 0).toList
  return [.string (" ".intercalate (words.map String.ofList))]

def normalizeUnicode : FunctionBody := fun _ args =>
  let s := Arguments.text args 0
  let name := match Arguments.text? args 1 with
    | some f => Unicode.upper (String.ofList (trim f.toList))
    | none => "NFC"
  if name == "" then .ok [.string s]
  else match Unicode.NormalForm.ofName? name with
    | some form => .ok [.string (form.normalize s)]
    | none => .error (.of .FOCH0003 ("unsupported normalization form: " ++ name))

/-- A function that maps a string to a string; an empty argument counts as the empty string. -/
def onText (f : String → String) : FunctionBody := fun _ args =>
  .ok [.string (f (Arguments.text args 0))]

def upperCase : FunctionBody := onText Unicode.upper

def lowerCase : FunctionBody := onText Unicode.lower

def translated : FunctionBody := fun _ args =>
  .ok (textResult (translateChars (Arguments.text args 1).toList (Arguments.text args 2).toList
    (Arguments.text args 0).toList))

def encodedForUri : FunctionBody := onText Text.encodeForUri

def iriAsUri : FunctionBody := onText Text.iriToUri

def htmlUriEscaped : FunctionBody := onText Text.escapeHtmlUri

/-- A function on the texts of two arguments under the collation that a third may name. -/
def underCollation (f : Collation → List Char → List Char → Sequence) : FunctionBody :=
  fun call args => do
    let c ← call.collationArgument args 2
    return f c (Arguments.text args 0).toList (Arguments.text args 1).toList

def containsText : FunctionBody :=
  underCollation fun c s t => [.boolean (t.isEmpty || c.occursIn t s)]

def startsWithText : FunctionBody :=
  underCollation fun c s t => [.boolean (t.isEmpty || c.startsWith s t)]

def endsWithText : FunctionBody :=
  underCollation fun c s t => [.boolean (t.isEmpty || c.endsWith s t)]

def substringBefore : FunctionBody :=
  underCollation fun c s t =>
    textResult (if t.isEmpty then [] else ((c.find? t s).map (·.1)).getD [])

def substringAfter : FunctionBody :=
  underCollation fun c s t =>
    textResult (if t.isEmpty then s else ((c.find? t s).map (·.2)).getD [])

end Library

end XPath
