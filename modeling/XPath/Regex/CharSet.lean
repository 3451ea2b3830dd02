import XPath.Unicode.Case
import XPath.Unicode.Script

/-!
# Sets of characters

What a bracket expression or a class escape stands for: properties and ranges, combined by the
operations on sets. Without regard to case, a character is in a property or a range if one of its
case variants is; the operations apply after that.
-/

namespace XPath.Regex

open XPath.Text XPath.Unicode

inductive Property where
  | any | assigned | ascii | alphabetic | lowercase | uppercase | whiteSpace | cased | caseIgnorable
  | ideographic | hexDigit | asciiHexDigit | decimalDigit | word
  | category (members : List Category)
  | script (code : String)
  deriving DecidableEq, Repr, Inhabited

namespace Property

def isAsciiHex (c : Char) : Bool := (hexValue? c).isSome

def holds : Property → Char → Bool
  | any, _ => true
  | assigned, c => Unicode.category c != .Cn
  | ascii, c => c.toNat < 0x80
  | alphabetic, c => isAlphabetic c
  | lowercase, c => isLowercase c
  | uppercase, c => isUppercase c
  | whiteSpace, c => isSpace c
  | cased, c => isCased c
  | caseIgnorable, c => isCaseIgnorable c
  | ideographic, c => Unicode.ideographic.contains c
  | hexDigit, c =>
    isAsciiHex c || ('\uFF10' ≤ c && c ≤ '\uFF19') || ('\uFF21' ≤ c && c ≤ '\uFF26') ||
      ('\uFF41' ≤ c && c ≤ '\uFF46')
  | asciiHexDigit, c => isAsciiHex c
  | decimalDigit, c => isDecimalDigit c
  | word, c => isWordChar c
  | category l, c => l.contains (Unicode.category c)
  | script s, c => Unicode.script c == s

/-! ### Names -/

/-- The form under which names are compared: lower case, without blanks, `_`, `-` and a leading
`is`. -/
def looseName (s : String) : String :=
  let plain := (s.toList.filter fun c => c.toNat < 0x80).map Char.toLower
  let strip := fun (l : List Char) => l.filter fun c => c != ' ' && c != '_' && c != '-'
  match plain with
  | 'i' :: 's' :: r =>
    match strip r with
    | ['c'] => "isc"
    | n => String.ofList n
  | l => String.ofList (strip l)

/-- The names of properties that are neither categories nor scripts. -/
def binaryNames : List (String × Property) :=
  [("alpha", alphabetic), ("alphabetic", alphabetic), ("lower", lowercase),
   ("lowercase", lowercase), ("upper", uppercase), ("uppercase", uppercase),
   ("wspace", whiteSpace), ("whitespace", whiteSpace), ("space", whiteSpace), ("cased", cased),
   ("ci", caseIgnorable), ("caseignorable", caseIgnorable), ("ideo", ideographic),
   ("ideographic", ideographic), ("hex", hexDigit), ("hexdigit", hexDigit),
   ("ahex", asciiHexDigit), ("asciihexdigit", asciiHexDigit)]

/-- The category, or group of categories, with a name. The category of surrogates holds no
characters and cannot be asked for. -/
def ofCategoryName? (name : String) : Option Property :=
  match name with
  | "any" => some any
  | "assigned" => some assigned
  | "ascii" => some ascii
  | _ =>
    let single := (Category.all.filter (· != .Cs)).find? fun c =>
      looseName c.names.1 == name || looseName c.names.2 == name
    match single with
    | some c => some (category [c])
    | none =>
      (Category.groups.find? fun g => g.1.any fun n =>
        looseName n == name || n == "C" && name == "isc").map fun g => category g.2

/-- Other codes of two scripts. -/
def scriptAliases : List (String × String) := [("qaac", "Copt"), ("qaai", "Zinh")]

def ofScriptName? (name : String) : Option Property :=
  let known := scriptNames.filter (·.1 != "Zzzz")
  match known.find? fun p => looseName p.1 == name || looseName p.2 == name with
  | some p => some (script p.1)
  | none => (scriptAliases.lookup name).map script

def ofName? (s : String) : Option Property :=
  let name := looseName s
  match binaryNames.lookup name with
  | some p => some p
  | none =>
    match ofCategoryName? name with
    | some p => some p
    | none => ofScriptName? name

/-- The property that a value of a named kind of property stands for. -/
def ofValue? (kind value : String) : Option Property :=
  match looseName kind with
  | "gc" | "generalcategory" => ofCategoryName? (looseName value)
  | "sc" | "script" | "scx" | "scriptextensions" => ofScriptName? (looseName value)
  | _ => none

end Property

inductive CharSet where
  | empty
  | range (first last : Char)
  | property (p : Property)
  | complement (s : CharSet)
  | union (s t : CharSet)
  | inter (s t : CharSet)
  | diff (s t : CharSet)
  | symmDiff (s t : CharSet)
  deriving DecidableEq, Repr, Inhabited

namespace CharSet

/-- A test of characters that, if case is to be ignored, is passed by all variants of a character
or by none. -/
def folded (ignoreCase : Bool) (test : Char → Bool) (c : Char) : Bool :=
  if ignoreCase then (caseVariants c).any test else test c

def contains (ignoreCase : Bool) : CharSet → Char → Bool
  | empty, _ => false
  | range a b, c => folded ignoreCase (fun x => a ≤ x && x ≤ b) c
  | property p, c => folded ignoreCase p.holds c
  | complement s, c => !s.contains ignoreCase c
  | union s t, c => s.contains ignoreCase c || t.contains ignoreCase c
  | inter s t, c => s.contains ignoreCase c && t.contains ignoreCase c
  | diff s t, c => s.contains ignoreCase c && !t.contains ignoreCase c
  | symmDiff s t, c => s.contains ignoreCase c != t.contains ignoreCase c

def single (c : Char) : CharSet := range c c

def negatedIf (negated : Bool) (s : CharSet) : CharSet := if negated then complement s else s

def ofRanges (l : List (Char × Char)) : CharSet :=
  l.foldr (fun p s => union (range p.1 p.2) s) empty

/-- The ASCII classes that a name between colons stands for. -/
def ofAsciiName? (name : String) : Option CharSet :=
  match name with
  | "alnum" => some (ofRanges [('0', '9'), ('A', 'Z'), ('a', 'z')])
  | "alpha" => some (ofRanges [('A', 'Z'), ('a', 'z')])
  | "ascii" => some (range '\x00' '\x7F')
  | "blank" => some (ofRanges [('\t', '\t'), (' ', ' ')])
  | "cntrl" => some (ofRanges [('\x00', '\x1F'), ('\x7F', '\x7F')])
  | "digit" => some (range '0' '9')
  | "graph" => some (range '!' '~')
  | "lower" => some (range 'a' 'z')
  | "print" => some (range ' ' '~')
  | "punct" => some (ofRanges [('!', '/'), (':', '@'), ('[', '\x60'), ('\x7B', '~')])
  | "space" => some (ofRanges [('\t', '\r'), (' ', ' ')])
  | "upper" => some (range 'A' 'Z')
  | "word" => some (ofRanges [('0', '9'), ('A', 'Z'), ('_', '_'), ('a', 'z')])
  | "xdigit" => some (ofRanges [('0', '9'), ('A', 'F'), ('a', 'f')])
  | _ => none

/-- The set that a class escape with the given text after its letter stands for: a name, or a kind
of property and a value with `=`, `:` or `!=` between them. -/
def ofPropertyText? (s : List Char) : Option CharSet :=
  let text := String.ofList
  let pair (negated : Bool) (kind value : List Char) : Option CharSet :=
    (Property.ofValue? (text kind) (text value)).map fun p => negatedIf negated (property p)
  match splitFirst? '!' s with
  | some (k, '=' :: v) => pair true k v
  | _ =>
    match splitFirst? ':' s with
    | some (k, v) => pair false k v
    | none =>
      match splitFirst? '=' s with
      | some (k, v) => pair false k v
      | none => (Property.ofName? (text s)).map property

end CharSet

end XPath.Regex
