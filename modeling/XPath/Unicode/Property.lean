import XPath.Unicode.Category
import XPath.Unicode.PropertyTable

/-!
# Properties of characters

What counts as alphabetic, numeric, cased or part of a word is derived from the general category,
with a short list of other characters for each property.
-/

namespace XPath.Unicode

open XPath.Text

def readLengths (lines : List String) : RunTable Bool :=
  .ofLengths ((tableWords lines).map digitsValue)

def otherAlphabetic : RunTable Bool := readLengths otherAlphabeticRuns

def otherLowercase : RunTable Bool := readLengths otherLowercaseRuns

def otherUppercase : RunTable Bool := readLengths otherUppercaseRuns

def otherCaseIgnorable : RunTable Bool := readLengths otherCaseIgnorableRuns

def ideographic : RunTable Bool := readLengths ideographicRuns

/-- Letters, letter numbers, and marks that act as letters. -/
def isAlphabetic (c : Char) : Bool :=
  match category c with
  | .Lu | .Ll | .Lt | .Lm | .Lo | .Nl => true
  | _ => otherAlphabetic.contains c

/-- Decimal digits, letter numbers and other numbers. -/
def isNumeric (c : Char) : Bool :=
  match category c with
  | .Nd | .Nl | .No => true
  | _ => false

def isAlphanumeric (c : Char) : Bool := isAlphabetic c || isNumeric c

def isLowercase (c : Char) : Bool := category c == .Ll || otherLowercase.contains c

def isUppercase (c : Char) : Bool := category c == .Lu || otherUppercase.contains c

/-- Characters that are lowercase, uppercase or titlecase. -/
def isCased (c : Char) : Bool := isLowercase c || isUppercase c || category c == .Lt

/-- Characters that do not end a word when its case is looked at. -/
def isCaseIgnorable (c : Char) : Bool :=
  match category c with
  | .Mn | .Me | .Cf | .Lm | .Sk => true
  | _ => otherCaseIgnorable.contains c

def isDecimalDigit (c : Char) : Bool := category c == .Nd

/-- The characters of words: alphabetic ones, marks, digits, connectors and joiners. -/
def isWordChar (c : Char) : Bool :=
  isAlphabetic c ||
    match category c with
    | .Mn | .Mc | .Me | .Nd | .Pc => true
    | _ => c == '\u200C' || c == '\u200D'

end XPath.Unicode
