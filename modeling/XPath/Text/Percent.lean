import XPath.Text.Hex

/-!
# Percent escapes

A character that may not stand in a place is replaced by its UTF-8 bytes, each written as `%` and
two hexadecimal digits. What may stand is a parameter: there are three rules for URIs.
-/

namespace XPath.Text

def escapeByte (b : UInt8) : List Char := '%' :: hexPair b

/-- A character that may stand, or the escape of its bytes. -/
def escapeChar (keep : Char → Bool) (c : Char) : List Char :=
  if keep c then [c] else (String.utf8EncodeChar c).flatMap escapeByte

def escape (keep : Char → Bool) (s : String) : String :=
  String.ofList (s.toList.flatMap (escapeChar keep))

def isAsciiAlphanumeric (c : Char) : Bool :=
  ('a' ≤ c && c ≤ 'z') || ('A' ≤ c && c ≤ 'Z') || isDigit c

/-- The characters with no function in a URI. -/
def isUnreserved (c : Char) : Bool :=
  isAsciiAlphanumeric c || c == '-' || c == '_' || c == '.' || c == '~'

/-- The characters that may stand somewhere in a URI. -/
def isUriChar (c : Char) : Bool :=
  0x20 < c.toNat && c.toNat < 0x7F &&
    !(c == '<' || c == '>' || c == '"' || c == '\x7b' || c == '\x7d' || c == '|' || c == '\\' ||
      c == '^' || c == '\x60')

def isPrintable (c : Char) : Bool := 0x20 ≤ c.toNat && c.toNat ≤ 0x7E

def encodeForUri (s : String) : String := escape isUnreserved s

def iriToUri (s : String) : String := escape isUriChar s

def escapeHtmlUri (s : String) : String := escape isPrintable s

theorem escape_append (keep : Char → Bool) (s t : String) :
    escape keep (s ++ t) = escape keep s ++ escape keep t := by
  simp [escape]

end XPath.Text
