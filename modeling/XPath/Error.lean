import XPath.Name

/-!
# Errors

An error has a code, which is an expanded name, and a message. The codes that the library itself
raises are listed here with their family; a caller may raise others.
-/

namespace XPath

/-- The error codes that the library knows. `unknown` stands for any other. -/
inductive ErrorCode where
  | FOAR0001 | FOAR0002 | FOCA0001 | FOCA0002 | FOCA0005 | FOCH0001 | FOCH0002 | FOCH0003
  | FODC0001 | FODC0002 | FODC0004 | FODC0005 | FODT0001 | FODT0002 | FODT0003 | FOER0000
  | FONS0004 | FONS0005 | FORG0001 | FORG0003 | FORG0004 | FORG0005 | FORG0006 | FORG0008
  | FORG0009 | FORX0001 | FORX0002 | FORX0003 | FORX0004 | FOTY0012 | XPDY0002 | XPDY0050
  | XPST0003 | XPST0008 | XPST0017 | XPST0051 | XPST0081 | XPTY0004 | XPTY0018 | XPTY0019
  | XPTY0020 | unknown
  deriving DecidableEq, Repr, Inhabited

/-- The family of an error. Static errors are found while names are bound; type errors tell that a
value does not have the required type; all others are dynamic. -/
inductive ErrorKind where
  | static | type | dynamic
  deriving DecidableEq, Repr

namespace ErrorCode

def localName : ErrorCode → String
  | FOAR0001 => "FOAR0001" | FOAR0002 => "FOAR0002" | FOCA0001 => "FOCA0001"
  | FOCA0002 => "FOCA0002" | FOCA0005 => "FOCA0005" | FOCH0001 => "FOCH0001"
  | FOCH0002 => "FOCH0002" | FOCH0003 => "FOCH0003" | FODC0001 => "FODC0001"
  | FODC0002 => "FODC0002" | FODC0004 => "FODC0004" | FODC0005 => "FODC0005"
  | FODT0001 => "FODT0001" | FODT0002 => "FODT0002" | FODT0003 => "FODT0003"
  | FOER0000 => "FOER0000" | FONS0004 => "FONS0004" | FONS0005 => "FONS0005"
  | FORG0001 => "FORG0001" | FORG0003 => "FORG0003" | FORG0004 => "FORG0004"
  | FORG0005 => "FORG0005" | FORG0006 => "FORG0006" | FORG0008 => "FORG0008"
  | FORG0009 => "FORG0009" | FORX0001 => "FORX0001" | FORX0002 => "FORX0002"
  | FORX0003 => "FORX0003" | FORX0004 => "FORX0004" | FOTY0012 => "FOTY0012"
  | XPDY0002 => "XPDY0002" | XPDY0050 => "XPDY0050" | XPST0003 => "XPST0003"
  | XPST0008 => "XPST0008" | XPST0017 => "XPST0017" | XPST0051 => "XPST0051"
  | XPST0081 => "XPST0081" | XPTY0004 => "XPTY0004" | XPTY0018 => "XPTY0018"
  | XPTY0019 => "XPTY0019" | XPTY0020 => "XPTY0020" | unknown => "UNKNOWN"

def all : List ErrorCode :=
  [FOAR0001, FOAR0002, FOCA0001, FOCA0002, FOCA0005, FOCH0001, FOCH0002, FOCH0003, FODC0001,
   FODC0002, FODC0004, FODC0005, FODT0001, FODT0002, FODT0003, FOER0000, FONS0004, FONS0005,
   FORG0001, FORG0003, FORG0004, FORG0005, FORG0006, FORG0008, FORG0009, FORX0001, FORX0002,
   FORX0003, FORX0004, FOTY0012, XPDY0002, XPDY0050, XPST0003, XPST0008, XPST0017, XPST0051,
   XPST0081, XPTY0004, XPTY0018, XPTY0019, XPTY0020]

def ofLocalName (s : String) : ErrorCode :=
  (all.find? (·.localName == s)).getD unknown

/-- Reads `err:LOCAL` or a bare local name. -/
def ofText (s : String) : ErrorCode :=
  match Text.dropStart? "err:".toList s.toList with
  | some l => ofLocalName (String.ofList l)
  | none => ofLocalName s

def name (c : ErrorCode) : ExpandedName := ⟨some Namespace.errors, c.localName⟩

def kind : ErrorCode → ErrorKind
  | XPST0003 | XPST0008 | XPST0017 | XPST0051 | XPST0081 => .static
  | XPTY0004 | XPTY0018 | XPTY0019 | XPTY0020 => .type
  | _ => .dynamic

theorem ofLocalName_localName (c : ErrorCode) : ofLocalName c.localName = c := by
  cases c <;> rfl

theorem ofText_localName (c : ErrorCode) : ofText c.localName = c := by
  cases c <;> rfl

end ErrorCode

structure Error where
  code : ExpandedName
  message : String
  deriving DecidableEq, Repr, Inhabited

namespace Error

def of (c : ErrorCode) (message : String) : Error := ⟨c.name, message⟩

/-- The known code of the error, `unknown` for a code of another namespace. -/
def errorCode (e : Error) : ErrorCode :=
  if e.code.namespaceUri == some Namespace.errors then .ofText e.code.localName else .unknown

def kind (e : Error) : ErrorKind := e.errorCode.kind

def codeText (e : Error) : String :=
  match e.code.namespaceUri with
  | none => e.code.localName
  | some u =>
    if u == Namespace.errors then "err:" ++ e.code.localName
    else "Q\x7b" ++ u ++ "\x7d" ++ e.code.localName

def report (e : Error) : String := "error: " ++ e.message ++ " (" ++ e.codeText ++ ")"

def typeError (message : String) : Error := of .XPTY0004 message

/-- A text that is no lexical form of the type with the given name. -/
def invalidLexical (typeName lexical : String) : Error :=
  of .FORG0001 ("invalid lexical value for " ++ typeName ++ ": '" ++ lexical ++ "'")

theorem errorCode_of (c : ErrorCode) (m : String) : (of c m).errorCode = c := by
  simp [errorCode, of, ErrorCode.name, ErrorCode.ofText_localName]

theorem kind_of (c : ErrorCode) (m : String) : (of c m).kind = c.kind := by
  rw [kind, errorCode_of]

end Error

/-- A computation that may end in an error. -/
abbrev Result := Except Error

end XPath
