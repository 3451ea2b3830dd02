import XPath.Uri.Host

/-!
# URIs

A URI has a scheme, perhaps an authority, a path, and perhaps a query and a fragment. All parts are
kept as they are written: escaped, and in one spelling of several that mean the same.
-/

namespace XPath

namespace Uri

/-- Who is asked for a resource. -/
structure Authority where
  user : String
  password : String
  host : String
  port : Option Nat
  deriving DecidableEq, Repr, Inhabited

namespace Authority

def ofHost (host : String) : Authority := ⟨"", "", host, none⟩

def text (a : Authority) : String :=
  let user := a.user ++ (if a.password == "" then "" else ":" ++ a.password)
  (if user == "" then "" else user ++ "@") ++ a.host ++
    (match a.port with
      | some n => ":" ++ toString n
      | none => "")

end Authority

/-- A path is a list of segments, unless it is a text of its own that does not start with a
slash. -/
inductive Path where
  | rootless (text : String)
  | segments (l : List String)
  deriving DecidableEq, Repr, Inhabited

namespace Path

def text : Path → String
  | rootless t => t
  | segments l => String.join (l.map ("/" ++ ·))

def list : Path → List String
  | rootless _ => []
  | segments l => l

end Path

/-- What the rules for a scheme depend on. -/
inductive SchemeKind where
  | plain
  /-- A scheme with hosts and a usual port. -/
  | network (port : Nat)
  | file
  deriving DecidableEq, Repr, Inhabited

namespace SchemeKind

def of (scheme : String) : SchemeKind :=
  match scheme with
  | "http" | "ws" => network 80
  | "https" | "wss" => network 443
  | "ftp" => network 21
  | "file" => file
  | _ => plain

def isSpecial (k : SchemeKind) : Bool := k != plain

/-- The port that need not be written. -/
def defaultPort? : SchemeKind → Option Nat
  | network n => some n
  | _ => none

/-- Whether a character separates the segments of a path. -/
def isSlash (k : SchemeKind) (c : Char) : Bool := c == '/' || (k.isSpecial && c == '\\')

end SchemeKind

end Uri

structure Uri where
  scheme : String
  authority : Option Uri.Authority
  path : Uri.Path
  query : Option String
  fragment : Option String
  deriving DecidableEq, Repr, Inhabited

namespace Uri

/-- The text of a URI. Where there is no authority, the path is kept from being taken for one. -/
def text (u : Uri) : String :=
  let path := u.path.text
  u.scheme ++ ":" ++
    (match u.authority with
      | some a => "//" ++ a.text
      | none => if path.startsWith "//" then "/." else "") ++
    path ++ (u.query.map ("?" ++ ·)).getD "" ++ (u.fragment.map ("#" ++ ·)).getD ""

/-- Whether relative references can be resolved against the URI. -/
def isBase (u : Uri) : Bool :=
  match u.path with
  | .rootless _ => false
  | .segments _ => true

end Uri

end XPath
