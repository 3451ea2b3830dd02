import XPath.Uri.Basic

/-!
# Reading and resolving URIs

A reference is read with or without a base. It may leave out parts from the front, which then come
from the base; paths are cleared of dots.
-/

namespace XPath.Uri

open XPath.Text

/-! ## Escapes -/

def keepsInFragment (c : Char) : Bool :=
  0x20 < c.toNat && c.toNat < 0x7F && !(c == '"' || c == '<' || c == '>' || c == '\x60')

def keepsInPath (c : Char) : Bool :=
  keepsInFragment c && !(c == '#' || c == '?' || c == '\x7b' || c == '\x7d')

def keepsInUser (c : Char) : Bool := keepsInPath c && !"/:;=@[\\]^|".toList.contains c

def keepsInQuery (special : Bool) (c : Char) : Bool :=
  0x20 < c.toNat && c.toNat < 0x7F &&
    !(c == '"' || c == '#' || c == '<' || c == '>' || (special && c == '\''))

def escaped (keep : Char → Bool) (s : List Char) : String := escape keep (String.ofList s)

/-! ## Paths -/

/-- Whether a segment means the directory itself. -/
def isDot (s : String) : Bool := ["." , "%2e"].contains (s.map Char.toLower)

def isDoubleDot (s : String) : Bool :=
  ["..", ".%2e", "%2e.", "%2e%2e"].contains (s.map Char.toLower)

/-- A letter and a colon or a bar. -/
def isDrive (s : List Char) : Bool :=
  match s with
  | [a, b] => a.isAlpha && (b == ':' || b == '|')
  | _ => false

def isNormalDrive (s : String) : Bool := isDrive s.toList && s.endsWith ":"

/-- The path without its last segment. A drive is not taken away. -/
def shorten (k : SchemeKind) (l : List String) : List String :=
  match k, l with
  | .file, [s] => if isNormalDrive s then l else []
  | _, _ => l.dropLast

/-- Goes on with a segment; `last` says that no slash follows it. -/
def addSegment (k : SchemeKind) (l : List String) (s : List Char) (last : Bool) : List String :=
  let t := escaped keepsInPath s
  if isDoubleDot t then shorten k l ++ (if last then [""] else [])
  else if isDot t then l ++ (if last then [""] else [])
  else if k == .file && l.isEmpty && isDrive s then l ++ [String.ofList (s.take 1 ++ [':'])]
  else l ++ [t]

def addSegments (k : SchemeKind) (l : List String) : List (List Char) → List String
  | [] => l
  | [s] => addSegment k l s true
  | s :: r => addSegments k (addSegment k l s false) r

/-- The path that goes on from `l` with a text. No file path starts with an empty segment, unless
it has no other. -/
def readPath (k : SchemeKind) (l : List String) (s : List Char) : Path :=
  let segments := addSegments k l (pieces k.isSlash s)
  if k == .file then
    match segments.dropWhile (· == "") with
    | [] => .segments [""]
    | r => .segments r
  else .segments segments

def readRootedPath (k : SchemeKind) (s : List Char) : Path :=
  match s with
  | [] => if k.isSpecial then .segments [""] else .segments []
  | c :: r => if k.isSlash c then readPath k [] r else readPath k [] s

/-! ## Authorities -/

def readUser (s : List Char) : String × String :=
  match splitFirst? ':' s with
  | some (name, password) => (escaped keepsInUser name, escaped keepsInUser password)
  | none => (escaped keepsInUser s, "")

/-- What stands before and after the colon that ends a host. Colons in brackets do not. -/
def splitPort? : Bool → List Char → Option (List Char × List Char)
  | _, [] => none
  | inside, c :: r =>
    if c == ':' && !inside then some ([], r)
    else
      let inside := if c == '[' then true else if c == ']' then false else inside
      (splitPort? inside r).map fun p => (c :: p.1, p.2)

/-- Reads a port. An empty one and the usual one are left out. -/
def readPort? (k : SchemeKind) (s : List Char) : Option (Option Nat) :=
  if !s.all isDigit then none
  else if s.isEmpty then some none
  else
    let n := digitsValue s
    if 65535 < n then none
    else some (if k.defaultPort? == some n then none else some n)

/-- Reads an authority. A special scheme has to have a host, and so has a user or a port. -/
def readAuthority? (k : SchemeKind) (s : List Char) : Option Authority := do
  let (user, place) := match splitLast? '@' s with
    | some (u, p) => (readUser u, p)
    | none => (("", ""), s)
  let (hostText, portText) := (splitPort? false place).getD (place, [])
  let hasPort := (splitPort? false place).isSome
  let needsHost := k.isSpecial || hasPort || user != ("", "") || s.head? == some '@'
  if hostText.isEmpty && needsHost then none
  let host ← if hostText.isEmpty then some "" else host? k.isSpecial hostText
  return ⟨user.1, user.2, host, ← readPort? k portText⟩

/-! ## References -/

structure Reference where
  front : List Char
  query : Option (List Char)
  fragment : Option (List Char)

namespace Reference

/-- Cuts a reference. White space around it, and line breaks and tabs anywhere, do not count. -/
def ofText (s : String) : Reference :=
  let isBlank := fun (c : Char) => c.toNat ≤ 0x20
  let trimmed := ((s.toList.dropWhile isBlank).reverse.dropWhile isBlank).reverse
  let s := trimmed.filter fun c => !(c == '\t' || c == '\n' || c == '\r')
  let (s, fragment) := match splitFirst? '#' s with
    | some (a, b) => (a, some b)
    | none => (s, none)
  match splitFirst? '?' s with
  | some (a, b) => ⟨a, some b, fragment⟩
  | none => ⟨s, none, fragment⟩

def complete (r : Reference) (scheme : String) (authority : Option Authority) (path : Path) : Uri :=
  { scheme := scheme, authority := authority, path := path,
    query := r.query.map (escaped (keepsInQuery (SchemeKind.of scheme).isSpecial))
    fragment := r.fragment.map (escaped keepsInFragment) }

def scheme? (r : Reference) : Option (String × List Char) :=
  match r.front, splitFirst? ':' r.front with
  | c :: _, some (s, rest) =>
    if c.isAlpha && s.all fun c => c.isAlphanum || c == '+' || c == '-' || c == '.' then
      some (String.ofList (s.map Char.toLower), rest)
    else none
  | _, _ => none

def afterSlashes? (r : Reference) (scheme : String) (s : List Char) : Option Uri := do
  let k := SchemeKind.of scheme
  let place := s.takeWhile fun c => !k.isSlash c
  let a ← readAuthority? k place
  return r.complete scheme (some a) (readRootedPath k (s.dropWhile fun c => !k.isSlash c))

/-- The base with the query and the fragment of a reference that has nothing else. -/
def overBase (r : Reference) (base : Uri) : Uri :=
  let u := r.complete base.scheme base.authority base.path
  if r.query.isSome then u else { u with query := base.query }

def startsWithDrive (s : List Char) : Bool :=
  isDrive (s.take 2) &&
    match s.drop 2 with
    | [] => true
    | c :: _ => c == '/' || c == '\\'

def file? (r : Reference) (base? : Option Uri) (s : List Char) : Option Uri := do
  let k := SchemeKind.file
  let complete := fun (host : String) (p : Path) => r.complete "file" (some (.ofHost host)) p
  match s with
  | [] =>
    match base? with
    | some base => return r.overBase base
    | none => return complete "" (.segments [""])
  | c :: rest =>
    if !k.isSlash c then
      match base? with
      | some base =>
        if startsWithDrive s then return complete "" (readPath k [] s)
        else return r.complete "file" base.authority (readPath k (shorten k base.path.list) s)
      | none => return complete "" (readPath k [] s)
    else match rest with
      | d :: s =>
        if k.isSlash d then
          let hostText := s.takeWhile fun c => !k.isSlash c
          if isDrive hostText then return complete "" (readPath k [] s)
          let host ← if hostText.isEmpty then some "" else domainOrAddress? hostText
          let path := readRootedPath k (s.drop hostText.length)
          let isLocal := host == "localhost" || path.list.head?.any isNormalDrive
          let host := if isLocal then "" else host
          return complete host path
        else return oneSlash complete base? rest
      | [] => return oneSlash complete base? rest
where
  domainOrAddress? (s : List Char) : Option String := host? true s
  /-- Reads what follows a single slash: the host, or the drive, comes from the base. -/
  oneSlash (complete : String → Path → Uri) (base? : Option Uri) (s : List Char) : Uri :=
    let k := SchemeKind.file
    match base? with
    | none => complete "" (readPath k [] s)
    | some base =>
      let drive := (base.path.list.take 1).filter isNormalDrive
      if startsWithDrive s then complete "" (readPath k [] s)
      else if !drive.isEmpty then complete "" (readPath k drive s)
      else complete ((base.authority.map (·.host)).getD "") (readPath k [] s)

/-- Resolves a reference without scheme, or with the special scheme of the base. -/
def relative? (r : Reference) (base : Uri) (s : List Char) : Option Uri :=
  let k := SchemeKind.of base.scheme
  match s with
  | [] => some (r.overBase base)
  | c :: rest =>
    if k.isSlash c then
      match rest with
      | d :: rest' =>
        if k.isSlash d then
          r.afterSlashes? base.scheme
            (if c == '/' && d == '/' then rest' else rest'.dropWhile k.isSlash)
        else some (r.complete base.scheme base.authority (readPath k [] rest))
      | [] => some (r.complete base.scheme base.authority (readPath k [] rest))
    else some (r.complete base.scheme base.authority (readPath k (shorten k base.path.list) s))

end Reference

def read? (base? : Option Uri) (s : String) : Option Uri :=
  let r := Reference.ofText s
  match r.scheme?, base? with
  | some (scheme, rest), _ =>
    match SchemeKind.of scheme with
    | .file => r.file? (base?.filter (·.scheme == "file")) rest
    | .network _ =>
      let slashes := rest.takeWhile fun c => c == '/' || c == '\\'
      match base?.filter fun b => b.scheme == scheme && slashes.length < 2 with
      | some base => r.relative? base rest
      | none => r.afterSlashes? scheme (rest.drop slashes.length)
    | .plain =>
      match rest with
      | '/' :: '/' :: s => r.afterSlashes? scheme s
      | '/' :: s => some (r.complete scheme none (readPath .plain [] s))
      | s => some (r.complete scheme none (.rootless (escaped isHostChar s)))
  | none, none => none
  | none, some base =>
    if r.front.isEmpty && r.query.isNone && r.fragment.isSome then some (r.overBase base)
    else if !base.isBase then none
    else if base.scheme == "file" then r.file? (some base) r.front
    else r.relative? base r.front

end XPath.Uri
