import XPath.Number.Word
import XPath.Regex.Bracket
import XPath.Regex.Flags
import XPath.Regex.Match

/-!
# Reading regular expressions

A pattern is a choice of branches, a branch a sequence of pieces, a piece an atom that may be
repeated. The reader goes through the text once; the depth of its recursion is bounded by the
length of the text.
-/

namespace XPath

namespace Regex

open XPath.Text XPath.Unicode

structure ReadState where
  rest : List Char
  flags : Flags
  /-- The number of groups that have been opened. -/
  groups : Nat := 0
  names : List (String × Nat) := []
  /-- The groups that have not been closed. -/
  openGroups : List Nat := []
  /-- Whether a group has been referred to by its number. -/
  numbered : Bool := false
  /-- The size of the pattern, above half of which no group number lies. -/
  size : Nat
  freeSpacing : Bool
  deriving Inhabited

abbrev Reader := StateT ReadState Option

namespace Reader

def rest : Reader (List Char) := return (← get).rest

def goTo (s : List Char) : Reader Unit := modify fun st => { st with rest := s }

def accept (t : String) : Reader Bool := do
  match dropStart? t.toList (← rest) with
  | some r => goTo r; return true
  | none => return false

/-- What is skipped: blanks between tokens, the rest of a line, or a comment. -/
inductive Blank where
  | space | line | comment
  deriving DecidableEq, Repr

/-- The rest of a pattern after white space and comments. Comments in brackets are always skipped,
white space and comments to the end of a line only in free spacing. -/
def skipBlanks (free : Bool) : Blank → List Char → Option (List Char)
  | .space, '(' :: '?' :: '#' :: r => skipBlanks free .comment r
  | .space, [] => some []
  | .space, c :: r =>
    if free && c == '#' then skipBlanks free .line r
    else if free && isXmlSpace c then skipBlanks free .space r
    else some (c :: r)
  | .line, [] => some []
  | .line, c :: r => skipBlanks free (if c == '\n' then .space else .line) r
  | .comment, [] => none
  | .comment, '\\' :: _ :: r => skipBlanks free .comment r
  | .comment, c :: r => skipBlanks free (if c == ')' then .space else .comment) r

def blanks : Reader Unit := do
  let s ← get
  goTo (← skipBlanks s.flags.freeSpacing .space s.rest)

def close : Reader Unit := do
  if !(← accept ")") then failure

def number? : Reader (Option Nat) := do
  let s ← rest
  let digits := s.takeWhile isDigit
  if digits.isEmpty || 2 ^ 64 ≤ digitsValue digits then return none
  goTo (s.dropWhile isDigit)
  return some (digitsValue digits)

/-! ### Escapes -/

/-- Reads digits of a code point: a fixed number of them, or up to eight in braces. -/
def hexEscape (count : Nat) : Reader Char := do
  let s ← rest
  let isHex := fun (c : Char) => (hexValue? c).isSome
  let value := fun (digits : List Char) => digits.foldl (fun n c => 16 * n + (hexValue? c).getD 0) 0
  let (digits, r) ← show Option (List Char × List Char) from
    if (s.take count).length == count && (s.take count).all isHex then
      some (s.take count, s.drop count)
    else match s with
      | '\x7b' :: r =>
        match r.dropWhile isHex with
        | '\x7d' :: after =>
          let digits := r.takeWhile isHex
          if digits.isEmpty || 8 < digits.length then none else some (digits, after)
        | _ => none
      | _ => none
  goTo r
  let n := value digits
  if n < 0xD800 || (0xDFFF < n && n < 0x110000) then return Char.ofNat n else failure

def propertyEscape : Reader CharSet := do
  match ← rest with
  | [] => failure
  | '\x7b' :: r =>
    match splitFirst? '\x7d' r with
    | none => failure
    | some (name, after) =>
      goTo after
      CharSet.ofPropertyText? name
  | c :: r =>
    goTo r
    CharSet.ofPropertyText? [c]

inductive Escape where
  | char (c : Char)
  | set (s : CharSet)
  | other (p : Pattern)

def hexDigits : CharSet := .property .asciiHexDigit

/-- The set that the letter of a class escape stands for; a capital letter stands for the
complement. -/
def classEscape? (c : Char) : Option CharSet :=
  let positive : Option CharSet := match c.toLower with
    | 'd' => some (.property .decimalDigit)
    | 's' => some (.property .whiteSpace)
    | 'w' => some (.property .word)
    | 'h' => some hexDigits
    | _ => none
  positive.map (CharSet.negatedIf c.isUpper)

/-- The character that an escaped character stands for. Letters without a meaning are refused. -/
def charEscape? (c : Char) (inBracket : Bool) : Option Char :=
  match c with
  | 'a' => some '\x07'
  | 'f' => some '\x0c'
  | 'n' => some '\n'
  | 'r' => some '\r'
  | 't' => some '\t'
  | 'v' => some '\x0b'
  | 'e' => some '\x1b'
  | 'b' => if inBracket then some '\x08' else some c
  | _ => if c.isAlpha && !"kAzBKG".toList.contains c then none else some c

/-- A reference to a group. A group can be referred to once it has been opened. -/
def reference (n : Nat) : Reader Escape := do
  let s ← get
  if n ≤ s.groups then return .other (.backref n s.flags.ignoreCase) else failure

def isNameChar (c : Char) : Bool := c.isAlphanum || c == '_'

def name (mark : Char) : Reader String := do
  let s ← rest
  match s.takeWhile isNameChar, s.dropWhile isNameChar with
  | [], _ => failure
  | l, c :: r => if c == mark then goTo r; return String.ofList l else failure
  | _, [] => failure

/-- Reads a reference by name, by number, or by a number counted back from the last group. -/
def namedReference (mark : Char) : Reader Escape := do
  let back ← accept "-"
  let n ← name mark
  let s ← get
  match s.names.lookup n with
  | some i => if back then failure else reference i
  | none =>
    if !n.toList.all isDigit then failure
    let i := digitsValue n.toList
    if !back then reference i
    else if i == 0 || s.groups < i then failure
    else reference (s.groups + 1 - i)

def anchorEscape? (c : Char) : Option Pattern :=
  match c with
  | 'A' => some (.anchor .textStart)
  | 'z' => some (.anchor .textEnd)
  | 'Z' => some (.anchor .lastLineEnd)
  | 'b' => some (.anchor .wordBoundary)
  | 'B' => some (.anchor .notWordBoundary)
  | '<' => some (.anchor .wordStart)
  | '>' => some (.anchor .wordEnd)
  | 'O' => some (.any true)
  | 'K' => some .keep
  | 'G' => some .searchStart
  | _ => none

def escape (inBracket : Bool) : Reader Escape := do
  match ← rest with
  | [] => failure
  | c :: r =>
    if isDigit c then
      let n := digitsValue ((c :: r).takeWhile isDigit)
      if inBracket || (← get).size / 2 ≤ n then failure
      goTo (r.dropWhile isDigit)
      modify fun s => { s with numbered := true }
      reference n
    else
      goTo r
      match c with
      | 'x' => return .char (← hexEscape 2)
      | 'u' => return .char (← hexEscape 4)
      | 'U' => return .char (← hexEscape 8)
      | 'p' => return .set (← propertyEscape)
      | 'P' => return .set (.complement (← propertyEscape))
      | _ =>
        match classEscape? c with
        | some s => return .set s
        | none =>
          if inBracket then return .char (← charEscape? c true)
          else match anchorEscape? c with
            | some p => return .other p
            | none =>
              if c == 'k' then
                if ← accept "<" then namedReference '>'
                else if ← accept "'" then namedReference '\''
                else failure
              else return .char (← charEscape? c false)

/-! ### Brackets -/

/-- A quoted character of a bracket expression. White space is dropped in free spacing. -/
def quotedToken (free : Bool) (c : Char) : List BracketToken :=
  if free && isSpace c then []
  else if "\\.+*?()|[]\x7b\x7d^$#&-~".toList.contains c then [.quoted c]
  else [.plain c]

/-- Reads the pieces of a bracket expression up to the bracket that closes the outermost of the
`depth` open ones. -/
def bracketTokens : Nat → Nat → Reader (List BracketToken)
  | 0, _ => failure
  | fuel + 1, depth => do
    blanks
    match ← rest with
    | [] => failure
    | '\\' :: r =>
      goTo r
      let s ← get
      let tokens ← match ← escape true with
        | .char c => pure (quotedToken s.freeSpacing c)
        | .set set => pure [.set set]
        | .other _ => failure
      return tokens ++ (← bracketTokens fuel depth)
    | '[' :: r =>
      goTo r
      return .plain '[' :: (← bracketTokens fuel (depth + 1))
    | ']' :: r =>
      goTo r
      if depth == 0 then return [.plain ']']
      return .plain ']' :: (← bracketTokens fuel (depth - 1))
    | c :: r =>
      goTo r
      let s ← get
      let token : List BracketToken := if s.freeSpacing && isSpace c then [] else [.plain c]
      return token ++ (← bracketTokens fuel depth)

/-- Reads a bracket expression after its opening bracket. A closing bracket at its start stands for
itself. -/
def bracket : Reader Pattern := do
  let hat ← accept "^"
  let first ← accept "]"
  let start : List BracketToken :=
    (if hat then [.plain '^'] else []) ++ (if first then [.plain ']'] else [])
  let s ← get
  let tokens ← bracketTokens (s.rest.length + 1) 0
  return .set (← CharSet.ofBracket? (start ++ tokens)) s.flags.ignoreCase

/-! ### Pieces -/

/-- Reads the bounds of a loop after their opening brace: a number, or two with a comma between them
of which either may be left out. -/
def bounds : Reader (Nat × Option Nat) := do
  blanks
  let least ← number?
  if least.isNone && (← rest).head? != some ',' then failure
  blanks
  let most ← if ← accept "," then do
      blanks
      number?
    else pure least
  blanks
  if !(← accept "\x7d") then failure
  return (least.getD 0, most)

/-- Reads a loop's mark: the bounds it stands for. A brace that does not open bounds is no mark. -/
def loopMark? : Reader (Option (Nat × Option Nat)) := do
  match ← rest with
  | '?' :: r => goTo r; return some (0, some 1)
  | '*' :: r => goTo r; return some (0, none)
  | '+' :: r => goTo r; return some (1, none)
  | '\x7b' :: r =>
    let s ← get
    match bounds.run { s with rest := r } with
    | some (b, s) => set s; return some b
    | none => return none
  | _ => return none

def isRepeatable : Pattern → Bool
  | .empty | .anchor _ | .ahead _ _ | .behind _ _ _ => false
  | _ => true

/-- Reads the marks behind an atom: a loop, `?` if it is lazy, and `+` if it is never given up. -/
def marked (p : Pattern) : Reader Pattern := do
  blanks
  match ← loopMark? with
  | none => return p
  | some (least, most) =>
    if !isRepeatable p then failure
    blanks
    let isLazy ← accept "?"
    let s ← get
    let q : Pattern := .loop p least most (isLazy == s.flags.lazyLoops)
    return if ← accept "+" then .atomic q else q

/-! ### Groups -/

/-- A pattern that looks behind. What it looks for has one length, or is a choice of patterns that
have one each. -/
def lookBehind? (negated : Bool) : Pattern → Option Pattern
  | .alt p q =>
    match (Pattern.alt p q).length? with
    | some n => some (.behind negated n (.alt p q))
    | none => do
      let a ← lookBehind? negated p
      let b ← lookBehind? negated q
      return if negated then .seq a b else .alt a b
  | p => p.length?.map fun n => .behind negated n p

inductive GroupKind where
  | capture (index : Nat)
  | plain (outer : Flags)
  | ahead (negated : Bool)
  | behind (negated : Bool)
  | atomic
  | conditional
  /-- A whole token rather than the start of a group. -/
  | done (p : Pattern)

def openGroup (name : Option String) : Reader GroupKind := do
  let s ← get
  let n := s.groups + 1
  set { s with
    groups := n, openGroups := n :: s.openGroups,
    names := (name.map fun x => (x, n)).toList ++ s.names }
  return .capture n

/-- Reads flags after `(?`: those after `-` are cleared. They hold for a group after `:`, and from
there on after `)`. -/
def flagLetters (outer : Flags) : Nat → Bool → Bool → Reader GroupKind
  | 0, _, _ => failure
  | fuel + 1, negated, lettered => do
    blanks
    match ← rest with
    | [] => failure
    | ')' :: r =>
      if !lettered then failure
      goTo r
      return .done .empty
    | ':' :: r =>
      if negated && !lettered then failure
      goTo r
      return .plain outer
    | '-' :: r =>
      if negated then failure
      goTo r
      flagLetters outer fuel true lettered
    | 'u' :: r =>
      if negated then failure
      goTo r
      flagLetters outer fuel negated true
    | c :: r =>
      let s ← get
      let f ← s.flags.set? c !negated
      set { s with rest := r, flags := f }
      flagLetters outer fuel negated true

def groupKind : Reader GroupKind := do
  blanks
  if ← accept "?=" then return .ahead false
  else if ← accept "?!" then return .ahead true
  else if ← accept "?<=" then return .behind false
  else if ← accept "?<!" then return .behind true
  else if ← accept "?<" then openGroup (some (← name '>'))
  else if ← accept "?P<" then openGroup (some (← name '>'))
  else if ← accept "?P=" then
    match ← namedReference ')' with
    | .other p => return .done p
    | _ => failure
  else if ← accept "?>" then return .atomic
  else if ← accept "?(" then return .conditional
  else if ← accept "?" then
    let s ← get
    flagLetters s.flags (s.rest.length + 1) false false
  else openGroup none

def groupCondition? : Reader (Option Pattern) := do
  let fromEscape : Escape → Option Pattern
    | .other p => some p
    | _ => none
  if ← accept "<" then return fromEscape (← namedReference '>')
  if ← accept "'" then return fromEscape (← namedReference '\'')
  if (← rest).head?.any isDigit then return fromEscape (← escape false)
  return none

/-- A reference as a condition holds if its group has been matched. A group that is still open has
been matched so far. -/
def groupCondition (c : Pattern) : Reader Pattern := do
  match c with
  | .backref n _ => return if n == 0 || (← get).openGroups.contains n then .empty else .matched n
  | c => return c

/-- The greatest number of groups that are open at a time. -/
def maxDepth : Nat := 63

mutual

def choice : Nat → Nat → Reader Pattern
  | 0, _ => failure
  | fuel + 1, depth => do
    let first ← branch fuel depth
    blanks
    if ← accept "|" then
      let p ← moreBranches fuel depth
      return .alt first p
    let s ← get
    if s.numbered && !s.names.isEmpty then failure
    return first

def moreBranches : Nat → Nat → Reader Pattern
  | 0, _ => failure
  | fuel + 1, depth => do
    let p ← branch fuel depth
    blanks
    if ← accept "|" then
      let q ← moreBranches fuel depth
      return .alt p q
    return p

def branch : Nat → Nat → Reader Pattern
  | 0, _ => failure
  | fuel + 1, depth => do
    let before ← rest
    let p ← marked (← atom fuel depth)
    if (← rest).length == before.length then return .empty
    let q ← branch fuel depth
    return match p, q with
      | .empty, q => q
      | p, .empty => p
      | p, q => .seq p q

/-- Reads an atom; it is empty where none can start. -/
def atom : Nat → Nat → Reader Pattern
  | 0, _ => failure
  | fuel + 1, depth => do
    blanks
    let flags := (← get).flags
    match ← rest with
    | [] => return .empty
    | c :: r =>
      match c with
      | '+' | '*' | '?' | '|' | ')' => return .empty
      | '.' => goTo r; return .any flags.dotAll
      | '^' => goTo r; return .anchor (if flags.multiLine then .lineStart else .textStart)
      | '$' => goTo r; return .anchor (if flags.multiLine then .lineEnd else .textEnd)
      | '[' => goTo r; bracket
      | '\\' =>
        goTo r
        match ← escape false with
        | .char x => return .char x flags.ignoreCase
        | .set s => return .set s flags.ignoreCase
        | .other p => return p
      | '(' => goTo r; parenthesis fuel (depth + 1)
      | _ => goTo r; return .char c flags.ignoreCase

def parenthesis : Nat → Nat → Reader Pattern
  | 0, _ => failure
  | fuel + 1, depth => do
    if maxDepth < depth then failure
    match ← groupKind with
    | .done p => return p
    | .conditional => conditional fuel depth
    | kind =>
      let p ← choice fuel depth
      close
      match kind with
      | .capture n =>
        modify fun s => { s with openGroups := s.openGroups.tail }
        return .group n p
      | .plain outer =>
        modify fun s => { s with flags := outer }
        return p
      | .ahead negated => return .ahead negated p
      | .behind negated => lookBehind? negated p
      | .atomic => return .atomic p
      | .conditional | .done _ => return p

def conditional : Nat → Nat → Reader Pattern
  | 0, _ => failure
  | fuel + 1, depth => do
    let c ← match ← groupCondition? with
      | some e => pure e
      | none => choice fuel depth
    blanks
    close
    let c' ← groupCondition c
    let before ← rest
    let p ← choice fuel depth
    let after ← rest
    close
    if after.length == before.length then
      if c matches .backref _ _ then return c' else failure
    return match p with
      | .empty | .alt .empty .empty => c'
      | .alt p q => .conditional c' p q
      | p => .conditional c' p .empty

end

end Reader

end Regex

def Regex.ofText? (flags : Regex.Flags) (s : String) : Option Regex := do
  let chars := s.toList
  let start : Regex.ReadState :=
    { rest := chars, flags := flags, size := s.utf8ByteSize, freeSpacing := flags.freeSpacing }
  let (p, final) ← (Regex.Reader.choice (4 * chars.length + 4) 0).run start
  if !final.rest.isEmpty || !p.hasSaneLoops then none
  else some ⟨if p.isRegular then p.underFlags flags else p, final.groups⟩

end XPath
