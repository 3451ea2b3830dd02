import XPath.Regex.CharSet

/-!
# Bracket expressions

Between brackets stand characters, ranges, class escapes and further brackets; `&&`, `--` and `~~`
combine what stands before them with what follows, from left to right.
-/

namespace XPath.Regex

/-- A piece of a bracket expression. A quoted character always stands for itself. -/
inductive BracketToken where
  | plain (c : Char)
  | quoted (c : Char)
  | set (s : CharSet)
  deriving DecidableEq, Repr, Inhabited

namespace BracketToken

/-- The character that the piece stands for at an end of a range. -/
def char? : BracketToken → Option Char
  | plain c | quoted c => some c
  | set _ => none

end BracketToken

namespace CharSet

/-- What is known of a bracket expression that is being read: the set so far, and the operation
whose right side it will be. -/
structure PartialSet where
  current : CharSet
  pending : CharSet → CharSet

namespace PartialSet

def add (p : PartialSet) (s : CharSet) : PartialSet := { p with current := union p.current s }

def close (p : PartialSet) : CharSet := p.pending p.current

def operate (p : PartialSet) (op : CharSet → CharSet → CharSet) : PartialSet :=
  ⟨empty, op p.close⟩

end PartialSet

/-- The ASCII class that is written as a name between `:` and `:]`, after a bracket. -/
def readAsciiClass? (s : List BracketToken) : Option (CharSet × List BracketToken) :=
  let (negated, s) := match s with
    | .plain '^' :: r => (true, r)
    | _ => (false, s)
  let isColon := fun (t : BracketToken) => t == .plain ':'
  let name := s.takeWhile fun t => !isColon t
  match s.dropWhile (fun t => !isColon t) with
  | _ :: .plain ']' :: r =>
    (ofAsciiName? (String.ofList (name.filterMap BracketToken.char?))).map fun c =>
      (negatedIf negated c, r)
  | _ => none

mutual

def readBracket : Nat → List BracketToken → Option (CharSet × List BracketToken)
  | 0, _ => none
  | fuel + 1, s =>
    let (negated, s) := match s with
      | .plain '^' :: r => (true, r)
      | _ => (false, s)
    let hyphens := s.takeWhile (· == .plain '-')
    let s := s.dropWhile (· == .plain '-')
    let start : PartialSet := ⟨if hyphens.isEmpty then empty else single '-', id⟩
    let (start, s) := match s with
      | .plain ']' :: r => if hyphens.isEmpty then (start.add (single ']'), r) else (start, s)
      | _ => (start, s)
    (readItems fuel start s).map fun (set, r) => (negatedIf negated set, r)

def readItems : Nat → PartialSet → List BracketToken → Option (CharSet × List BracketToken)
  | 0, _, _ => none
  | fuel + 1, p, s =>
    match s with
    | [] => none
    | .plain ']' :: r => some (p.close, r)
    | .plain '[' :: .plain ':' :: r =>
      match readAsciiClass? r with
      | some (set, r) => readItems fuel (p.add set) r
      | none => do
        let (set, r) ← readBracket fuel (.plain ':' :: r)
        readItems fuel (p.add set) r
    | .plain '[' :: r => do
      let (set, r) ← readBracket fuel r
      readItems fuel (p.add set) r
    | .plain '&' :: .plain '&' :: r => readItems fuel (p.operate inter) r
    | .plain '-' :: .plain '-' :: r => readItems fuel (p.operate diff) r
    | .plain '~' :: .plain '~' :: r => readItems fuel (p.operate symmDiff) r
    | t :: r =>
      let alone : Option (CharSet × List BracketToken) :=
        match t with
        | .plain c | .quoted c => readItems fuel (p.add (single c)) r
        | .set set => readItems fuel (p.add set) r
      match r with
      | .plain '-' :: .plain ']' :: _ | .plain '-' :: .plain '-' :: _ => alone
      | .plain '-' :: u :: r =>
        match t.char?, u.char? with
        | some a, some b => if a ≤ b then readItems fuel (p.add (range a b)) r else none
        | _, _ => none
      | _ => alone

end

def ofBracket? (s : List BracketToken) : Option CharSet :=
  match readBracket (2 * s.length + 2) s with
  | some (set, []) => some set
  | _ => none

end CharSet

end XPath.Regex
