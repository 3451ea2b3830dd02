import Std.Data.HashSet
import XPath.Regex.Pattern

/-!
# Matching

A pattern relates a place in a text, with the groups that have been matched before it, to the
places where a match may end. They are listed by preference: the first is the one that a match
takes, the others are tried if what follows does not match. Of two that only differ in a way
that nothing depends on, the later one is left out, so that the list is never longer than the text
unless the pattern refers back to groups.
-/

namespace XPath

namespace Regex

open XPath.Unicode

/-- A piece of a text: the indices of its first character and of the first one behind it. -/
structure Span where
  start : Nat
  stop : Nat
  deriving DecidableEq, Repr, Inhabited, Hashable

def Span.of (s : Span) (text : List Char) : List Char := (text.take s.stop).drop s.start

/-- How far a match has come: the index of the next character, the groups that have been matched,
and where the match is to begin if that was said. A search that goes on right behind a match knows
its `origin`. -/
structure Place where
  index : Nat
  groups : List (Nat × Span) := []
  kept : Option Nat := none
  origin : Option Nat := none
  deriving BEq, Repr, Inhabited, Hashable

namespace Place

def group? (p : Place) (n : Nat) : Option Span := p.groups.lookup n

def setGroup (p : Place) (n : Nat) (s : Span) : Place :=
  { p with groups := (n, s) :: p.groups.filter (·.1 != n) }

/-- The place behind the next character, if there is one that passes a test. -/
def step (p : Place) (text : Array Char) (test : Char → Bool) : List Place :=
  if text[p.index]?.any test then [{ p with index := p.index + 1 }] else []

/-- The place behind a piece of text that agrees with a span. -/
def repeated (p : Place) (text : Array Char) (s : Span) (same : Char → Char → Bool) : List Place :=
  let n := s.stop - s.start
  let agrees := (List.range n).all fun i =>
    match text[s.start + i]?, text[p.index + i]? with
    | some a, some b => same a b
    | _, _ => false
  if agrees then [{ p with index := p.index + n }] else []

end Place

/-- What the future of a place depends on: its index alone, or also its groups. -/
def Place.key (p : Place) (groupsMatter : Bool) : Place :=
  if groupsMatter then p else { index := p.index }

def distinctPlaces (groupsMatter : Bool) : List Place → List Place
  | [] => []
  | [p] => [p]
  | l => (l.foldl (fun (seen, kept) p =>
      let k := p.key groupsMatter
      if seen.contains k then (seen, kept) else (seen.insert k, p :: kept))
      ((∅ : Std.HashSet Place), [])).2.reverse

/-! ## Loops -/

/-- How many more repetitions a loop must and may have. -/
structure Count where
  least : Nat
  most : Option Nat
  deriving BEq, Repr, Hashable

def Count.next (n : Count) : Count := ⟨n.least - 1, n.most.map (· - 1)⟩

/-- The exploration of a loop: the ends that have been found, the last one first, and the places
that the loop has been at. -/
structure Exploration where
  ends : List Place := []
  seen : Std.HashSet (Count × Place) := ∅

/-- Explores a loop from a place, where `body` gives the ends of one repetition. A repetition that
is not asked for has to move on. There are at most `fuel` repetitions, one after the other. -/
def explore (body : Place → List Place) (groupsMatter greedy : Bool) :
    Nat → Count → Place → Exploration → Exploration
  | 0, _, _, e => e
  | fuel + 1, n, p, e =>
    let k := (n, p.key groupsMatter)
    if e.seen.contains k then e
    else
      let e : Exploration := { e with seen := e.seen.insert k }
      let leave := fun (e : Exploration) =>
        if n.least == 0 then { e with ends := p :: e.ends } else e
      let goOn := fun (e : Exploration) =>
        if n.most == some 0 then e
        else ((body p).filter fun q => n.least != 0 || q.index != p.index).foldl
          (fun e q => explore body groupsMatter greedy fuel n.next q e) e
      if greedy then leave (goOn e) else goOn (leave e)

namespace Pattern

/-- The ends of the matches of a pattern from a place, by preference. -/
def ends (text : Array Char) (groupsMatter : Bool) : Pattern → Place → List Place
  | empty, p => [p]
  | char c ignoreCase, p =>
    p.step text fun x => if ignoreCase then fold x == fold c else x == c
  | any newline, p => p.step text fun x => newline || x != '\n'
  | set s ignoreCase, p => p.step text (s.contains ignoreCase)
  | anchor a, p => if a.holds text p.index then [p] else []
  | seq a b, p =>
    distinctPlaces groupsMatter
      ((ends text groupsMatter a p).flatMap (ends text groupsMatter b))
  | alt a b, p =>
    distinctPlaces groupsMatter (ends text groupsMatter a p ++ ends text groupsMatter b p)
  | loop a least most greedy, p =>
    distinctPlaces groupsMatter
      (explore (ends text groupsMatter a) groupsMatter greedy (least + text.size + 1)
        ⟨least, most⟩ p {}).ends.reverse
  | group n a, p => (ends text groupsMatter a p).map fun q => q.setGroup n ⟨p.index, q.index⟩
  | backref n ignoreCase, p =>
    match p.group? n with
    | some s => p.repeated text s fun x y => if ignoreCase then fold x == fold y else x == y
    | none => []
  | ahead negated a, p =>
    match negated, ends text groupsMatter a p with
    | false, q :: _ => [{ q with index := p.index }]
    | true, [] => [p]
    | _, _ => []
  | behind negated n a, p =>
    let found :=
      if n ≤ p.index then ends text groupsMatter a { p with index := p.index - n } else []
    match negated, found with
    | false, q :: _ => [{ q with index := p.index }]
    | true, [] => [p]
    | _, _ => []
  | atomic a, p => (ends text groupsMatter a p).take 1
  | keep, p => [{ p with kept := some p.index }]
  | searchStart, p => if p.origin.any (p.index ≤ ·) then [p] else []
  | matched n, p => if (p.group? n).isSome then [p] else []
  | conditional c a b, p =>
    match ends text groupsMatter c p with
    | q :: _ => ends text groupsMatter a q
    | [] => ends text groupsMatter b p

end Pattern

/-! ## Matches in a text -/

/-- A match: the span of all of it, and what its groups hold. -/
structure Match where
  span : Span
  groups : List (Nat × Span)
  deriving Repr, Inhabited

/-- What a group holds; group zero is the whole match. -/
def Match.group? (m : Match) (n : Nat) : Option Span :=
  if n == 0 then some m.span else m.groups.lookup n

end Regex

structure Regex where
  pattern : Regex.Pattern
  groupCount : Nat
  deriving Repr, Inhabited

namespace Regex

/-- The match that is found from an index. It begins there or where the pattern says, but not behind
its end. -/
def matchAt? (r : Regex) (text : Array Char) (origin : Option Nat) (i : Nat) : Option Match :=
  (r.pattern.ends text r.pattern.refersBack { index := i, origin }).head?.map fun p =>
    ⟨⟨min (p.kept.getD i) p.index, p.index⟩, p.groups⟩

def find? (r : Regex) (text : Array Char) (origin : Option Nat) (start : Nat) : Option Match :=
  (List.range' start (text.size + 1 - start)).findSome? (r.matchAt? text origin)

def occursIn (r : Regex) (text : Array Char) : Bool := (r.find? text (some 0) 0).isSome

/-- The matches from an index on, each after the one before. An empty match does not stand right
behind another match, which ended at `last`; after an empty match, the search goes on one character
later, where nothing continues the match before. -/
def matchesFrom (r : Regex) (text : Array Char) : Nat → Nat → Option Nat → List Match
  | 0, _, _ => []
  | fuel + 1, start, last =>
    match r.find? text (if last.all (· == start) then some start else none) start with
    | none => []
    | some m =>
      let stop := m.span.stop
      if m.span.start == stop then
        if last == some stop then matchesFrom r text fuel (stop + 1) last
        else m :: matchesFrom r text fuel (stop + 1) (some stop)
      else m :: matchesFrom r text fuel stop (some stop)

def findAll (r : Regex) (text : Array Char) : List Match :=
  r.matchesFrom text (text.size + 2) 0 none

end Regex

end XPath
