import XPath.Text.Hex

/-!
# Tables of runs

Properties of characters are constant over long stretches of code points. A table of runs holds
the starts of the stretches in ascending order and finds the one that a code point lies in by
halving. The tables themselves are written as short texts, which are read here; their data are
those of Unicode 16.
-/

namespace XPath.Unicode

open XPath.Text

/-- A function on code points that is constant on runs: where each run starts, and its value. -/
structure RunTable (α : Type) where
  starts : Array (Nat × α)

namespace RunTable

variable {α : Type}

/-- The table of runs that follow each other from zero, given as lengths and values. -/
def ofRuns (runs : List (Nat × α)) : RunTable α :=
  ⟨(runs.foldl (fun (next, starts) (n, a) => (next + n, starts.push (next, a))) (0, #[])).2⟩

/-- The set with runs outside and inside of it in turn. -/
def ofLengths (lengths : List Nat) : RunTable Bool :=
  ofRuns (lengths.foldr (fun n k inside => (n, inside) :: k !inside) (fun b => [(0, b)]) false)

/-- The last run between `lo` and `hi` that starts at `n` or before, if run `lo` does. -/
def locate (starts : Array (Nat × α)) (n lo hi : Nat) : Nat :=
  if h : hi ≤ lo + 1 then lo
  else
    let mid := (lo + hi) / 2
    if (starts[mid]?.any fun p => p.1 ≤ n) then locate starts n mid hi
    else locate starts n lo mid
termination_by hi - lo

def get? (t : RunTable α) (n : Nat) : Option α :=
  t.starts[locate t.starts n 0 t.starts.size]?.map (·.2)

def contains (t : RunTable Bool) (c : Char) : Bool := t.get? c.toNat == some true

end RunTable

/-! ## Written tables -/

/-- The runs that a text writes as names with a capital letter, each followed by a length; a
length of one is left out. -/
def readNamedRuns (s : String) : List (Nat × String) :=
  let step := fun (c : Char) (acc : List (Nat × String) × List Char × List Char) =>
    match acc with
    | (runs, name, digits) =>
      if isDigit c then (runs, name, c :: digits)
      else if 'A' ≤ c && c ≤ 'Z' then
        let n := if digits.isEmpty then 1 else digitsValue digits
        ((n, String.ofList (c :: name)) :: runs, [], [])
      else (runs, c :: name, digits)
  (s.toList.foldr step ([], [], [])).1

def tableWords (lines : List String) : List (List Char) :=
  lines.flatMap fun l => words l.toList

def hexNumber (s : List Char) : Nat :=
  s.foldl (fun n c => 16 * n + (hexValue? c).getD 0) 0

/-- Characters with a common rule: `count` sources that lie `stride` apart, each of which is mapped
to the given targets, shifted by its distance from the first source. -/
structure MappingRun where
  source : Nat
  count : Nat
  stride : Nat
  targets : List Nat
  deriving Repr

namespace MappingRun

/-- Reads `source=targets` or `source*count*stride=targets`. -/
def read (s : List Char) : MappingRun :=
  let (left, right) := (splitFirst? '=' s).getD (s, [])
  let targets := (pieces (· == '+') right).map hexNumber
  match pieces (· == '*') left with
  | [a, n, d] => ⟨hexNumber a, digitsValue n, digitsValue d, targets⟩
  | _ => ⟨hexNumber left, 1, 1, targets⟩

def entries (r : MappingRun) : List (Nat × List Nat) :=
  (List.range r.count).map fun i => (r.source + i * r.stride, r.targets.map (· + i * r.stride))

end MappingRun

def readMappings (lines : List String) : List (Nat × List Nat) :=
  (tableWords lines).flatMap fun w => (MappingRun.read w).entries

end XPath.Unicode
