import XPath.Number.Double

/-!
# Windows

A part of a text or a sequence is given by a start and a length, which may be any doubles. Both are
rounded; the part holds the positions from the start on that come before the sum of the two.
-/

namespace XPath

open XPath.Number

/-- Where a part starts, and how long it is if that is limited. -/
structure Window where
  start : Float
  length : Option Float

namespace Window

/-- Whether a position, counted from one, is in the window. Nothing is in a window with a NaN. -/
def contains (w : Window) (position : Nat) : Bool :=
  let first := roundHalfUp w.start
  let p := doubleOfInt position
  first ≤ p && (match w.length with
    | none => p < infinity
    | some l => p < first + roundHalfUp l)

def select {α : Type} (w : Window) (l : List α) : List α :=
  (l.zipIdx 1).filterMap fun (a, i) => if w.contains i then some a else none

end Window

end XPath
