import XPath.Context

/-!
# Calls

What the body of a function may consult besides its arguments, and the helpers with which bodies
read their arguments.
-/

namespace XPath

/-- The circumstances of a call. -/
structure Call where
  name : ExpandedName
  static : StaticContext
  dynamic : DynamicContext
  focus : Option Focus
  /-- The collation of functions that are called without one. -/
  collation : Collation

abbrev FunctionBody := Call → List Sequence → Result Sequence

/-- The bodies that calls are resolved to. -/
abbrev Functions := FunctionTable FunctionBody

namespace Call

def focusOrError (c : Call) : Result Focus :=
  match c.focus with
  | some f => .ok f
  | none => .error (.of .XPDY0002 (c.name.display ++ ": context item is undefined"))

def contextItem (c : Call) : Result Item := c.focusOrError.map (·.item)

def typeError (c : Call) (message : String) : Error :=
  .typeError (c.name.display ++ ": " ++ message)

/-- The collation that an argument names, if it is there and not empty. -/
def collationArgument (c : Call) (args : List Sequence) (i : Nat) : Result Collation :=
  match args[i]? with
  | some (a :: _) => c.dynamic.collations.get a.text
  | _ => .ok c.collation

/-- The node of an argument, if it is not empty; the context node if there is no such argument. -/
def nodeArgument (c : Call) (args : List Sequence) (i : Nat) : Result (Option Node) := do
  let item? ← match args[i]? with
    | some a => pure a.head?
    | none => c.contextItem.map some
  match item? with
  | none => return none
  | some (.node n) => return some n
  | some (.atomic v) => .error (c.typeError ("expected a node, got " ++ v.typeName))

/-- The text of an argument, if it is not empty; that of the context item if there is no such
argument. -/
def textArgument (c : Call) (args : List Sequence) (i : Nat) : Result String :=
  match args[i]? with
  | some a => .ok ((a.head?.map Item.text).getD "")
  | none => c.contextItem.map Item.text

end Call

/-! ## Reading arguments -/

namespace Arguments

/-- An argument; one that is missing is empty. -/
def get (args : List Sequence) (i : Nat) : Sequence := args.getD i []

def text? (args : List Sequence) (i : Nat) : Option String := (get args i).head?.map Item.text

/-- The text of the first item of an argument, empty if there is none. -/
def text (args : List Sequence) (i : Nat) : String := (text? args i).getD ""

def atomic? (args : List Sequence) (i : Nat) : Option Atomic := (get args i).head?.bind Item.atomic?

def numeric? (args : List Sequence) (i : Nat) : Option Numeric :=
  (atomic? args i).bind Atomic.numeric?

/-- The first item of an argument as a double; a NaN if it is not a number. -/
def double (args : List Sequence) (i : Nat) : Float :=
  ((numeric? args i).map Numeric.toDouble).getD Number.notANumber

/-- The first item of an argument as an integer of 64 bits. -/
def integer? (args : List Sequence) (i : Nat) : Option Int :=
  (atomic? args i).bind Atomic.integer64?

end Arguments

end XPath
