import XPath.Error

/-!
# Overloads

A function name may stand for several functions that take different numbers of arguments. A table
keeps them in the order in which they were registered. There are two ways to choose among those
that accept a number of arguments: the first registered, or the most specific.
-/

namespace XPath

/-- The numbers of arguments that a function takes: at least `least`, and at most `most` if there
is a limit. -/
structure Arity where
  least : Nat
  most : Option Nat
  deriving DecidableEq, Repr, Inhabited

namespace Arity

def exactly (n : Nat) : Arity := ⟨n, some n⟩

def between (least most : Nat) : Arity := ⟨least, some most⟩

def atLeast (least : Nat) : Arity := ⟨least, none⟩

def accepts (a : Arity) (n : Nat) : Bool := a.least ≤ n && a.most.all (n ≤ ·)

/-- The accepted numbers, if they are finitely many. -/
def accepted (a : Arity) : List Nat :=
  match a.most with
  | none => []
  | some m => (List.range (m + 1 - a.least)).map (a.least + ·)

/-- Whether `a` is at least as specific as `b`: it asks for more arguments or, if both ask for as
many, its limit is not above that of `b`. -/
def specificOrSame (a b : Arity) : Bool :=
  b.least < a.least || (a.least == b.least &&
    match a.most, b.most with
    | some m, some n => m ≤ n
    | some _, none => true
    | none, some _ => false
    | none, none => true)

end Arity

/-- Functions by name and arity, in the order of their registration. -/
structure FunctionTable (α : Type) where
  entries : List (ExpandedName × Arity × α)
  deriving Inhabited

def Error.unknownFunction (name : ExpandedName) : Error :=
  .of .XPST0017 ("unknown function " ++ name.display)

def Error.wrongArity (name : ExpandedName) (available : List Nat) : Error :=
  .of .XPST0017
    ("function " ++ name.display ++ " has no overload with this arity (available: [" ++
      ", ".intercalate (available.map toString) ++ "])")

namespace FunctionTable

variable {α : Type}

def empty : FunctionTable α := ⟨[]⟩

/-- Adds a function. Those registered before stay. -/
def register (t : FunctionTable α) (name : ExpandedName) (arity : Arity) (f : α) :
    FunctionTable α :=
  ⟨t.entries ++ [(name, arity, f)]⟩

def overloads (t : FunctionTable α) (name : ExpandedName) : List (Arity × α) :=
  (t.entries.filter (·.1 == name)).map (·.2)

def contains (t : FunctionTable α) (name : ExpandedName) : Bool := !(t.overloads name).isEmpty

def accepting? (overloads : List (Arity × α)) (n : Nat) : Option (Arity × α) :=
  overloads.find? (·.1.accepts n)

/-- All numbers of arguments that some overload accepts, in ascending order. -/
def acceptedBy (overloads : List (Arity × α)) : List Nat :=
  (overloads.flatMap (·.1.accepted)).mergeSort (· ≤ ·)

/-- The overloads, the most specific first; of equally specific ones the first registered. -/
def bySpecificity (overloads : List (Arity × α)) : List (Arity × α) :=
  overloads.mergeSort fun a b => a.1.specificOrSame b.1

/-- The function that was registered first among those that accept `n` arguments. -/
def firstRegistered (t : FunctionTable α) (name : ExpandedName) (n : Nat) : Result (Arity × α) :=
  match t.overloads name with
  | [] => .error (.unknownFunction name)
  | overloads =>
    match accepting? overloads n with
    | some f => .ok f
    | none => .error (.wrongArity name (acceptedBy overloads))

/-- The most specific function among those that accept `n` arguments. -/
def mostSpecific (t : FunctionTable α) (name : ExpandedName) (n : Nat) : Result (Arity × α) :=
  match t.overloads name with
  | [] => .error (.unknownFunction name)
  | overloads =>
    match accepting? (bySpecificity overloads) n with
    | some f => .ok f
    | none => .error (.wrongArity name (acceptedBy overloads).eraseDups)

end FunctionTable

end XPath
