import XPath.Collation

/-!
# Searching under a collation

A text occurs in another if some piece of the other is equal to it under a collation. The code
point collation compares characters; for the others all pieces are tried, and the first to be found
is the leftmost, and the shortest of those that start at its place.
-/

namespace XPath.Collation

/-- The prefixes of a text with what comes after each, the shortest first. -/
def splits : List Char → List (List Char × List Char)
  | [] => [([], [])]
  | c :: r => ([], c :: r) :: (splits r).map fun p => (c :: p.1, p.2)

/-- The suffixes of a text, the longest first. -/
def suffixes : List Char → List (List Char)
  | [] => [[]]
  | c :: r => (c :: r) :: suffixes r

/-- Whether a piece of text is equal to `key`'s text, which is given by its key. -/
def hasKey (c : Collation) (piece : List Char) (key : String) : Bool :=
  c.key (String.ofList piece) == key

/-- What follows the shortest prefix of a text that is equal to `t`. -/
def afterPrefix? (c : Collation) (t s : List Char) : Option (List Char) :=
  if c.uri == codepointUri then Text.dropStart? t s
  else
    let key := c.key (String.ofList t)
    ((splits s).find? fun p => c.hasKey p.1 key).map (·.2)

/-- What stands before and after the first piece of `s` that is equal to `t`. -/
def find? (c : Collation) (t : List Char) : List Char → Option (List Char × List Char)
  | [] => (c.afterPrefix? t []).map fun rest => ([], rest)
  | x :: s =>
    match c.afterPrefix? t (x :: s) with
    | some rest => some ([], rest)
    | none => (find? c t s).map fun p => (x :: p.1, p.2)

def occursIn (c : Collation) (t s : List Char) : Bool := (c.find? t s).isSome

def startsWith (c : Collation) (s t : List Char) : Bool := (c.afterPrefix? t s).isSome

def endsWith (c : Collation) (s t : List Char) : Bool :=
  if c.uri == codepointUri then t.isSuffixOf s
  else
    let key := c.key (String.ofList t)
    (suffixes s).any fun piece => c.hasKey piece key

end XPath.Collation
