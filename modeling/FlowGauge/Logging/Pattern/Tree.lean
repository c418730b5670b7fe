namespace FlowGauge.Logging.Pattern

/-- How two sets in a class become one. -/
inductive Operator where
  | intersection
  | difference
  | symmetricDifference
  deriving Repr, DecidableEq

/-- A set of characters, as it is written. -/
inductive CharSet where
  | nothing
  | one (c : Char)
  | range (low high : Char)
  /-- A class called by its name between colons. -/
  | named (name : String) (negated : Bool)
  /-- A class called by a letter after a backslash; a capital one stands for the other characters. -/
  | lettered (letter : Char)
  /-- A class between brackets. -/
  | bracket (negated : Bool) (inner : CharSet)
  | union (parts : List CharSet)
  | combined (operator : Operator) (left right : CharSet)
  deriving Repr

/-- A part that has no parts, or the characters of a class. -/
inductive Leaf where
  /-- A character that stands for itself, or a byte if it was given by a code of two digits. -/
  | literal (c : Char) (byte : Bool)
  | dot
  /-- A condition on a place; `ofWord` ones ask what is part of a word. -/
  | edge (ofWord : Bool)
  | set (s : CharSet)
  deriving Repr

/-- Flags that are turned on or off. -/
abbrev Setting := List (Char × Bool)

inductive Tree where
  | empty
  /-- Flags for the rest of the group around them. -/
  | setting (s : Setting)
  | leaf (l : Leaf)
  | repeated (t : Tree)
  | group (name : Option String) (s : Setting) (t : Tree)
  | alternatives (ts : List Tree)
  | sequence (ts : List Tree)
  deriving Repr

/-- One part alone needs nothing around it. -/
def CharSet.ofParts : List CharSet → CharSet
  | [] => nothing
  | [s] => s
  | ss => union ss

def Tree.ofSequence : List Tree → Tree
  | [] => empty
  | [t] => t
  | ts => sequence ts

def Tree.ofBranches : List Tree → Tree
  | [t] => t
  | ts => alternatives ts

mutual

/-- The number of classes around the innermost part. -/
def CharSet.depth : CharSet → Nat
  | .bracket _ s => s.depth + 1
  | .union ss => deepestSet ss + 1
  | .combined _ s t => max s.depth t.depth + 1
  | _ => 0

def deepestSet : List CharSet → Nat
  | [] => 0
  | s :: ss => max s.depth (deepestSet ss)

end

def Leaf.depth : Leaf → Nat
  | set s => s.depth
  | _ => 0

mutual

/-- The number of parts around the innermost one. -/
def Tree.depth : Tree → Nat
  | .leaf l => l.depth
  | .repeated t => t.depth + 1
  | .group _ _ t => t.depth + 1
  | .alternatives ts => deepest ts + 1
  | .sequence ts => deepest ts + 1
  | _ => 0

def deepest : List Tree → Nat
  | [] => 0
  | t :: ts => max t.depth (deepest ts)

end

mutual

/-- The names of the groups, from left to right. -/
def Tree.names : Tree → List String
  | .repeated t => t.names
  | .group name _ t => name.toList ++ t.names
  | .alternatives ts => namesOf ts
  | .sequence ts => namesOf ts
  | _ => []

def namesOf : List Tree → List String
  | [] => []
  | t :: ts => t.names ++ namesOf ts

end

/-- The flags that bear on what a part can mean. -/
structure Flags where
  insensitive : Bool
  /-- Characters of all scripts are meant, not single bytes. -/
  unicode : Bool
  deriving Repr, DecidableEq

def Flags.start : Flags :=
  ⟨false, true⟩

def Flags.set (f : Flags) (s : Setting) : Flags :=
  ⟨(s.lookup 'i').getD f.insensitive, (s.lookup 'u').getD f.unicode⟩

mutual

/-- The leaves with the flags that hold there, and the flags after the last of them. -/
def Tree.leaves (f : Flags) : Tree → List (Flags × Leaf) × Flags
  | .empty => ([], f)
  | .setting s => ([], f.set s)
  | .leaf l => ([(f, l)], f)
  | .repeated t => ((t.leaves f).1, f)
  | .group _ s t => ((t.leaves (f.set s)).1, f)
  | .alternatives ts => leavesOf f ts
  | .sequence ts => leavesOf f ts

def leavesOf (f : Flags) : List Tree → List (Flags × Leaf) × Flags
  | [] => ([], f)
  | t :: ts =>
    let (ls, f) := t.leaves f
    let (more, f) := leavesOf f ts
    (ls ++ more, f)

end

end FlowGauge.Logging.Pattern
