import FlowGauge.Logging.Pattern.Bracket
import FlowGauge.Text.Alphabetic

namespace FlowGauge.Logging.Pattern

/-- What an opening parenthesis begins. -/
inductive Opening where
  | group (name : Option String) (s : Setting)
  | setting (s : Setting)
  deriving Repr, DecidableEq

def isNameStart (c : Char) : Bool :=
  c = '_' || Text.Alphabetic.isAlphabetic c

def isNamePart (c : Char) : Bool :=
  c = '_' || c = '.' || c = '[' || c = ']' || Text.Alphanumeric.isAlphanumeric c

def isName : List Char → Bool
  | [] => false
  | c :: cs => isNameStart c && cs.all isNamePart

/-- The angle bracket before the name has been passed. -/
def namedGroup? (cs : List Char) : Option (Opening × List Char) :=
  let name := cs.takeWhile (· ≠ '>')
  match cs.dropWhile (· ≠ '>') with
  | _ :: rest =>
    if isName name then some (.group (some (String.ofList name)) [], rest) else none
  | [] => none

def flagLetters : List Char := ['i', 'm', 's', 'U', 'u', 'R', 'x']

/-- Each flag is given once, and at most one hyphen stands before some of them. -/
def isMarks (marks : List Char) : Bool :=
  decide marks.Nodup && marks.all (fun c => c = '-' || flagLetters.contains c) &&
    marks.getLast? ≠ some '-'

/-- The flags before a hyphen are turned on, those after it are turned off. -/
def Setting.ofMarks (marks : List Char) : Setting :=
  (marks.takeWhile (· ≠ '-')).map (·, true) ++
    ((marks.dropWhile (· ≠ '-')).drop 1).map (·, false)

/-- The question mark has been passed. -/
def flagged? (cs : List Char) : Option (Opening × List Char) :=
  let ends (c : Char) : Bool := c = ':' || c = ')'
  let marks := cs.takeWhile (!ends ·)
  if isMarks marks then
    match cs.dropWhile (!ends ·) with
    | ':' :: rest => some (.group none (.ofMarks marks), rest)
    | ')' :: rest => if marks.isEmpty then none else some (.setting (.ofMarks marks), rest)
    | _ => none
  else none

/-- The parenthesis has been passed. -/
def opening? : List Char → Option (Opening × List Char)
  | '?' :: 'P' :: '<' :: rest => namedGroup? rest
  | '?' :: '<' :: rest => namedGroup? rest
  | '?' :: rest => flagged? rest
  | rest => some (.group none [], rest)

/-- Whether the text is spaced out under a setting. -/
def Setting.spaced (s : Setting) (before : Bool) : Bool :=
  (s.lookup 'x').getD before

/-- The last tree is repeated, which has to be more than a setting. -/
def repeatLast? : List Tree → Option (List Tree)
  | [] => none
  | .setting _ :: _ => none
  | t :: ts => some (.repeated t :: ts)

def passQuestion : List Char → List Char
  | '?' :: cs => cs
  | cs => cs

/-- A part with no parts, or a class. -/
def leaf? (spaced : Bool) (c : Char) (rest : List Char) : Option (Leaf × List Char) :=
  if c = '[' then (bracket? spaced rest).map fun (s, rest) => (.set s, rest)
  else if c = '\\' then escape? spaced rest
  else if c = '.' then some (.dot, rest)
  else if c = '^' ∨ c = '$' then some (.edge false, rest)
  else some (.literal c false, rest)

/-- What has been read of a group: the branches and the trees of the last one, the newest first. -/
structure Open where
  branches : List Tree
  trees : List Tree

namespace Open

def empty : Open :=
  ⟨[], []⟩

def add (o : Open) (t : Tree) : Open :=
  { o with trees := t :: o.trees }

def branch (o : Open) : Open :=
  ⟨Tree.ofSequence o.trees.reverse :: o.branches, []⟩

def whole (o : Open) : Tree :=
  Tree.ofBranches o.branch.branches.reverse

end Open

/-- The tree up to a closing parenthesis or the end. Braces would hold a number of repetitions, but
a field's pattern ends before it could be complete. `fuel` bounds the number of characters to
come. -/
def readTree (fuel : Nat) (spaced : Bool) (o : Open) (cs : List Char) :
    Option (Tree × List Char) :=
  match fuel with
  | 0 => none
  | fuel + 1 =>
    match skip spaced cs with
    | [] => some (o.whole, [])
    | ')' :: rest => some (o.whole, ')' :: rest)
    | '|' :: rest => readTree fuel spaced o.branch rest
    | '(' :: rest => do
      match ← opening? (skip spaced rest) with
      | (.setting s, rest) => readTree fuel (s.spaced spaced) (o.add (.setting s)) rest
      | (.group name s, rest) =>
        match ← readTree fuel (s.spaced spaced) .empty rest with
        | (t, ')' :: rest) => readTree fuel spaced (o.add (.group name s t)) rest
        | _ => none
    | '\x7b' :: _ => none
    | c :: rest =>
      if c = '?' ∨ c = '*' ∨ c = '+' then do
        readTree fuel spaced { o with trees := ← repeatLast? o.trees } (passQuestion rest)
      else do
        let (l, rest) ← leaf? spaced c rest
        readTree fuel spaced (o.add (.leaf l)) rest

/-- The tree of a whole text. -/
def read? (s : String) : Option Tree :=
  match readTree (s.length + 1) false .empty s.toList with
  | some (t, []) => some t
  | _ => none

end FlowGauge.Logging.Pattern
