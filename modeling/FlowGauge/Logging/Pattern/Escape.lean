import FlowGauge.Logging.Pattern.Tree
import FlowGauge.Text.Blank
import FlowGauge.Text.Hexadecimal
import FlowGauge.Text.Natural

/-! The smallest parts of a regular expression. Each reader takes one from the front of the text and
gives back the rest.

In a text that is `spaced`, blanks and comments may stand between the parts. -/
namespace FlowGauge.Logging.Pattern

/-- A comment runs to the end of its line. -/
def passBlanks (comment : Bool) : List Char → List Char
  | [] => []
  | c :: cs =>
    if comment then passBlanks (c ≠ '\n') cs
    else if c = '#' then passBlanks true cs
    else if Text.isBlank c then passBlanks false cs
    else c :: cs

def skip (spaced : Bool) (cs : List Char) : List Char :=
  if spaced then passBlanks false cs else cs

/-- So many digits of a code, and what follows them and the blanks after them. -/
def codeDigits? (spaced : Bool) : Nat → List Char → Option (List Char × List Char)
  | 0, cs => some ([], cs)
  | _, [] => none
  | n + 1, c :: cs => do
    let (ds, rest) ← codeDigits? spaced n (skip spaced cs)
    return (c :: ds, rest)

/-- A character by its code; one of two digits is a byte. -/
def coded? (spaced : Bool) (digits : Nat) (cs : List Char) : Option (Leaf × List Char) := do
  let (ds, rest) ← codeDigits? spaced digits (skip spaced cs)
  let c ← Text.coded? (← Text.hexNumber? ds)
  return (.literal c (digits = 2), rest)

def control? (c : Char) : Option Char :=
  match c with
  | 'a' => some '\x07'
  | 'f' => some '\x0c'
  | 't' => some '\t'
  | 'n' => some '\n'
  | 'r' => some '\r'
  | 'v' => some '\x0b'
  | _ => none

/-- A letter or digit after a backslash has a meaning of its own or none, and so have the two angle
brackets; other characters of ASCII stand for themselves. -/
def isEscapable (c : Char) : Bool :=
  c.toNat < 128 && !c.isAlphanum && c ≠ '<' && c ≠ '>'

def letters : List Char := ['d', 's', 'w', 'D', 'S', 'W']

def wordEdges : List Char := ['b', 'B', '<', '>']

def textEdges : List Char := ['A', 'z']

/-- What a character after a backslash stands for alone. -/
def meaning? (c : Char) : Option Leaf :=
  if isEscapable c then some (.literal c false)
  else if letters.contains c then some (.set (.lettered c))
  else if wordEdges.contains c then some (.edge true)
  else if textEdges.contains c then some (.edge false)
  else (control? c).map (.literal · false)

/-- The backslash has been passed. -/
def escape? (spaced : Bool) : List Char → Option (Leaf × List Char)
  | [] => none
  | c :: rest =>
    if c = 'x' then coded? spaced 2 rest
    else if c = 'u' then coded? spaced 4 rest
    else if c = 'U' then coded? spaced 8 rest
    else (meaning? c).map (·, rest)

end FlowGauge.Logging.Pattern
