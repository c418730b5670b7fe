/-! Characters and blanks of a TOML text. Each reader takes what it can from the front and gives back
the rest. -/
namespace FlowGauge.Toml

/-- A value and the text after it. -/
abbrev Front (α : Type) := α × List Char

def isGap (c : Char) : Bool :=
  c = ' ' || c = '\t'

def skipGaps (cs : List Char) : List Char :=
  cs.dropWhile isGap

def newline? : List Char → Option (List Char)
  | '\n' :: cs => some cs
  | '\r' :: '\n' :: cs => some cs
  | _ => none

def isForeign (c : Char) : Bool :=
  0x80 ≤ c.toNat

/-- What may stand in a comment. -/
def isCommented (c : Char) : Bool :=
  c = '\t' || (0x20 ≤ c.toNat && c.toNat ≤ 0x7e) || isForeign c

def skipComment : List Char → List Char
  | '#' :: cs => cs.dropWhile isCommented
  | cs => cs

/-- Blanks and a comment may stand before the end of a line, or of the text. -/
def lineEnd? (cs : List Char) : Option (List Char) :=
  match skipComment (skipGaps cs) with
  | [] => some []
  | cs => newline? cs

/-- The text after blanks, line ends and comments, from inside a comment or not. -/
def skipFrom (comment : Bool) : List Char → List Char
  | '\n' :: cs => skipFrom false cs
  | '\r' :: '\n' :: cs => skipFrom false cs
  | c :: cs =>
    if comment then if isCommented c then skipFrom true cs else c :: cs
    else if c = '#' then skipFrom true cs
    else if isGap c then skipFrom false cs
    else c :: cs
  | [] => []

def skipLines (cs : List Char) : List Char :=
  skipFrom false cs

def expect (c : Char) : List Char → Option (List Char)
  | d :: cs => if d = c then some cs else none
  | [] => none

def expectWord : List Char → List Char → Option (List Char)
  | [], cs => some cs
  | w :: word, cs => (expect w cs).bind (expectWord word)

end FlowGauge.Toml
