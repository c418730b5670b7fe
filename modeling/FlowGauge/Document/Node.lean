/-! What a reader finds in the text of a document.

A text may stop making sense halfway. The tree then ends there: everything before the break is in
place, and `broken` marks where the next value should have been. A consumer that takes the tree in
order of the text therefore meets its own objections before or after the break, as the text has
them. -/
namespace FlowGauge.Document

inductive Node where
  | null
  | bool (value : Bool)
  | integer (value : Int)
  | float (value : Float)
  | text (value : String)
  | list (items : List Node)
  | table (entries : List (String × Node))
  /-- Well-formed, but with no value: half a character, or a number beyond every float. -/
  | valueless
  /-- The value of an entry whose key cannot be read. -/
  | keyless (value : Node)
  | broken
  deriving Inhabited

namespace Node

mutual

/-- No break anywhere below. -/
def whole : Node → Bool
  | list items => wholeItems items
  | table entries => wholeEntries entries
  | keyless value => whole value
  | broken => false
  | _ => true

def wholeItems : List Node → Bool
  | [] => true
  | n :: rest => whole n && wholeItems rest

def wholeEntries : List (String × Node) → Bool
  | [] => true
  | (_, n) :: rest => whole n && wholeEntries rest

end

mutual

/-- Every text, number and key below has a value, and there is no break. -/
def readable : Node → Bool
  | list items => readableItems items
  | table entries => readableEntries entries
  | valueless => false
  | keyless _ => false
  | broken => false
  | _ => true

def readableItems : List Node → Bool
  | [] => true
  | n :: rest => readable n && readableItems rest

def readableEntries : List (String × Node) → Bool
  | [] => true
  | (_, n) :: rest => readable n && readableEntries rest

end

mutual

/-- How many lists and tables enclose each other. -/
def depth : Node → Nat
  | list items => depthItems items + 1
  | table entries => depthEntries entries + 1
  | _ => 0

def depthItems : List Node → Nat
  | [] => 0
  | n :: rest => max (depth n) (depthItems rest)

def depthEntries : List (String × Node) → Nat
  | [] => 0
  | (_, n) :: rest => max (depth n) (depthEntries rest)

end

end Node

end FlowGauge.Document
