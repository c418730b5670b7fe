import FlowGauge.Logging.Pattern.Reader

/-! Which texts are regular expressions that a field can be compared with.

No tables of scripts are at hand, so classes that need one (digits, blanks and words of all
scripts, letters in any case) are refused, as are the edges of such words. Where a pattern turns to
single bytes, it may only match whole characters. -/
namespace FlowGauge.Logging.Pattern

/-- Why a text cannot be compared with. -/
inductive Objection where
  /-- It is not well formed, or part of it means nothing. -/
  | meaningless
  /-- It asks for the edges of words of all scripts. -/
  | wordEdge
  deriving Repr, DecidableEq

def Objection.text : Objection → String
  | meaningless => "error building NFA"
  | wordEdge =>
    "unsupported regex feature for DFAs: cannot build DFAs for regexes with Unicode word " ++
      "boundaries; switch to ASCII word boundaries, or heuristically enable Unicode word " ++
      "boundaries or use a different regex engine"

mutual

/-- Whether the characters of a set are known. -/
def CharSet.isKnown (f : Flags) : CharSet → Bool
  | .nothing => true
  | .one c => if f.unicode then !f.insensitive else c.toNat < 128
  | .range _ high => if f.unicode then !f.insensitive else high.toNat < 128
  | .named _ negated => if f.unicode then !f.insensitive else !negated
  | .lettered letter => !f.unicode && letter.isLower
  | .bracket negated s => s.isKnown f && (f.unicode || !negated)
  | .union ss => areKnown f ss
  | .combined _ s t => s.isKnown f && t.isKnown f

def areKnown (f : Flags) : List CharSet → Bool
  | [] => true
  | s :: ss => s.isKnown f && areKnown f ss

end

/-- Whether a leaf means something under the flags. -/
def Leaf.isMeant (f : Flags) : Leaf → Bool
  | literal c byte => if f.unicode then !f.insensitive else !byte || c.toNat < 128
  | dot => f.unicode
  | edge _ => true
  | set s => s.isKnown f

def Leaf.isWordEdge (f : Flags) : Leaf → Bool
  | edge ofWord => ofWord && f.unicode
  | _ => false

def maxDepth : Nat := 250

def Tree.isMeant (t : Tree) : Bool :=
  decide (t.depth ≤ maxDepth) && decide t.names.Nodup &&
    (t.leaves Flags.start).1.all fun (f, l) => l.isMeant f

def Tree.hasWordEdge (t : Tree) : Bool :=
  (t.leaves Flags.start).1.any fun (f, l) => l.isWordEdge f

def objection? (s : String) : Option Objection :=
  match read? s with
  | none => some .meaningless
  | some t =>
    if !t.isMeant then some .meaningless
    else if t.hasWordEdge then some .wordEdge
    else none

end FlowGauge.Logging.Pattern
