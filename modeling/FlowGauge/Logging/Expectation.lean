import FlowGauge.Decimal.Notation
import FlowGauge.Decimal.Reading
import FlowGauge.Logging.Pattern

namespace FlowGauge.Logging

/-- The value that a field is to have. -/
inductive Expected where
  | bool (value : Bool)
  | float (value : Float)
  | notNumber
  | natural (value : UInt64)
  | integer (value : Int64)
  | pattern (text : String)

namespace Expected

/-- A whole number of 64 bits below zero, or the zero with that sign. -/
def negative? (s : String) : Option Int64 :=
  match s.toList with
  | '-' :: '+' :: _ => none
  | '-' :: cs => (Text.naturalUpTo? 9223372036854775808 cs).map fun n => Int64.ofInt (-(n : Int))
  | _ => none

def ofFloat (x : Float) : Expected :=
  if x.isNaN then notNumber else float x

/-- A value that is no pattern. -/
def plain? (s : String) : Option Expected :=
  if s = "true" then some (bool true)
  else if s = "false" then some (bool false)
  else
    match Text.naturalUpTo? (UInt64.size - 1) s.toList, negative? s, Decimal.float? s with
    | some n, _, _ => some (natural n.toUInt64)
    | _, some n, _ => some (integer n)
    | _, _, some x => some (ofFloat x)
    | _, _, _ => none

/-- A text that has no other reading is a pattern. -/
def ofText (s : String) : Except Pattern.Objection Expected :=
  match plain? s, Pattern.objection? s with
  | some v, _ => .ok v
  | none, none => .ok (pattern s)
  | none, some o => .error o

def text : Expected → String
  | bool b => if b then "true" else "false"
  | float x => Decimal.Notation.message.write x
  | notNumber => "NaN"
  | natural n => toString n.toNat
  | integer n => toString n.toInt
  | pattern s => s

/-- The place of a kind of value among the others. -/
def rank : Expected → Nat
  | bool _ => 0
  | float _ => 1
  | notNumber => 2
  | natural _ => 3
  | integer _ => 4
  | pattern _ => 5

def compareFloats (x y : Float) : Ordering :=
  if x < y then .lt else if y < x then .gt else .eq

def compare (a b : Expected) : Ordering :=
  match a, b with
  | bool x, bool y => Ord.compare x y
  | float x, float y => compareFloats x y
  | natural x, natural y => Ord.compare x y
  | integer x, integer y => Ord.compare x.toInt y.toInt
  | pattern x, pattern y => Ord.compare x y
  | a, b => Ord.compare a.rank b.rank

end Expected

/-- A field by its name, with the value expected of it, if any. -/
structure Expectation where
  name : String
  expected : Option Expected

namespace Expectation

/-- The name and the value are before and after the first `=`; nothing counts from a second one
on. -/
def ofText (s : String) : Except Pattern.Objection Expectation :=
  match s.splitOn "=" with
  | name :: value :: _ => (Expected.ofText value).map fun v => ⟨name, some v⟩
  | _ => .ok ⟨s, none⟩

def text (e : Expectation) : String :=
  match e.expected with
  | some v => e.name ++ "=" ++ v.text
  | none => e.name

/-- A field without a value comes first, then the name decides, then the value. -/
def compare (a b : Expectation) : Ordering :=
  match a.expected, b.expected with
  | some x, some y => (Ord.compare a.name b.name).then (x.compare y)
  | some _, none => .gt
  | none, some _ => .lt
  | none, none => Ord.compare a.name b.name

end Expectation

end FlowGauge.Logging
