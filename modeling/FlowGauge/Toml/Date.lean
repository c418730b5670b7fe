import FlowGauge.Json.Number
import FlowGauge.Toml.Number

/-! Dates and times in TOML: only whether a text is one, and where it ends. -/
namespace FlowGauge.Toml
open Text (isDecimalDigit decimalValue)

/-- The number of exactly `count` digits. -/
def exactly? (count : Nat) (cs : List Char) : Option (Front Nat) :=
  let ds := cs.take count
  if ds.length = count ∧ ds.all isDecimalDigit then some (decimalValue ds, cs.drop count) else none

def isLeap (year : Nat) : Bool :=
  year % 4 = 0 && (year % 100 ≠ 0 || year % 400 = 0)

def daysIn (year month : Nat) : Nat :=
  if month = 2 then if isLeap year then 29 else 28
  else if month = 4 ∨ month = 6 ∨ month = 9 ∨ month = 11 then 30
  else 31

/-- The text after a date. -/
def date? (cs : List Char) : Option (List Char) := do
  let (year, cs) ← exactly? 4 cs
  let cs ← expect '-' cs
  let (month, cs) ← exactly? 2 cs
  guard (1 ≤ month ∧ month ≤ 12)
  let cs ← expect '-' cs
  let (day, cs) ← exactly? 2 cs
  guard (1 ≤ day ∧ day ≤ daysIn year month)
  return cs

def hourMinute? (cs : List Char) : Option (List Char) := do
  let (hour, cs) ← exactly? 2 cs
  guard (hour ≤ 23)
  let cs ← expect ':' cs
  let (minute, cs) ← exactly? 2 cs
  guard (minute ≤ 59)
  return cs

/-- A minute may have a leap second. -/
def time? (cs : List Char) : Option (List Char) := do
  let cs ← hourMinute? cs
  let cs ← expect ':' cs
  let (second, cs) ← exactly? 2 cs
  guard (second ≤ 60)
  match cs with
  | '.' :: cs => do
    let (_, cs) ← Json.digits? cs
    return cs
  | cs => return cs

def offset? : List Char → Option (List Char)
  | 'Z' :: cs => some cs
  | 'z' :: cs => some cs
  | '+' :: cs => hourMinute? cs
  | '-' :: cs => hourMinute? cs
  | _ => none

/-- What may follow a date: a time, and after that an offset. -/
def timeOfDay (cs : List Char) : List Char :=
  match cs with
  | c :: rest =>
    if c = 'T' ∨ c = 't' ∨ c = ' ' then
      match time? rest with
      | some rest => (offset? rest).getD rest
      | none => cs
    else cs
  | [] => []

def dateTime? (cs : List Char) : Option (List Char) :=
  match date? cs with
  | some cs => some (timeOfDay cs)
  | none => time? cs

end FlowGauge.Toml
