import FlowGauge.Logging.Expectation
import FlowGauge.Logging.Limit
import FlowGauge.Text.Blank

/-! One directive of a filter: a target, a span with a field in brackets, and a level after an equals
sign. Each of them may be missing. -/
namespace FlowGauge.Logging

structure Directive where
  target : Option String
  /-- The span that an event has to be in. -/
  span : Option String
  field : Option Expectation
  limit : Limit

/-- Why a text is no directive. -/
inductive Complaint where
  | form
  | level
  | pattern (o : Pattern.Objection)
  deriving Repr, DecidableEq

def Complaint.text : Complaint → String
  | form => "invalid filter directive"
  | level =>
    "error parsing level filter: expected one of \"off\", \"error\", \"warn\", \"info\", \"debug\", " ++
      "\"trace\", or a number 0-5"
  | pattern o => "invalid field filter: " ++ o.text

/-- Places in a text are counted in bytes. -/
def bytes (cs : List Char) : Nat :=
  cs.foldl (fun n c => n + c.utf8Size) 0

/-- What follows the first `n` bytes, if they are whole characters. -/
def after? (n : Nat) (cs : List Char) : Option (List Char) :=
  if n = 0 then some cs
  else
    match cs with
    | [] => none
    | c :: cs => if c.utf8Size ≤ n then after? (n - c.utf8Size) cs else none

def upTo? (n : Nat) (cs : List Char) : Option (List Char) :=
  (after? n cs).map fun rest => cs.take (cs.length - rest.length)

namespace Directive

/-- Lets everything through. -/
def everything : Directive :=
  ⟨none, none, none, some .trace⟩

/-- From one place up to another. -/
def part (cs : List Char) (start stop : Nat) : Except Complaint String :=
  match (after? start cs).bind (upTo? (stop - start)) with
  | some cs => .ok (String.ofList cs)
  | none => .error .form

def partFrom (cs : List Char) (start : Nat) : Except Complaint String :=
  part cs start (bytes cs)

def limitOf (s : String) : Except Complaint Limit :=
  match Limit.ofText? s with
  | some l => .ok l
  | none => .error .level

/-- The level after an equals sign; without one everything is let through. `place` is that of
`rest`. -/
def withLevel (d : Directive) (cs rest : List Char) (place : Nat) : Except Complaint Directive :=
  match rest with
  | [] => .ok d
  | '=' :: _ => do
    let s ← partFrom cs (place + 1)
    if s = "" then return d else return { d with limit := ← limitOf s }
  | _ => .error .form

def expectation (s : String) : Except Complaint Expectation :=
  if s = "" then .error .form
  else
    (Expectation.ofText s).mapError .pattern

/-- The field between braces, and what comes after it. -/
def withField (d : Directive) (cs rest : List Char) (place : Nat) : Except Complaint Directive :=
  let stop := place + bytes (rest.takeWhile (· ≠ '\x7d'))
  match rest.dropWhile (· ≠ '\x7d') with
  | [] => .error .form
  | _ :: rest => do
    let d := { d with field := some (← expectation (← part cs place stop)) }
    match rest with
    | ']' :: rest => withLevel d cs rest (stop + 2)
    | _ => .error .form

/-- The name of a span; before a field it may be empty, and then there is none. -/
def withSpan (d : Directive) (cs rest : List Char) (place : Nat) : Except Complaint Directive :=
  let ends (c : Char) : Bool := c = ']' || c = '\x7b'
  let stop := place + bytes (rest.takeWhile (!ends ·))
  match rest.dropWhile (!ends ·) with
  | ']' :: rest => do
    withLevel { d with span := some (← part cs place stop) } cs rest (stop + 1)
  | _ :: rest => do
    let name ← part cs place stop
    withField { d with span := if name = "" then none else some name } cs rest (stop + 1)
  | [] => .error .form

def startsTarget (c : Char) : Bool :=
  c = '-' || c = '_' || c = ':' || Text.Alphanumeric.isAlphanumeric c

/-- A word alone is a level if there is one of that name, and otherwise a target. -/
def ofWord (s : String) : Directive :=
  match Limit.ofText? s with
  | some l => { everything with limit := l }
  | none => { everything with target := some s }

/-- The parts are found in the text without the blanks at its ends, but they are cut out of the
whole text at the same places. -/
def ofText (s : String) : Except Complaint Directive :=
  let cs := s.toList
  match Text.trimmed cs with
  | [] => .error .form
  | '[' :: rest => withSpan everything cs rest 1
  | c :: rest =>
    if startsTarget c then
      let ends (c : Char) : Bool := c = '=' || c = '['
      let text := c :: rest
      let stop := bytes (text.takeWhile (!ends ·))
      match text.dropWhile (!ends ·) with
      | [] => .ok (ofWord s)
      | '[' :: rest => do
        withSpan { everything with target := some (← part cs 0 stop) } cs rest (stop + 1)
      | rest => do withLevel { everything with target := some (← part cs 0 stop) } cs rest stop
    else .error .form

/-- A level after what it is for. -/
def levelText (subject : String) (limit : Limit) : String :=
  if subject = "" then limit.name else subject ++ "=" ++ limit.name

/-- The part between brackets. -/
def scopeText (d : Directive) : String :=
  match d.span, d.field with
  | none, none => ""
  | span, field =>
    "[" ++ span.getD "" ++ ((field.map fun e => "\x7b" ++ e.text ++ "\x7d").getD "") ++ "]"

def text (d : Directive) : String :=
  match d.target with
  | none => levelText d.scopeText d.limit
  | some t => t ++ d.scopeText ++ "=" ++ d.limit.name

def compareFields : Option Expectation → Option Expectation → Ordering
  | none, none => .eq
  | none, some _ => .lt
  | some _, none => .gt
  | some a, some b => a.compare b

/-- The more specific one is greater: first by the length of the target, then by what it has. -/
def compare (a b : Directive) : Ordering :=
  (Ord.compare (a.target.map String.utf8ByteSize) (b.target.map String.utf8ByteSize)).then <|
  (Ord.compare a.span.isSome b.span.isSome).then <|
  (Ord.compare a.field.isSome b.field.isSome).then <|
  (Ord.compare a.target b.target).then <|
  (Ord.compare a.span b.span).then (compareFields a.field b.field)

end Directive

end FlowGauge.Logging
