import FlowGauge.Job.Settings
import FlowGauge.Logging.Directive

/-! Which events a log shows.

A filter is made of the directives between commas. Those without a span and a value are rules for
single events: the most specific rule for an event decides. The others are for what happens inside
of spans. -/
namespace FlowGauge.Logging

/-- The event has to have the field, whatever its value. -/
structure Rule where
  target : Option String
  field : Option String
  limit : Limit
  deriving Repr, DecidableEq

namespace Rule

def text (r : Rule) : String :=
  Directive.text ⟨r.target, none, r.field.map (⟨·, none⟩), r.limit⟩

/-- The more specific one is greater. -/
def compare (a b : Rule) : Ordering :=
  (Ord.compare (a.target.map String.utf8ByteSize) (b.target.map String.utf8ByteSize)).then <|
  (Ord.compare a.field.isSome b.field.isSome).then <|
  (Ord.compare a.target b.target).then (Ord.compare a.field b.field)

def covers (r : Rule) (target : String) (fields : List String) : Bool :=
  r.target.all (target.startsWith ·) && r.field.all fields.contains

end Rule

/-- The rule that a directive makes. -/
def Directive.rule? (d : Directive) : Option Rule :=
  match d.span, d.field with
  | none, none => some ⟨d.target, none, d.limit⟩
  | none, some ⟨name, none⟩ => some ⟨d.target, some name, d.limit⟩
  | _, _ => none

/-- Whether a directive asks for a span or a field. -/
def Directive.isContextual (d : Directive) : Bool :=
  d.span.isSome || d.field.isSome

/-- Puts `a` in order, the greatest first; it takes the place of one that is equal. -/
def place {α : Type} (compare : α → α → Ordering) (a : α) : List α → List α
  | [] => [a]
  | b :: rest =>
    match compare a b with
    | .eq => a :: rest
    | .gt => a :: b :: rest
    | .lt => b :: place compare a rest

def arrange {α : Type} (compare : α → α → Ordering) (as : List α) : List α :=
  as.foldl (fun placed a => place compare a placed) []

structure Filter where
  rules : List Rule
  contextual : List Directive
  /-- No event beyond this level is looked at. -/
  reach : Limit

namespace Filter

def expectsValue (d : Directive) : Bool :=
  d.field.any fun e => e.expected.isSome

/-- To find a value everything has to be looked at. -/
def reachOf (ds : List Directive) : Limit :=
  if ds.any expectsValue then some .trace
  else ds.foldl (fun reach d => reach.looser d.limit) none

/-- The rules of directives that have nothing else come before the others. -/
def ofDirectives (ds : List Directive) : Filter where
  rules :=
    arrange Rule.compare
      ((ds.filter (!·.isContextual) ++ ds.filter (·.isContextual)).filterMap Directive.rule?)
  contextual := arrange Directive.compare (ds.filter (·.isContextual))
  reach := reachOf ds

def parts (s : String) : List String :=
  (s.splitOn ",").filter (· ≠ "")

def errorsOnly : Directive :=
  ⟨none, none, none, some .error⟩

/-- A filter, and what had to be left out of it with the complaint about each. -/
structure Reading where
  filter : Filter
  ignored : List (String × Complaint)

def sound? (s : String) : Option Directive :=
  (Directive.ofText s).toOption

def complaint? (s : String) : Option (String × Complaint) :=
  match Directive.ofText s with
  | .ok _ => none
  | .error e => some (s, e)

/-- Texts that are no directives are left out, and if nothing is left, errors are shown. -/
def lenient (s : String) : Reading :=
  let ds := (parts s).filterMap sound?
  ⟨ofDirectives (if ds.isEmpty then [errorsOnly] else ds), (parts s).filterMap complaint?⟩

/-- No filter at all, if one text is no directive; and without directives nothing is shown. -/
def strict? (s : String) : Option Filter :=
  ((parts s).mapM sound?).map ofDirectives

/-- The environment's filter if there is a sound one, else the configured one. -/
def inUse (c : LoggingConfig) (environment : Option String) : Reading :=
  match environment.bind strict? with
  | some f => ⟨f, []⟩
  | none => lenient c.filterOrDefault

def text (f : Filter) : String :=
  ",".intercalate (f.rules.map Rule.text ++ f.contextual.map Directive.text)

/-- Whether an event outside of every span is shown. -/
def shows (f : Filter) (target : String) (fields : List String) (level : Level) : Bool :=
  match f.rules.find? fun r => r.covers target fields with
  | some r => r.limit.admits level
  | none => false

/-- Whether the values of an event are worked out, to be shown or not. A filter alone goes by their
level. Where something else listens too, `overheard`, each kind of event is judged in advance, and
only what happens inside of spans may still be asked for. -/
def considers (f : Filter) (target : String) (fields : List String) (level : Level)
    (overheard : Bool) : Bool :=
  f.shows target fields level ||
    (if overheard then !f.contextual.isEmpty else f.reach.admits level)

def ignoredLine (text : String) (c : Complaint) : String :=
  "ignoring `" ++ text ++ "`: " ++ c.text

def Reading.lines (r : Reading) : List String :=
  r.ignored.map fun (s, c) => ignoredLine s c

end Filter

end FlowGauge.Logging
