import FlowGauge.Job.Config
import FlowGauge.LogEvent
import FlowGauge.Summary

namespace FlowGauge

/-- A length of time in nanoseconds. -/
abbrev Duration := Nat

namespace Duration

/-- The fraction without its trailing zeros. -/
def fraction (part whole : Nat) : String :=
  if part = 0 then ""
  else
    let digits := (Nat.toDigits 10 (part + whole)).drop 1
    "." ++ String.ofList (digits.reverse.dropWhile (· = '0')).reverse

/-- In the largest unit of which there is at least one; `unit` nanoseconds make one of it. -/
def inUnit (d : Duration) (unit : Nat) (name : String) : String :=
  toString (d / unit) ++ fraction (d % unit) unit ++ name

def describe (d : Duration) : String :=
  if 1000000000 ≤ d then inUnit d 1000000000 "s"
  else if 1000000 ≤ d then inUnit d 1000000 "ms"
  else if 1000 ≤ d then inUnit d 1000 "µs"
  else inUnit d 1 "ns"

end Duration

/-- The built-in sinks, and one that the host supplies. -/
inductive Sink where
  | localLog (emitted : Nat)
  | remoteStore (config : RemoteSinkConfig) (timeout : Duration) (connected : Bool)
  | supplied (name : String)
  deriving Repr, DecidableEq

/-- What a sampler does beside changing itself. -/
inductive Effect where
  | openerCalled (config : JobConfig)
  | emitted (sink : Sink) (summary : Summary)
  | logged (event : LogEvent)

namespace Sink

def newLocal : Sink :=
  localLog 0

def defaultTimeout : Duration := 10000000000

def newRemote (config : RemoteSinkConfig) : Sink :=
  remoteStore config defaultTimeout false

def name : Sink → String
  | localLog _ => "local"
  | remoteStore .. => "remote"
  | supplied name => name

/-- The sink that a job asks for. -/
def ofJob (c : JobConfig) : Except Fault Sink := do
  match ← c.resolveSinkMode with
  | .localLog => return newLocal
  | .remoteStore =>
    match c.remote with
    | some remote => return newRemote remote
    | none => throw (.config "remote sink parameters missing")

def mode? : Sink → Option SinkMode
  | localLog _ => some .localLog
  | remoteStore .. => some .remoteStore
  | supplied _ => none

/-- The line that a summary makes in the local log. -/
def line (s : Summary) : LogEvent where
  level := .info
  target := .observation
  message := s.json.render
  fields := []

structure Emission where
  result : Except Fault Unit
  sink : Sink
  effects : List Effect

/-- The local log never refuses a summary; the other sinks answer `delivery`. A store is connected
to by the first summary. -/
def emit (sink : Sink) (s : Summary) (delivery : Except Fault Unit) : Emission :=
  match sink with
  | localLog n => ⟨.ok (), localLog (n + 1), [.emitted sink s, .logged (line s)]⟩
  | remoteStore config timeout _ =>
    ⟨delivery, remoteStore config timeout true, [.emitted sink s]⟩
  | supplied _ => ⟨delivery, sink, [.emitted sink s]⟩

/-- Told before the first summary, so a client is never shown. -/
def describe : Sink → String
  | localLog n => "LocalLogSink \x7b emitted: " ++ toString n ++ " \x7d"
  | remoteStore config timeout _ =>
    "RemoteDocumentSink \x7b config: " ++ config.describe ++ ", timeout: " ++ timeout.describe ++
      ", client: None \x7d"
  | supplied name => name

end Sink

end FlowGauge
