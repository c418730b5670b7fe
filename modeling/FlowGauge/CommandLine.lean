import FlowGauge.Demo
import FlowGauge.Job.Load
import FlowGauge.Logging.Filter
import FlowGauge.Text.Natural

namespace FlowGauge.CommandLine

structure Plan where
  config : MonitorConfig
  seconds : Nat

/-- The window and a little more. -/
def defaultSeconds : Nat := 35

def seconds? (text : String) : Option Nat :=
  Text.naturalUpTo? (UInt64.size - 1) text.toList

def plan (args : List String) (content : String → FileContent) : Except String Plan := do
  let config ←
    match args with
    | [] => pure MonitorConfig.default
    | path :: _ =>
      match MonitorConfig.ofFile path (content path) with
      | .ok c => pure c
      | .error _ => throw ("loading monitor config from " ++ path)
  match args[1]? with
  | none => return ⟨config, defaultSeconds⟩
  | some text =>
    match seconds? text with
    | some n => return ⟨config, n⟩
    | none => throw "parsing run-seconds"

/-- The target of the events of the command itself. -/
def target : String := "stream_monitor"

def startLine (mode : SinkMode) (seconds : Nat) : String :=
  "Starting stream-monitor demo pipeline mode=" ++ mode.display ++
    " run_for_s=" ++ toString seconds

def finishLine (windows : Nat) : String :=
  "Demo pipeline finished windows=" ++ toString windows

/-- Every event has a field for its message. -/
def startFields : List String :=
  ["message", "mode", "run_for_s"]

def finishFields : List String :=
  ["message", "windows"]

/-- How a command ends: its failure if there is one, the lines it showed at the level of
information, and what it had to complain about before. -/
structure Ending where
  failure : Option String
  lines : List String
  complaints : List String
  deriving Repr, DecidableEq

def Ending.code (e : Ending) : Nat :=
  if e.failure.isSome then 1 else 0

/-- What is shown as errors: the complaints, and the failure last. -/
def Ending.errorLines (e : Ending) : List String :=
  e.complaints ++ (e.failure.map ("Error: " ++ ·)).toList

def reading (p : Plan) (environment : Option String) : Logging.Filter.Reading :=
  Logging.Filter.inUse p.config.logging environment

/-- Whether the line at the start is shown. -/
def showsStart (p : Plan) (environment : Option String) : Bool :=
  (reading p environment).filter.shows target startFields .info

def showsFinish (p : Plan) (environment : Option String) : Bool :=
  (reading p environment).filter.shows target finishFields .info

/-- Whether the mode has to be worked out. An observation log listens to everything. -/
def considersStart (p : Plan) (environment : Option String) : Bool :=
  (reading p environment).filter.considers target startFields .info
    p.config.logging.observationDir.isSome

def startLines (p : Plan) (environment : Option String) (mode : SinkMode) : List String :=
  if showsStart p environment then [startLine mode p.seconds] else []

/-- What is shown before the pipeline runs; `obstacle` is what kept the log's directory from being
made. -/
def opening (p : Plan) (environment : Option String) (obstacle : Option Logging.DiskFault) :
    Ending :=
  let complaints := (reading p environment).lines
  match p.config.logging.observationDir, obstacle with
  | some dir, some fault => ⟨some (Logging.creationFault dir fault).text, [], complaints⟩
  | _, _ =>
    if considersStart p environment then
      match p.config.job.resolveSinkMode with
      | .error e => ⟨some e.text, [], complaints⟩
      | .ok mode => ⟨none, startLines p environment mode, complaints⟩
    else ⟨none, [], complaints⟩

/-- The end of the command after the pipeline has run. -/
def finish (p : Plan) (environment : Option String) (begun : Ending)
    (run : Except Demo.Failure Demo.Pipeline) : Ending :=
  match run with
  | .error e => { begun with failure := some e.text }
  | .ok pipeline =>
    if showsFinish p environment then
      { begun with lines := begun.lines ++ [finishLine pipeline.drained] }
    else begun

/-- A run of no time: the source has put out one measurement when it is stopped. -/
def momentary (p : Plan) : Except Demo.Failure Demo.Pipeline :=
  Demo.feed (Demo.host (.ok ())) 0 (Demo.pipeline p.config.job) 0

/-- The disk after the directory of the log has been asked for, and what was in the way. -/
def openLog (p : Plan) (disk : Logging.Disk) : Option Logging.DiskFault × Logging.Disk :=
  match p.config.logging.observationDir with
  | none => (none, disk)
  | some dir => disk.openLog dir "today"

/-- The whole command, for a run of no time. -/
def run (args : List String) (content : String → FileContent) (disk : Logging.Disk)
    (environment : Option String) : Ending × Logging.Disk :=
  match plan args content with
  | .error e => (⟨some e, [], []⟩, disk)
  | .ok p =>
    let (obstacle, disk) := openLog p disk
    let begun := opening p environment obstacle
    (if begun.failure.isSome then begun else finish p environment begun (momentary p), disk)

end FlowGauge.CommandLine
