import FlowGauge.CommandLine

namespace FlowGauge.Main
open CommandLine

def contentOf (path : String) : IO FileContent := do
  try
    return .bytes (← IO.FS.readBinFile path)
  catch
    | .noFileOrDirectory .. => return .unreadable .notFound
    | _ => return .unreadable .isDirectory

/-- Makes the directory of the log and opens the file. -/
def makeDirectory (dir : String) : IO (Option Logging.DiskFault) := do
  try
    IO.FS.createDirAll dir
    let _ ← IO.FS.Handle.mk (dir ++ "/" ++ Logging.logFile "today") .append
    return none
  catch _ => return some .occupied

def now : IO Instant := do
  return (← IO.monoNanosNow).toUInt64

/-- Feeds the pipeline a measurement each millisecond until the time is over, and one at least. -/
def work (p : Plan) : IO (Except Demo.Failure Demo.Pipeline) := do
  let start ← now
  let mut run := momentary p
  let mut sequence : UInt64 := 1
  while ((← now).since start).toNat < p.seconds * 1000000000 do
    match run with
    | .error e => return .error e
    | .ok pipeline => run := Demo.feed (Demo.host (.ok ())) (← now) pipeline sequence
    sequence := sequence + 1
    IO.sleep 1
  return run

def conclude (e : Ending) : IO UInt32 := do
  for line in e.errorLines do
    IO.eprintln line
  return e.code.toUInt32

end FlowGauge.Main

open FlowGauge FlowGauge.CommandLine in
def main (args : List String) : IO UInt32 := do
  let content ← match args with
    | path :: _ => Main.contentOf path
    | [] => pure (.unreadable .notFound)
  let environment ← IO.getEnv "RUST_LOG"
  match plan args fun _ => content with
  | .error e => Main.conclude ⟨some e, [], []⟩
  | .ok p =>
    let obstacle ← match p.config.logging.observationDir with
      | some dir => Main.makeDirectory dir
      | none => pure none
    let begun := opening p environment obstacle
    for line in begun.lines do
      IO.println line
    if begun.failure.isSome then Main.conclude begun
    else
      let ending := finish p environment begun (← Main.work p)
      for line in ending.lines.drop begun.lines.length do
        IO.println line
      Main.conclude ending
