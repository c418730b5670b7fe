import FlowGauge.Job.Config

namespace FlowGauge

structure LoggingConfig where
  /-- Which events are shown, unless the environment says so. -/
  filter : Option String
  /-- Where the observation log is kept. -/
  observationDir : Option String
  deriving Repr, DecidableEq

structure MonitorConfig where
  job : JobConfig
  logging : LoggingConfig
  deriving Repr, DecidableEq

namespace LoggingConfig

def default : LoggingConfig :=
  ⟨none, none⟩

def defaultFilter : String := "info,stream_monitor=debug"

def filterOrDefault (c : LoggingConfig) : String :=
  c.filter.getD defaultFilter

end LoggingConfig

def MonitorConfig.default : MonitorConfig :=
  ⟨JobConfig.localOnly, LoggingConfig.default⟩

end FlowGauge
