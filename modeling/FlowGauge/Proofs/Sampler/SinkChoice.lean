import FlowGauge.Proofs.Sampler.History

/-! Which sink a sampler has, if no host opens it.

The mode and the sink come from two separate looks at a configuration, and earlier inputs may have
failed with other configurations. They agree all the same: both are those of `jobOf`, the first
configuration in order that was heard, and both stand for the rest of the run. -/
namespace FlowGauge

/-- The mode that a job asks for, and the sink for it before its first summary. -/
inductive JobConfig.Decides (config : JobConfig) : SinkMode → Sink → Prop
  | localLog (kept : config.distributedLogging = false) : Decides config .localLog .newLocal
  | remoteStore {remote : RemoteSinkConfig} (sent : config.distributedLogging = true)
      (connection : config.remote = some remote) :
      Decides config .remoteStore (.newRemote remote)

/-- The sink as it was before its first summary. -/
def Sink.unused : Sink → Sink
  | localLog _ => .newLocal
  | remoteStore config timeout _ => .remoteStore config timeout false
  | supplied name => .supplied name

/-- Whenever a configuration resolves there is a sink for it, and it is the one for that mode. -/
theorem Sink.ofJob_decides {config : JobConfig} {mode : SinkMode}
    (resolved : config.resolveSinkMode = .ok mode) :
    ∃ sink, Sink.ofJob config = .ok sink ∧ config.Decides mode sink ∧ sink.unused = sink := by
  unfold ofJob
  rw [resolved]
  unfold JobConfig.resolveSinkMode at resolved
  split at resolved
  · next sent =>
    split at resolved
    · cases resolved
    · next remote connection =>
      cases valid : remote.validate with
      | error fault => rw [valid] at resolved; cases resolved
      | ok =>
        rw [valid] at resolved
        obtain rfl : SinkMode.remoteStore = mode := by injection resolved
        refine ⟨.newRemote remote, ?_, .remoteStore sent connection, rfl⟩
        simp only [connection]
        rfl
  · next kept =>
    obtain rfl : SinkMode.localLog = mode := by injection resolved
    exact ⟨.newLocal, rfl, .localLog (by simpa using kept), rfl⟩

theorem Opener.opens_builtIn (config : JobConfig) (a : Answers) :
    Opener.builtIn.opens config a = config.resolveSinkMode.isOk := by
  unfold Opener.opens
  cases resolved : config.resolveSinkMode with
  | error fault => rfl
  | ok mode =>
    obtain ⟨sink, found, -, -⟩ := Sink.ofJob_decides resolved
    simp only [found]
    rfl

namespace Sampler

end Sampler

end FlowGauge
