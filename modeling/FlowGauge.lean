import FlowGauge.Job.Parameters
import FlowGauge.Json.Decode
import FlowGauge.Main
import FlowGauge.Proofs.Sampler.Account
import FlowGauge.Proofs.Sampler.Finality
import FlowGauge.Proofs.Stage.Transparency
import FlowGauge.Proofs.Stage.Push
import FlowGauge.Sampler.Shared
import FlowGauge.Stage.Rehearsal
import FlowGauge.Proofs.Sampler.Opening
import FlowGauge.Proofs.Sampler.Events
import FlowGauge.Proofs.Sampler.Disabled
import FlowGauge.Proofs.Shared.Handles
import FlowGauge.Proofs.Shared.Interleaving
import FlowGauge.Proofs.Sampler.Noninterference
import FlowGauge.Proofs.Sampler.ClockOrigin
import FlowGauge.Proofs.Sampler.SinkChoice
import FlowGauge.Proofs.Decimal.Rounding
import FlowGauge.Proofs.Decimal.Shortest
import FlowGauge.Proofs.Json.Scaling
import FlowGauge.Proofs.Json.Text
import FlowGauge.Proofs.Json.Numeral
import FlowGauge.Proofs.Json.FloatText
import FlowGauge.Proofs.Decimal.Binary
import FlowGauge.Proofs.Json.Reading
import FlowGauge.Proofs.Summary.Order
import FlowGauge.Proofs.Summary.Views
import FlowGauge.Proofs.Sampler.Closing
import FlowGauge.Proofs.Clock.Monotone
import FlowGauge.Proofs.Document.Record
import FlowGauge.Proofs.Job.RoundTrip
import FlowGauge.Proofs.Sampler.Schema
import FlowGauge.Proofs.Text.Blank
import FlowGauge.Proofs.Text.Natural
import FlowGauge.Proofs.Job.Parameters
import FlowGauge.Proofs.Job.Resolution
import FlowGauge.Proofs.Document.Pared
import FlowGauge.Proofs.Job.Password
import FlowGauge.Proofs.Toml.Tidy
import FlowGauge.Proofs.Job.Schema
import FlowGauge.Proofs.Job.Settings
import FlowGauge.Proofs.Sampler.Auxiliary
import FlowGauge.Proofs.Sampler.Counting
import FlowGauge.Proofs.Stage.Transcript
import FlowGauge.Proofs.Stage.FilterCounts
import FlowGauge.Proofs.Stage.WindowCounts
import FlowGauge.Proofs.Job.Endpoint
import FlowGauge.Proofs.Json.OneLine
import FlowGauge.Proofs.Sink.LocalLog
import FlowGauge.Proofs.Json.ScalarText
import FlowGauge.Proofs.Sampler.WindowReports
import FlowGauge.Proofs.Text.Utf8
import FlowGauge.Proofs.Summary.Seed
import FlowGauge.Proofs.Clock.Groups
import FlowGauge.Proofs.Fault.Context
import FlowGauge.Proofs.Shape.Width
