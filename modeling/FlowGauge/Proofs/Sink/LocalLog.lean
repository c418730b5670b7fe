import FlowGauge.Proofs.Json.OneLine
import FlowGauge.Proofs.Json.Reading
import FlowGauge.Sink

/-! The local log takes every summary, and each becomes one line that tells it whole. -/
namespace FlowGauge
open Document Json

/-- A summary that is handed over, and what the surroundings say to it if they are asked. -/
structure Handing where
  summary : Summary
  delivery : Except Fault Unit

/-- The events that a host's log receives. -/
def loggedEvents (effects : List Effect) : List LogEvent :=
  effects.filterMap fun
    | .logged event => some event
    | _ => none

/-- A line of the observation log that tells of this summary: there is no break in it, and it is
read as an object with the entries of the summary. -/
structure Tells (event : LogEvent) (s : Summary) : Prop where
  level : event.level = .info
  target : event.target = .observation
  bare : event.fields = []
  unbroken : NoControls event.message.toList
  read_back : ∃ fields, Json.read event.message = ⟨.table fields, true⟩ ∧ FieldsOf s.entries fields

namespace Sink

/-- The summary has been taken, and exactly one event tells of it. -/
structure Logged (h : Handing) (e : Emission) : Prop where
  taken : e.result = .ok ()
  one_line : ∃ event, loggedEvents e.effects = [event] ∧ Tells event h.summary

/-- What comes of handing over one summary after the other. -/
def emissions (sink : Sink) : List Handing → List Emission
  | [] => []
  | h :: rest =>
    let emission := sink.emit h.summary h.delivery
    emission :: emission.sink.emissions rest

theorem line_tells (s : Summary) : Tells (line s) s where
  level := rfl
  target := rfl
  bare := rfl
  unbroken := by
    rw [line, render, String.toList_ofList]
    exact noControls_written s.json
  read_back := read_object s.entries

/-- The log answers for itself, whatever the surroundings would have said. -/
theorem emit_localLog (n : Nat) (s : Summary) (delivery : Except Fault Unit) :
    (localLog n).emit s delivery =
      ⟨.ok (), localLog (n + 1), [.emitted (localLog n) s, .logged (line s)]⟩ :=
  rfl

theorem sinks_localLog (n : Nat) (handed : List Handing) :
    ((localLog n).emissions handed).map Emission.sink =
      (List.range' (n + 1) handed.length).map localLog := by
  induction handed generalizing n with
  | nil => rfl
  | cons h rest ih =>
    rw [emissions, emit_localLog, List.map_cons, ih, List.length_cons, List.range'_succ,
      List.map_cons]

theorem logged_localLog (n : Nat) (handed : List Handing) :
    List.Forall₂ Logged handed ((localLog n).emissions handed) := by
  induction handed generalizing n with
  | nil => exact .nil
  | cons h rest ih =>
    rw [emissions, emit_localLog]
    have logged : Logged h ⟨.ok (), localLog (n + 1), [.emitted (localLog n) h.summary,
        .logged (line h.summary)]⟩ := ⟨rfl, line h.summary, rfl, line_tells h.summary⟩
    exact .cons logged (ih (n + 1))

/-- **One line for each summary.** Whatever summaries are handed to a new local log, each is taken
and makes exactly one event: an unbroken line that tells it. The log counts them one by one. -/
theorem local_log_one_line_each (handed : List Handing) :
    let emissions := newLocal.emissions handed
    List.Forall₂ Logged handed emissions ∧
    emissions.map Emission.sink = (List.range' 1 handed.length).map localLog := by
  intro emissions
  exact ⟨logged_localLog 0 handed, sinks_localLog 0 handed⟩

end Sink

end FlowGauge
