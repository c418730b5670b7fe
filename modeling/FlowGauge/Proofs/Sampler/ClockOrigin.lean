import FlowGauge.Proofs.Sampler.Run

/-! Only the time between two readings of the clock matters, not where the clock starts.

A clock that is ahead by the same amount throughout changes nothing but the time at which the window
opened. What is asked of the clock is `readings`: as long as those readings can be put ahead without
leaving the word, the two runs come to the same, whatever their order. -/
namespace FlowGauge

/-- The reading of a clock that is ahead. -/
def Instant.ahead (time : Instant) (d : Nat) : Instant :=
  time + UInt64.ofNat d

/-- A clock that is ahead by `d` can show this time. -/
def Instant.Fits (d : Nat) (time : Instant) : Prop :=
  time.toNat + d < UInt64.size

def Answers.ahead (a : Answers) (d : Nat) : Answers :=
  { a with openedAt := a.openedAt.ahead d, checkedAt := a.checkedAt.ahead d }

def Call.ahead (call : Call) (d : Nat) : Call :=
  { call with answers := call.answers.ahead d }

theorem Instant.toNat_ahead {time : Instant} {d : Nat} (fits : time.Fits d) :
    (time.ahead d).toNat = time.toNat + d := by
  unfold Instant.Fits at fits
  have small : d < UInt64.size := by omega
  simp only [ahead, UInt64.toNat_add, UInt64.toNat_ofNat', Nat.mod_eq_of_lt small]
  exact Nat.mod_eq_of_lt fits

/-- Two readings that are ahead alike are as far apart as before, also when the later one is the
smaller. -/
theorem Instant.since_ahead {now start : Instant} {d : Nat} (nowFits : now.Fits d)
    (startFits : start.Fits d) : (now.ahead d).since (start.ahead d) = now.since start := by
  apply UInt64.toNat.inj
  rw [toNat_since, toNat_since, toNat_ahead nowFits, toNat_ahead startFits]
  omega

namespace Sampler

/-- The sampler that a clock ahead by `d` leaves: its window opened that much later. -/
def ahead (s : Sampler) (d : Nat) : Sampler :=
  { s with start := if s.phase = .uninitialized then s.start else s.start.ahead d }

end Sampler

def Outcome.ahead (o : Outcome) (d : Nat) : Outcome :=
  { o with sampler := o.sampler.ahead d }

namespace Sampler

/-- What a call asks the clock for: the time of the opening if it opens the window, and the time of
the check if the window is open by then. -/
def asks (s : Sampler) (call : Call) : List Instant :=
  if s.disabled then []
  else
    match call.callback, s.phase with
    | .input .., .uninitialized =>
      if call.opens s.opener then [call.answers.openedAt, call.answers.checkedAt] else []
    | .input .., .observing => [call.answers.checkedAt]
    | .output _, .observing => [call.answers.checkedAt]
    | _, _ => []

/-- All that a run asks the clock for. -/
def readings (s : Sampler) : List Call → List Instant
  | [] => []
  | call :: rest => s.asks call ++ (s.take call).sampler.readings rest

/-- An open window has been opened at a time that fits. -/
def StartFits (d : Nat) (s : Sampler) : Prop :=
  s.phase ≠ .uninitialized → s.start.Fits d

theorem ahead_unopened {s : Sampler} (unopened : s.phase = .uninitialized) (d : Nat) :
    s.ahead d = s := by
  rw [ahead, if_pos unopened]

theorem ahead_begun {s : Sampler} (begun : s.phase ≠ .uninitialized) (d : Nat) :
    s.ahead d = { s with start := s.start.ahead d } := by
  rw [ahead, if_neg begun]

/-- Closing goes by the time that has passed and not by the time of the opening. -/
theorem close_ahead {s : Sampler} (begun : s.phase ≠ .uninitialized) (d : Nat) (elapsed : Instant)
    (delivery : Except Fault Unit) :
    (s.ahead d).close elapsed delivery = (s.close elapsed delivery).ahead d := by
  rw [ahead_begun begun]
  simp only [close, deliver, Outcome.ahead, finalSummary, closedEvent]
  split
  · rfl
  · split <;> rfl

theorem checkWindow_ahead {s : Sampler} {a : Answers} {d : Nat} (begun : s.phase ≠ .uninitialized)
    (startFits : s.start.Fits d) (checkFits : s.phase = .observing → a.checkedAt.Fits d) :
    (s.ahead d).checkWindow (a.ahead d) = (s.checkWindow a).ahead d := by
  by_cases observing : s.phase = .observing
  · have elapsed : (a.ahead d).checkedAt.since (s.ahead d).start = a.checkedAt.since s.start := by
      rw [ahead_begun begun]
      exact Instant.since_ahead (checkFits observing) startFits
    have due : (s.ahead d).due (a.ahead d).checkedAt = s.due a.checkedAt := by
      unfold due
      rw [elapsed]
    have samePhase : (s.ahead d).phase = s.phase := rfl
    have sameDelivery : (a.ahead d).delivery = a.delivery := rfl
    unfold checkWindow
    rw [samePhase, due, elapsed, sameDelivery, close_ahead begun]
    split <;> rfl
  · have stays {t : Sampler} {b : Answers} (same : t.phase = s.phase) : t.checkWindow b = t.idle :=
      checkWindow_idle fun closes => observing (same ▸ closes.1)
    rw [stays (t := s.ahead d) rfl, stays rfl]
    rfl

theorem openWindow_ahead {s : Sampler} (unopened : s.phase = .uninitialized) (shape : Shape)
    (config : JobConfig) (a : Answers) (d : Nat) :
    s.openWindow shape config (a.ahead d) = (s.openWindow shape config a).ahead d := by
  have sameSink : s.obtainSink config (a.ahead d) = s.obtainSink config a := rfl
  have same : s.ahead d = s := ahead_unopened unopened d
  unfold openWindow
  rw [sameSink]
  split
  · exact congrArg (Outcome.mk _ · _) same.symm
  · split
    · exact congrArg (Outcome.mk _ · _) same.symm
    · rfl

theorem reportInput_ahead {s : Sampler} (shape : Shape) (config : JobConfig) {a : Answers} {d : Nat}
    (fits : ∀ time ∈ s.asks ⟨.input shape config, a⟩, time.Fits d) (startFits : s.StartFits d) :
    (s.ahead d).reportInput shape config (a.ahead d) = (s.reportInput shape config a).ahead d := by
  have samePhase : (s.ahead d).phase = s.phase := rfl
  have sameSwitch : (s.ahead d).disabled = s.disabled := rfl
  unfold reportInput
  rw [samePhase, sameSwitch]
  by_cases off : s.disabled = true
  · rw [if_pos off, if_pos off]
    rfl
  rw [if_neg off, if_neg off]
  by_cases unopened : s.phase = .uninitialized
  · rw [if_pos unopened, if_pos unopened, ahead_unopened unopened, openWindow_ahead unopened]
    cases opens : s.opener.opens config a with
    | false =>
      obtain ⟨fault, refusal⟩ := openWindow_refused opens shape
      rw [refusal]
      rfl
    | true =>
      have both : s.asks ⟨.input shape config, a⟩ = [a.openedAt, a.checkedAt] := by
        simp [asks, off, unopened, Call.opens, opens]
      rw [both] at fits
      obtain ⟨mode, sink, -, -, opening⟩ := openWindow_opens opens shape
      have checked : ((s.opened shape mode sink a.openedAt).ahead d).countInput.checkWindow
            (a.ahead d) =
          ((s.opened shape mode sink a.openedAt).countInput.checkWindow a).ahead d :=
        checkWindow_ahead (s := (s.opened shape mode sink a.openedAt).countInput)
          (by simp [opened, countInput]) (fits a.openedAt (by simp))
          fun _ => fits a.checkedAt (by simp)
      rw [opening]
      simp only [Outcome.ahead, takeInput, checked]
  · rw [if_neg unopened, if_neg unopened]
    refine checkWindow_ahead (s := s.countInput) unopened (startFits unopened) fun observing => ?_
    have once : s.asks ⟨.input shape config, a⟩ = [a.checkedAt] := by
      have observing : s.phase = .observing := observing
      simp [asks, off, observing]
    exact fits a.checkedAt (by simp [once])

theorem reportOutput_ahead {s : Sampler} (shape : Shape) {a : Answers} {d : Nat}
    (fits : ∀ time ∈ s.asks ⟨.output shape, a⟩, time.Fits d) (startFits : s.StartFits d) :
    (s.ahead d).reportOutput shape (a.ahead d) = (s.reportOutput shape a).ahead d := by
  have samePhase : (s.ahead d).phase = s.phase := rfl
  have sameSwitch : (s.ahead d).disabled = s.disabled := rfl
  unfold reportOutput
  rw [samePhase, sameSwitch]
  by_cases ignored : (s.disabled || decide (s.phase = .uninitialized)) = true
  · rw [if_pos ignored, if_pos ignored]
    rfl
  rw [if_neg ignored, if_neg ignored]
  obtain ⟨on, begun⟩ : s.disabled = false ∧ s.phase ≠ .uninitialized := by simpa using ignored
  refine checkWindow_ahead (s := s.countOutput shape) begun (startFits begun) fun observing => ?_
  have once : s.asks ⟨.output shape, a⟩ = [a.checkedAt] := by
    have observing : s.phase = .observing := observing
    simp [asks, on, observing]
  exact fits a.checkedAt (by simp [once])

theorem take_ahead {s : Sampler} {call : Call} {d : Nat}
    (fits : ∀ time ∈ s.asks call, time.Fits d) (startFits : s.StartFits d) :
    (s.ahead d).take (call.ahead d) = (s.take call).ahead d := by
  obtain ⟨callback, a⟩ := call
  have sameSwitch : (s.ahead d).disabled = s.disabled := rfl
  cases callback with
  | input shape config => exact reportInput_ahead shape config fits startFits
  | output shape => exact reportOutput_ahead shape fits startFits
  | join left right matched =>
    simp only [take, step, Call.ahead, reportJoin, sameSwitch]
    split <;> rfl
  | window state =>
    simp only [take, step, Call.ahead, reportWindow, sameSwitch]
    split
    · rfl
    · split <;> rfl
  | disable value => rfl

/-- The window opens at a time that the clock was asked for, and keeps it. -/
theorem course_startFits {s : Sampler} {a : Answers} {c : Callback} {o : Outcome}
    (h : Course s a c o) {d : Nat} (fits : ∀ time ∈ s.asks ⟨c, a⟩, time.Fits d)
    (startFits : s.StartFits d) : o.sampler.StartFits d := by
  by_cases begun : s.phase = .uninitialized
  · cases h with
    | skipped | switched | joined | measured | misreported | early | refused =>
      exact fun opened => absurd begun opened
    | output shape on begun' | input shape config on begun' => exact absurd begun begun'
    | opening shape on unopened opens resolved obtained outcome =>
      subst outcome
      intro _
      have start : ∀ t : Sampler, (t.checkWindow a).sampler.start = t.start := by
        intro t
        obtain same | ⟨-, -, sink, closed, -⟩ := t.checkWindow_sampler a
        · rw [same]
        · rw [closed]
      show (checkWindow _ a).sampler.start.Fits d
      rw [start]
      exact fits a.openedAt (by simp [asks, on, unopened, Call.opens, opens])
  · intro _
    rw [(course_keeps_window h begun).1]
    exact startFits begun

theorem run_ahead {s : Sampler} {run : List Call} {d : Nat}
    (fits : ∀ time ∈ s.readings run, time.Fits d) (startFits : s.StartFits d) :
    (s.ahead d).outcomes (run.map fun call => call.ahead d) =
        (s.outcomes run).map (fun o => o.ahead d) ∧
      (s.ahead d).after (run.map fun call => call.ahead d) = (s.after run).ahead d ∧
      (s.after run).StartFits d := by
  induction run generalizing s with
  | nil => exact ⟨rfl, rfl, startFits⟩
  | cons call rest ih =>
    obtain ⟨now, later⟩ := List.forall_mem_append.mp fits
    obtain ⟨outcomes, last, lastFits⟩ :=
      ih later (course_startFits (s.take_course call) now startFits)
    have next := take_ahead now startFits
    refine ⟨?_, ?_, lastFits⟩
    · rw [List.map_cons, Sampler.outcomes, next, Sampler.outcomes, List.map_cons]
      exact congrArg (_ :: ·) outcomes
    · rw [List.map_cons, after_cons, next, after_cons]
      exact last

/-- **The origin of the clock does not matter.** Put ahead every reading of a run by the same
amount, as far as the word goes: each call returns the same, the same is opened, handed over and
logged, and the sampler is the same except for the time at which its window opened, which is that
amount later. The readings may come in any order. -/
theorem clock_origin_indifferent (kind : NodeKind) (seed : List (String × Scalar))
    (opener : Opener) (run : List Call) (d : Nat)
    (fits : ∀ time ∈ (new kind seed opener).readings run, time.toNat + d < UInt64.size) :
    let fresh := new kind seed opener
    let later := run.map fun call => call.ahead d
    let s := fresh.after run
    let t := fresh.after later
    (fresh.outcomes later).map Outcome.result = (fresh.outcomes run).map Outcome.result ∧
    (fresh.outcomes later).map Outcome.effects = (fresh.outcomes run).map Outcome.effects ∧
    t = { s with start := t.start } ∧
    (s.phase = .uninitialized → t.start = s.start) ∧
    (s.phase ≠ .uninitialized → t.start.toNat = s.start.toNat + d) := by
  intro fresh later s t
  obtain ⟨outcomes, last, lastFits⟩ := run_ahead fits fun begun => absurd rfl begun
  rw [ahead_unopened (s := new kind seed opener) rfl d] at outcomes last
  change t = s.ahead d at last
  refine ⟨?_, ?_, ?_, ?_, ?_⟩
  · rw [show fresh.outcomes later = _ from outcomes, List.map_map]
    rfl
  · rw [show fresh.outcomes later = _ from outcomes, List.map_map]
    rfl
  · rw [last]
    rfl
  · intro unopened
    rw [last, ahead_unopened unopened]
  · intro begun
    rw [last, ahead_begun begun]
    exact Instant.toNat_ahead (lastFits begun)

/-- The clock goes back behind the opening before it closes the window, and the largest reading
leaves room for just the seven nanoseconds. -/
theorem clock_origin_indifferent_of_last_nanosecond :
    let run : List Call :=
      [⟨.input (.tuple 2) .localOnly, .willing 18446744043709551000⟩,
        ⟨.output (.tuple 1), .willing 3⟩, ⟨.disable true, .willing 18446744073709551615⟩,
        ⟨.input .plain .localOnly, .willing 18446744073709551615⟩,
        ⟨.disable false, .willing 18446744073709551615⟩,
        ⟨.output (.tuple 1), .willing 18446744073709551608⟩]
    let fresh := new .filter [("id", .text "node")] .host
    let later := run.map fun call => call.ahead 7
    (∀ time ∈ fresh.readings run, time.toNat + 7 < UInt64.size) ∧
      (fresh.after later).phase = .closed ∧
      (fresh.after later).start = 18446744043709551007 ∧
      (fresh.outcomes later).map Outcome.effects = (fresh.outcomes run).map Outcome.effects := by
  intro run fresh later
  have all : (fresh.readings run).all (fun time => time.toNat + 7 < UInt64.size) = true := by
    subst fresh run
    decide
  have fits : ∀ time ∈ fresh.readings run, time.toNat + 7 < UInt64.size :=
    fun time asked => of_decide_eq_true (List.all_eq_true.mp all time asked)
  have closed : (fresh.after later).phase = .closed := by
    subst fresh later run
    rfl
  have start : (fresh.after later).start = 18446744043709551007 := by
    subst fresh later run
    rfl
  exact ⟨fits, closed, start, (clock_origin_indifferent .filter _ .host run 7 fits).2.1⟩

end Sampler

end FlowGauge
