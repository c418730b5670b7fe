import FlowGauge.Proofs.Sampler.Counting
import FlowGauge.Proofs.Stage.Push
import FlowGauge.Proofs.Stage.Transparency

/-! The calls that a stage makes of its sampler while it is fed, and what they add up to.

A predictable operator reports the same of an element whoever watches. So the calls are known from
the moves, and what holds along every run of a sampler holds of the sampler of a stage. -/
namespace FlowGauge

namespace Hosted
variable {σ : Type} (host : Host σ) (h : Hosted σ)

theorem hear_append (a b : List Callback) :
    h.hear host (a ++ b) = (h.hear host a).hear host b :=
  List.foldl_append

theorem sampler_hear (callbacks : List Callback) :
    (h.hear host callbacks).sampler = h.sampler.after (h.calls host callbacks) := by
  induction callbacks generalizing h with
  | nil => rfl
  | cons c rest ih => exact ih (h.report host c).2

/-- The first calls are those of the first callbacks. -/
theorem calls_prefix {callbacks : List Callback} {earlier : List Call}
    (first : earlier <+: h.calls host callbacks) :
    ∃ heard, heard <+: callbacks ∧ earlier = h.calls host heard := by
  induction callbacks generalizing h earlier with
  | nil => exact ⟨[], List.nil_prefix, List.prefix_nil.mp first⟩
  | cons c rest ih =>
    rcases List.prefix_cons_iff.mp first with rfl | ⟨later, rfl, among⟩
    · exact ⟨[], List.nil_prefix, rfl⟩
    · obtain ⟨heard, short, rfl⟩ := ih _ among
      exact ⟨c :: heard, List.cons_prefix_cons.mpr ⟨rfl, short⟩, rfl⟩

theorem hear_reports {callbacks : List Callback} (reports : ∀ c ∈ callbacks, c.switch? = none) :
    (h.hear host callbacks).sampler.disabled = h.sampler.disabled := by
  induction callbacks generalizing h with
  | nil => rfl
  | cons c rest ih =>
    obtain ⟨here, later⟩ := List.forall_mem_cons.mp reports
    have step := Sampler.course_disabled (h.sampler.take_course ⟨c, host.answers h.around⟩)
    rw [here, Option.getD_none] at step
    exact (ih _ later).trans step

theorem hear_follows {callbacks : List Callback} (follows : ∀ c ∈ callbacks, c.follows = true) :
    let last := (h.hear host callbacks).sampler
    last.inputs = h.sampler.inputs ∧ last.counting = h.sampler.counting ∧
      last.outputs = h.sampler.outputs +
        if h.sampler.counting then callbacks.countP Callback.isOutput else 0 := by
  induction callbacks generalizing h with
  | nil => simp [hear]
  | cons c rest ih =>
    obtain ⟨here, later⟩ := List.forall_mem_cons.mp follows
    have course := h.sampler.take_course ⟨c, host.answers h.around⟩
    obtain ⟨inputs, counting, outputs⟩ := Sampler.course_follows course here
    obtain ⟨inputs', counting', outputs'⟩ := ih (h.report host c).2 later
    refine ⟨inputs'.trans inputs, counting'.trans counting, outputs'.trans ?_⟩
    rw [show (h.report host c).2.sampler.counting = _ from counting,
      show (h.report host c).2.sampler.outputs = _ from outputs, List.countP_cons]
    by_cases counted : h.sampler.counting = true
    · simp only [counted, Bool.true_and, ↓reduceIte]
      omega
    · simp [counted]

/-- What is reported of one element is counted, or none of it is. -/
theorem hear_element (shape : Shape) (config : JobConfig) {later : List Callback}
    (follows : ∀ c ∈ later, c.follows = true) :
    let last := (h.hear host (.input shape config :: later)).sampler
    last.inputs = h.sampler.inputs + (if last.counting then 1 else 0) ∧
      last.outputs =
        h.sampler.outputs + if last.counting then later.countP Callback.isOutput else 0 := by
  intro last
  let read := (h.report host (.input shape config)).2
  have course := h.sampler.take_course ⟨.input shape config, host.answers h.around⟩
  obtain ⟨inputs, outputs⟩ := Sampler.course_input course
  obtain ⟨inputs', counting, outputs'⟩ := read.hear_follows host follows
  have same : last.counting = read.sampler.counting := counting
  rw [same]
  exact ⟨inputs'.trans inputs, outputs'.trans (congrArg (· + _) outputs)⟩

end Hosted

section Predictable
variable {ω α β σ : Type} [Operator ω α β]

/-- An operator that makes of an element what `bare` does and reports of it what `own` says, joins
and windows only, whoever watches. -/
structure Predictable (bare : ω → α → ω × List β) (own : ω → α → List Callback) : Prop where
  unaffected : Unaffected bare
  reports : ∀ (σ : Type) (host : Host σ) (operator : ω) (element : α) (hosted : Hosted σ),
    (Operator.process host operator element hosted).hosted =
      hosted.hear host (own operator element)
  auxiliary : ∀ (operator : ω) (element : α), ∀ c ∈ own operator element, c.isAuxiliary = true

/-- Between two elements nothing is called but the switch. -/
def Switched (moves : List (Move α σ)) : Prop :=
  ∀ c, .callback c ∈ moves → ∃ value, c = .disable value

theorem Switched.tail {move : Move α σ} {rest : List (Move α σ)}
    (between : Switched (move :: rest)) : Switched rest := by
  intro c member
  exact between c (.tail _ member)

variable [Shaped β]

/-- What is reported after an element itself: what the operator has to say, and its outputs. -/
def following (bare : ω → α → ω × List β) (own : ω → α → List Callback) (operator : ω)
    (element : α) : List Callback :=
  own operator element ++ (bare operator element).2.map fun b => .output (Shaped.shape b)

namespace Predictable
variable {bare : ω → α → ω × List β} {own : ω → α → List Callback}

theorem follows (predictable : Predictable bare own) (operator : ω) (element : α) :
    ∀ c ∈ following bare own operator element, c.follows = true := by
  intro c member
  rcases List.mem_append.mp member with mine | output
  · simp [Callback.follows, predictable.auxiliary operator element c mine]
  · obtain ⟨b, -, rfl⟩ := List.mem_map.mp output
    rfl

theorem countP_following (predictable : Predictable bare own) (operator : ω) (element : α) :
    (following bare own operator element).countP Callback.isOutput =
      (bare operator element).2.length := by
  have none : (own operator element).countP Callback.isOutput = 0 := by
    rw [List.countP_eq_zero]
    intro c mine output
    have auxiliary := predictable.auxiliary operator element c mine
    cases c <;> simp_all [Callback.isOutput, Callback.isAuxiliary]
  rw [following, List.countP_append, none, List.countP_map, Nat.zero_add]
  exact congrFun List.countP_true _

end Predictable

namespace Stage
variable [Shaped α]

/-- Each element goes through while the sampler is on, and the first that comes opens the window. -/
structure Watched (host : Host σ) (stage : Stage ω σ) (moves : List (Move α σ)) : Prop where
  on : .callback (.disable true) ∉ moves
  opens : ∀ before element later, moves = before ++ .push element :: later → elements before = [] →
    (stage.feed host [] (before ++ [.push element])).1.hosted.sampler.phase ≠ .uninitialized

/-- The calls made of the sampler, by the stage and from outside. -/
def transcript (bare : ω → α → ω × List β) (own : ω → α → List Callback) (host : Host σ)
    (stage : Stage ω σ) : List (Move α σ) → List Call
  | [] => []
  | .push element :: rest =>
    stage.hosted.calls host
        (.input (Shaped.shape element) stage.config :: following bare own stage.operator element) ++
      transcript bare own host (stage.push host element []).stage rest
  | .callback c :: rest =>
    stage.hosted.calls host [c] ++ transcript bare own host (stage.report host c).2 rest
  | .surround around :: rest =>
    transcript bare own host { stage with hosted := { stage.hosted with around := around } } rest

variable {bare : ω → α → ω × List β} {own : ω → α → List Callback}

theorem push_hears (predictable : Predictable bare own) (host : Host σ) (stage : Stage ω σ)
    (element : α) (out : List β) :
    (stage.push host element out).stage.hosted =
      stage.hosted.hear host (.input (Shaped.shape element) stage.config ::
        following bare own stage.operator element) := by
  let read := (stage.hosted.report host (.input (Shaped.shape element) stage.config)).2
  let done := Operator.process host stage.operator element read
  obtain ⟨succeeds, -, produced⟩ := predictable.unaffected σ host stage.operator element read
  have reports : done.hosted = read.hear host (own stage.operator element) :=
    predictable.reports σ host stage.operator element read
  have pushed : (stage.push host element out).stage.hosted =
      done.hosted.hear host (done.produced.map fun b => .output (Shaped.shape b)) := by
    simp only [push, reportOutputs_eq]
    rw [show (Operator.process host stage.operator element _).result = _ from succeeds]
  rw [pushed, reports, produced, ← Hosted.hear_append]
  rfl

/-- What was out before has no part in what a push does to the stage. -/
theorem push_stage (host : Host σ) (stage : Stage ω σ) (element : α) (out : List β) :
    (stage.push host element out).stage = (stage.push host element []).stage := by
  simp only [push]
  split <;> rfl

/-- The sampler of a stage has taken the calls of the transcript, and no others. -/
theorem feed_sampler (predictable : Predictable bare own) (host : Host σ) (stage : Stage ω σ)
    (out : List β) (moves : List (Move α σ)) :
    (stage.feed host out moves).1.hosted.sampler =
      stage.hosted.sampler.after (transcript bare own host stage moves) := by
  induction moves generalizing stage out with
  | nil => rfl
  | cons move rest ih =>
    cases move with
    | callback c => exact ih (stage.report host c).2 out
    | surround around =>
      exact ih { stage with hosted := { stage.hosted with around := around } } out
    | push element =>
      have later := ih (stage.push host element out).stage (stage.push host element out).out
      rw [transcript, Sampler.after_append, ← Hosted.sampler_hear, ← push_hears predictable,
        ← push_stage host stage element out]
      exact later

theorem feed_begun (predictable : Predictable bare own) (host : Host σ) {stage : Stage ω σ}
    (begun : stage.hosted.sampler.phase ≠ .uninitialized) (out : List β)
    (moves : List (Move α σ)) :
    (stage.feed host out moves).1.hosted.sampler.phase ≠ .uninitialized := by
  rw [feed_sampler predictable]
  exact Sampler.after_begun begun _

/-- What is reported of one element is counted, or none of it is. -/
theorem push_counts (predictable : Predictable bare own) (host : Host σ) (stage : Stage ω σ)
    (element : α) (out : List β) :
    let last := (stage.push host element out).stage.hosted.sampler
    last.disabled = stage.hosted.sampler.disabled ∧
    last.inputs = stage.hosted.sampler.inputs + (if last.counting then 1 else 0) ∧
    last.outputs = stage.hosted.sampler.outputs +
      if last.counting then (bare stage.operator element).2.length else 0 := by
  have follows := predictable.follows stage.operator element
  obtain ⟨inputs, outputs⟩ :=
    stage.hosted.hear_element host (Shaped.shape element) stage.config follows
  rw [predictable.countP_following] at outputs
  rw [push_hears predictable]
  refine ⟨?_, inputs, outputs⟩
  apply Hosted.hear_reports
  intro c member
  rcases List.mem_cons.mp member with rfl | later
  · rfl
  · exact Callback.switch?_of_follows (follows c later)

/-- A run that begins with an element has to look no further for it. -/
theorem Watched.of_push {host : Host σ} {stage : Stage ω σ} {element : α} {rest : List (Move α σ)}
    (on : .callback (.disable true) ∉ rest)
    (opens : (stage.push host element []).stage.hosted.sampler.phase ≠ .uninitialized) :
    stage.Watched host (.push element :: rest) := by
  constructor
  · simpa using on
  · intro before first later split none
    cases before with
    | nil =>
      obtain ⟨same, -⟩ := List.cons.inj split
      cases same
      exact opens
    | cons move before =>
      obtain ⟨rfl, -⟩ := List.cons.inj split
      cases none

theorem Watched.surround {host : Host σ} {stage : Stage ω σ} {around : σ}
    {rest : List (Move α σ)} (watched : stage.Watched host (.surround around :: rest)) :
    Watched host { stage with hosted := { stage.hosted with around := around } } rest where
  on member := watched.on (.tail _ member)
  opens before element later split none :=
    watched.opens (.surround around :: before) element later (congrArg _ split) none

theorem Watched.callback {host : Host σ} {stage : Stage ω σ} {c : Callback}
    {rest : List (Move α σ)} (watched : stage.Watched host (.callback c :: rest)) :
    (stage.report host c).2.Watched host rest where
  on member := watched.on (.tail _ member)
  opens before element later split none :=
    watched.opens (.callback c :: before) element later (congrArg _ split) none

theorem Watched.begun {host : Host σ} {stage : Stage ω σ} {element : α} {rest : List (Move α σ)}
    (watched : stage.Watched host (.push element :: rest)) (out : List β) :
    (stage.push host element out).stage.hosted.sampler.phase ≠ .uninitialized := by
  rw [push_stage]
  exact watched.opens [] element rest rfl rfl

/-- Once the window is open, whatever comes finds it so. -/
theorem Watched.push (predictable : Predictable bare own) {host : Host σ} {stage : Stage ω σ}
    {element : α} {rest : List (Move α σ)} (watched : stage.Watched host (.push element :: rest))
    (out : List β) : (stage.push host element out).stage.Watched host rest where
  on member := watched.on (.tail _ member)
  opens _ _ _ _ _ := feed_begun predictable host (watched.begun out) [] _

/-- A stage that is watched counts what goes through it. -/
theorem feed_counts (predictable : Predictable bare own) (host : Host σ) (stage : Stage ω σ)
    {moves : List (Move α σ)} (between : Switched moves)
    (on : stage.hosted.sampler.disabled = false) (watched : stage.Watched host moves)
    (out : List β) :
    let last := (stage.feed host out moves).1.hosted.sampler
    last.inputs = stage.hosted.sampler.inputs + (elements moves).length ∧
      last.outputs = stage.hosted.sampler.outputs +
        (unwatched bare stage.operator (elements moves)).2.length := by
  induction moves generalizing stage out with
  | nil => exact ⟨rfl, rfl⟩
  | cons move rest ih =>
    cases move with
    | surround around =>
      exact ih { stage with hosted := { stage.hosted with around := around } } between.tail on
        watched.surround out
    | callback c =>
      obtain ⟨value, rfl⟩ := between c (.head _)
      cases value with
      | true => exact absurd (.head _) watched.on
      | false =>
        exact ih (stage.report host (.disable false)).2 between.tail rfl watched.callback out
    | push element =>
      let pushed := stage.push host element out
      obtain ⟨disabled, inputs, outputs⟩ := push_counts predictable host stage element out
      have on' : pushed.stage.hosted.sampler.disabled = false := disabled.trans on
      have counting : pushed.stage.hosted.sampler.counting = true :=
        (Sampler.counting_iff _).mpr ⟨on', watched.begun out⟩
      have operator : pushed.stage.operator = (bare stage.operator element).1 :=
        (push_unaffected predictable.unaffected host stage element out).1
      obtain ⟨inputs', outputs'⟩ :=
        ih pushed.stage between.tail on' (watched.push predictable out) pushed.out
      rw [inputs, counting] at inputs'
      rw [outputs, counting, operator] at outputs'
      constructor
      · refine inputs'.trans ?_
        simp [elements, Move.element?, Nat.add_assoc, Nat.add_comm]
      · refine outputs'.trans ?_
        simp [elements, Move.element?, unwatched, Nat.add_assoc]

/-- While an element goes through an operator that puts out one at most, no output is counted that
has no input to it. -/
theorem heard_within (predictable : Predictable bare own)
    (single : ∀ operator element, (bare operator element).2.length ≤ 1) (host : Host σ)
    {stage : Stage ω σ} (room : stage.hosted.sampler.outputs ≤ stage.hosted.sampler.inputs)
    (element : α) {heard : List Callback}
    (among : heard <+: .input (Shaped.shape element) stage.config ::
      following bare own stage.operator element) :
    (stage.hosted.hear host heard).sampler.outputs ≤
      (stage.hosted.hear host heard).sampler.inputs := by
  rcases List.prefix_cons_iff.mp among with rfl | ⟨later, rfl, short⟩
  · exact room
  · have follows : ∀ c ∈ later, c.follows = true := fun c member =>
      predictable.follows stage.operator element c (short.subset member)
    obtain ⟨inputs, outputs⟩ :=
      stage.hosted.hear_element host (Shaped.shape element) stage.config follows
    have few : later.countP Callback.isOutput ≤ 1 := by
      calc
        later.countP Callback.isOutput
          ≤ (following bare own stage.operator element).countP Callback.isOutput :=
            short.sublist.countP_le
        _ = (bare stage.operator element).2.length := predictable.countP_following _ _
        _ ≤ 1 := single _ _
    rw [inputs, outputs]
    split <;> omega

/-- An operator that puts out one element at most never has more outputs counted than inputs, not
even between two calls of one push. -/
theorem outputs_within (predictable : Predictable bare own)
    (single : ∀ operator element, (bare operator element).2.length ≤ 1) (host : Host σ)
    (stage : Stage ω σ) {moves : List (Move α σ)} (between : Switched moves)
    (room : stage.hosted.sampler.outputs ≤ stage.hosted.sampler.inputs) {earlier : List Call}
    (first : earlier <+: transcript bare own host stage moves) :
    (stage.hosted.sampler.after earlier).outputs ≤ (stage.hosted.sampler.after earlier).inputs := by
  induction moves generalizing stage earlier with
  | nil =>
    rw [List.prefix_nil.mp first]
    exact room
  | cons move rest ih =>
    cases move with
    | surround around =>
      exact ih { stage with hosted := { stage.hosted with around := around } } between.tail room
        first
    | callback c =>
      obtain ⟨value, rfl⟩ := between c (.head _)
      rcases List.prefix_cons_iff.mp first with rfl | ⟨later, rfl, short⟩
      · exact room
      · exact ih (stage.report host (.disable value)).2 between.tail room short
    | push element =>
      obtain ⟨later, split⟩ := first
      -- The run is cut either within the calls of this push or after them.
      rcases List.append_eq_append_iff.mp split with ⟨more, calls, -⟩ | ⟨more, rfl, rest_eq⟩
      · obtain ⟨heard, among, rfl⟩ := stage.hosted.calls_prefix host ⟨more, calls.symm⟩
        rw [← Hosted.sampler_hear]
        exact heard_within predictable single host room element among
      · have next := heard_within predictable single host room element (List.prefix_refl _)
        rw [Sampler.after_append, ← Hosted.sampler_hear]
        rw [← push_hears predictable host stage element []] at next ⊢
        exact ih (stage.push host element []).stage between.tail next ⟨later, rest_eq.symm⟩

end Stage

end Predictable

end FlowGauge
