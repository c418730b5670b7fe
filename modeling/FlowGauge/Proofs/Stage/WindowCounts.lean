import FlowGauge.Proofs.Stage.Transcript
import FlowGauge.Stage.Rehearsal

/-! A tumbling window fires whenever its elements are a multiple of its size, and its sampler hears
of it.

`firedWhileOn` counts the windows that fire while the sampler is not disabled. It reads the moves
only: whether the sampler has opened its window or closed it makes no difference. -/
namespace FlowGauge

/-- How many windows of `n` elements fill while the switch is on, after `pushed` elements. -/
def firedWhileOn {α σ : Type} (n : Nat) (off : Bool) (pushed : Nat) : List (Move α σ) → Nat
  | [] => 0
  | .push _ :: rest =>
    (if off = false ∧ n ∣ pushed + 1 then 1 else 0) + firedWhileOn n off (pushed + 1) rest
  | .callback c :: rest => firedWhileOn n (c.switch?.getD off) pushed rest
  | .surround _ :: rest => firedWhileOn n off pushed rest

/-- While the switch stays on, every window that fills is one of them. -/
theorem firedWhileOn_eq {α σ : Type} (n pushed : Nat) {moves : List (Move α σ)}
    (between : Switched moves) (on : .callback (.disable true) ∉ moves) :
    pushed / n + firedWhileOn n false pushed moves = (pushed + (elements moves).length) / n := by
  induction moves generalizing pushed with
  | nil => rfl
  | cons move rest ih =>
    have on' : .callback (.disable true) ∉ rest := fun member => on (.tail _ member)
    cases move with
    | surround around => exact ih pushed between.tail on'
    | callback c =>
      obtain ⟨value, rfl⟩ := between c (.head _)
      cases value with
      | true => exact absurd (.head _) on
      | false => exact ih pushed between.tail on'
    | push element =>
      have later := ih (pushed + 1) between.tail on'
      rw [Nat.succ_div] at later
      have count : (elements (.push element :: rest)).length = 1 + (elements rest).length :=
        Nat.add_comm _ 1
      rw [count, ← Nat.add_assoc, ← later, firedWhileOn]
      simp only [true_and]
      omega

namespace TumblingWindow
variable {α β σ : Type}

/-- The length of a window that an element fills. -/
def own (w : TumblingWindow α β) (_ : α) : List Callback :=
  if w.pending.length + 1 < w.size then [] else [.window (.sequence (w.pending.length + 1))]

theorem predictable : Predictable (bare (α := α) (β := β)) own where
  unaffected := unaffected
  reports σ host w element hosted := by
    by_cases filling : (w.pending ++ [element]).length < w.size
    · have short : w.pending.length + 1 < w.size := by simpa using filling
      simp [Operator.process, process, own, Hosted.hear, short]
    · have full : ¬w.pending.length + 1 < w.size := by simpa using filling
      have length : (w.pending ++ [element]).length = w.pending.length + 1 := List.length_append
      simp only [Operator.process, process, own, length, if_neg full, Hosted.hear, List.foldl_cons,
        List.foldl_nil]
      split
      · next reported => rw [reported]
      · next reported => rw [reported]
  auxiliary w _ c member := by
    unfold own at member
    split at member
    · cases member
    · rw [List.mem_singleton.mp member]
      rfl

variable [Shaped α] [Shaped β]

/-- Of one element a sampler that is on hears the length of the window that it fills. -/
theorem windowLengths_push (host : Host σ) (h : Hosted σ) (config : JobConfig)
    (w : TumblingWindow α β) (element : α) (off : Bool) :
    let calls := h.calls host
      (.input (Shaped.shape element) config :: following bare own w element)
    disabledAfter off calls = off ∧
      windowLengths (heard off calls) =
        if off = false ∧ ¬w.pending.length + 1 < w.size then [w.pending.length + 1] else [] := by
  intro calls
  by_cases short : w.pending.length + 1 < w.size
  · have alone : following bare own w element = [] := by simp [following, own, bare, short]
    rw [if_neg fun both => both.2 short]
    simp only [calls, alone]
    cases off <;> exact ⟨rfl, rfl⟩
  · have filled : following bare own w element =
        [.window (.sequence (w.pending.length + 1)),
          .output (Shaped.shape (w.aggregate (w.pending ++ [element])))] := by
      simp [following, own, bare, short]
    simp only [calls, filled]
    cases off with
    | true => exact ⟨rfl, rfl⟩
    | false =>
      rw [if_pos ⟨rfl, short⟩]
      exact ⟨rfl, rfl⟩

/-- A sampler hears of the windows that fire while it is on, all of one length. -/
theorem windowLengths_transcript (host : Host σ) (name : String) (size : Nat)
    (aggregate : List α → β) (past : List α) (stage : Stage (TumblingWindow α β) σ)
    (operator : stage.operator = gathered name size aggregate past) (off : Bool)
    {moves : List (Move α σ)} (between : Switched moves) :
    windowLengths (heard off (Stage.transcript bare own host stage moves)) =
      List.replicate (firedWhileOn (max size 1) off past.length moves) (max size 1) := by
  induction moves generalizing past stage off with
  | nil => rfl
  | cons move rest ih =>
    cases move with
    | surround around =>
      exact ih past { stage with hosted := { stage.hosted with around := around } } operator off
        between.tail
    | callback c =>
      obtain ⟨value, rfl⟩ := between c (.head _)
      exact ih past (stage.report host (.disable value)).2 operator value between.tail
    | push element =>
      let next := (stage.push host element []).stage
      have operator' : next.operator = gathered name size aggregate (past ++ [element]) := by
        rw [(Stage.push_unaffected unaffected host stage element []).1, operator, bare_gathered]
      have later := ih (past ++ [element]) next operator' off between.tail
      rw [List.length_append, List.length_singleton] at later
      obtain ⟨still, here⟩ :=
        windowLengths_push host stage.hosted stage.config stage.operator element off
      rw [Stage.transcript, heard_append, windowLengths_append, still, later, here, operator,
        firedWhileOn]
      have fills := fills_iff (n := max size 1) (by omega) past
      have held : (remainder (max size 1) past).length < max size 1 := by
        rw [length_remainder]
        exact Nat.mod_lt _ (by omega)
      by_cases fires : off = false ∧ max size 1 ∣ past.length + 1
      · have full := fills.mpr fires.2
        have exact : (remainder (max size 1) past).length + 1 = max size 1 := by omega
        rw [if_pos ⟨fires.1, full⟩, if_pos fires, Nat.add_comm 1]
        exact congrArg (· :: _) exact
      · rw [if_neg fun both => fires ⟨both.1, fills.mp both.2⟩, if_neg fires, Nat.zero_add]
        rfl

end TumblingWindow

namespace Stage
variable {α β σ : Type} [Shaped α] [Shaped β]

theorem feed_windows (host : Host σ) {stage : Stage (TumblingWindow α β) σ} {name : String}
    {size : Nat} {aggregate : List α → β} {seed : List (String × Scalar)} {opener : Opener}
    (operator : stage.operator = TumblingWindow.new name size aggregate)
    (fresh : stage.hosted.sampler = Sampler.new .windowing seed opener) (out : List β)
    {moves : List (Move α σ)} (between : Switched moves) :
    (stage.feed host out moves).1.hosted.sampler.selectivity.windows =
      List.replicate (firedWhileOn (max size 1) false 0 moves) (max size 1) := by
  let run := transcript TumblingWindow.bare TumblingWindow.own host stage moves
  have tally : Tally .windowing seed opener (heard false run) (stage.hosted.sampler.after run) := by
    rw [fresh]
    exact Tally.new.after run
  rw [← TumblingWindow.gathered_nil] at operator
  rw [feed_sampler TumblingWindow.predictable, tally.selectivity]
  exact TumblingWindow.windowLengths_transcript host name size aggregate [] stage operator false
    between

/-- **What a window counts and what is counted of it.** After `n` elements a fresh window, whose
sampler was made for it and is called from outside for its switch only, has fired once for each
complete block of its size and holds the rest. What it has put out are the aggregates of blocks that
are all of this size, and its sampler has gathered this size once for each window that fired while
the sampler was not disabled, before its own window has opened and after it has closed too. If the
sampler is never disabled and the first element opens its window, then it counts every element as an
input and every window that fired as an output, and has gathered them all. -/
theorem window_counts (host : Host σ) (name : String) (size : Nat) (aggregate : List α → β)
    (seed : List (String × Scalar)) (opener : Opener) (around : σ) (config : JobConfig)
    (out : List β) {moves : List (Move α σ)} (between : Switched moves) :
    let s := max size 1
    let n := (elements moves).length
    let window := TumblingWindow.new name size aggregate
    let fresh := Sampler.new (Operator.capabilities window).kind seed opener
    let stage : Stage (TumblingWindow α β) σ := ⟨window, ⟨fresh, around⟩, config⟩
    let fed := stage.feed host out moves
    (fed.1.operator.pending.length = n % s ∧ fed.1.operator.pending.length < s ∧
      fed.1.operator.fired = n / s) ∧
    fed.1.hosted.sampler.selectivity.windows = List.replicate (firedWhileOn s false 0 moves) s ∧
    (fed.2 = out ++ (blocks s (elements moves)).map aggregate ∧
      ∀ block ∈ blocks s (elements moves), block.length = s) ∧
    (stage.Watched host moves →
      fed.1.hosted.sampler.outputs = fed.1.operator.fired ∧ fed.1.hosted.sampler.inputs = n ∧
      fed.1.hosted.sampler.selectivity.windows = List.replicate fed.1.operator.fired s) := by
  intro s n window fresh stage fed
  have predictable := TumblingWindow.predictable (α := α) (β := β)
  obtain ⟨operator, produced⟩ := feed_unwatched predictable.unaffected host stage out moves
  rw [TumblingWindow.unwatched_new] at operator produced
  have pending : fed.1.operator.pending.length = n % s := by
    rw [operator]
    exact length_remainder s (elements moves)
  have fired : fed.1.operator.fired = n / s := by
    rw [operator]
    rfl
  have windows : fed.1.hosted.sampler.selectivity.windows =
      List.replicate (firedWhileOn s false 0 moves) s := feed_windows host rfl rfl out between
  refine ⟨⟨pending, ?_, fired⟩, windows, ⟨produced, fun _ => length_of_mem_blocks⟩, ?_⟩
  · rw [pending]
    exact Nat.mod_lt n (by omega)
  · intro watched
    obtain ⟨inputs, outputs⟩ := feed_counts predictable host stage between rfl watched out
    rw [TumblingWindow.unwatched_new] at outputs
    refine ⟨?_, inputs.trans (Nat.zero_add _), ?_⟩
    · rw [fired]
      apply Eq.trans outputs
      simp [stage, fresh, Sampler.new, blocks, s, n]
    · have all := firedWhileOn_eq s 0 between watched.on
      rw [Nat.zero_div, Nat.zero_add, Nat.zero_add] at all
      rw [windows, fired, all]

/-- The first window fires while nothing opens the sampler, the second while it is disabled, and the
third in the push that closes the observation. The short run is watched from its first element, with
windows of no elements, which are given one. -/
theorem window_counts_of_late_opening :
    let host : Host Answers := ⟨id, fun a _ => a⟩
    let unwilling : Answers := { Answers.willing 1 with opening := .error (.sink "down") }
    let first (block : List Element) : Element := block.headD ⟨0, none⟩
    let pair := TumblingWindow.new "window" 2 first
    let single := TumblingWindow.new "window" 0 first
    let pairs : Stage (TumblingWindow Element Element) Answers :=
      ⟨pair, ⟨Sampler.new (Operator.capabilities pair).kind [("id", .text "node")] .host,
        unwilling⟩, .localOnly⟩
    let singles : Stage (TumblingWindow Element Element) Answers :=
      ⟨single, ⟨Sampler.new (Operator.capabilities single).kind [("id", .text "node")] .host,
        .willing 5⟩, .localOnly⟩
    let moves : List (Move Element Answers) :=
      [.push ⟨1, none⟩, .push ⟨2, none⟩, .surround (.willing 5), .callback (.disable true),
        .push ⟨3, none⟩, .push ⟨4, none⟩, .callback (.disable false), .push ⟨5, none⟩,
        .surround (.willing 32000000005), .push ⟨6, none⟩, .push ⟨7, none⟩]
    let short : List (Move Element Answers) := [.push ⟨1, none⟩, .push ⟨2, none⟩]
    let fed := (pairs.feed host [] moves).1
    let watchedFed := (singles.feed host [] short).1
    (Switched moves ∧ Switched short ∧ singles.Watched host short) ∧
    fed.hosted.sampler.phase = .closed ∧
    fed.hosted.sampler.selectivity.windows = [2, 2] ∧
    fed.operator.fired = 3 ∧ fed.operator.pending.length = 1 ∧
    watchedFed.hosted.sampler.outputs = 2 ∧ watchedFed.hosted.sampler.inputs = 2 := by
  intro host unwilling first pair single pairs singles moves short fed watchedFed
  have between : Switched moves := by
    intro c member
    simp [moves] at member
    rcases member with rfl | rfl
    · exact ⟨true, rfl⟩
    · exact ⟨false, rfl⟩
  have betweenShort : Switched short := by
    intro c member
    simp [short] at member
  have watched : singles.Watched host short := by
    apply Watched.of_push
    · simp
    · decide
  obtain ⟨⟨pending, -, fired⟩, windows, -, -⟩ := window_counts host "window" 2 first
    [("id", .text "node")] .host unwilling .localOnly [] between
  obtain ⟨⟨-, -, fired'⟩, -, -, counts⟩ := window_counts host "window" 0 first
    [("id", .text "node")] .host (.willing 5) .localOnly [] betweenShort
  obtain ⟨outputs, inputs, -⟩ := counts watched
  have closed : fed.hosted.sampler.phase = .closed := by
    subst fed moves pairs pair host unwilling first
    decide
  have lengths : List.replicate (firedWhileOn (max 2 1) false 0 moves) (max 2 1) = [2, 2] := by
    subst moves
    decide
  refine ⟨⟨between, betweenShort, watched⟩, closed, ?_, ?_, ?_, ?_, ?_⟩
  all_goals subst fed watchedFed pairs singles pair single
  · exact windows.trans lengths
  · exact fired.trans (show 7 / max 2 1 = 3 by decide)
  · exact pending.trans (show 7 % max 2 1 = 1 by decide)
  · exact outputs.trans (fired'.trans (show 2 / max 0 1 = 2 by decide))
  · exact inputs

end Stage

end FlowGauge
