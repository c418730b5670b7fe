import FlowGauge.Proofs.Stage.Transcript
import FlowGauge.Stage.Rehearsal

/-! A filter counts what goes through it, and so does the sampler that watches it.

The two need not agree: the sampler misses what goes through before its window opens or while it is
disabled. But it never counts an output without the input that it comes from. -/
namespace FlowGauge

namespace Filter
variable {α : Type}

/-- A filter has nothing to report by itself. -/
def own (_ : Filter α) (_ : α) : List Callback :=
  []

theorem predictable : Predictable (bare (α := α)) own where
  unaffected := unaffected
  reports σ host f element hosted := by
    by_cases kept : f.keep element = true <;>
      simp [Operator.process, process, own, Hosted.hear, kept]
  auxiliary _ _ _ member := absurd member List.not_mem_nil

theorem single (f : Filter α) (element : α) : (f.bare element).2.length ≤ 1 := by
  by_cases kept : f.keep element = true <;> simp [bare, kept]

/-- A fresh filter has counted each element once, and put out as many as it says. -/
theorem unwatched_fresh (name : String) (keep : α → Bool) (xs : List α) :
    let run := unwatched bare ⟨name, keep, 0, 0⟩ xs
    run.1.passed + run.1.dropped = xs.length ∧ run.2.length = run.1.passed := by
  have parts := List.length_eq_countP_add_countP keep (l := xs)
  simp only [decide_not, Bool.decide_eq_true] at parts
  simp only [unwatched_eq, Nat.zero_add]
  exact ⟨parts.symm, List.countP_eq_length_filter.symm⟩

end Filter

namespace Stage
variable {α σ : Type} [Shaped α]

/-- **What a filter counts and what is counted of it.** A fresh filter, whose sampler is called from
outside for its switch only, has passed or dropped each element that came. After every call that its
sampler takes, also between an input and its output, no more outputs are counted than inputs; so
when the window closes, the selectivity is that of at least one input and at most as many outputs.
If the sampler is never disabled and the first element opens its window, then it has counted every
element as an input and every one that was passed as an output, whether or not the window has closed
and the summary was taken. -/
theorem filter_counts (host : Host σ) (name : String) (keep : α → Bool) (kind : NodeKind)
    (seed : List (String × Scalar)) (opener : Opener) (around : σ) (config : JobConfig)
    (out : List α) {moves : List (Move α σ)} (between : Switched moves) :
    let fresh := Sampler.new kind seed opener
    let stage : Stage (Filter α) σ := ⟨⟨name, keep, 0, 0⟩, ⟨fresh, around⟩, config⟩
    let run := transcript Filter.bare Filter.own host stage moves
    let fed := (stage.feed host out moves).1
    fed.hosted.sampler = fresh.after run ∧
    fed.operator.passed + fed.operator.dropped = (elements moves).length ∧
    (∀ earlier, earlier <+: run → (fresh.after earlier).outputs ≤ (fresh.after earlier).inputs) ∧
    (∀ earlier call later, run = earlier ++ call :: later →
      let s := fresh.after earlier
      let t := (s.take call).sampler
      s.phase ≠ .closed → t.phase = .closed →
        1 ≤ t.inputs ∧ t.outputs ≤ t.inputs ∧ (kind = .filter →
          t.summary.realSelectivity = some (Float.ofNat t.outputs / Float.ofNat t.inputs))) ∧
    (stage.Watched host moves →
      fed.hosted.sampler.inputs = fed.operator.passed + fed.operator.dropped ∧
      fed.hosted.sampler.outputs = fed.operator.passed) := by
  intro fresh stage run fed
  have predictable := Filter.predictable (α := α)
  obtain ⟨operator, -⟩ := feed_unwatched predictable.unaffected host stage out moves
  obtain ⟨total, passed⟩ := Filter.unwatched_fresh name keep (elements moves)
  rw [← operator] at total passed
  have within {earlier : List Call} (first : earlier <+: run) :
      (fresh.after earlier).outputs ≤ (fresh.after earlier).inputs :=
    outputs_within predictable Filter.single host stage between (Nat.le_refl 0) first
  refine ⟨feed_sampler predictable host stage out moves, total, fun _ => within, ?_, ?_⟩
  · intro earlier call later split s t unclosed closed
    obtain ⟨inputs, selectivity⟩ :=
      Sampler.closing_measures kind seed opener earlier call unclosed closed
    have upTo : earlier ++ [call] <+: run := ⟨later, by rw [split, List.append_assoc]; rfl⟩
    have bound := within upTo
    rw [Sampler.after_append] at bound
    exact ⟨inputs, bound, selectivity⟩
  · intro watched
    obtain ⟨inputs, outputs⟩ := feed_counts predictable host stage between rfl watched out
    constructor
    · apply Eq.trans inputs
      rw [total]
      exact Nat.zero_add _
    · apply Eq.trans outputs
      rw [passed]
      exact Nat.zero_add _

/-- The first run is watched from its first element on, and nobody takes the summary when the last
input closes the window. In the second run one element goes through while the sampler is
disabled. -/
theorem filter_counts_of_refused_summary :
    let host : Host Answers := ⟨id, fun a _ => a⟩
    let late : Answers := { Answers.willing 32000000005 with delivery := .error (.sink "full") }
    let stage : Stage (Filter Element) Answers :=
      ⟨⟨"filter", fun e => e.width.isSome, 0, 0⟩,
        ⟨Sampler.new .filter [("id", .text "node")] .host, .willing 5⟩, .localOnly⟩
    let moves : List (Move Element Answers) :=
      [.push ⟨1, none⟩, .push ⟨2, some 2⟩, .surround late, .push ⟨3, some 2⟩]
    let muted : List (Move Element Answers) :=
      [.push ⟨1, none⟩, .callback (.disable true), .push ⟨2, some 2⟩, .callback (.disable false),
        .surround late, .push ⟨3, some 2⟩]
    let fed := (stage.feed host [] moves).1
    let mutedFed := (stage.feed host [] muted).1
    (Switched moves ∧ stage.Watched host moves ∧ Switched muted) ∧
    fed.hosted.sampler.phase = .closed ∧
    fed.hosted.sampler.inputs = 3 ∧ fed.hosted.sampler.outputs = fed.operator.passed ∧
    mutedFed.operator.passed + mutedFed.operator.dropped = 3 ∧
    mutedFed.hosted.sampler.outputs ≤ mutedFed.hosted.sampler.inputs := by
  intro host late stage moves muted fed mutedFed
  have between : Switched moves := by
    intro c member
    simp [moves] at member
  have betweenMuted : Switched muted := by
    intro c member
    simp [muted] at member
    rcases member with rfl | rfl
    · exact ⟨true, rfl⟩
    · exact ⟨false, rfl⟩
  have watched : stage.Watched host moves := by
    apply Watched.of_push
    · simp
    · decide
  obtain ⟨-, total, -, -, counts⟩ := filter_counts host "filter" (fun e : Element => e.width.isSome)
    .filter [("id", .text "node")] .host (.willing 5) .localOnly [] between
  obtain ⟨inputs, outputs⟩ := counts watched
  obtain ⟨last, totalMuted, within, -, -⟩ :=
    filter_counts host "filter" (fun e : Element => e.width.isSome)
      .filter [("id", .text "node")] .host (.willing 5) .localOnly [] betweenMuted
  have closed : fed.hosted.sampler.phase = .closed := by
    subst fed moves stage host late
    rfl
  refine ⟨⟨between, watched, betweenMuted⟩, closed, inputs.trans total, outputs, totalMuted, ?_⟩
  have bound := within _ (List.prefix_refl _)
  rw [← last] at bound
  exact bound

end Stage

end FlowGauge
