import FlowGauge.Fault
import Mathlib.Data.List.Induction

/-! Faults under contexts.

On its way to the host a fault is put under one context after another. Those who look at it from
the outside have three views of it, and each can be told from the fault itself and the contexts. -/
namespace FlowGauge

namespace Fault

/-- The fault under contexts, the first of which is next to it and the last outermost. -/
def under (f : Fault) (contexts : List String) : Fault :=
  contexts.foldl (fun inner context => withContext context inner) f

theorem under_concat (f : Fault) (contexts : List String) (context : String) :
    f.under (contexts ++ [context]) = withContext context (f.under contexts) := by
  rw [under, List.foldl_append, List.foldl_cons, List.foldl_nil, under]

/-- What the contexts have been added to one by one, the latest first and the fault last. -/
def layers (f : Fault) (contexts : List String) : List Fault :=
  (List.range contexts.length).reverse.map fun k => f.under (contexts.take k)

theorem layers_concat (f : Fault) (contexts : List String) (context : String) :
    f.layers (contexts ++ [context]) = f.under contexts :: f.layers contexts := by
  have earlier : ∀ k ∈ (List.range contexts.length).reverse,
      f.under ((contexts ++ [context]).take k) = f.under (contexts.take k) := by
    intro k member
    have short : k ≤ contexts.length :=
      Nat.le_of_lt (List.mem_range.mp (List.mem_reverse.mp member))
    rw [List.take_append_of_le_length short]
  rw [layers, List.length_append, List.length_singleton, List.range_succ, List.reverse_append,
    List.reverse_singleton, List.singleton_append, List.map_cons, List.map_congr_left earlier,
    List.take_left, layers]

theorem isConfig_under (f : Fault) (contexts : List String) :
    (f.under contexts).isConfig = f.isConfig := by
  induction contexts using List.reverseRecOn with
  | nil => rfl
  | append_singleton contexts context ih =>
    rw [under_concat, isConfig, ih]

theorem text_withContext (context : String) (f : Fault) :
    (withContext context f).text = context ++ ": " ++ f.text := rfl

theorem text_under (f : Fault) (contexts : List String) :
    (f.under contexts).text = ": ".intercalate (contexts.reverse ++ [f.text]) := by
  induction contexts using List.reverseRecOn with
  | nil =>
    rw [List.reverse_nil, List.nil_append, String.intercalate_singleton, under, List.foldl_nil]
  | append_singleton contexts context ih =>
    have more : contexts.reverse ++ [f.text] ≠ [] := by simp
    rw [under_concat, text_withContext, ih, List.reverse_concat, List.cons_append,
      String.intercalate_cons_of_ne_nil more]

theorem sources_under (f : Fault) (contexts : List String) :
    (f.under contexts).sources = (f.layers contexts).map text ++ f.sources := by
  induction contexts using List.reverseRecOn with
  | nil => rfl
  | append_singleton contexts context ih =>
    rw [under_concat, sources, ih, layers_concat, List.map_cons, List.cons_append]

/-- **A context never changes what a fault is.** Whatever contexts any fault is put under, the
configuration is to blame exactly if it was before. The text has the contexts from the outside in
and then the text of the fault, with a colon and a blank between two of them. Behind it lies what
each context has been added to, from the outside in down to the fault itself, and then all that lies
behind the fault. -/
theorem contexts_transparent (f : Fault) (contexts : List String) :
    (f.under contexts).isConfig = f.isConfig ∧
    (f.under contexts).text = ": ".intercalate (contexts.reverse ++ [f.text]) ∧
    (f.under contexts).sources = (f.layers contexts).map text ++ f.sources :=
  ⟨f.isConfig_under contexts, f.text_under contexts, f.sources_under contexts⟩

/-- Two contexts around a parameter that is missing. -/
example :
    let f := (missingParameter "-storePort").under ["reading", "starting"]
    f.text = "starting: reading: Missing job parameter: -storePort" ∧
    f.sources = ["reading: Missing job parameter: -storePort",
      "Missing job parameter: -storePort"] := by
  decide

end Fault

end FlowGauge
