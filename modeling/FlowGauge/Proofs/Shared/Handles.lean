import FlowGauge.Proofs.Entries
import FlowGauge.Sampler.Shared

/-! Handles to a sampler behind a lock.

`Sampler.serve` is a request made to a sampler by itself, `Shared.serve` one made under the lock. Up
to the first panic under the lock the two are the same; from then on every request is refused, and
the sampler stays as the panic left it. Which requests are made under one lock is read off the
steps: `Family` has a handle with its clones, the clones of these, and so on, and `Family.Leads`
says that they are the handles to that lock. -/
namespace FlowGauge

section
variable {ρ : Type}

/-- What can be asked of a sampler, by itself or through a handle. -/
inductive Request (ρ : Type) where
  | report (c : Callback) (a : Answers)
  /-- A report in which the surroundings panic. By then it has made `left` of the sampler. -/
  | collapse (c : Callback) (left : Sampler → Sampler)
  | phase
  | summary
  /-- The caller has the sampler to itself for a while, and may panic. -/
  | use (f : Sampler → Shared.Held (ρ × List Effect))

/-- What a request returns. -/
inductive Reply (ρ : Type) where
  | report (result : Except Fault Unit)
  | phase (result : Except Fault Phase)
  | summary (result : Except Fault Summary)
  | use (result : Except Fault ρ)

/-- What a request through a handle returns if the lock is poisoned. -/
def Request.refusal : Request ρ → Reply ρ
  | report .. | collapse .. => .report (.error .poisoned)
  | phase => .phase (.error .poisoned)
  | summary => .summary (.error .poisoned)
  | use _ => .use (.error .poisoned)

/-- What a request returns, with what it does beside; nothing if it panics. -/
abbrev Turn (ρ : Type) := Option (Reply ρ × List Effect)

def Request.refused (r : Request ρ) : Turn ρ :=
  some (r.refusal, [])

namespace Shared.Held
variable {α : Type}

def value? : Held α → Option α
  | returned value _ => some value
  | panicked _ => none

def sampler : Held α → Sampler
  | returned _ s => s
  | panicked s => s

end Shared.Held

namespace Sampler

def serve (s : Sampler) : Request ρ → Shared.Held (Reply ρ × List Effect)
  | .report c a => let o := s.step c a; .returned (.report o.result, o.effects) o.sampler
  | .collapse _ left => .panicked (left s)
  | .phase => .returned (.phase (.ok s.phase), []) s
  | .summary => .returned (.summary (.ok s.summary), []) s
  | .use f =>
    match f s with
    | .returned (value, effects) t => .returned (.use (.ok value), effects) t
    | .panicked t => .panicked t

def served (s : Sampler) (requests : List (Request ρ)) : Sampler :=
  requests.foldl (fun s r => (s.serve r).sampler) s

def turns (s : Sampler) : List (Request ρ) → List (Turn ρ)
  | [] => []
  | r :: rest => (s.serve r).value? :: (s.serve r).sampler.turns rest

end Sampler

namespace Shared

def serve (h : Shared) : Request ρ → Turn ρ × Shared
  | .report c a => let r := h.report c a; (some (.report r.result, r.effects), r.shared)
  | .collapse _ left =>
    match h.run fun s => (.panicked (left s) : Held Unit) with
    | (.panicked, h) => (none, h)
    | (ending, h) => (some (.report ending.value, []), h)
  | .phase => (some (.phase h.phase, []), h)
  | .summary => (some (.summary h.summary, []), h)
  | .use f =>
    match h.run f with
    | (.returned (value, effects), h) => (some (.use (.ok value), effects), h)
    | (.refused, h) => (some (.use (.error .poisoned), []), h)
    | (.panicked, h) => (none, h)

def served (h : Shared) (requests : List (Request ρ)) : Shared :=
  requests.foldl (fun h r => (h.serve r).2) h

def turns (h : Shared) : List (Request ρ) → List (Turn ρ)
  | [] => []
  | r :: rest => (h.serve r).1 :: (h.serve r).2.turns rest

/-- A sound lock adds nothing to the sampler, except that a panic poisons it. -/
theorem serve_new (s : Sampler) (r : Request ρ) :
    (new s).serve r =
      ((s.serve r).value?, ⟨(s.serve r).sampler, (s.serve r).value?.isNone⟩) := by
  cases r with
  | report | collapse | phase | summary => rfl
  | use f =>
    simp only [serve, run, new, Sampler.serve, Bool.false_eq_true, ↓reduceIte]
    cases f s <;> rfl

theorem serve_poisoned {h : Shared} (poisoned : h.poisoned = true) (r : Request ρ) :
    h.serve r = (r.refused, h) := by
  cases r <;>
    simp [serve, report, phase, summary, inspect, run, poisoned, Ending.value, Request.refused,
      Request.refusal, Except.map]

/-- A poisoned lock stays poisoned. -/
theorem turns_poisoned {h : Shared} (poisoned : h.poisoned = true) (requests : List (Request ρ)) :
    h.turns requests = requests.map Request.refused ∧ h.served requests = h := by
  induction requests with
  | nil => exact ⟨rfl, rfl⟩
  | cons r rest ih =>
    have refused := serve_poisoned poisoned r
    constructor
    · rw [turns, refused, ih.1]
      rfl
    · rw [served, List.foldl_cons, refused]
      exact ih.2

theorem turns_sound {s : Sampler} {requests : List (Request ρ)}
    (sound : none ∉ s.turns requests) :
    (new s).turns requests = s.turns requests ∧
      (new s).served requests = new (s.served requests) := by
  induction requests generalizing s with
  | nil => exact ⟨rfl, rfl⟩
  | cons r rest ih =>
    obtain ⟨now, later⟩ := not_or.mp (fun h => sound (List.mem_cons.mpr h))
    have returned : (s.serve r).value?.isNone = false := by
      cases value : (s.serve r).value? with
      | none => exact absurd value.symm now
      | some => rfl
    have next : (new s).serve r = ((s.serve r).value?, new (s.serve r).sampler) := by
      rw [serve_new, returned]
      rfl
    obtain ⟨turns, served⟩ := ih later
    constructor
    · rw [Shared.turns, next, turns]
      rfl
    · rw [Shared.served, List.foldl_cons, next]
      exact served

theorem turns_append (h : Shared) (a b : List (Request ρ)) :
    h.turns (a ++ b) = h.turns a ++ (h.served a).turns b := by
  induction a generalizing h with
  | nil => rfl
  | cons r rest ih => exact congrArg ((h.serve r).1 :: ·) (ih (h.serve r).2)

theorem served_append (h : Shared) (a b : List (Request ρ)) :
    h.served (a ++ b) = (h.served a).served b :=
  List.foldl_append

/-- The first panic is the last turn that is taken. -/
theorem turns_panicked {s t : Sampler} {before : List (Request ρ)} {broken : Request ρ}
    (sound : none ∉ s.turns before) (panics : (s.served before).serve broken = .panicked t)
    (later : List (Request ρ)) :
    (new s).turns (before ++ broken :: later) =
        s.turns before ++ none :: later.map Request.refused ∧
      (new s).served (before ++ broken :: later) = ⟨t, true⟩ := by
  obtain ⟨turns, served⟩ := turns_sound sound
  have breaks : (new (s.served before)).serve broken = (none, ⟨t, true⟩) := by
    rw [serve_new, panics]
    rfl
  obtain ⟨refused, stays⟩ := turns_poisoned (h := ⟨t, true⟩) rfl later
  constructor
  · rw [turns_append, turns, served, Shared.turns, breaks, refused]
  · rw [served_append, served, Shared.served, List.foldl_cons, breaks]
    exact stays

end Shared

/-- Locks, and handles to them: a handle is the place of its lock. -/
structure Handles where
  locks : List Shared
  targets : List Nat
  bound : ∀ lock ∈ targets, lock < locks.length

namespace Handles

inductive Step (ρ : Type) where
  /-- A sampler is put behind a lock of its own. -/
  | share (s : Sampler)
  | clone (handle : Nat)
  | call (handle : Nat) (r : Request ρ)

/-- The lock that a handle leads to. -/
def find? (w : Handles) (handle : Nat) : Option Shared :=
  (w.targets[handle]?).bind (w.locks[·]?)

def step (w : Handles) : Step ρ → Handles
  | .share s =>
    { locks := w.locks ++ [Shared.new s]
      targets := w.targets ++ [w.locks.length]
      bound := by
        intro lock member
        rw [List.length_append]
        rcases List.mem_append.mp member with old | new
        · exact Nat.lt_add_right _ (w.bound lock old)
        · rw [List.mem_singleton.mp new]
          exact Nat.lt_succ_self _ }
  | .clone handle =>
    { locks := w.locks
      targets := w.targets ++ (w.targets[handle]?).toList
      bound := by
        intro lock member
        rcases List.mem_append.mp member with old | cloned
        · exact w.bound lock old
        · exact w.bound lock (List.mem_of_getElem? (Option.mem_toList.mp cloned)) }
  | .call handle r =>
    match w.targets[handle]? with
    | some lock =>
      { locks := w.locks.modify lock fun h => (h.serve r).2
        targets := w.targets
        bound := by simpa using w.bound }
    | none => w

def after (w : Handles) (steps : List (Step ρ)) : Handles :=
  steps.foldl step w

/-- What a call returns. Without a handle to make it through there is no call. -/
def turn? (w : Handles) : Step ρ → Option (Turn ρ)
  | .call handle r => (w.find? handle).map fun h => (h.serve r).1
  | _ => none

/-- A handle with its clones, the clones of these, and so on, as the steps alone tell of them: how
many handles there are in all, and which of them belong to it. -/
structure Family where
  count : Nat
  members : List Nat

namespace Family

/-- The newest handle, no clone of which has been made. -/
def founded (handle : Nat) : Family :=
  ⟨handle + 1, [handle]⟩

/-- Handles are numbered as they are made. Of a handle that is not there, no clone is made. -/
def step (f : Family) : Step ρ → Family
  | .share _ => { f with count := f.count + 1 }
  | .clone handle =>
    if handle < f.count then
      ⟨f.count + 1, if handle ∈ f.members then f.members ++ [f.count] else f.members⟩
    else f
  | .call .. => f

def after (f : Family) (steps : List (Step ρ)) : Family :=
  steps.foldl step f

/-- The request of a step, if it is made through a member. -/
def request? (f : Family) : Step ρ → Option (Request ρ)
  | .call handle r => if handle ∈ f.members then some r else none
  | _ => none

/-- The requests of a run that are made through members, in their order. -/
def requests (f : Family) : List (Step ρ) → List (Request ρ)
  | [] => []
  | step :: rest => (f.request? step).toList ++ (f.step step).requests rest

end Family

/-- What the calls return that are made through members of a family. -/
def heard (w : Handles) (f : Family) : List (Step ρ) → List (Option (Turn ρ))
  | [] => []
  | step :: rest =>
    ((f.request? step).map fun _ => w.turn? step).toList ++ (w.step step).heard (f.step step) rest

/-- The members of a family are the handles to one lock. -/
structure Family.Leads (f : Family) (w : Handles) (lock : Nat) (h : Shared) : Prop where
  count : w.targets.length = f.count
  members : ∀ handle, handle ∈ f.members ↔ w.targets[handle]? = some lock
  lock : w.locks[lock]? = some h

namespace Family.Leads
variable {f : Family} {w : Handles} {lock : Nat} {h : Shared}

theorem find? (leads : f.Leads w lock h) {handle : Nat} (member : handle ∈ f.members) :
    w.find? handle = some h := by
  rw [Handles.find?, (leads.members handle).mp member]
  exact leads.lock

theorem share (leads : f.Leads w lock h) (s : Sampler) :
    (f.step (.share s : Step ρ)).Leads (w.step (.share s : Step ρ)) lock h := by
  obtain ⟨inside, -⟩ := List.getElem?_eq_some_iff.mp leads.lock
  refine ⟨?_, fun handle => ?_, ?_⟩
  · simp [Handles.step, Family.step, leads.count]
  · -- The new handle leads to the new lock, which is another one.
    have other : ¬(handle = w.targets.length ∧ lock = w.locks.length) := by omega
    show handle ∈ f.members ↔ (w.targets ++ [w.locks.length])[handle]? = some lock
    rw [getElem?_concat_eq_some_iff, or_iff_left other]
    exact leads.members handle
  · exact (List.getElem?_append_left inside).trans leads.lock

theorem clone (leads : f.Leads w lock h) (origin : Nat) :
    (f.step (.clone origin : Step ρ)).Leads (w.step (.clone origin : Step ρ)) lock h := by
  cases found : w.targets[origin]? with
  | none =>
    have absent := List.getElem?_eq_none_iff.mp found
    rw [leads.count] at absent
    have same : (w.step (.clone origin : Step ρ)).targets = w.targets := by
      simp [Handles.step, found]
    have stays : f.step (.clone origin : Step ρ) = f := if_neg (Nat.not_lt.mpr absent)
    rw [stays]
    exact ⟨same ▸ leads.count, fun handle => same ▸ leads.members handle, leads.lock⟩
  | some target =>
    obtain ⟨there, -⟩ := List.getElem?_eq_some_iff.mp found
    rw [leads.count] at there
    have made : (w.step (.clone origin : Step ρ)).targets = w.targets ++ [target] := by
      simp [Handles.step, found]
    have joins : f.step (.clone origin : Step ρ) =
        ⟨f.count + 1, if origin ∈ f.members then f.members ++ [f.count] else f.members⟩ :=
      if_pos there
    rw [joins]
    refine ⟨by rw [made, List.length_append, leads.count]; rfl, fun handle => ?_, leads.lock⟩
    have belongs : origin ∈ f.members ↔ lock = target := by
      rw [leads.members, found, Option.some.injEq, eq_comm]
    rw [made, getElem?_concat_eq_some_iff, ← leads.members, ← belongs, leads.count]
    by_cases member : origin ∈ f.members <;> simp [member]

theorem call (leads : f.Leads w lock h) (handle : Nat) (r : Request ρ) :
    f.Leads (w.step (.call handle r)) lock
      (h.served (f.request? (.call handle r)).toList) := by
  have same : (w.step (.call handle r)).targets = w.targets := by
    simp only [Handles.step]
    split <;> rfl
  refine ⟨same ▸ leads.count, fun other => same ▸ leads.members other, ?_⟩
  simp only [Handles.step, request?]
  by_cases member : handle ∈ f.members
  · have target := (leads.members handle).mp member
    rw [if_pos member, target]
    simp [leads.lock, Shared.served]
  · have elsewhere : w.targets[handle]? ≠ some lock := mt (leads.members handle).mpr member
    rw [if_neg member]
    cases found : w.targets[handle]? with
    | none => exact leads.lock
    | some target =>
      have other : target ≠ lock := fun same => elsewhere (same ▸ found)
      exact (List.getElem?_modify_ne _ _ other).trans leads.lock

theorem step (leads : f.Leads w lock h) (step : Step ρ) :
    (f.step step).Leads (w.step step) lock (h.served (f.request? step).toList) := by
  cases step with
  | share s => exact leads.share s
  | clone origin => exact leads.clone origin
  | call handle r => exact leads.call handle r

/-- A request that is made through a member gets to the lock. -/
theorem turn? (leads : f.Leads w lock h) {step : Step ρ} {r : Request ρ}
    (asked : f.request? step = some r) : w.turn? step = some (h.serve r).1 := by
  cases step with
  | share | clone => cases asked
  | call handle r' =>
    obtain ⟨member, ⟨⟩⟩ := Option.ite_none_right_eq_some.mp asked
    rw [Handles.turn?, leads.find? member]
    rfl

theorem after (leads : f.Leads w lock h) (steps : List (Step ρ)) :
    (f.after steps).Leads (w.after steps) lock (h.served (f.requests steps)) ∧
      w.heard f steps = (h.turns (f.requests steps)).map some := by
  induction steps generalizing f w h with
  | nil => exact ⟨leads, rfl⟩
  | cons step rest ih =>
    obtain ⟨last, turns⟩ := ih (leads.step step)
    rw [requests, heard, Shared.served_append, Shared.turns_append, List.map_append, ← turns]
    refine ⟨last, congrArg (· ++ _) ?_⟩
    cases asked : f.request? step with
    | none => rfl
    | some r =>
      rw [Option.map_some, leads.turn? asked]
      rfl

end Family.Leads

/-- A handle to a new lock is the only one. -/
theorem leads_share (w : Handles) (s : Sampler) :
    (Family.founded w.targets.length).Leads (w.step (.share s : Step ρ)) w.locks.length
      (Shared.new s) := by
  refine ⟨by simp [Handles.step, Family.founded], fun handle => ?_, by simp [Handles.step]⟩
  have old : w.targets[handle]? ≠ some w.locks.length := fun found =>
    Nat.lt_irrefl _ (w.bound _ (List.mem_of_getElem? found))
  show handle ∈ [w.targets.length] ↔ (w.targets ++ [w.locks.length])[handle]? = _
  rw [getElem?_concat_eq_some_iff, or_iff_right old, List.mem_singleton, and_iff_left rfl]

/-- **A lock is transparent until it is poisoned.** Whatever handles there are already, a sampler is
put behind a new lock, and then handles are made, cloned and called in any order. The calls that are
made through the handle to that lock, through its clones, and through clones of these return what
the sampler by itself returns to the same requests, and every one of these handles leads to the
sampler as it would be by itself. The first panic among these calls ends that: every later one is
refused, whichever handle it is made through and whenever that was cloned, and the sampler stays as
the panic left it. -/
theorem handles_refine_sampler (w : Handles) (s : Sampler) (steps : List (Step ρ)) :
    let family := Family.founded w.targets.length
    let requests := family.requests steps
    let shared := w.step (.share s : Step ρ)
    let heard := shared.heard family steps
    (none ∉ s.turns requests →
      heard = (s.turns requests).map some ∧
      ∀ handle ∈ (family.after steps).members,
        (shared.after steps).find? handle = some (Shared.new (s.served requests))) ∧
    ∀ before broken later t, requests = before ++ broken :: later → none ∉ s.turns before →
      (s.served before).serve broken = .panicked t →
      heard = (s.turns before ++ none :: later.map Request.refused).map some ∧
      ∀ handle ∈ (family.after steps).members,
        (shared.after steps).find? handle = some ⟨t, true⟩ := by
  intro family requests shared heard
  obtain ⟨last, turns⟩ := (leads_share w s).after steps
  constructor
  · intro sound
    obtain ⟨same, served⟩ := Shared.turns_sound sound
    rw [same] at turns
    rw [served] at last
    exact ⟨turns, fun handle => last.find?⟩
  · intro before broken later t split sound panics
    obtain ⟨same, served⟩ := Shared.turns_panicked sound panics later
    rw [← split] at same served
    rw [same] at turns
    rw [served] at last
    exact ⟨turns, fun handle => last.find?⟩

/-- A clone made after a panic is refused, although the panic was under another handle. What is
asked of another sampler is not heard of. -/
example (s t : Sampler) (c : Callback) :
    let shared := (Handles.mk [] [] nofun).step (.share s : Step Unit)
    let steps : List (Step Unit) := [.clone 0, .call 1 .phase, .call 0 (.collapse c fun _ => t),
      .clone 1, .share t, .call 3 .phase, .call 2 .phase]
    shared.heard (Family.founded 0) steps = [some (some (.phase (.ok s.phase), [])), some none,
      some (some (.phase (.error .poisoned), []))] :=
  rfl

end Handles
end

end FlowGauge
