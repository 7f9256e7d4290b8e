/-
# Runs of a step function, and checks of a log

The components of the core are modelled as step functions `Op → σ → Option σ`,
`none` when the code crashes. `run` runs a list of operations, and
`ReachableBy` collects the states a run can reach when each operation is
allowed in the state it starts from.

Each component also records what it does as a log of events, oldest first.
`replay` runs a checker over a log: a property of the whole log stated as a
state machine that stops at the first event breaking it.
-/

import Mathlib.Data.List.Basic

namespace MacPlatformCore

/-- A sequence of operations of `step`; `none` once one of them crashes. -/
def run {σ Op : Type} (step : Op → σ → Option σ) : List Op → σ → Option σ
  | [], s => some s
  | op :: ops, s => (step op s).bind (run step ops)

/-- The states reachable from `init` by steps of `step`, each allowed by
`allowed` in the state it starts from. -/
inductive ReachableBy {σ Op : Type} (init : σ) (step : Op → σ → Option σ)
    (allowed : σ → Op → Prop) : σ → Prop
  | init : ReachableBy init step allowed init
  | next {s s' : σ} {op : Op} :
      ReachableBy init step allowed s → allowed s op → step op s = some s' →
        ReachableBy init step allowed s'

/-- A run whose every step is allowed reaches its end state. -/
theorem ReachableBy.of_run {σ Op : Type} {init : σ} {step : Op → σ → Option σ}
    {allowed : σ → Op → Prop} (hallowed : ∀ s op, allowed s op) :
    ∀ (ops : List Op) {s s' : σ}, ReachableBy init step allowed s →
      run step ops s = some s' → ReachableBy init step allowed s'
  | [], _, _, hs, h => by cases h; exact hs
  | op :: ops, s, _, hs, h => by
      obtain ⟨s₁, hstep, hrun⟩ := Option.bind_eq_some.mp h
      exact ReachableBy.of_run hallowed ops (.next hs (hallowed s op) hstep) hrun

/-- `run`, stopping also at the first operation that `allowed` does not allow
where it starts. -/
def runAllowed {σ Op : Type} (step : Op → σ → Option σ) (allowed : σ → Op → Prop)
    [∀ s op, Decidable (allowed s op)] : List Op → σ → Option σ
  | [], s => some s
  | op :: ops, s => if allowed s op then (step op s).bind (runAllowed step allowed ops) else none

theorem ReachableBy.of_runAllowed {σ Op : Type} {init : σ} {step : Op → σ → Option σ}
    {allowed : σ → Op → Prop} [∀ s op, Decidable (allowed s op)] :
    ∀ (ops : List Op) {s s' : σ}, ReachableBy init step allowed s →
      runAllowed step allowed ops s = some s' → ReachableBy init step allowed s'
  | [], _, _, hs, h => by cases h; exact hs
  | op :: ops, s, _, hs, h => by
      rw [runAllowed] at h
      split at h
      · obtain ⟨s₁, hstep, hrun⟩ := Option.bind_eq_some.mp h
        exact ReachableBy.of_runAllowed ops (.next hs ‹_› hstep) hrun
      · cases h

/-- The end of an allowed run from `init` that does not crash is reachable. -/
theorem ReachableBy.runAllowed_getD {σ Op : Type} {init : σ} {step : Op → σ → Option σ}
    {allowed : σ → Op → Prop} [∀ s op, Decidable (allowed s op)] (ops : List Op)
    (h : (runAllowed step allowed ops init).isSome) :
    ReachableBy init step allowed ((runAllowed step allowed ops init).getD init) := by
  obtain ⟨s', hrun⟩ := Option.isSome_iff_exists.mp h
  rw [hrun]
  exact ReachableBy.of_runAllowed ops .init hrun

/-! ## Checking a log -/

/-- Run a checker over `events`, from `init`; `none` once an event breaks it. -/
def replay {σ ε : Type} (check : σ → ε → Option σ) (init : σ) (events : List ε) :
    Option σ :=
  events.foldl (fun acc event => acc.bind (check · event)) (some init)

section Replay

variable {σ ε : Type} {check : σ → ε → Option σ} {init : σ}

theorem replay_append (events extra : List ε) :
    replay check init (events ++ extra) =
      extra.foldl (fun acc event => acc.bind (check · event)) (replay check init events) := by
  simp [replay]

theorem replay_append_singleton (events : List ε) (event : ε) :
    replay check init (events ++ [event]) = (replay check init events).bind (check · event) := by
  simp [replay]

/-- Events the checker lets through unchanged do not move the replay. -/
theorem replay_append_of_quiet {events extra : List ε}
    (hquiet : ∀ event ∈ extra, ∀ acc, check acc event = some acc) :
    replay check init (events ++ extra) = replay check init events := by
  rw [replay_append]
  generalize replay check init events = acc
  induction extra generalizing acc with
  | nil => rfl
  | cons event extra ih =>
      cases acc with
      | none => simpa using ih (fun e he => hquiet e (by simp [he])) none
      | some acc =>
          rw [List.foldl_cons, Option.some_bind, hquiet event (by simp) acc]
          exact ih (fun e he => hquiet e (by simp [he])) (some acc)

end Replay

end MacPlatformCore
