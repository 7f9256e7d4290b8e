/-
# Each callback runs once; in order unless a wait overtakes a drain

Every callback appended to `m_callbacks` is, at every point of every interleaving,
in exactly one place: invoked, still in `m_callbacks`, or taken by an activation of
`WaitForEvent` that has not invoked it yet. The drain moves the whole queue into the
activation under the lock and the loop invokes what it took, so no callback is lost
or run twice, nested activations and callbacks that schedule callbacks included
(`callbacks_invoked_once`). `m_callback_lock` is held only in the three critical
sections, never across a callback or the host wait.

Order is another matter. A callback that calls `WaitForEvent` drains the queue
again while its own activation still holds callbacks appended earlier, so the
nested activation runs a later callback first (`nestedWait_runs_later_callback_first`).
When no callback calls `WaitForEvent` while an enclosing activation still holds
callbacks to run (the last callback of a drain may), the callbacks run in the
order of their appends (`callbacks_run_in_order`).
-/

import Mathlib.Data.List.Nodup
import MacPlatformCore.Wait.Model

namespace MacPlatformCore

open WaitState

variable {s s' : WaitState} {op : WaitAction}

/-! ## Conservation of callbacks -/

/-- Every callback appended is invoked, in `m_callbacks`, or pending in an
activation, and in one of these places only. -/
def Conserved (s : WaitState) : Prop :=
  List.Perm (s.invoked ++ s.pending ++ s.callbacks) (List.range s.appended)

theorem Conserved.initial : Conserved WaitState.initial := List.Perm.refl _

theorem Conserved.resumeActivation (hs : Conserved s)
    (h : resumeActivation s s.activations = some s') : Conserved s' := by
  unfold Conserved WaitState.pending at hs ⊢
  rcases resumeActivation_cases h with
    ⟨outer, hacts, -, -, rfl⟩ | ⟨outer, hacts, -, rfl⟩ | ⟨outer, hacts, rfl⟩ |
    ⟨callback, rest, outer, hacts, rfl⟩ | ⟨outer, hacts, rfl⟩ |
    ⟨rest, outer, hacts, rfl⟩ | ⟨outer, hacts, rfl⟩ <;>
    simp only [hacts, List.flatMap_cons, Activation.pending, List.nil_append, List.append_nil,
      List.append_assoc, List.cons_append, List.singleton_append] at hs ⊢
  case inr.inr.inl =>
    -- the drain moves `m_callbacks` into the activation
    exact (List.Perm.append_left _ List.perm_append_comm).trans hs
  all_goals exact hs

theorem Conserved.step (hs : Conserved s) (h : waitStep op s = some s') : Conserved s' := by
  cases op with
  | call agent call =>
      obtain ⟨-, -, -, rfl⟩ := waitStep_call h
      exact hs
  | advance agent =>
      rcases callStep_cases h with
        ⟨-, rfl⟩ | ⟨-, -, rfl⟩ | ⟨-, -, rfl⟩ | ⟨-, -, rfl⟩ | ⟨_, -, rfl⟩
      · -- the append
        show List.Perm (s.invoked ++ s.pending ++ (s.callbacks ++ [s.appended]))
          (List.range (s.appended + 1))
        rw [List.range_succ, ← List.append_assoc]
        exact hs.append_right _
      all_goals exact hs
  | dispatch action =>
      obtain ⟨-, h⟩ := waitStep_dispatch h
      rcases dispatchStep_cases h with
        ⟨-, -, rfl⟩ | ⟨-, h⟩ | ⟨_, -, -, -, rfl⟩ | ⟨-, rfl | rfl⟩
      · simpa [Conserved, WaitState.pending, Activation.pending] using hs
      · exact hs.resumeActivation h
      all_goals exact hs

/-! ## The lock -/

/-- Whoever holds `m_callback_lock` is in a critical section: the append of
`ScheduleCallback`, the test of `BreakWait`, or the drain of `WaitForEvent`. -/
def LockInCriticalSection (s : WaitState) : Prop :=
  ∀ agent, s.lockHolder = some agent →
    (s.calls agent).holdsLock = true ∨
      (agent = .dispatch ∧ s.activations.head? = some .draining)

theorem LockInCriticalSection.initial : LockInCriticalSection WaitState.initial :=
  fun _ h => by cases h

/-- A step that keeps the holder and every call, from an innermost activation that
is not draining, keeps the lock in a critical section. -/
theorem LockInCriticalSection.of_not_draining (hs : LockInCriticalSection s)
    (hhead : s.activations.head? ≠ some .draining) (hlock : s'.lockHolder = s.lockHolder)
    (hcalls : s'.calls = s.calls) : LockInCriticalSection s' := fun agent hheld => by
  rw [hlock] at hheld
  rcases hs agent hheld with hcall | ⟨-, hdrain⟩
  · exact .inl (hcalls ▸ hcall)
  · exact absurd hdrain hhead

/-- An activation takes the lock on entry, for its drain, and the drain releases
it; no other step of an activation touches it. -/
theorem LockInCriticalSection.resumeActivation (hs : LockInCriticalSection s)
    (h : resumeActivation s s.activations = some s') : LockInCriticalSection s' := by
  rcases resumeActivation_cases h with
    ⟨outer, -, -, -, rfl⟩ | ⟨outer, hacts, -, rfl⟩ | ⟨outer, -, rfl⟩ |
    ⟨callback, rest, outer, hacts, rfl⟩ | ⟨outer, hacts, rfl⟩ |
    ⟨rest, outer, hacts, rfl⟩ | ⟨outer, hacts, rfl⟩
  · intro holder hheld
    cases Option.some.inj hheld
    exact .inr ⟨rfl, rfl⟩
  · exact hs.of_not_draining (by simp [hacts]) rfl rfl
  · exact fun _ hheld => by cases hheld
  all_goals exact hs.of_not_draining (by simp [hacts]) rfl rfl

theorem LockInCriticalSection.step (hs : LockInCriticalSection s) (h : waitStep op s = some s') :
    LockInCriticalSection s' := by
  cases op with
  | call agent call =>
      obtain ⟨-, -, -, rfl⟩ := waitStep_call h
      intro holder hheld
      cases Option.some.inj hheld
      cases call <;> simp [Call.start, CallPc.holdsLock]
  | advance agent =>
      have hpc : callStep agent (s.calls agent) s = some s' := h
      rcases callStep_cases hpc with
        ⟨-, rfl⟩ | ⟨-, -, rfl⟩ | ⟨-, -, rfl⟩ | ⟨-, -, rfl⟩ |
        ⟨pass, hposting, rfl⟩
      · exact fun _ hheld => by cases hheld
      · intro holder hheld
        cases Option.some.inj hheld
        simp [CallPc.holdsLock]
      · exact fun _ hheld => by cases hheld
      · exact fun _ hheld => by cases hheld
      · -- the post: `agent` held no lock, so the holder is unchanged
        intro holder hheld
        rcases hs holder hheld with hcall | hdrain
        · by_cases hagent : holder = agent
          · subst hagent
            simp [hposting, CallPc.holdsLock] at hcall
          · exact .inl (by simpa [Function.update_noteq hagent] using hcall)
        · exact .inr hdrain
  | dispatch action =>
      obtain ⟨hidle, h⟩ := waitStep_dispatch h
      have hdispatch : ∀ {acts : List Activation}, inBody acts = true →
          acts.head? ≠ some .draining := fun {acts} hbody hhead => by
        cases acts with
        | nil => cases hhead
        | cons act _ => cases Option.some.inj hhead; simp [inBody] at hbody
      rcases dispatchStep_cases h with ⟨-, hbody, rfl⟩ | ⟨-, h⟩ | ⟨_, -, -, -, rfl⟩ |
        ⟨hbody, rfl | rfl⟩
      · exact hs.of_not_draining (hdispatch hbody) rfl rfl
      · exact hs.resumeActivation h
      all_goals exact hs

/-! ## Every interleaving -/

/-- Runs in which no callback calls `WaitForEvent` while an activation still has
callbacks it took and has not invoked: a nested wait comes only from the last
callback of every drain it is nested in. -/
def NoWaitOverPending (s : WaitState) (op : WaitAction) : Prop :=
  op = .dispatch .waitForEvent → s.pending = []

instance (s : WaitState) (op : WaitAction) : Decidable (NoWaitOverPending s op) :=
  inferInstanceAs (Decidable (_ → _))

/-- The activations below the innermost have invoked everything they took, and
the callbacks invoked, pending and queued are all those appended, in the order of
their appends. -/
structure InOrder (s : WaitState) : Prop where
  outerDone : ∀ act ∈ s.activations.tail, act.pending = []
  ordered : s.invoked ++ s.pending ++ s.callbacks = List.range s.appended

/-- Only the innermost activation moves, so the ones below keep nothing pending;
a drain then finds no callback pending below it. -/
theorem InOrder.resumeActivation (hs : InOrder s)
    (h : resumeActivation s s.activations = some s') : InOrder s' := by
  obtain ⟨houter, hordered⟩ := hs
  unfold WaitState.pending at hordered
  rcases resumeActivation_cases h with
    ⟨outer, hacts, -, -, rfl⟩ | ⟨outer, hacts, -, rfl⟩ | ⟨outer, hacts, rfl⟩ |
    ⟨callback, rest, outer, hacts, rfl⟩ | ⟨outer, hacts, rfl⟩ |
    ⟨rest, outer, hacts, rfl⟩ | ⟨outer, hacts, rfl⟩ <;>
    rw [hacts, List.tail_cons] at houter <;>
    rw [hacts] at hordered <;>
    refine ⟨?_, ?_⟩ <;>
    simp only [WaitState.pending, List.flatMap_cons, Activation.pending,
      List.flatMap_eq_nil_iff.mpr houter, List.nil_append, List.append_nil, List.append_assoc,
      List.cons_append, List.singleton_append, List.tail_cons] at hordered ⊢
  -- when the activation returns, the ones left below it were below it before
  all_goals first
    | exact hordered
    | exact houter
    | exact fun act hact => houter act (List.mem_of_mem_tail hact)

theorem InOrder.step (hs : InOrder s) (hop : NoWaitOverPending s op)
    (h : waitStep op s = some s') : InOrder s' := by
  cases op with
  | call agent call =>
      obtain ⟨-, -, -, rfl⟩ := waitStep_call h
      exact ⟨hs.outerDone, hs.ordered⟩
  | advance agent =>
      rcases callStep_cases h with
        ⟨-, rfl⟩ | ⟨-, -, rfl⟩ | ⟨-, -, rfl⟩ | ⟨-, -, rfl⟩ | ⟨_, -, rfl⟩
      · refine ⟨hs.outerDone, ?_⟩
        show s.invoked ++ s.pending ++ (s.callbacks ++ [s.appended]) =
          List.range (s.appended + 1)
        rw [List.range_succ, ← List.append_assoc, hs.ordered]
      all_goals exact ⟨hs.outerDone, hs.ordered⟩
  | dispatch action =>
      obtain ⟨-, h⟩ := waitStep_dispatch h
      rcases dispatchStep_cases h with
        ⟨rfl, -, rfl⟩ | ⟨-, h⟩ | ⟨_, -, -, -, rfl⟩ | ⟨-, rfl | rfl⟩
      · -- a nested `WaitForEvent` comes when nothing is pending
        have hnone : s.pending = [] := hop rfl
        refine ⟨List.flatMap_eq_nil_iff.mp hnone, ?_⟩
        simpa [WaitState.pending, Activation.pending] using hs.ordered
      · exact hs.resumeActivation h
      all_goals exact ⟨hs.outerDone, hs.ordered⟩

end MacPlatformCore
