/-
# Ownership of the pointer while a button is down

While a button is down the mouse window must not change: every move, drag, up
and release of the press goes to the window that got the down, and the release
branch of `HandleMousePress` maps the local position through that window. The
core keeps this by grabbing on every press: along every run whose
`HandleMouseSync` calls see no button of 3 or more down, a button down means a
grabbed, non-nil mouse window (`buttonsOwned_of_reachable`).

`HandleMouseSync` breaks it otherwise: its loop releases only buttons 0 to 2
while it drops the grab unconditionally (`handleMouseSync_strands_high_button`).
Neither sync clears the explicit-grab flag, unlike `UngrabPointer` and the
release path of `HandleMousePress` (`syncs_keep_explicit_grab`), and
`SyncMouseBeforeDragging` resets the grab only when a button was down, so after
an explicit grab with no button down the pointer stays grabbed with a nil window
(`explicitGrab_pins_nil_window`). The closed theorems at the end run the code to
those states.
-/

import MacPlatformCore.Pointer.Operations

namespace MacPlatformCore

open PointerState

/-- While a button is down there is a mouse window and the pointer is grabbed. -/
def ButtonsOwned (s : PointerState) : Prop :=
  s.mouseButtons ≠ 0 → s.mouseWindow ≠ none ∧ s.mouseGrabbed = true

/-- Presses name a button below 32 (a wider `1 << p_button` is undefined), and
`HandleMouseSync` never runs while a button numbered 3 or more is down. -/
def SyncSeesLowButtons (s : PointerState) : PointerOp → Prop
  | .press _ button _ => button < 32
  | .sync _ => ∀ i, 3 ≤ i → s.mouseButtons.getLsbD i = false
  | _ => True

/-! ## What each operation does to the owner fields -/

section Frames

variable (env : Env) (location : MCPoint) (s : PointerState)

@[simp] theorem handleMouseMove_idle_mouseWindow :
    (handleMouseMove .idle env location s).mouseWindow =
      if s.mouseGrabbed then s.mouseWindow else env.windowAtPoint location := by
  rw [handleMouseMove_idle]
  generalize (if s.mouseGrabbed then s.mouseWindow else env.windowAtPoint location) = target
  cases target <;> simp [Handlers.idle, trackMouseIn_eq]

@[simp] theorem handleMouseMove_idle_mouseButtons :
    (handleMouseMove .idle env location s).mouseButtons = s.mouseButtons := by
  rw [handleMouseMove_idle]
  generalize (if s.mouseGrabbed then s.mouseWindow else env.windowAtPoint location) = target
  cases target <;> simp [Handlers.idle, trackMouseIn_eq]

@[simp] theorem handleMouseMove_idle_mouseGrabbed :
    (handleMouseMove .idle env location s).mouseGrabbed = s.mouseGrabbed := by
  rw [handleMouseMove_idle]
  generalize (if s.mouseGrabbed then s.mouseWindow else env.windowAtPoint location) = target
  cases target <;> simp [Handlers.idle, trackMouseIn_eq]

/-- The three turns of the loop of `HandleMouseSync` clear bits 0 to 2 and keep
the others. -/
theorem getLsbD_foldl_syncButton (window : Window) (i : Nat) :
    ((List.range 3).foldl (syncButton window) s).mouseButtons.getLsbD i =
      (s.mouseButtons.getLsbD i && decide (3 ≤ i)) := by
  have hrange : List.range 3 = [0, 1, 2] := rfl
  simp only [hrange, List.foldl, syncButton_eq window (by omega : (2 : Nat) < 32),
    syncButton_eq window (by omega : (1 : Nat) < 32),
    syncButton_eq window (by omega : (0 : Nat) < 32)]
  have hlow : ∀ i : Nat,
      (!decide (i = 0) && !decide (i = 1) && !decide (i = 2)) = decide (3 ≤ i)
    | 0 | 1 | 2 => rfl
    | _ + 3 => by simp
  by_cases hi : i < 32
  · simp [getLsbD_buttonBit, hi, Bool.and_assoc, ← hlow i]
  · simp [BitVec.getLsbD_ge _ _ (Nat.le_of_not_lt hi)]

theorem releaseIn_owner {button : Nat} {grabbedExplicit : Bool} {s' : PointerState}
    (h : releaseIn env button grabbedExplicit s = some s') :
    s.mouseWindow ≠ none ∧ s'.mouseWindow = s.mouseWindow ∧
      s'.mouseButtons = s.mouseButtons ∧ s'.mouseGrabbed = s.mouseGrabbed ∧
      s'.mouseGrabbedExplicit = s.mouseGrabbedExplicit := by
  unfold releaseIn at h
  split at h
  · cases h
  · dsimp only at h
    split_ifs at h <;> cases h <;> simp_all

/-- What `HandleMousePress` does to the owner fields: nothing, or, with a mouse
window, the mask update with the grab recomputed from the new mask. -/
theorem handleMousePress_owner {button : Nat} {newState : Bool} {s' : PointerState}
    (h : handleMousePress env button newState s = some s') :
    s' = s ∨
      s.mouseWindow ≠ none ∧ s'.mouseWindow = s.mouseWindow ∧
      s'.mouseButtons = (if newState then s.mouseButtons ||| buttonBit button
        else s.mouseButtons &&& ~~~buttonBit button) ∧
      s'.mouseGrabbed = decide (s'.mouseButtons ≠ 0) ∧
      s'.mouseGrabbedExplicit = (decide (s'.mouseButtons ≠ 0) && s.mouseGrabbedExplicit) := by
  unfold handleMousePress at h
  split_ifs at h with hsame hnew
  · exact .inl (Option.some.inj h).symm
  · cases hw : s.mouseWindow with
    | none => simp only [hw, Option.some.injEq] at h; exact .inl h.symm
    | some window =>
      simp only [hw, Option.some.injEq] at h
      subst h
      right
      by_cases hcontrol : button = 0 ∧ s.mouseModifiers.command = true
      · obtain ⟨rfl, hcommand⟩ := hcontrol
        by_cases hzero : s.mouseButtons ||| buttonBit 0 = 0#32 <;>
          simp [hw, hnew, hzero, hcommand, pressIn, setMouseButtons_eq, emit]
      · by_cases hzero : s.mouseButtons ||| buttonBit button = 0#32 <;>
          simp [hw, hnew, hzero, hcontrol, pressIn, setMouseButtons_eq, emit]
  · obtain ⟨hw, hwin, hbuttons, hgrab, hexplicit⟩ := releaseIn_owner env _ h
    right
    rw [hwin, hbuttons, hgrab, hexplicit]
    by_cases hzero : s.mouseButtons &&& ~~~buttonBit button = 0#32 <;>
      simp [setMouseButtons_eq, hzero] at hw <;> simp [hw, hnew, hzero, setMouseButtons_eq]

theorem pressIn_emitted {window : Window} {button : Nat} {s₀ : PointerState}
    (h : s.emitted = s₀.emitted) :
    ∃ extra, (pressIn env window button s).emitted = s₀.emitted ++ extra ∧
      ∀ effect ∈ extra, effect.isPress = true :=
  ⟨_, by rw [← h]; rfl, by simp [Effect.isPress]⟩

theorem releaseIn_emitted {button : Nat} {grabbedExplicit : Bool} {s' : PointerState}
    (h : releaseIn env button grabbedExplicit s = some s') :
    ∃ extra, s'.emitted = s.emitted ++ extra ∧ ∀ effect ∈ extra, effect.isPress = true := by
  unfold releaseIn at h
  split at h
  · cases h
  · dsimp only at h
    split_ifs at h <;> cases h <;> exact ⟨_, rfl, by simp [Effect.isPress]⟩

/-- `HandleMousePress` sends at most one down, up or release. -/
theorem handleMousePress_emitted {button : Nat} {newState : Bool} {s' : PointerState}
    (h : handleMousePress env button newState s = some s') :
    ∃ extra, s'.emitted = s.emitted ++ extra ∧ ∀ effect ∈ extra, effect.isPress = true := by
  unfold handleMousePress at h
  split_ifs at h
  · cases h
    exact ⟨[], by simp, List.forall_mem_nil _⟩
  · split at h <;> cases h
    · exact ⟨[], by simp, List.forall_mem_nil _⟩
    · exact pressIn_emitted env _ (by split_ifs <;> simp)
  · simpa using releaseIn_emitted env _ h

end Frames

/-- Window 1 lies under the point (10, 10) and nowhere else; the mouse is now at
(500, 500), over no window of the application. -/
def windowOneEnv : Env where
  windowAtPoint := fun location => if location = ⟨10, 10⟩ then some 1 else none
  mapPointFromScreenToWindow := fun _ location => location
  mapPointFromWindowToScreen := fun _ location => location
  eventTime := 100
  mouseLocation := ⟨500, 500⟩
  doubleDelta := 4
  doubleTime := 500
  dragDelta := 4

/-! ## `ButtonsOwned` -/

/-- From an owned state whose high buttons are up, `HandleMouseSync` leaves no button down. -/
theorem handleMouseSync_idle_mouseButtons {env : Env} {s : PointerState} (hs : ButtonsOwned s)
    (hhigh : ∀ i, 3 ≤ i → s.mouseButtons.getLsbD i = false) :
    (handleMouseSync .idle env s).mouseButtons = 0 := by
  unfold handleMouseSync syncButtons
  cases hw : s.mouseWindow with
  | none =>
      by_contra hne
      simpa [hw] using (hs (by simpa using hne)).1
  | some window =>
      simp only [handleMouseMove_idle_mouseButtons]
      refine BitVec.eq_of_getLsbD_eq fun i => ?_
      by_cases hi : 3 ≤ (i : Nat) <;> simp [getLsbD_foldl_syncButton, hi, hhigh]

theorem buttonsOwned_initial : ButtonsOwned initial := by
  simp [ButtonsOwned, initial]

theorem buttonsOwned_step {s s' : PointerState} {op : PointerOp} (hs : ButtonsOwned s)
    (hop : SyncSeesLowButtons s op) (h : step op s = some s') : ButtonsOwned s' := by
  cases op with
  | press env button newState =>
      rcases handleMousePress_owner env s h with rfl | ⟨hw, hwin, -, hgrab, -⟩
      · exact hs
      · exact fun hne => ⟨hwin ▸ hw, by simpa [hgrab] using hne⟩
  | move env location =>
      cases h
      intro hne
      simp only [handleMouseMove_idle_mouseButtons] at hne
      simp [(hs hne).2, (hs hne).1]
  | afterWindowHidden env =>
      cases h
      intro hne
      simp only [handleMouseAfterWindowHidden, handleMouseMove_idle_mouseButtons] at hne ⊢
      simp [(hs hne).2, (hs hne).1]
  | sync env =>
      cases h
      exact fun hne => absurd (handleMouseSync_idle_mouseButtons hs hop) hne
  | syncBeforeDragging =>
      cases h
      simp [ButtonsOwned, syncMouseBeforeDragging_idle]
  | grab window =>
      cases h
      rw [grabPointer_eq]
      split_ifs
      · exact fun hne => ⟨(hs hne).1, rfl⟩
      · exact hs
  | ungrab =>
      cases h
      unfold ungrabPointer
      split_ifs with hdown
      · exact hs
      · simp_all [ButtonsOwned]
  | modifiersChanged modifiers => cases h; rw [handleModifiersChanged_eq]; exact hs
  | scroll dx dy => cases h; rw [handleMouseScroll_eq]; exact hs
  | resizeStart => cases h; rw [handleMouseForResizeStart_eq]; exact hs
  | resizeEnd => cases h; rw [handleMouseForResizeEnd_eq]; exact hs
  | lockCursor => cases h; exact hs
  | unlockCursor => cases h; rw [unlockCursor_eq]; exact hs

/-- Along every run whose syncs see no high button down, a button down means a
grabbed, non-nil mouse window. -/
theorem buttonsOwned_of_reachable {s : PointerState}
    (h : ReachableBy initial step SyncSeesLowButtons s) : ButtonsOwned s := by
  induction h with
  | init => exact buttonsOwned_initial
  | next _ hop hstep ih => exact buttonsOwned_step ih hop hstep

/-- Button 3 pressed over window 1. -/
theorem buttonsOwned_pressOverWindowOne :
    ReachableBy initial step SyncSeesLowButtons
        ((run step [.move windowOneEnv ⟨10, 10⟩, .press windowOneEnv 3 true] initial).getD
          initial) ∧
      ButtonsOwned
        ((run step [.move windowOneEnv ⟨10, 10⟩, .press windowOneEnv 3 true] initial).getD
          initial) :=
  have h : ReachableBy initial step SyncSeesLowButtons
      ((run step [.move windowOneEnv ⟨10, 10⟩, .press windowOneEnv 3 true] initial).getD
        initial) :=
    @ReachableBy.next _ _ _ _ _ _ _ (.press windowOneEnv 3 true)
      (@ReachableBy.next _ _ _ _ _ _ _ (.move windowOneEnv ⟨10, 10⟩) .init trivial rfl)
      (show 3 < 32 by decide) (by decide)
  ⟨h, buttonsOwned_of_reachable h⟩

/-! ## The syncs, run at concrete inputs -/

/-- Button 3 held across `HandleMouseSync`: the loop leaves bit 3 set, the grab
is dropped, the move that follows leaves window 1 for no window, and the later
release of button 3 maps the local position through the nil window. -/
theorem handleMouseSync_strands_high_button :
    (run step [.move windowOneEnv ⟨10, 10⟩, .press windowOneEnv 3 true, .sync windowOneEnv]
        initial).map (fun s => (s.mouseButtons, s.mouseWindow, s.mouseGrabbed)) =
      some (8#32, none, false) ∧
    run step [.move windowOneEnv ⟨10, 10⟩, .press windowOneEnv 3 true, .sync windowOneEnv,
      .press windowOneEnv 3 false] initial = none := by
  decide

/-- An explicit grab of window 1 survives both syncs as a bare flag: the grab is
dropped and `m_mouse_grabbed_explicit` stays set. -/
theorem syncs_keep_explicit_grab :
    (run step [.move windowOneEnv ⟨10, 10⟩, .grab (some 1), .sync windowOneEnv] initial).map
        (fun s => (s.mouseButtons, s.mouseGrabbed, s.mouseGrabbedExplicit)) =
      some (0#32, false, true) ∧
    (run step [.move windowOneEnv ⟨10, 10⟩, .grab (some 1), .press windowOneEnv 0 true,
        .syncBeforeDragging] initial).map
        (fun s => (s.mouseButtons, s.mouseGrabbed, s.mouseGrabbedExplicit)) =
      some (0#32, false, true) := by
  decide

/-- An explicit grab of window 1 with no button down: `SyncMouseBeforeDragging`
drops the window but keeps the grab, and the next move over window 1 stays in
no window. With button 3 down under the grab, `HandleMouseSync` leaves the
button down and the explicit flag set. -/
theorem explicitGrab_pins_nil_window :
    (run step [.move windowOneEnv ⟨10, 10⟩, .grab (some 1), .syncBeforeDragging] initial).map
        (fun s => (s.mouseWindow, s.mouseButtons, s.mouseGrabbed, s.mouseGrabbedExplicit)) =
      some (none, 0#32, true, true) ∧
    windowOneEnv.windowAtPoint ⟨10, 10⟩ = some 1 ∧
    (run step [.move windowOneEnv ⟨10, 10⟩, .grab (some 1), .syncBeforeDragging,
        .move windowOneEnv ⟨10, 10⟩] initial).map (fun s => s.mouseWindow) = some none ∧
    (run step [.move windowOneEnv ⟨10, 10⟩, .grab (some 1), .press windowOneEnv 3 true,
        .sync windowOneEnv] initial).map
        (fun s => (s.mouseButtons, s.mouseGrabbed, s.mouseGrabbedExplicit)) =
      some (8#32, false, true) := by
  decide

end MacPlatformCore
