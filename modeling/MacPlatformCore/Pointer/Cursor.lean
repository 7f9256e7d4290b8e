/-
# The locked cursor

`LockCursor` sets `m_mouse_cursor_locked`, and while it is set the core leaves
the cursor alone: `HandleMouseCursorChange` returns at once (bug 12436), and a
move onto no window skips `ResetCursor`. Only `UnlockCursor` clears the flag,
and it then resets the cursor or asks the mouse window for its own.

So from a locked state, any run of the pointer operations that does not call
`UnlockCursor` keeps the lock and sends no cursor change and no reset
(`cursor_untouched_while_locked`). One lemma per operation says what it sends
(`cursorQuiet_step`); the run lemma chains them.
-/

import MacPlatformCore.Pointer.Ownership

namespace MacPlatformCore

open PointerState

/-- A cursor change or a cursor reset. -/
def Effect.isCursor : Effect → Bool
  | .resetCursor | .cursorChange _ => true
  | _ => false

/-- From `s` to `t` the lock flag is kept and the effects sent meanwhile leave
the cursor alone. -/
def CursorQuiet (s t : PointerState) : Prop :=
  t.mouseCursorLocked = s.mouseCursorLocked ∧
    ∃ extra, t.emitted = s.emitted ++ extra ∧ ∀ effect ∈ extra, effect.isCursor = false

namespace CursorQuiet

theorem refl (s : PointerState) : CursorQuiet s s := ⟨rfl, [], by simp, by simp⟩

theorem trans {s t u : PointerState} (hst : CursorQuiet s t) (htu : CursorQuiet t u) :
    CursorQuiet s u := by
  obtain ⟨hlock, extra, hemitted, hquiet⟩ := hst
  obtain ⟨hlock', extra', hemitted', hquiet'⟩ := htu
  refine ⟨hlock'.trans hlock, extra ++ extra', by rw [hemitted', hemitted, List.append_assoc],
    List.forall_mem_append.mpr ⟨hquiet, hquiet'⟩⟩

/-- A change of the other fields that sends the given effects. -/
theorem of_eq {s t : PointerState} {extra : List Effect}
    (hlock : t.mouseCursorLocked = s.mouseCursorLocked) (hemitted : t.emitted = s.emitted ++ extra)
    (hquiet : ∀ effect ∈ extra, effect.isCursor = false) : CursorQuiet s t :=
  ⟨hlock, extra, hemitted, hquiet⟩

/-- Each turn of a loop keeps the relation, so the loop does. -/
theorem foldl {α : Type} {f : PointerState → α → PointerState} {xs : List α}
    (hf : ∀ x ∈ xs, ∀ t, CursorQuiet t (f t x)) (s : PointerState) :
    CursorQuiet s (xs.foldl f s) := by
  induction xs generalizing s with
  | nil => exact refl s
  | cons x xs ih =>
    exact trans (hf x (by simp) s) (ih (fun y hy => hf y (by simp [hy])) _)

end CursorQuiet

/-! ## No button operation touches the lock -/

@[simp] theorem setMouseButtons_mouseCursorLocked (buttons : BitVec 32) (s : PointerState) :
    (setMouseButtons buttons s).mouseCursorLocked = s.mouseCursorLocked := by
  rw [setMouseButtons_eq]; split_ifs <;> rfl

theorem releaseIn_mouseCursorLocked {env : Env} {button : Nat} {grabbedExplicit : Bool}
    {s s' : PointerState} (h : releaseIn env button grabbedExplicit s = some s') :
    s'.mouseCursorLocked = s.mouseCursorLocked := by
  unfold releaseIn at h
  split at h
  · cases h
  · dsimp only at h
    split_ifs at h <;> cases h <;> simp only [emit]

theorem handleMousePress_mouseCursorLocked {env : Env} {button : Nat} {newState : Bool}
    {s s' : PointerState} (h : handleMousePress env button newState s = some s') :
    s'.mouseCursorLocked = s.mouseCursorLocked := by
  unfold handleMousePress at h
  split_ifs at h
  · cases h; rfl
  · split at h <;> cases h
    · rfl
    · simp only [pressIn, emit]
      split_ifs <;> simp
  · simpa using releaseIn_mouseCursorLocked h

/-- A press sends downs, ups and releases only, whatever the lock. -/
theorem cursorQuiet_handleMousePress {env : Env} {button : Nat} {newState : Bool}
    {s' : PointerState} (h : handleMousePress env button newState s = some s') :
    CursorQuiet s s' := by
  obtain ⟨extra, hemitted, hpress⟩ := handleMousePress_emitted env s h
  refine CursorQuiet.of_eq (handleMousePress_mouseCursorLocked h) hemitted fun effect heffect => ?_
  have := hpress effect heffect
  cases effect <;> first | rfl | cases this

/-! ## What each operation sends while the cursor is locked -/

section Locked

variable {s : PointerState} (hlocked : s.mouseCursorLocked = true)
include hlocked

theorem crossingEffects_cursorFree (old new : Option Window) :
    ∀ effect ∈ crossingEffects old new s.mouseCursorLocked, effect.isCursor = false := by
  intro effect heffect
  simp only [crossingEffects, hlocked, List.mem_append, List.mem_map] at heffect
  rcases heffect with ((⟨_, -, rfl⟩ | hmid) | ⟨_, -, rfl⟩) | ⟨_, -, rfl⟩
  · rfl
  · rcases new with _ | window
    · cases hmid
    · rw [List.mem_singleton.mp hmid]; rfl
  · rfl
  · rfl

theorem cursorQuiet_trackMouseIn (env : Env) (changed : Bool) (location : MCPoint)
    (window : Window) : CursorQuiet s (trackMouseIn .idle env changed location window s) := by
  rw [Handlers.idle, trackMouseIn_eq]
  refine CursorQuiet.of_eq rfl rfl fun effect heffect => ?_
  simp only [hlocked, if_true, List.append_nil, List.mem_append, List.mem_ite_nil_right,
    List.mem_singleton] at heffect
  rcases heffect with ⟨-, rfl⟩ | ⟨-, rfl⟩ <;> rfl

theorem cursorQuiet_handleMouseMove (env : Env) (location : MCPoint) :
    CursorQuiet s (handleMouseMove .idle env location s) := by
  rw [handleMouseMove_idle]
  generalize (if s.mouseGrabbed then s.mouseWindow else env.windowAtPoint location) = target
  have hcross : CursorQuiet s { s with
      mouseWindow := target
      mouseScreenPosition := location
      emitted := s.emitted ++
        if target ≠ s.mouseWindow then crossingEffects s.mouseWindow target s.mouseCursorLocked
        else [] } := by
    refine CursorQuiet.of_eq rfl rfl fun effect heffect => ?_
    split_ifs at heffect
    · exact crossingEffects_cursorFree hlocked _ _ effect heffect
    · cases heffect
  cases target with
  | none => exact hcross
  | some window =>
    refine hcross.trans (cursorQuiet_trackMouseIn ?_ env _ location window)
    exact hlocked

theorem cursorQuiet_handleMouseSync (env : Env) :
    CursorQuiet s (handleMouseSync .idle env s) := by
  have hbuttons : CursorQuiet s (syncButtons s) := by
    unfold syncButtons
    split
    · refine CursorQuiet.foldl (fun i hi t => ?_) s
      rw [syncButton_eq _ (by simp at hi; omega)]
      exact CursorQuiet.of_eq rfl rfl (by simp [Effect.isCursor])
    · exact CursorQuiet.refl s
  have hreset : CursorQuiet (syncButtons s) { syncButtons s with
      mouseGrabbed := false
      mouseDragButton := noButton
      mouseClickCount := 0
      mouseLastClickTime := 0
      mouseWasControlClick := false } := ⟨rfl, [], (List.append_nil _).symm, by simp⟩
  have hlocked' : (syncButtons s).mouseCursorLocked = true := hbuttons.1.trans hlocked
  refine hbuttons.trans (hreset.trans (cursorQuiet_handleMouseMove ?_ env _))
  exact hlocked'

end Locked

/-- One pointer operation other than `UnlockCursor`, from a locked state. -/
theorem cursorQuiet_step {op : PointerOp} {s s' : PointerState} (h : step op s = some s')
    (hlocked : s.mouseCursorLocked = true) (hop : op ≠ .unlockCursor) : CursorQuiet s s' := by
  cases op with
  | press env button newState => exact cursorQuiet_handleMousePress h
  | move env location => cases h; exact cursorQuiet_handleMouseMove hlocked env location
  | afterWindowHidden env => cases h; exact cursorQuiet_handleMouseMove hlocked env _
  | sync env => cases h; exact cursorQuiet_handleMouseSync hlocked env
  | syncBeforeDragging =>
    cases h
    rw [syncMouseBeforeDragging_idle]
    refine CursorQuiet.of_eq rfl rfl fun effect heffect => ?_
    split at heffect
    · simp only [List.mem_append, List.mem_ite_nil_right, List.mem_singleton,
        List.mem_cons, List.not_mem_nil, or_false] at heffect
      rcases heffect with ⟨-, rfl⟩ | rfl | rfl <;> rfl
    · cases heffect
  | grab window =>
    cases h
    rw [grabPointer_eq]
    split_ifs
    · exact CursorQuiet.of_eq rfl (List.append_nil _).symm (by simp)
    · exact CursorQuiet.refl s
  | ungrab =>
    cases h
    unfold ungrabPointer
    split_ifs
    · exact CursorQuiet.refl s
    · exact CursorQuiet.of_eq rfl (List.append_nil _).symm (by simp)
  | modifiersChanged modifiers =>
    cases h
    rw [handleModifiersChanged_eq]
    refine CursorQuiet.of_eq rfl rfl fun effect heffect => ?_
    split_ifs at heffect
    · rw [List.mem_singleton.mp heffect]; rfl
    · cases heffect
  | scroll dx dy =>
    cases h
    rw [handleMouseScroll_eq]
    refine CursorQuiet.of_eq rfl rfl fun effect heffect => ?_
    split_ifs at heffect
    · simp only [List.mem_map, Option.mem_toList] at heffect
      obtain ⟨_, -, rfl⟩ := heffect
      rfl
    · cases heffect
  | resizeStart =>
    cases h
    rw [handleMouseForResizeStart_eq]
    exact CursorQuiet.of_eq rfl rfl (by simp [Effect.isCursor])
  | resizeEnd =>
    cases h
    rw [handleMouseForResizeEnd_eq]
    exact CursorQuiet.of_eq rfl rfl (by simp [Effect.isCursor])
  | lockCursor =>
    cases h
    exact CursorQuiet.of_eq hlocked.symm (List.append_nil _).symm (by simp)
  | unlockCursor => exact absurd rfl hop

/-- From a locked cursor, every run of pointer operations without `UnlockCursor`
keeps the cursor locked and sends no cursor change and no cursor reset. -/
theorem cursor_untouched_while_locked :
    ∀ (ops : List PointerOp) {s s' : PointerState}, run step ops s = some s' →
      s.mouseCursorLocked = true → (∀ op ∈ ops, op ≠ .unlockCursor) →
        s'.mouseCursorLocked = true ∧
          ∃ extra, s'.emitted = s.emitted ++ extra ∧
            ∀ effect ∈ extra, effect.isCursor = false
  | [], _, _, h, hlocked, _ => by
    cases h
    exact ⟨hlocked, (CursorQuiet.refl _).2⟩
  | op :: ops, s, s', h, hlocked, hops => by
    obtain ⟨s₁, hstep, hrun⟩ := Option.bind_eq_some.mp h
    have hfirst := cursorQuiet_step hstep hlocked (hops op (by simp))
    obtain ⟨hlocked', hrest⟩ := cursor_untouched_while_locked ops hrun (hfirst.1.trans hlocked)
      fun op' hop' => hops op' (by simp [hop'])
    exact ⟨hlocked', (hfirst.trans ⟨hlocked'.trans (hfirst.1.trans hlocked).symm, hrest⟩).2⟩

/-- Into window 1 and out to no window. -/
def inAndOut : List PointerOp :=
  [.move windowOneEnv ⟨10, 10⟩, .move windowOneEnv ⟨500, 500⟩]

/-- Unlocked, leaving window 1 for no window resets the cursor. -/
example :
    (run step inAndOut initial).map (fun s => s.emitted.contains .resetCursor) = some true := by
  decide

/-- Locked, the same trip leaves the cursor alone. -/
theorem inAndOut_locked :
    run step inAndOut { initial with mouseCursorLocked := true } =
        some ((run step inAndOut { initial with mouseCursorLocked := true }).getD initial) ∧
      ({ initial with mouseCursorLocked := true } : PointerState).mouseCursorLocked = true ∧
      (∀ op ∈ inAndOut, op ≠ .unlockCursor) ∧
      ((run step inAndOut { initial with mouseCursorLocked := true }).getD
        initial).mouseCursorLocked = true ∧
      ∃ extra, ((run step inAndOut { initial with mouseCursorLocked := true }).getD
          initial).emitted =
            ({ initial with mouseCursorLocked := true } : PointerState).emitted ++ extra ∧
        ∀ effect ∈ extra, effect.isCursor = false :=
  have hrun : run step inAndOut { initial with mouseCursorLocked := true } =
      some ((run step inAndOut { initial with mouseCursorLocked := true }).getD initial) := rfl
  have hops : ∀ op ∈ inAndOut, op ≠ .unlockCursor := by simp [inAndOut]
  ⟨hrun, rfl, hops, cursor_untouched_while_locked inAndOut hrun rfl hops⟩

end MacPlatformCore
