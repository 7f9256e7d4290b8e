/-
# Presses, clicks and drags

Every `mouseDown` the core sends for a reported button should be followed, for
that button, by exactly one `mouseUp` or `mouseRelease` to the same window
before the next down; `pressReplay` checks a notification stream for this. The
core tracks one click at a time: one last-click button, one drag button, one
`m_mouse_was_control_click` flag that any release clears, and a
`SyncMouseBeforeDragging` that releases a single button. A Command-click with
another button pressed and released meanwhile, and a chord ended by
`SyncMouseBeforeDragging`, each leave a down open (`commandClick_left_open`).

`HandleMousePress` counts a press as a continued click when it comes within
`MCdoubletime` of the last click, within `MCdoubledelta` of its position, on
the same reported button; `HandleMouseMove` starts a drag once the pointer is
`MCdragdelta` from the last click with a button down, latching the last clicked
button in `m_mouse_drag_button` until the buttons are all up.

`clickCheck` replays the notifications: a down restarts at 0 or continues the
last down's reported button with a count at most one more, and a drag carries
the last down's button. Every run replays (`clicksTracked_of_reachable`). The
count may be less than the last down's plus one since the syncs and
`SyncMouseBeforeDragging` reset it without a notification, and the member
initialisers act as a down of button 0 reporting 0.

The time test subtracts 32-bit event times, and a cancelled click leaves the
time 0: a press 2^32 ms after an up, or after a cancelled press, continues the
click (`stale_click_continues`).

While the syncs see no button of 3 or more down, a stretch of the run with a
button down sends at most one drag (`drags_once_per_stretch`). `HandleMouseSync`
resets the drag latch and leaves a high button down, so the move it makes
starts the drag again (`handleMouseSync_drags_twice`).
-/

import MacPlatformCore.Pointer.Ownership

namespace MacPlatformCore

open PointerState

/-! ## Downs, ups and releases -/

/-- One notification against the downs still open, as (reported button, window)
pairs: a down opens its button, which must not be open already; an up or a
release closes the open down of its button sent to its window. -/
def openPress (downs : List (Nat × Window)) : Effect → Option (List (Nat × Window))
  | .mouseDown window button _ =>
      if downs.any (·.1 == button) then none else some (downs ++ [(button, window)])
  | .mouseUp window button _ | .mouseRelease window button _ =>
      if (button, window) ∈ downs then some (downs.erase (button, window)) else none
  | _ => some downs

/-- The downs a notification stream leaves open; `none` when for some reported
button the downs and the ups or releases do not alternate starting with a down,
or an up or release goes to another window than its down. -/
def pressReplay (effects : List Effect) : Option (List (Nat × Window)) :=
  replay openPress [] effects

/-- Command held: `HandleMousePress` reports a press of button 0 as button 2. -/
def commandHeld : MCPlatformModifiers := ⟨false, false, false, true, false⟩

/-- A command-click over window 1. -/
def commandClick : List PointerOp :=
  [.move windowOneEnv ⟨10, 10⟩, .modifiersChanged commandHeld, .press windowOneEnv 0 true]

/-- Button 1 pressed and released during a command-click: its release clears
`m_mouse_was_control_click`, so the release of button 0 is reported as button 0
and the down reported as button 2 is never closed. Buttons 0 and 1 pressed
together, then `SyncMouseBeforeDragging`: it releases the last clicked button
only, clears the mask, and the down of button 0 stays open. -/
theorem commandClick_left_open :
    (run step (commandClick ++ [.press windowOneEnv 1 true, .press windowOneEnv 1 false,
        .press windowOneEnv 0 false]) initial).map (fun s => s.emitted.filter Effect.isPress) =
      some [.mouseDown 1 2 0, .mouseDown 1 1 0, .mouseUp 1 1 0, .mouseUp 1 0 0] ∧
    (run step (commandClick ++ [.press windowOneEnv 1 true, .press windowOneEnv 1 false,
        .press windowOneEnv 0 false]) initial).map (fun s => pressReplay s.emitted) =
      some none ∧
    (run step [.move windowOneEnv ⟨10, 10⟩, .press windowOneEnv 0 true,
        .press windowOneEnv 1 true, .syncBeforeDragging] initial).map
        (fun s => (s.mouseButtons, pressReplay s.emitted)) =
      some (0#32, some [(0, 1)]) := by
  decide

/-! ## Clicks and drags in the log -/

/-- Whether a notification is a drag. -/
def Effect.isDrag : Effect → Bool
  | .mouseDrag .. => true
  | _ => false

/-- One notification against the last press: its reported button and the count
it reported. A down either starts a new click (count 0) or continues the last
press's button with a count at most one more; a drag carries the last press's
button. -/
def clickCheck : Nat × Nat → Effect → Option (Nat × Nat)
  | (button, count), .mouseDown _ button' count' =>
      if count' = 0 ∨ button' = button ∧ count' ≤ count + 1 then some (button', count')
      else none
  | (button, count), .mouseDrag _ button' => if button' = button then some (button, count) else none
  | last, _ => some last

/-- A notification that neither presses nor drags a button other than `button`. -/
def QuietFor (button : Nat) (effect : Effect) : Prop :=
  ∀ count, clickCheck (button, count) effect = some (button, count)

theorem quietFor_of_not_press {effect : Effect} (hpress : effect.isPress = false)
    (hdrag : effect.isDrag = false) (button : Nat) : QuietFor button effect := by
  intro count
  cases effect <;> first | rfl | contradiction

theorem quietFor_mouseDrag (window : Option Window) (button : Nat) :
    QuietFor button (.mouseDrag window button) := by
  intro count
  simp [clickCheck]

/-! ## What each operation sends -/

theorem crossingEffects_quiet (old new : Option Window) (cursorLocked : Bool) :
    ∀ effect ∈ crossingEffects old new cursorLocked, effect.isPress = false := by
  intro effect heffect
  simp only [crossingEffects, List.mem_append, List.mem_map] at heffect
  rcases heffect with ((⟨_, -, rfl⟩ | hmid) | ⟨_, -, rfl⟩) | ⟨_, -, rfl⟩
  · rfl
  · rcases new with _ | window
    · cases cursorLocked
      · rw [List.mem_singleton.mp hmid]; rfl
      · cases hmid
    · rw [List.mem_singleton.mp hmid]; rfl
  · rfl
  · rfl

/-- The motion part of `HandleMouseMove`: it keeps the buttons and the click
fields, and sends at most one drag, of the last clicked button, and only when it
latches that button as the drag button. -/
theorem trackMouseIn_idle_drags (env : Env) (changed : Bool) (location : MCPoint)
    (window : Window) (t : PointerState) :
    let t' := trackMouseIn .idle env changed location window t
    t'.mouseButtons = t.mouseButtons ∧ t'.mouseLastClickButton = t.mouseLastClickButton ∧
      t'.mouseClickCount = t.mouseClickCount ∧
      ∃ extra, t'.emitted = t.emitted ++ extra ∧
        (∀ effect ∈ extra,
          effect.isPress = false ∧ QuietFor t.mouseLastClickButton effect) ∧
        (t'.mouseDragButton = t.mouseDragButton ∧ extra.countP Effect.isDrag = 0 ∨
          startsDrag env location t ∧ t'.mouseDragButton = t.mouseLastClickButton ∧
            extra.countP Effect.isDrag = 1) := by
  dsimp only [Handlers.idle]
  rw [trackMouseIn_eq]
  dsimp only
  refine ⟨rfl, rfl, rfl, _, rfl, ?_, ?_⟩
  · intro effect heffect
    simp only [List.mem_append, List.mem_ite_nil_right, List.mem_ite_nil_left, List.mem_singleton,
      List.mem_map] at heffect
    rcases heffect with (⟨-, rfl⟩ | ⟨-, rfl⟩) | ⟨-, _, -, rfl⟩
    · exact ⟨rfl, quietFor_of_not_press (by rfl) (by rfl) _⟩
    · exact ⟨rfl, quietFor_mouseDrag _ _⟩
    · exact ⟨rfl, quietFor_of_not_press (by rfl) (by rfl) _⟩
  · by_cases hdrag : (changed = true ∨
        env.mapPointFromScreenToWindow window location ≠ t.mousePosition) ∧
        startsDrag env location t
    · refine .inr ⟨hdrag.2, if_pos hdrag, ?_⟩
      rw [if_pos hdrag]
      split_ifs <;> cases t.mouseCursorLocked <;> cases t.mouseWindow <;> simp [Effect.isDrag]
    · refine .inl ⟨if_neg hdrag, ?_⟩
      rw [if_neg hdrag]
      split_ifs <;> cases t.mouseCursorLocked <;> cases t.mouseWindow <;> simp [Effect.isDrag]

theorem crossingEffects_no_drag (old new : Option Window) (cursorLocked : Bool) :
    ∀ effect ∈ crossingEffects old new cursorLocked, effect.isDrag = false := by
  intro effect heffect
  simp only [crossingEffects, List.mem_append, List.mem_map] at heffect
  rcases heffect with ((⟨_, -, rfl⟩ | hmid) | ⟨_, -, rfl⟩) | ⟨_, -, rfl⟩
  · rfl
  · rcases new with _ | window
    · cases cursorLocked
      · rw [List.mem_singleton.mp hmid]; rfl
      · cases hmid
    · rw [List.mem_singleton.mp hmid]; rfl
  · rfl
  · rfl

/-- `HandleMouseMove` keeps the buttons and the click fields, and sends at most
one drag, of the last clicked button, and only when it latches that button as
the drag button. -/
theorem handleMouseMove_idle_drags (env : Env) (location : MCPoint) (s : PointerState) :
    let s' := handleMouseMove .idle env location s
    s'.mouseButtons = s.mouseButtons ∧ s'.mouseLastClickButton = s.mouseLastClickButton ∧
      s'.mouseClickCount = s.mouseClickCount ∧
      ∃ extra, s'.emitted = s.emitted ++ extra ∧
        (∀ effect ∈ extra,
          effect.isPress = false ∧ QuietFor s.mouseLastClickButton effect) ∧
        (s'.mouseDragButton = s.mouseDragButton ∧ extra.countP Effect.isDrag = 0 ∨
          startsDrag env location s ∧ s'.mouseDragButton = s.mouseLastClickButton ∧
            extra.countP Effect.isDrag = 1) := by
  rw [handleMouseMove_idle]
  generalize (if s.mouseGrabbed then s.mouseWindow else env.windowAtPoint location) = target
  dsimp only
  generalize hcross : (if target ≠ s.mouseWindow then
    crossingEffects s.mouseWindow target s.mouseCursorLocked else []) = cross
  have hquiet : ∀ effect ∈ cross, effect.isPress = false ∧ effect.isDrag = false := by
    subst hcross
    split_ifs
    · exact fun effect heffect => ⟨crossingEffects_quiet _ _ _ effect heffect,
        crossingEffects_no_drag _ _ _ effect heffect⟩
    · exact List.forall_mem_nil _
  have hquietFor :
      ∀ effect ∈ cross, effect.isPress = false ∧ QuietFor s.mouseLastClickButton effect :=
    fun effect heffect => ⟨(hquiet effect heffect).1,
      quietFor_of_not_press (hquiet effect heffect).1 (hquiet effect heffect).2 _⟩
  have hcount : cross.countP Effect.isDrag = 0 :=
    List.countP_eq_zero.mpr fun effect heffect => by simp [(hquiet effect heffect).2]
  cases target with
  | none => exact ⟨rfl, rfl, rfl, cross, rfl, hquietFor, .inl ⟨rfl, hcount⟩⟩
  | some window =>
      obtain ⟨hbuttons, hlast, hcount', extra, hemitted, hextra, hdrag⟩ :=
        trackMouseIn_idle_drags env (decide (some window ≠ s.mouseWindow)) location window
          { s with
            mouseWindow := some window
            mouseScreenPosition := location
            emitted := s.emitted ++ cross }
      refine ⟨hbuttons, hlast, hcount', cross ++ extra, by rw [hemitted, List.append_assoc],
        ?_, ?_⟩
      · exact List.forall_mem_append.mpr ⟨hquietFor, hextra⟩
      · simpa [List.countP_append, hcount] using hdrag

/-- The mask update keeps every field a press reads to count its click. -/
theorem setMouseButtons_clickFields (buttons : BitVec 32) (s : PointerState) :
    let t := setMouseButtons buttons s
    t.mouseButtons = buttons ∧
      t.mouseDragButton = (if buttons = 0 then noButton else s.mouseDragButton) ∧
      t.mouseModifiers = s.mouseModifiers ∧ t.mouseClickCount = s.mouseClickCount ∧
      t.emitted = s.emitted ∧ ∀ env b, continuesClick env b t ↔ continuesClick env b s := by
  rw [setMouseButtons_eq]
  split_ifs <;> exact ⟨by simp_all, by simp_all, rfl, rfl, rfl, fun _ _ => Iff.rfl⟩

/-- The press branch after the mask update: one down, counting the click. -/
theorem pressIn_spec (env : Env) (window : Window) (button : Nat) (t : PointerState) :
    let t' := pressIn env window button t
    let count := if continuesClick env button t then t.mouseClickCount + 1 else 0
    t'.emitted = t.emitted ++ [.mouseDown window button count] ∧
      t'.mouseLastClickButton = button ∧ t'.mouseClickCount = count ∧
      t'.mouseButtons = t.mouseButtons ∧ t'.mouseDragButton = t.mouseDragButton :=
  ⟨rfl, rfl, rfl, rfl, rfl⟩

/-- The release branch sends one up or release, keeps the mask, the drag button
and the last clicked button, and may only cancel the click count. -/
theorem releaseIn_cases {env : Env} {button : Nat} {grabbedExplicit : Bool}
    {t t' : PointerState} (h : releaseIn env button grabbedExplicit t = some t') :
    ∃ effect, t'.emitted = t.emitted ++ [effect] ∧ effect.isPress = true ∧
      effect.isDrag = false ∧ (∀ last, QuietFor last effect) ∧
      t'.mouseButtons = t.mouseButtons ∧ t'.mouseDragButton = t.mouseDragButton ∧
      t'.mouseLastClickButton = t.mouseLastClickButton ∧
      t'.mouseClickCount ≤ t.mouseClickCount := by
  unfold releaseIn at h
  split at h
  · cases h
  · dsimp only at h
    split_ifs at h <;> cases h <;>
      exact ⟨_, rfl, rfl, rfl, fun _ _ => rfl, rfl, rfl, rfl, by simp [emit]⟩

/-- What `HandleMousePress` can do: nothing; with a mouse window, a press that
sends one down whose count continues the last click or restarts at 0; or a
release that sends one up or release. -/
theorem handleMousePress_cases {env : Env} {button : Nat} {newState : Bool}
    {s s' : PointerState} (h : handleMousePress env button newState s = some s') :
    s' = s ∨
    (∃ window, s.mouseWindow = some window ∧
      let reported := if button = 0 ∧ s.mouseModifiers.command = true then 2 else button
      let count := if continuesClick env reported s then s.mouseClickCount + 1 else 0
      s'.emitted = s.emitted ++ [.mouseDown window reported count] ∧
        s'.mouseLastClickButton = reported ∧ s'.mouseClickCount = count ∧
        s'.mouseButtons = s.mouseButtons ||| buttonBit button ∧
        s'.mouseDragButton =
          if s.mouseButtons ||| buttonBit button = 0 then noButton else s.mouseDragButton) ∨
    (∃ effect, s'.emitted = s.emitted ++ [effect] ∧ effect.isPress = true ∧
      effect.isDrag = false ∧ (∀ last, QuietFor last effect) ∧
      s'.mouseLastClickButton = s.mouseLastClickButton ∧
      s'.mouseClickCount ≤ s.mouseClickCount ∧
      s'.mouseButtons = s.mouseButtons &&& ~~~buttonBit button ∧
      s'.mouseDragButton =
        if s.mouseButtons &&& ~~~buttonBit button = 0 then noButton else s.mouseDragButton) := by
  unfold handleMousePress at h
  split_ifs at h with hsame hnew
  · exact .inl (Option.some.inj h).symm
  · cases hw : s.mouseWindow with
    | none => simp only [hw, Option.some.injEq] at h; exact .inl h.symm
    | some window =>
      simp only [hw, Option.some.injEq] at h
      subst h
      refine .inr (.inl ⟨window, rfl, ?_⟩)
      have ht := setMouseButtons_clickFields (s.mouseButtons ||| buttonBit button) s
      generalize setMouseButtons (s.mouseButtons ||| buttonBit button) s = t at ht ⊢
      obtain ⟨hbuttons, hdrag, hmodifiers, hcount, hemitted, hclick⟩ := ht
      generalize hu : (if button = 0 ∧ t.mouseModifiers.command = true then
        { t with mouseWasControlClick := true } else t) = u
      have hufields : u.mouseButtons = t.mouseButtons ∧ u.mouseDragButton = t.mouseDragButton ∧
          u.mouseClickCount = t.mouseClickCount ∧ u.emitted = t.emitted ∧
          ∀ env b, continuesClick env b u ↔ continuesClick env b t := by
        subst hu
        split_ifs <;> exact ⟨rfl, rfl, rfl, rfl, fun _ _ => Iff.rfl⟩
      obtain ⟨hub, hud, huc, hue, huclick⟩ := hufields
      rw [hmodifiers]
      obtain ⟨he, hl, hc, hb, hd⟩ := pressIn_spec env window
        (if button = 0 ∧ s.mouseModifiers.command = true then 2 else button) u
      simp only [huclick, hclick, huc, hcount, hue, hemitted] at he hc
      exact ⟨he, hl, hc, hb.trans (hub.trans hbuttons), hd.trans (hud.trans hdrag)⟩
  · obtain ⟨effect, hemitted, hpress, hdrag, hquiet, hbuttons, hdragButton, hlast, hcount⟩ :=
      releaseIn_cases h
    refine .inr (.inr ⟨effect, ?_, hpress, hdrag, hquiet, ?_⟩)
    · rw [hemitted]
      by_cases hzero : s.mouseButtons &&& ~~~buttonBit button = 0#32 <;>
        simp [setMouseButtons_eq, hzero]
    · rw [hbuttons, hdragButton, hlast]
      by_cases hzero : s.mouseButtons &&& ~~~buttonBit button = 0#32 <;>
        simp [setMouseButtons_eq, hzero] at hcount ⊢ <;> omega

/-- The three turns of the loop of `HandleMouseSync` send releases only, and keep
the drag button and the click fields. -/
theorem syncButtons_clicks (s : PointerState) :
    let s' := syncButtons s
    s'.mouseLastClickButton = s.mouseLastClickButton ∧ s'.mouseClickCount = s.mouseClickCount ∧
      s'.mouseDragButton = s.mouseDragButton ∧
      ∃ extra, s'.emitted = s.emitted ++ extra ∧
        ∀ effect ∈ extra, effect.isDrag = false ∧ ∀ last, QuietFor last effect := by
  have hquiet : ∀ (t : PointerState) (window : Window) (i : Nat), i < 32 →
      let t' := syncButton window t i
      t'.mouseLastClickButton = t.mouseLastClickButton ∧
        t'.mouseClickCount = t.mouseClickCount ∧
        t'.mouseDragButton = t.mouseDragButton ∧
        ∃ extra, t'.emitted = t.emitted ++ extra ∧
          ∀ effect ∈ extra, effect.isDrag = false ∧ ∀ last, QuietFor last effect := by
    intro t window i hi
    rw [syncButton_eq window hi]
    refine ⟨rfl, rfl, rfl, _, rfl, fun effect heffect => ?_⟩
    simp only [List.mem_ite_nil_right, List.mem_singleton] at heffect
    obtain ⟨-, rfl⟩ := heffect
    exact ⟨rfl, fun _ _ => rfl⟩
  unfold syncButtons
  split
  · next window _ =>
    have hrange : List.range 3 = [0, 1, 2] := rfl
    simp only [hrange, List.foldl_cons, List.foldl_nil]
    obtain ⟨h0l, h0c, h0d, e0, h0e, h0q⟩ := hquiet s window 0 (by omega)
    obtain ⟨h1l, h1c, h1d, e1, h1e, h1q⟩ := hquiet (syncButton window s 0) window 1 (by omega)
    obtain ⟨h2l, h2c, h2d, e2, h2e, h2q⟩ :=
      hquiet (syncButton window (syncButton window s 0) 1) window 2 (by omega)
    refine ⟨h2l.trans (h1l.trans h0l), h2c.trans (h1c.trans h0c), h2d.trans (h1d.trans h0d),
      e0 ++ e1 ++ e2, by simp [h2e, h1e, h0e], ?_⟩
    simp only [List.forall_mem_append]
    exact ⟨⟨h0q, h1q⟩, h2q⟩
  · exact ⟨rfl, rfl, rfl, [], by simp, List.forall_mem_nil _⟩

/-- The operations that touch neither the buttons nor the click fields: grabs,
modifier changes, scrolls, live resizes and cursor locks. -/
def PointerOp.Bookkeeping : PointerOp → Prop
  | .grab _ | .ungrab | .modifiersChanged _ | .scroll _ _ | .resizeStart | .resizeEnd
  | .lockCursor | .unlockCursor => True
  | _ => False

theorem step_bookkeeping {s s' : PointerState} {op : PointerOp} (h : step op s = some s')
    (hop : op.Bookkeeping) :
    s'.mouseButtons = s.mouseButtons ∧ s'.mouseDragButton = s.mouseDragButton ∧
      s'.mouseLastClickButton = s.mouseLastClickButton ∧
      s'.mouseClickCount = s.mouseClickCount ∧
      ∃ extra, s'.emitted = s.emitted ++ extra ∧
        ∀ effect ∈ extra, effect.isDrag = false ∧ ∀ last, QuietFor last effect := by
  -- the notifications these send are neither presses nor drags
  have hframe : ∀ extra : List Effect, extra.all (fun e => !e.isPress && !e.isDrag) →
      ∀ effect ∈ extra, effect.isDrag = false ∧ ∀ last, QuietFor last effect :=
    fun extra h effect heffect => by
      obtain ⟨hpress, hdrag⟩ : effect.isPress = false ∧ effect.isDrag = false := by
        simpa using List.all_eq_true.mp h effect heffect
      exact ⟨hdrag, quietFor_of_not_press hpress hdrag⟩
  cases op <;> simp only [PointerOp.Bookkeeping] at hop <;> cases h
  · rw [grabPointer_eq]
    split_ifs <;> exact ⟨rfl, rfl, rfl, rfl, [], by simp, List.forall_mem_nil _⟩
  · unfold ungrabPointer
    split_ifs <;> exact ⟨rfl, rfl, rfl, rfl, [], by simp, List.forall_mem_nil _⟩
  · rw [handleModifiersChanged_eq]
    exact ⟨rfl, rfl, rfl, rfl, _, rfl, hframe _ (by split_ifs <;> rfl)⟩
  · rw [handleMouseScroll_eq]
    exact ⟨rfl, rfl, rfl, rfl, _, rfl, hframe _ (by cases s.mouseWindow <;> split_ifs <;> rfl)⟩
  · rw [handleMouseForResizeStart_eq]
    exact ⟨rfl, rfl, rfl, rfl, _, rfl, hframe _ (by cases s.mouseWindow <;> rfl)⟩
  · rw [handleMouseForResizeEnd_eq]
    exact ⟨rfl, rfl, rfl, rfl, _, rfl, hframe _ (by cases s.mouseWindow <;> rfl)⟩
  · exact ⟨rfl, rfl, rfl, rfl, [], by simp [lockCursor], List.forall_mem_nil _⟩
  · rw [unlockCursor_eq]
    exact ⟨rfl, rfl, rfl, rfl, _, rfl, hframe _ (by cases s.mouseWindow <;> rfl)⟩

/-! ## The last press -/

/-- The replay of the log agrees with the core's last clicked button, and the
count the core would continue from is at most the one the last down reported.
The member initialisers act as a press of button 0 that reported 0. -/
def ClicksTracked (s : PointerState) : Prop :=
  ∃ count, replay clickCheck (0, 0) s.emitted = some (s.mouseLastClickButton, count) ∧
    s.mouseClickCount ≤ count

theorem replay_clickCheck_quiet {events extra : List Effect} {last count : Nat}
    (h : replay clickCheck (0, 0) events = some (last, count))
    (hquiet : ∀ effect ∈ extra, QuietFor last effect) :
    replay clickCheck (0, 0) (events ++ extra) = some (last, count) := by
  induction extra generalizing events with
  | nil => simpa using h
  | cons effect extra ih =>
      rw [← List.singleton_append, ← List.append_assoc]
      refine ih ?_ fun e he => hquiet e (List.mem_cons_of_mem _ he)
      rw [replay_append_singleton, h, Option.some_bind]
      exact hquiet effect (List.mem_cons_self _ _) count

namespace ClicksTracked

variable {s s' : PointerState}

/-- A change that sends no down, and no drag of another button than the last
clicked one, keeps the last clicked button and does not raise the count. -/
theorem of_quiet (hs : ClicksTracked s) (extra : List Effect)
    (hemitted : s'.emitted = s.emitted ++ extra)
    (hquiet : ∀ effect ∈ extra, QuietFor s.mouseLastClickButton effect)
    (hlast : s'.mouseLastClickButton = s.mouseLastClickButton)
    (hcount : s'.mouseClickCount ≤ s.mouseClickCount) : ClicksTracked s' := by
  obtain ⟨count, hreplay, hle⟩ := hs
  exact ⟨count, by rw [hemitted, hlast, replay_clickCheck_quiet hreplay hquiet], by omega⟩

/-- A down whose count continues the last click or restarts at 0. -/
theorem pressDown (hs : ClicksTracked s) {env : Env} {window : Window} {reported : Nat}
    (hemitted : s'.emitted = s.emitted ++
      [.mouseDown window reported
        (if continuesClick env reported s then s.mouseClickCount + 1 else 0)])
    (hlast : s'.mouseLastClickButton = reported)
    (hcount : s'.mouseClickCount =
      if continuesClick env reported s then s.mouseClickCount + 1 else 0) :
    ClicksTracked s' := by
  obtain ⟨count, hreplay, hle⟩ := hs
  refine ⟨s'.mouseClickCount, ?_, le_rfl⟩
  rw [hemitted, replay_append_singleton, hreplay, Option.some_bind, hlast, hcount]
  split_ifs with hcontinues
  · simp [clickCheck, hcontinues.2.2.2.symm, hle]
  · simp [clickCheck]

end ClicksTracked

/-- Every operation keeps the log's last press in step with the core. -/
theorem clicksTracked_step {s s' : PointerState} {op : PointerOp} (hs : ClicksTracked s)
    (h : step op s = some s') : ClicksTracked s' := by
  cases op with
  | press env button newState =>
      rcases handleMousePress_cases h with rfl | ⟨window, -, he, hl, hc, -, -⟩ |
        ⟨effect, he, -, -, hq, hl, hc, -, -⟩
      · exact hs
      · exact hs.pressDown he hl hc
      · exact hs.of_quiet [effect] he (List.forall_mem_singleton.mpr (hq _)) hl hc
  | move env location =>
      cases h
      obtain ⟨-, hl, hc, extra, he, hq, -⟩ := handleMouseMove_idle_drags env location s
      exact hs.of_quiet extra he (fun e he => (hq e he).2) hl hc.le
  | afterWindowHidden env =>
      cases h
      obtain ⟨-, hl, hc, extra, he, hq, -⟩ :=
        handleMouseMove_idle_drags env s.mouseScreenPosition s
      exact hs.of_quiet extra he (fun e he => (hq e he).2) hl hc.le
  | sync env =>
      cases h
      obtain ⟨hl, -, -, extra, he, hq⟩ := syncButtons_clicks s
      have hsynced : ClicksTracked { syncButtons s with
          mouseGrabbed := false
          mouseDragButton := noButton
          mouseClickCount := 0
          mouseLastClickTime := 0
          mouseWasControlClick := false } :=
        hs.of_quiet extra he (fun e he => (hq e he).2 _) hl (Nat.zero_le _)
      obtain ⟨-, hl', hc', extra', he', hq', -⟩ :=
        handleMouseMove_idle_drags env env.mouseLocation { syncButtons s with
          mouseGrabbed := false
          mouseDragButton := noButton
          mouseClickCount := 0
          mouseLastClickTime := 0
          mouseWasControlClick := false }
      exact hsynced.of_quiet extra' he' (fun e he => (hq' e he).2) hl' hc'.le
  | syncBeforeDragging =>
      cases h
      rw [syncMouseBeforeDragging_idle]
      refine hs.of_quiet _ rfl ?_ rfl (by dsimp only; split_ifs <;> simp)
      cases s.mouseWindow
      · exact List.forall_mem_nil _
      · -- a release, the leave and the window's release: none is checked
        intro effect heffect count
        simp only [List.mem_append, List.mem_ite_nil_right, List.mem_singleton, List.mem_cons,
          List.not_mem_nil, or_false] at heffect
        rcases heffect with ⟨-, rfl⟩ | rfl | rfl <;> rfl
  | grab | ungrab | modifiersChanged | scroll | resizeStart | resizeEnd | lockCursor
  | unlockCursor =>
      obtain ⟨-, -, hl, hc, extra, he, hq⟩ := step_bookkeeping h trivial
      exact hs.of_quiet extra he (fun e he => (hq e he).2 _) hl hc.le

/-- Along every run, a down reporting count `k + 1` follows a down of the same
reported button that reported at least `k` (the member initialisers count as a
down of button 0 reporting 0), and every drag carries the button of the last
down. -/
theorem clicksTracked_of_reachable {allowed : PointerState → PointerOp → Prop}
    {s : PointerState}
    (h : ReachableBy initial step allowed s) : ClicksTracked s := by
  induction h with
  | init => exact ⟨0, rfl, le_rfl⟩
  | next _ _ hstep ih => exact clicksTracked_step ih hstep

/-- Window 1 under (10, 10), as in `windowOneEnv`, at real time `time` ms;
`GetEventTime` reads it modulo 2^32. -/
def clickEnv (time : Nat) : Env := { windowOneEnv with eventTime := UInt32.ofNat time }

/-- A double click of button 0 over window 1: down at 1000 ms, up at 1100 ms,
down at 1200 ms. -/
def doubleClickOps : List PointerOp :=
  [.move (clickEnv 1000) ⟨10, 10⟩, .press (clickEnv 1000) 0 true,
    .press (clickEnv 1100) 0 false, .press (clickEnv 1200) 0 true]

/-- Where `doubleClickOps` ends. -/
def doubleClick : PointerState := (run step doubleClickOps initial).getD initial

/-- The second down of `doubleClick` reports count 1 and continues the first. -/
theorem clicksTracked_doubleClick :
    ReachableBy initial step (fun _ _ => True) doubleClick ∧
      doubleClick.emitted.filter Effect.isPress =
        [.mouseDown 1 0 0, .mouseUp 1 0 0, .mouseDown 1 0 1] ∧
      ClicksTracked doubleClick :=
  have h : ReachableBy initial step (fun _ _ => True) doubleClick :=
    ReachableBy.of_run (fun _ _ => trivial) doubleClickOps .init (by decide)
  ⟨h, by decide, clicksTracked_of_reachable h⟩

/-! ## Counting against the clock -/

/-- Presses of button 0 at (10, 10) at non-decreasing real times. An up at
1100 ms and a press 2^32 ms later: the wrapped difference is 100 ms and the
press reports count 1. A press cancelled by a release outside its window, and a
press 2^32 + 100 ms later: the cancelled time 0 is 100 ms before, and the press
reports count 1. -/
theorem stale_click_continues :
    (run step [.move (clickEnv 1000) ⟨10, 10⟩, .press (clickEnv 1000) 0 true,
        .press (clickEnv 1100) 0 false, .press (clickEnv 4294968496) 0 true] initial).map
        (fun s => s.emitted.filter Effect.isPress) =
      some [.mouseDown 1 0 0, .mouseUp 1 0 0, .mouseDown 1 0 1] ∧
    (run step [.move (clickEnv 1000) ⟨10, 10⟩, .press (clickEnv 1000) 0 true,
        .press { clickEnv 1050 with windowAtPoint := fun _ => none } 0 false,
        .press (clickEnv 4294967396) 0 true] initial).map
        (fun s => s.emitted.filter Effect.isPress) =
      some [.mouseDown 1 0 0, .mouseRelease 1 0 false, .mouseDown 1 0 1] := by
  decide

/-! ## Drags -/

/-- What every state reached through syncs that see no high button keeps: a down
button has a grabbed window, the last clicked button is a real one, and with no
button down no drag is latched. -/
structure DragLatch (s : PointerState) : Prop where
  owned : ButtonsOwned s
  lastClick : s.mouseLastClickButton ≠ noButton
  released : s.mouseButtons = 0 → s.mouseDragButton = noButton

/-- Whether a drag is latched, as a number. -/
def latched (s : PointerState) : Nat := if s.mouseDragButton = noButton then 0 else 1

theorem latched_le_one (s : PointerState) : latched s ≤ 1 := by
  unfold latched; split_ifs <;> omega

/-- `HandleMouseSync` from a latch state whose high buttons are up: no button
left down and no drag sent. -/
theorem handleMouseSync_idle_drags {env : Env} {s : PointerState} (hs : DragLatch s)
    (hhigh : ∀ i, 3 ≤ i → s.mouseButtons.getLsbD i = false) :
    let s' := handleMouseSync .idle env s
    s'.mouseButtons = 0 ∧ s'.mouseLastClickButton = s.mouseLastClickButton ∧
      s'.mouseDragButton = noButton ∧
      s'.emitted.countP Effect.isDrag = s.emitted.countP Effect.isDrag := by
  have hup := @handleMouseSync_idle_mouseButtons env _ hs.owned hhigh
  obtain ⟨hl, -, -, extra, he, hq⟩ := syncButtons_clicks s
  obtain ⟨hb', hl', -, extra', he', -, hdrag⟩ :=
    handleMouseMove_idle_drags env env.mouseLocation { syncButtons s with
      mouseGrabbed := false
      mouseDragButton := noButton
      mouseClickCount := 0
      mouseLastClickTime := 0
      mouseWasControlClick := false }
  have hextra : extra.countP Effect.isDrag = 0 :=
    List.countP_eq_zero.mpr fun e he => by simp [(hq e he).1]
  refine ⟨hup, hl'.trans hl, ?_, ?_⟩
  · rcases hdrag with ⟨hd, -⟩ | ⟨hstarts, -⟩
    · exact hd
    · exact absurd (hb'.symm.trans hup) hstarts.1
  · rcases hdrag with ⟨-, hcount⟩ | ⟨hstarts, -⟩
    · have hemitted : (handleMouseSync .idle env s).emitted = s.emitted ++ extra ++ extra' := by
        rw [← he]
        exact he'
      simp [hemitted, List.countP_append, hextra, hcount]
    · exact absurd (hb'.symm.trans hup) hstarts.1

theorem dragLatch_step {s s' : PointerState} {op : PointerOp} (hs : DragLatch s)
    (hop : SyncSeesLowButtons s op) (h : step op s = some s') : DragLatch s' := by
  have howned := buttonsOwned_step hs.owned hop h
  cases op with
  | press env button newState =>
      have hreported : ∀ b, (b = 2 ∨ b = button) → b ≠ noButton := by
        rintro b (rfl | rfl) <;> simp only [noButton, SyncSeesLowButtons] at hop ⊢ <;> omega
      rcases handleMousePress_cases h with rfl | ⟨window, -, -, hl, -, hb, hd⟩ |
        ⟨effect, -, -, -, -, hl, -, hb, hd⟩
      · exact hs
      · refine ⟨howned, hl ▸ hreported _ (by split_ifs <;> simp), fun hup => ?_⟩
        rw [hd, if_pos (hb ▸ hup)]
      · refine ⟨howned, hl ▸ hs.lastClick, fun hup => ?_⟩
        rw [hd, if_pos (hb ▸ hup)]
  | move env location =>
      cases h
      obtain ⟨hb, hl, -, _, -, -, hdrag⟩ := handleMouseMove_idle_drags env location s
      refine ⟨howned, hl ▸ hs.lastClick, fun hup => ?_⟩
      rcases hdrag with ⟨hd, -⟩ | ⟨hstarts, -⟩
      · exact hd.trans (hs.released (hb ▸ hup))
      · exact absurd (hb ▸ hup) hstarts.1
  | afterWindowHidden env =>
      cases h
      obtain ⟨hb, hl, -, _, -, -, hdrag⟩ :=
        handleMouseMove_idle_drags env s.mouseScreenPosition s
      refine ⟨howned, hl ▸ hs.lastClick, fun hup => ?_⟩
      rcases hdrag with ⟨hd, -⟩ | ⟨hstarts, -⟩
      · exact hd.trans (hs.released (hb ▸ hup))
      · exact absurd (hb ▸ hup) hstarts.1
  | sync env =>
      cases h
      obtain ⟨-, hl, hd, -⟩ := @handleMouseSync_idle_drags env _ hs hop
      exact ⟨howned, hl ▸ hs.lastClick, fun _ => hd⟩
  | syncBeforeDragging =>
      cases h
      refine ⟨howned, ?_, fun _ => ?_⟩ <;> rw [syncMouseBeforeDragging_idle]
      · exact hs.lastClick
      dsimp only
      split_ifs with hdown
      · rfl
      · exact hs.released (not_not.mp hdown)
  | grab | ungrab | modifiersChanged | scroll | resizeStart | resizeEnd | lockCursor
  | unlockCursor =>
      obtain ⟨hb, hd, hl, -⟩ := step_bookkeeping h trivial
      exact ⟨howned, hl ▸ hs.lastClick, fun hup => hd.trans (hs.released (hb ▸ hup))⟩

theorem dragLatch_of_reachable {s : PointerState}
    (h : ReachableBy initial step SyncSeesLowButtons s) : DragLatch s := by
  induction h with
  | init => exact ⟨buttonsOwned_initial, by decide, fun _ => rfl⟩
  | next _ hop hstep ih => exact dragLatch_step ih hop hstep

/-- A step that sends no drag and keeps the latch while a button stays down. -/
theorem drag_bound_of_keep {s s' : PointerState}
    (hcount : s'.emitted.countP Effect.isDrag = s.emitted.countP Effect.isDrag)
    (hdrag : s'.mouseButtons ≠ 0 → s'.mouseDragButton = s.mouseDragButton) :
    s'.emitted.countP Effect.isDrag + latched s ≤
      s.emitted.countP Effect.isDrag + if s'.mouseButtons = 0 then 1 else latched s' := by
  split_ifs with hup
  · have := latched_le_one s; omega
  · simp [hcount, latched, hdrag hup]

theorem countP_isDrag_of_quiet {s s' : PointerState} {extra : List Effect}
    (he : s'.emitted = s.emitted ++ extra) (hextra : ∀ effect ∈ extra, effect.isDrag = false) :
    s'.emitted.countP Effect.isDrag = s.emitted.countP Effect.isDrag := by
  have hzero : extra.countP Effect.isDrag = 0 :=
    List.countP_eq_zero.mpr fun e he => by simp [hextra e he]
  rw [he, List.countP_append, hzero, Nat.add_zero]

/-- A move sends a drag only when it latches one while a button is down. -/
theorem handleMouseMove_idle_drag_bound {s : PointerState} (hs : DragLatch s) (env : Env)
    (location : MCPoint) :
    let s' := handleMouseMove .idle env location s
    s'.emitted.countP Effect.isDrag + latched s ≤
      s.emitted.countP Effect.isDrag + if s'.mouseButtons = 0 then 1 else latched s' := by
  obtain ⟨hb, -, -, extra, he, -, hdrag⟩ := handleMouseMove_idle_drags env location s
  rcases hdrag with ⟨hd, hcount⟩ | ⟨hstarts, hd, hcount⟩
  · exact drag_bound_of_keep (by rw [he, List.countP_append, hcount, Nat.add_zero]) fun _ => hd
  · have hlatch : latched s = 0 := by simp [latched, hstarts.2.1]
    have hlatch' : latched (handleMouseMove .idle env location s) = 1 := by
      simp [latched, hd, hs.lastClick]
    dsimp only
    rw [he, List.countP_append, hcount, hlatch, if_neg (hb ▸ hstarts.1), hlatch']

/-- One step sends a drag only when it latches one while a button stays down: the
drags sent plus the latch before are at most the latch after, or one when the
step leaves no button down. -/
theorem step_drags {s s' : PointerState} {op : PointerOp} (hs : DragLatch s)
    (hop : SyncSeesLowButtons s op) (h : step op s = some s') :
    s'.emitted.countP Effect.isDrag + latched s ≤
      s.emitted.countP Effect.isDrag + if s'.mouseButtons = 0 then 1 else latched s' := by
  cases op with
  | press env button newState =>
      rcases handleMousePress_cases h with rfl | ⟨window, -, he, -, -, hb, hd⟩ |
        ⟨effect, he, -, hdrag, -, -, -, hb, hd⟩
      · exact drag_bound_of_keep rfl fun _ => rfl
      · exact drag_bound_of_keep (countP_isDrag_of_quiet he (by simp [Effect.isDrag]))
          fun hup => by rw [hd, if_neg (hb ▸ hup)]
      · exact drag_bound_of_keep (countP_isDrag_of_quiet he (by simpa using hdrag))
          fun hup => by rw [hd, if_neg (hb ▸ hup)]
  | move env location => cases h; exact handleMouseMove_idle_drag_bound hs env location
  | afterWindowHidden env => cases h; exact handleMouseMove_idle_drag_bound hs env _
  | sync env =>
      cases h
      obtain ⟨hup, -, -, hcount⟩ := @handleMouseSync_idle_drags env _ hs hop
      exact drag_bound_of_keep hcount fun hne => absurd hup hne
  | syncBeforeDragging =>
      cases h
      have hup : (syncMouseBeforeDragging .idle s).mouseButtons = 0 := by
        rw [syncMouseBeforeDragging_idle]
      obtain ⟨extra, he, hextra⟩ : ∃ extra, (syncMouseBeforeDragging .idle s).emitted =
          s.emitted ++ extra ∧ ∀ effect ∈ extra, effect.isDrag = false := by
        rw [syncMouseBeforeDragging_idle]
        refine ⟨_, rfl, ?_⟩
        cases s.mouseWindow
        · exact List.forall_mem_nil _
        · dsimp only
          split_ifs <;> simp [Effect.isDrag]
      exact drag_bound_of_keep (countP_isDrag_of_quiet he hextra) fun hne => absurd hup hne
  | grab | ungrab | modifiersChanged | scroll | resizeStart | resizeEnd | lockCursor
  | unlockCursor =>
      obtain ⟨-, hd, -, -, extra, he, hq⟩ := step_bookkeeping h trivial
      exact drag_bound_of_keep (countP_isDrag_of_quiet he fun e he => (hq e he).1) fun _ => hd

/-- The operations of one stretch from `s`: each made at `s` or while a button
is down, each with its sync seeing no high button. The last may release every
button. -/
def WhileHeldFrom (s t : PointerState) (op : PointerOp) : Prop :=
  SyncSeesLowButtons t op ∧ (t = s ∨ t.mouseButtons ≠ 0)

/-- From a reachable state with no button down, over every stretch of the run
while buttons stay down and the operation that ends it, at most one drag is
sent. -/
theorem drags_once_per_stretch {s t : PointerState}
    (hs : ReachableBy initial step SyncSeesLowButtons s) (hup : s.mouseButtons = 0)
    (h : ReachableBy s step (WhileHeldFrom s) t) :
    t.emitted.countP Effect.isDrag ≤ s.emitted.countP Effect.isDrag + 1 := by
  have hlatch := dragLatch_of_reachable hs
  -- along the stretch: the latch invariant, and the drags bounded by the latch
  have hbound : DragLatch t ∧ t.emitted.countP Effect.isDrag ≤
      s.emitted.countP Effect.isDrag + if t.mouseButtons = 0 then 1 else latched t := by
    induction h with
    | init => exact ⟨hlatch, by simp [hup]⟩
    | next _ hop hstep ih =>
        obtain ⟨ht, hcount⟩ := ih
        have hdrags := step_drags ht hop.1 hstep
        refine ⟨dragLatch_step ht hop.1 hstep, ?_⟩
        rcases hop.2 with hstart | hheld
        · rw [hstart] at hdrags
          have : latched s = 0 := by simp [latched, hlatch.released hup]
          omega
        · rw [if_neg hheld] at hcount
          omega
  have := latched_le_one t
  split_ifs at hbound <;> omega

/-- Window 1 under (10, 10), (20, 20) and (30, 30); the mouse is at (30, 30). -/
def dragEnv : Env :=
  { windowOneEnv with
    windowAtPoint := fun p =>
      if p = ⟨10, 10⟩ ∨ p = ⟨20, 20⟩ ∨ p = ⟨30, 30⟩ then some 1 else none
    mouseLocation := ⟨30, 30⟩ }

/-- The pointer over window 1 with no button down. -/
def overWindowOne : PointerState := (run step [.move dragEnv ⟨10, 10⟩] initial).getD initial

/-- From `overWindowOne`, button 3 pressed and moved to (20, 20), then to (30, 30). -/
def draggedTwice : PointerState :=
  (run step [.press dragEnv 3 true, .move dragEnv ⟨20, 20⟩, .move dragEnv ⟨30, 30⟩]
    overWindowOne).getD overWindowOne

/-- Two moves with button 3 down: the first starts the drag, the second sends none. -/
theorem drags_once_dragging_twice :
    ReachableBy initial step SyncSeesLowButtons overWindowOne ∧
      overWindowOne.mouseButtons = 0 ∧
      ReachableBy overWindowOne step (WhileHeldFrom overWindowOne) draggedTwice ∧
      draggedTwice.emitted.filter Effect.isDrag = [.mouseDrag (some 1) 3] ∧
      draggedTwice.emitted.countP Effect.isDrag ≤ overWindowOne.emitted.countP Effect.isDrag + 1 :=
  have hs : ReachableBy initial step SyncSeesLowButtons overWindowOne :=
    @ReachableBy.next _ _ _ _ _ _ _ (.move dragEnv ⟨10, 10⟩) .init trivial rfl
  have hup : overWindowOne.mouseButtons = 0 := by decide
  have hstretch : ReachableBy overWindowOne step (WhileHeldFrom overWindowOne) draggedTwice :=
    @ReachableBy.next _ _ _ _ _ _ _ (.move dragEnv ⟨30, 30⟩)
      (@ReachableBy.next _ _ _ _ _ _ _ (.move dragEnv ⟨20, 20⟩)
        (@ReachableBy.next _ _ _ _ _ _ _ (.press dragEnv 3 true) .init
          ⟨show 3 < 32 by decide, .inl rfl⟩ rfl)
        ⟨trivial, .inr (by decide)⟩ rfl)
      ⟨trivial, .inr (by decide)⟩ (by decide)
  ⟨hs, hup, hstretch, by decide, drags_once_per_stretch hs hup hstretch⟩

/-- Button 3 pressed at (10, 10) and dragged to (20, 20), then `HandleMouseSync`:
the button stays down throughout, and the sync's move to (30, 30) sends a
second drag. -/
theorem handleMouseSync_drags_twice :
    (run step [.move dragEnv ⟨10, 10⟩, .press dragEnv 3 true] initial).map
        (fun s => (s.mouseButtons, s.emitted.filter Effect.isDrag)) = some (8#32, []) ∧
    (run step [.move dragEnv ⟨10, 10⟩, .press dragEnv 3 true, .move dragEnv ⟨20, 20⟩]
        initial).map (fun s => (s.mouseButtons, s.emitted.filter Effect.isDrag)) =
      some (8#32, [.mouseDrag (some 1) 3]) ∧
    (run step [.move dragEnv ⟨10, 10⟩, .press dragEnv 3 true, .move dragEnv ⟨20, 20⟩,
        .sync dragEnv] initial).map (fun s => (s.mouseButtons, s.emitted.filter Effect.isDrag)) =
      some (8#32, [.mouseDrag (some 1) 3, .mouseDrag (some 1) 3]) := by
  decide

end MacPlatformCore
