/-
# The pointer operations

The mouse handling of `MCMacPlatformCore`, one definition per member function.
The core does its own enter and leave tracking from a stream of screen
positions and button changes; the window server only answers queries.

`HandleMouseMove` sends leave, enter and move notifications in the middle of
its work, and the engine's handlers for them may call back into the core. Its
model therefore takes the handlers as an argument. A sequential run passes
`Handlers.idle`; `Pointer.Reentry` builds reentrant ones.
-/

import Mathlib.Algebra.Order.Ring.Rat
import MacPlatformCore.Pointer.State
import MacPlatformCore.Runs

namespace MacPlatformCore

open PointerState

/-- What the engine does on a mouse leave, enter or move notification, as a
change of the core's state. -/
structure Handlers where
  leave : PointerState → PointerState
  enter : PointerState → PointerState
  move : PointerState → PointerState

/-- Handlers that return without calling back into the core. -/
def Handlers.idle : Handlers := ⟨id, id, id⟩

/-! ## Grabs and buttons -/

/-- `MCMacPlatformCore::GrabPointer`: grab only for the current mouse window. -/
def grabPointer (window : Option Window) (s : PointerState) : PointerState :=
  if s.mouseGrabbed ∧ window = s.mouseWindow then { s with mouseGrabbedExplicit := true }
  else if window = s.mouseWindow then
    { s with mouseGrabbed := true, mouseGrabbedExplicit := true }
  else s

theorem grabPointer_eq (window : Option Window) (s : PointerState) :
    grabPointer window s =
      if window = s.mouseWindow then { s with mouseGrabbed := true, mouseGrabbedExplicit := true }
      else s := by
  unfold grabPointer
  by_cases hw : window = s.mouseWindow <;> by_cases hg : s.mouseGrabbed <;> simp [hw, hg]

/-- `MCMacPlatformCore::UngrabPointer`: deferred while a button is down. -/
def ungrabPointer (s : PointerState) : PointerState :=
  if s.mouseButtons ≠ 0 then s
  else { s with mouseGrabbed := false, mouseGrabbedExplicit := false }

/-- The mask update of `HandleMousePress`: with no button left down the grab, its
explicit flag and the drag button are reset together; with one down the pointer
is grabbed. -/
def setMouseButtons (buttons : BitVec 32) (s : PointerState) : PointerState :=
  let s := { s with mouseButtons := buttons }
  let s := if buttons = 0 then
      { s with mouseGrabbed := false, mouseGrabbedExplicit := false, mouseDragButton := noButton }
    else s
  if buttons ≠ 0 then { s with mouseGrabbed := true } else s

theorem setMouseButtons_eq (buttons : BitVec 32) (s : PointerState) :
    setMouseButtons buttons s =
      if buttons = 0 then
        { s with
          mouseButtons := 0
          mouseGrabbed := false
          mouseGrabbedExplicit := false
          mouseDragButton := noButton }
      else { s with mouseButtons := buttons, mouseGrabbed := true } := by
  unfold setMouseButtons
  split_ifs <;> simp_all

@[simp] theorem setMouseButtons_mouseWasControlClick (buttons : BitVec 32) (s : PointerState) :
    (setMouseButtons buttons s).mouseWasControlClick = s.mouseWasControlClick := by
  rw [setMouseButtons_eq]; split_ifs <;> rfl

@[simp] theorem setMouseButtons_emitted (buttons : BitVec 32) (s : PointerState) :
    (setMouseButtons buttons s).emitted = s.emitted := by
  rw [setMouseButtons_eq]; split_ifs <;> rfl

/-- Whether a press continues a multi-click: within `MCdoubletime` of the last click
(unsigned 32-bit difference), within `MCdoubledelta` of its position on both axes,
and on the same reported button. -/
def continuesClick (env : Env) (button : Nat) (s : PointerState) : Prop :=
  (env.eventTime - s.mouseLastClickTime).toNat < env.doubleTime ∧
    (s.mouseLastClickScreenPosition.x - s.mouseScreenPosition.x).natAbs < env.doubleDelta ∧
    (s.mouseLastClickScreenPosition.y - s.mouseScreenPosition.y).natAbs < env.doubleDelta ∧
    s.mouseLastClickButton = button

instance (env : Env) (button : Nat) (s : PointerState) : Decidable (continuesClick env button s) :=
  inferInstanceAs (Decidable (_ ∧ _))

/-- The press branch of `HandleMousePress`: count the click and send `mouseDown`. -/
def pressIn (env : Env) (window : Window) (button : Nat) (s : PointerState) : PointerState :=
  let count := if continuesClick env button s then s.mouseClickCount + 1 else 0
  let s := { s with
    mouseClickCount := count
    mouseLastClickButton := button
    mouseLastClickScreenPosition := s.mouseScreenPosition }
  s.emit (.mouseDown window button count)

/-- The release branch of `HandleMousePress`. It maps `m_mouse_position` through
`m_mouse_window`; with a nil window that is a crash, `none`. A release over the
mouse window, or under an explicit grab, is a `mouseUp`; any other release is a
`mouseRelease` and cancels multi-click tracking. -/
def releaseIn (env : Env) (button : Nat) (grabbedExplicit : Bool) (s : PointerState) :
    Option PointerState :=
  match s.mouseWindow with
  | none => none
  | some window =>
    let s := { s with mouseWasControlClick := false }
    if env.windowAtPoint (env.mapPointFromWindowToScreen window s.mousePosition) = some window ∨
        grabbedExplicit then
      let s := if button = s.mouseLastClickButton then
          { s with mouseLastClickTime := env.eventTime }
        else s
      some (s.emit (.mouseUp window button s.mouseClickCount))
    else
      some ({ s with mouseClickCount := 0, mouseLastClickTime := 0 }.emit
        (.mouseRelease window button false))

/-- `MCMacPlatformCore::HandleMousePress`. A button-0 press with Command held is
reported as button 2 and remembered in `m_mouse_was_control_click`; a button-0
release while that flag is set is reported as button 2. -/
def handleMousePress (env : Env) (button : Nat) (newState : Bool) (s : PointerState) :
    Option PointerState :=
  if newState = (s.mouseButtons &&& buttonBit button != 0) then some s
  else if newState then
    match s.mouseWindow with
    | none => some s
    | some window =>
      let s := setMouseButtons (s.mouseButtons ||| buttonBit button) s
      let controlClick := button = 0 ∧ s.mouseModifiers.command = true
      let s := if controlClick then { s with mouseWasControlClick := true } else s
      some (pressIn env window (if controlClick then 2 else button) s)
  else
    let grabbedExplicit := s.mouseGrabbedExplicit
    let s := setMouseButtons (s.mouseButtons &&& ~~~buttonBit button) s
    releaseIn env (if s.mouseWasControlClick ∧ button = 0 then 2 else button) grabbedExplicit s

/-! ## Motion -/

/-- The window-change block of `HandleMouseMove`: leave the old window, enter the
new one (each handler may call back into the core), release whatever window the
core holds by then, and retain the new one. -/
def switchMouseWindow (handlers : Handlers) (newWindow : Option Window) (s : PointerState) :
    PointerState :=
  let s := match s.mouseWindow with
    | some old => handlers.leave (s.emit (.mouseLeave old))
    | none => s
  let s := match newWindow with
    | some window => handlers.enter (s.emit (.mouseEnter window))
    | none => if s.mouseCursorLocked then s else s.emit .resetCursor
  let s := match s.mouseWindow with
    | some current => s.emit (.release current)
    | none => s
  let s := { s with mouseWindow := newWindow }
  match newWindow with
  | some window => s.emit (.retain window)
  | none => s

/-- What `switchMouseWindow` emits when its leave and enter handlers return at once. -/
def crossingEffects (old new : Option Window) (cursorLocked : Bool) : List Effect :=
  old.toList.map .mouseLeave ++
    (match new with
      | some window => [.mouseEnter window]
      | none => if cursorLocked then [] else [.resetCursor]) ++
    old.toList.map .release ++ new.toList.map .retain

theorem switchMouseWindow_eq (move : PointerState → PointerState) (newWindow : Option Window)
    (s : PointerState) :
    switchMouseWindow ⟨id, id, move⟩ newWindow s =
      { s with
        mouseWindow := newWindow
        emitted := s.emitted ++ crossingEffects s.mouseWindow newWindow s.mouseCursorLocked } := by
  rcases s with ⟨_ | old, _, _, _, _, _, _, _, _, _, _, _, _ | _, _, _⟩ <;>
    cases newWindow <;> simp only [switchMouseWindow, crossingEffects, emit, id, Option.toList,
      List.map, List.append_assoc, List.nil_append, List.cons_append, List.append_nil,
      List.singleton_append, if_true, if_false, Bool.false_eq_true]

/-- Whether a motion to `location` starts a drag: a button is down, no drag is in
progress, and the pointer is `MCdragdelta` away from the last click on some axis. -/
def startsDrag (env : Env) (location : MCPoint) (s : PointerState) : Prop :=
  s.mouseButtons ≠ 0 ∧ s.mouseDragButton = noButton ∧
    (env.dragDelta ≤ (location.x - s.mouseLastClickScreenPosition.x).natAbs ∨
      env.dragDelta ≤ (location.y - s.mouseLastClickScreenPosition.y).natAbs)

instance (env : Env) (location : MCPoint) (s : PointerState) :
    Decidable (startsDrag env location s) :=
  inferInstanceAs (Decidable (_ ∧ _))

/-- `MCMacPlatformCore::HandleMouseCursorChange`: nothing unless `window` is the
mouse window and the cursor is not locked. Which cursor it then shows depends on
native views and tracking areas the model does not have; it is one effect here. -/
def handleMouseCursorChange (window : Window) (s : PointerState) : PointerState :=
  if s.mouseWindow = some window ∧ s.mouseCursorLocked = false then
    s.emit (.cursorChange window)
  else s

/-- The last step of `HandleMouseMove`: the cursor of whatever window is the
mouse window now (a handler may have changed it). -/
def updateMouseCursor (s : PointerState) : PointerState :=
  match s.mouseWindow with
  | some window => handleMouseCursorChange window s
  | none => s

/-- The drag check of `HandleMouseMove`, after its move notification: at the
start of a drag, latch the last clicked button and send a drag. -/
def sendDragIfStarted (env : Env) (location : MCPoint) (s : PointerState) : PointerState :=
  if startsDrag env location s then
    let s := { s with mouseDragButton := s.mouseLastClickButton }
    s.emit (.mouseDrag s.mouseWindow s.mouseDragButton)
  else s

/-- The tail of `HandleMouseMove` once the mouse window is `window`: send the move
(and, at the start of a drag, the drag) if the window changed or the local
position did, then update the cursor. -/
def trackMouseIn (handlers : Handlers) (env : Env) (changed : Bool) (location : MCPoint)
    (window : Window) (s : PointerState) : PointerState :=
  let windowLocation := env.mapPointFromScreenToWindow window location
  updateMouseCursor <|
    if changed ∨ windowLocation ≠ s.mousePosition then
      sendDragIfStarted env location <| handlers.move
        ({ s with mousePosition := windowLocation }.emit (.mouseMove window windowLocation))
    else s

theorem updateMouseCursor_eq (s : PointerState) :
    updateMouseCursor s =
      { s with
        emitted := s.emitted ++
          if s.mouseCursorLocked then [] else s.mouseWindow.toList.map .cursorChange } := by
  unfold updateMouseCursor handleMouseCursorChange
  rcases s with ⟨_ | window, _, _, _, _, _, _, _, _, _, _, _, _ | _, _, _⟩ <;> simp [emit]

theorem trackMouseIn_eq (leave enter : PointerState → PointerState) (env : Env) (changed : Bool)
    (location : MCPoint) (window : Window) (s : PointerState) :
    trackMouseIn ⟨leave, enter, id⟩ env changed location window s =
      let windowLocation := env.mapPointFromScreenToWindow window location
      let moved := changed = true ∨ windowLocation ≠ s.mousePosition
      let drag := moved ∧ startsDrag env location s
      { s with
        mousePosition := if moved then windowLocation else s.mousePosition
        mouseDragButton := if drag then s.mouseLastClickButton else s.mouseDragButton
        emitted := s.emitted ++
          ((if moved then [.mouseMove window windowLocation] else []) ++
            (if drag then [.mouseDrag s.mouseWindow s.mouseLastClickButton] else []) ++
            if s.mouseCursorLocked then [] else s.mouseWindow.toList.map .cursorChange) } := by
  have hdrag : ∀ position effect, startsDrag env location
      ({ s with mousePosition := position }.emit effect) ↔ startsDrag env location s :=
    fun _ _ => Iff.rfl
  unfold trackMouseIn sendDragIfStarted
  simp only [id, hdrag, updateMouseCursor_eq]
  by_cases hmoved :
      changed = true ∨ env.mapPointFromScreenToWindow window location ≠ s.mousePosition <;>
    by_cases hstarts : startsDrag env location s <;> simp [hmoved, hstarts, emit]

/-- `MCMacPlatformCore::HandleMouseMove`. While grabbed the mouse window stays;
otherwise it is the window under the pointer. -/
def handleMouseMove (handlers : Handlers) (env : Env) (location : MCPoint) (s : PointerState) :
    PointerState :=
  let newWindow := if s.mouseGrabbed then s.mouseWindow else env.windowAtPoint location
  let changed := newWindow ≠ s.mouseWindow
  let s := if changed then switchMouseWindow handlers newWindow s else s
  let s := { s with mouseScreenPosition := location }
  match s.mouseWindow with
  | some window => trackMouseIn handlers env changed location window s
  | none => s

theorem handleMouseMove_idle (env : Env) (location : MCPoint) (s : PointerState) :
    handleMouseMove .idle env location s =
      let target := if s.mouseGrabbed then s.mouseWindow else env.windowAtPoint location
      let s' := { s with
        mouseWindow := target
        mouseScreenPosition := location
        emitted := s.emitted ++
          if target ≠ s.mouseWindow then crossingEffects s.mouseWindow target s.mouseCursorLocked
          else [] }
      match target with
      | some window => trackMouseIn .idle env (target ≠ s.mouseWindow) location window s'
      | none => s' := by
  unfold handleMouseMove
  generalize (if s.mouseGrabbed then s.mouseWindow else env.windowAtPoint location) = target
  by_cases hsame : target = s.mouseWindow
  · subst hsame
    rcases s with ⟨_ | _, _⟩ <;> simp
  · simp [hsame, Handlers.idle, switchMouseWindow_eq]

/-- `MCMacPlatformCore::HandleMouseAfterWindowHidden`. -/
def handleMouseAfterWindowHidden (handlers : Handlers) (env : Env) (s : PointerState) :
    PointerState :=
  handleMouseMove handlers env s.mouseScreenPosition s

/-- The sign `HandleMouseScroll` reports for one axis of a `CGFloat` delta. -/
def scrollSign (d : ℚ) : Int := if d < 0 then -1 else if d > 0 then 1 else 0

/-- `MCMacPlatformCore::HandleMouseScroll`: each axis collapsed to its sign. -/
def handleMouseScroll (dx dy : ℚ) (s : PointerState) : PointerState :=
  match s.mouseWindow with
  | none => s
  | some window =>
    if dx ≠ 0 ∨ dy ≠ 0 then s.emit (.mouseScroll window (scrollSign dx) (scrollSign dy))
    else s

theorem handleMouseScroll_eq (dx dy : ℚ) (s : PointerState) :
    handleMouseScroll dx dy s =
      { s with
        emitted := s.emitted ++
          if dx ≠ 0 ∨ dy ≠ 0 then
            s.mouseWindow.toList.map fun window =>
              .mouseScroll window (scrollSign dx) (scrollSign dy)
          else [] } := by
  unfold handleMouseScroll
  rcases s with ⟨_ | window, _⟩ <;> by_cases hd : dx ≠ 0 ∨ dy ≠ 0 <;> simp [hd, emit]

/-! ## Synchronisation -/

/-- One turn of the loop of `HandleMouseSync` for button `i`: clear it if it is
down and send a synthetic release, reported as 2 for a Command-clicked button 0. -/
def syncButton (window : Window) (s : PointerState) (i : Nat) : PointerState :=
  if s.mouseButtons &&& buttonBit i ≠ 0 then
    { s with mouseButtons := s.mouseButtons &&& ~~~buttonBit i }.emit
      (.mouseRelease window (if s.mouseWasControlClick ∧ i = 0 then 2 else i) true)
  else s

theorem syncButton_eq (window : Window) {i : Nat} (hi : i < 32) (s : PointerState) :
    syncButton window s i =
      { s with
        mouseButtons := s.mouseButtons &&& ~~~buttonBit i
        emitted := s.emitted ++
          if s.mouseButtons.getLsbD i then
            [.mouseRelease window (if s.mouseWasControlClick ∧ i = 0 then 2 else i) true]
          else [] } := by
  by_cases hset : s.mouseButtons.getLsbD i
  · simp [syncButton, and_buttonBit_eq_zero hi, hset, emit]
  · have hclear := (and_buttonBit_eq_zero hi).2 (by simpa using hset)
    simp [syncButton, hclear, and_not_self_of_and_eq_zero hclear, hset]

/-- The loop of `HandleMouseSync`, run only with a mouse window. -/
def syncButtons (s : PointerState) : PointerState :=
  match s.mouseWindow with
  | some window => (List.range 3).foldl (syncButton window) s
  | none => s

/-- `MCMacPlatformCore::HandleMouseSync`: release buttons 0 to 2, drop the grab and
click tracking, then move to where the mouse now is. -/
def handleMouseSync (handlers : Handlers) (env : Env) (s : PointerState) : PointerState :=
  let s := syncButtons s
  let s := { s with
    mouseGrabbed := false
    mouseDragButton := noButton
    mouseClickCount := 0
    mouseLastClickTime := 0
    mouseWasControlClick := false }
  handleMouseMove handlers env env.mouseLocation s

/-- The button `SyncMouseBeforeDragging` releases: the drag button, or else the last
clicked one. -/
def buttonToRelease (s : PointerState) : Nat :=
  if s.mouseDragButton = noButton then s.mouseLastClickButton else s.mouseDragButton

/-- `MCMacPlatformCore::SyncMouseBeforeDragging`: drop all buttons and the mouse
window, sending one release and a leave. The leave handler may close the window,
so the window is re-read after it. -/
def syncMouseBeforeDragging (handlers : Handlers) (s : PointerState) : PointerState :=
  let release := if s.mouseButtons ≠ 0 then buttonToRelease s else noButton
  let s := if s.mouseButtons ≠ 0 then
      { s with
        mouseButtons := 0
        mouseGrabbed := false
        mouseClickCount := 0
        mouseLastClickTime := 0
        mouseDragButton := noButton
        mouseWasControlClick := false }
    else s
  match s.mouseWindow with
  | none => s
  | some window =>
    let s := if release ≠ noButton then s.emit (.mouseRelease window release false) else s
    let s := handlers.leave (s.emit (.mouseLeave window))
    match s.mouseWindow with
    | some current => { s with mouseWindow := none }.emit (.release current)
    | none => s

theorem syncMouseBeforeDragging_idle (s : PointerState) :
    syncMouseBeforeDragging .idle s =
      let down := s.mouseButtons ≠ 0
      { s with
        mouseWindow := none
        mouseButtons := 0
        mouseGrabbed := if down then false else s.mouseGrabbed
        mouseClickCount := if down then 0 else s.mouseClickCount
        mouseLastClickTime := if down then 0 else s.mouseLastClickTime
        mouseDragButton := if down then noButton else s.mouseDragButton
        mouseWasControlClick := if down then false else s.mouseWasControlClick
        emitted := s.emitted ++
          match s.mouseWindow with
          | some window =>
            (if down ∧ buttonToRelease s ≠ noButton then
                [.mouseRelease window (buttonToRelease s) false]
              else []) ++
              [.mouseLeave window, .release window]
          | none => [] } := by
  by_cases hrelease : buttonToRelease s = noButton <;>
    rcases s with ⟨_ | window, _, _, buttons, _⟩ <;> by_cases hdown : buttons = 0#32 <;>
    simp [syncMouseBeforeDragging, Handlers.idle, emit, hdown, hrelease]

/-- `MCMacPlatformCore::HandleMouseForResizeStart`. -/
def handleMouseForResizeStart (s : PointerState) : PointerState :=
  match s.mouseWindow with
  | some window => s.emit (.mouseLeave window)
  | none => s

theorem handleMouseForResizeStart_eq (s : PointerState) :
    handleMouseForResizeStart s =
      { s with emitted := s.emitted ++ s.mouseWindow.toList.map .mouseLeave } := by
  unfold handleMouseForResizeStart
  rcases s with ⟨_ | window, _⟩ <;> simp [emit]

/-- `MCMacPlatformCore::HandleMouseForResizeEnd`. -/
def handleMouseForResizeEnd (s : PointerState) : PointerState :=
  match s.mouseWindow with
  | some window => s.emit (.mouseEnter window)
  | none => s

theorem handleMouseForResizeEnd_eq (s : PointerState) :
    handleMouseForResizeEnd s =
      { s with emitted := s.emitted ++ s.mouseWindow.toList.map .mouseEnter } := by
  unfold handleMouseForResizeEnd
  rcases s with ⟨_ | window, _⟩ <;> simp [emit]

/-- `MCMacPlatformCore::HandleModifiersChanged`. -/
def handleModifiersChanged (modifiers : MCPlatformModifiers) (s : PointerState) : PointerState :=
  if s.mouseModifiers ≠ modifiers then
    { s with mouseModifiers := modifiers }.emit (.modifiersChanged modifiers)
  else s

theorem handleModifiersChanged_eq (modifiers : MCPlatformModifiers) (s : PointerState) :
    handleModifiersChanged modifiers s =
      { s with
        mouseModifiers := modifiers
        emitted := s.emitted ++
          if s.mouseModifiers ≠ modifiers then [.modifiersChanged modifiers] else [] } := by
  unfold handleModifiersChanged
  by_cases hm : s.mouseModifiers = modifiers
  · subst hm
    simp
  · simp [hm, emit]

/-- `MCMacPlatformCore::LockCursor`. -/
def lockCursor (s : PointerState) : PointerState := { s with mouseCursorLocked := true }

/-- `MCMacPlatformCore::UnlockCursor`. -/
def unlockCursor (s : PointerState) : PointerState :=
  let s := { s with mouseCursorLocked := false }
  match s.mouseWindow with
  | none => s.emit .resetCursor
  | some window => handleMouseCursorChange window s

theorem unlockCursor_eq (s : PointerState) :
    unlockCursor s =
      { s with
        mouseCursorLocked := false
        emitted := s.emitted ++
          match s.mouseWindow with
          | none => [.resetCursor]
          | some window => [.cursorChange window] } := by
  unfold unlockCursor handleMouseCursorChange
  cases hw : s.mouseWindow <;> simp [hw, emit]

/-! ## Sequential runs -/

/-- One call into the pointer code from the event loop, with what the window
server answers during it. -/
inductive PointerOp
  | press (env : Env) (button : Nat) (newState : Bool)
  | move (env : Env) (location : MCPoint)
  | afterWindowHidden (env : Env)
  | sync (env : Env)
  | syncBeforeDragging
  | grab (window : Option Window)
  | ungrab
  | modifiersChanged (modifiers : MCPlatformModifiers)
  | scroll (dx dy : ℚ)
  | resizeStart
  | resizeEnd
  | lockCursor
  | unlockCursor

/-- One operation run to completion, no handler calling back. -/
def step : PointerOp → PointerState → Option PointerState
  | .press env button newState, s => handleMousePress env button newState s
  | .move env location, s => some (handleMouseMove .idle env location s)
  | .afterWindowHidden env, s => some (handleMouseAfterWindowHidden .idle env s)
  | .sync env, s => some (handleMouseSync .idle env s)
  | .syncBeforeDragging, s => some (syncMouseBeforeDragging .idle s)
  | .grab window, s => some (grabPointer window s)
  | .ungrab, s => some (ungrabPointer s)
  | .modifiersChanged modifiers, s => some (handleModifiersChanged modifiers s)
  | .scroll dx dy, s => some (handleMouseScroll dx dy s)
  | .resizeStart, s => some (handleMouseForResizeStart s)
  | .resizeEnd, s => some (handleMouseForResizeEnd s)
  | .lockCursor, s => some (lockCursor s)
  | .unlockCursor, s => some (unlockCursor s)

end MacPlatformCore
