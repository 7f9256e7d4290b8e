/-
# What every reentrant move keeps

`HandleMouseMove` runs the engine's leave, enter and move handlers in the
middle of its work, and a handler script may call `HandleMouseMove` again at
any depth. This module cuts the move into the stages the core runs itself and
the handler calls between them, and proves once that a relation between a state
and a later one that every stage keeps, and that is closed under chaining, is
kept by every move and every handler script (`MoveFrame.handleMouseMove`,
`MoveFrame.run`). The window reference counts are such a relation
(`Windows.References`).
-/

import MacPlatformCore.Pointer.Reentry

namespace MacPlatformCore

open PointerState

/-- A retain or a release of a window. -/
def Effect.isRef : Effect → Bool
  | .retain _ | .release _ => true
  | _ => false

/-! ## The stages -/

/-- The handler stage of `switchMouseWindow`: leave the old window and enter the
new one, each handler running on what the one before left. -/
def crossWindows (handlers : Handlers) (newWindow : Option Window) (s : PointerState) :
    PointerState :=
  let s := match s.mouseWindow with
    | some old => handlers.leave (s.emit (.mouseLeave old))
    | none => s
  match newWindow with
  | some window => handlers.enter (s.emit (.mouseEnter window))
  | none => if s.mouseCursorLocked then s else s.emit .resetCursor

/-- The hold stage of `switchMouseWindow`: release whatever window the core holds
after the handlers, and hold the new one. -/
def holdMouseWindow (newWindow : Option Window) (s : PointerState) : PointerState :=
  let s := match s.mouseWindow with
    | some current => s.emit (.release current)
    | none => s
  let s := { s with mouseWindow := newWindow }
  match newWindow with
  | some window => s.emit (.retain window)
  | none => s

theorem switchMouseWindow_eq_hold (handlers : Handlers) (newWindow : Option Window)
    (s : PointerState) :
    switchMouseWindow handlers newWindow s =
      holdMouseWindow newWindow (crossWindows handlers newWindow s) := rfl

theorem holdMouseWindow_eq (newWindow : Option Window) (s : PointerState) :
    holdMouseWindow newWindow s =
      { s with
        mouseWindow := newWindow
        emitted := s.emitted ++ s.mouseWindow.toList.map .release ++
          newWindow.toList.map .retain } := by
  rcases s with ⟨_ | current, _⟩ <;> cases newWindow <;> simp [holdMouseWindow, emit]

/-- The reset of `SyncMouseBeforeDragging`, done only while a button is down. -/
def resetButtons (s : PointerState) : PointerState :=
  if s.mouseButtons ≠ 0 then
    { s with
      mouseButtons := 0
      mouseGrabbed := false
      mouseClickCount := 0
      mouseLastClickTime := 0
      mouseDragButton := noButton
      mouseWasControlClick := false }
  else s

/-- The rest of `SyncMouseBeforeDragging`: the release and the leave, then the
drop of whatever window the core holds after the leave handler. -/
def dropMouseWindow (handlers : Handlers) (release : Nat) (s : PointerState) : PointerState :=
  match s.mouseWindow with
  | none => s
  | some window =>
    let s := if release ≠ noButton then s.emit (.mouseRelease window release false) else s
    let s := handlers.leave (s.emit (.mouseLeave window))
    match s.mouseWindow with
    | some current => { s with mouseWindow := none }.emit (.release current)
    | none => s

theorem syncMouseBeforeDragging_eq_drop (handlers : Handlers) (s : PointerState) :
    syncMouseBeforeDragging handlers s =
      dropMouseWindow handlers (if s.mouseButtons ≠ 0 then buttonToRelease s else noButton)
        (resetButtons s) := rfl

/-! ## Relations every stage keeps -/

/-- A relation from a state to a later one, closed under chaining, that every
change the move code makes itself keeps: a notification other than a retain or
a release, a new local or screen position, the hold stage, the drag check and
the cursor update. -/
structure MoveFrame (R : PointerState → PointerState → Prop) : Prop where
  refl : ∀ t, R t t
  trans : ∀ {t t' t''}, R t t' → R t' t'' → R t t''
  emit : ∀ t (effect : Effect), effect.isRef = false → R t (t.emit effect)
  position : ∀ t position, R t { t with mousePosition := position }
  screenPosition : ∀ t position, R t { t with mouseScreenPosition := position }
  hold : ∀ t newWindow, R t (holdMouseWindow newWindow t)
  drag : ∀ t env location, R t (sendDragIfStarted env location t)
  cursor : ∀ t, R t (updateMouseCursor t)

namespace MoveFrame

variable {R : PointerState → PointerState → Prop} (hR : MoveFrame R) {handlers : Handlers}
  (hleave : ∀ t, R t (handlers.leave t)) (henter : ∀ t, R t (handlers.enter t))
  (hmove : ∀ t, R t (handlers.move t))

include hR hleave henter

theorem crossWindows (newWindow : Option Window) (s : PointerState) :
    R s (crossWindows handlers newWindow s) := by
  have hleft : R s (match s.mouseWindow with
      | some old => handlers.leave (s.emit (.mouseLeave old))
      | none => s) := by
    split
    · exact hR.trans (hR.emit s _ (by rfl)) (hleave _)
    · exact hR.refl s
  unfold MacPlatformCore.crossWindows
  generalize (match s.mouseWindow with
      | some old => handlers.leave (s.emit (.mouseLeave old))
      | none => s) = t at hleft ⊢
  dsimp only
  split
  · exact hR.trans hleft (hR.trans (hR.emit t _ (by rfl)) (henter _))
  · split
    · exact hleft
    · exact hR.trans hleft (hR.emit t _ (by rfl))

theorem switchMouseWindow (newWindow : Option Window) (s : PointerState) :
    R s (switchMouseWindow handlers newWindow s) := by
  rw [switchMouseWindow_eq_hold]
  exact hR.trans (hR.crossWindows hleave henter newWindow s) (hR.hold _ _)

omit hleave henter in
include hmove in
theorem trackMouseIn (env : Env) (changed : Bool) (location : MCPoint) (window : Window)
    (s : PointerState) : R s (trackMouseIn handlers env changed location window s) := by
  unfold MacPlatformCore.trackMouseIn
  refine hR.trans ?_ (hR.cursor _)
  split_ifs
  · refine hR.trans (hR.trans (hR.position s (env.mapPointFromScreenToWindow window location))
      ?_) (hR.drag _ env location)
    exact hR.trans (hR.emit _ _ (by rfl)) (hmove _)
  · exact hR.refl s

omit hleave henter in
include hmove in
/-- After the window change, `HandleMouseMove` records the screen position and
tracks the pointer in whatever window is the mouse window by then. -/
theorem moveTail (env : Env) (changed : Bool) (location : MCPoint) {s t : PointerState}
    (h : R s t) :
    R s (match t.mouseWindow with
      | some window =>
        MacPlatformCore.trackMouseIn handlers env changed location window
          { t with mouseScreenPosition := location }
      | none => { t with mouseScreenPosition := location }) := by
  split
  · exact hR.trans (hR.trans h (hR.screenPosition t location))
      (hR.trackMouseIn hmove env _ location _ _)
  · exact hR.trans h (hR.screenPosition t location)

include hmove in
theorem handleMouseMove (env : Env) (location : MCPoint) (s : PointerState) :
    R s (handleMouseMove handlers env location s) := by
  unfold MacPlatformCore.handleMouseMove
  generalize (if s.mouseGrabbed then s.mouseWindow else env.windowAtPoint location) = target
  dsimp only
  split_ifs
  · exact hR.moveTail hmove env _ location (hR.switchMouseWindow hleave henter target s)
  · exact hR.moveTail hmove env _ location (hR.refl s)

omit henter in
/-- The rest of `SyncMouseBeforeDragging`, whatever its leave handler does within
the relation. -/
theorem dropMouseWindow (release : Nat) (s : PointerState) :
    R s (dropMouseWindow handlers release s) := by
  unfold MacPlatformCore.dropMouseWindow
  split
  · exact hR.refl s
  · next window _ =>
    have hleft : R s (handlers.leave
        ((if release ≠ noButton then s.emit (.mouseRelease window release false) else s).emit
          (.mouseLeave window))) := by
      refine hR.trans ?_ (hR.trans (hR.emit _ _ (by rfl)) (hleave _))
      split_ifs
      · exact hR.emit s _ rfl
      · exact hR.refl s
    dsimp only
    split
    · next current hcurrent =>
      have hdrop := hR.hold (handlers.leave
        ((if release ≠ noButton then s.emit (.mouseRelease window release false) else s).emit
          (.mouseLeave window))) none
      simp only [holdMouseWindow, hcurrent] at hdrop
      exact hR.trans hleft hdrop
    · exact hleft

omit hleave henter

/-- Every handler script keeps a relation every stage keeps: a script only moves
the pointer, at any depth. -/
theorem run (r : Reentry) (s : PointerState) : R s (r.run s) := by
  induction r generalizing s with
  | done => exact hR.refl s
  | move env location onLeave onEnter onMove next ihLeave ihEnter ihMove ihNext =>
      exact hR.trans (hR.handleMouseMove ihLeave ihEnter ihMove env location s) (ihNext _)
  | afterWindowHidden env onLeave onEnter onMove next ihLeave ihEnter ihMove ihNext =>
      exact hR.trans (hR.handleMouseMove ihLeave ihEnter ihMove env _ s) (ihNext _)

end MoveFrame

end MacPlatformCore
