/-
# Enter and leave notifications

The core sends `mouseLeave` for the window the pointer leaves and `mouseEnter` for
the one it enters; a live resize sends a leave and an enter of the mouse window.
`crossingReplay` reads a notification stream as the pointer's path: an enter
needs no window entered, a leave needs its own window entered. A stream it
accepts has, for every window, enters and leaves that alternate starting with
an enter (`windowReplay_of_crossingReplay`), and in every prefix the leave of one
window before the enter of the next.

`HandleMouseMove` sends the leave of the old window before it sets
`m_mouse_window`. A leave or enter handler that calls back into the core, as
one that closes its window does, runs a nested `HandleMouseMove` that still
sees the old window and leaves it a second time (`leaveHandler_leaves_twice`).
When only move handlers call back, at any depth, the stream is accepted after
every operation and leaves the pointer in `m_mouse_window`
(`crossings_alternate`): the move notification comes after the window is set.
-/

import MacPlatformCore.Pointer.Reentry
import MacPlatformCore.Pointer.Ownership

namespace MacPlatformCore

open PointerState

/-! ## The crossing checker -/

/-- One notification against the window the stream has the pointer in. -/
def enterLeave (inside : Option Window) : Effect → Option (Option Window)
  | .mouseEnter window => if inside = none then some (some window) else none
  | .mouseLeave window => if inside = some window then some none else none
  | _ => some inside

/-- The window a notification stream leaves the pointer in; `none` when an enter
comes while a window is entered, or a leave for a window not entered. -/
def crossingReplay (effects : List Effect) : Option (Option Window) :=
  replay enterLeave none effects

/-- One notification against whether `window` is entered: its enters and leaves
must alternate, starting with an enter. -/
def windowCrossing (window : Window) (entered : Bool) : Effect → Option Bool
  | .mouseEnter w => if w = window then (if entered then none else some true) else some entered
  | .mouseLeave w => if w = window then (if entered then some false else none) else some entered
  | _ => some entered

/-- Whether a stream leaves `window` entered; `none` when its enters and leaves
for `window` do not alternate starting with an enter. -/
def windowReplay (window : Window) (effects : List Effect) : Option Bool :=
  replay (windowCrossing window) false effects

theorem enterLeave_of_quiet {effect : Effect} (hquiet : effect.isCrossing = false)
    (inside : Option Window) : enterLeave inside effect = some inside := by
  cases effect <;> first | rfl | contradiction

/-- A step of the strict checker is a step of every window's checker. -/
theorem windowCrossing_of_enterLeave (window : Window) {inside inside' : Option Window}
    {effect : Effect} (h : enterLeave inside effect = some inside') :
    windowCrossing window (decide (inside = some window)) effect =
      some (decide (inside' = some window)) := by
  cases effect with
  | mouseEnter w =>
      simp only [enterLeave] at h
      split_ifs at h with hnone
      cases h
      by_cases hw : w = window <;> simp [windowCrossing, hnone, hw]
  | mouseLeave w =>
      simp only [enterLeave] at h
      split_ifs at h with hin
      cases h
      by_cases hw : w = window <;> simp [windowCrossing, hin, hw]
  | _ => cases h; rfl

/-- A stream the strict checker accepts has alternating enters and leaves for
every window, and leaves entered exactly the window it ends in. -/
theorem windowReplay_of_crossingReplay {effects : List Effect} {inside : Option Window}
    (h : crossingReplay effects = some inside) (window : Window) :
    windowReplay window effects = some (decide (inside = some window)) := by
  induction effects using List.reverseRecOn generalizing inside with
  | nil => cases h; rfl
  | append_singleton effects effect ih =>
      unfold crossingReplay at h
      rw [replay_append_singleton] at h
      obtain ⟨before, hbefore, hstep⟩ := Option.bind_eq_some.mp h
      have hwindow := ih hbefore
      unfold windowReplay at hwindow ⊢
      rw [replay_append_singleton, hwindow]
      exact windowCrossing_of_enterLeave window hstep

/-! ## The invariant -/

/-- The stream so far is accepted and leaves the pointer in the mouse window. -/
def InMouseWindow (s : PointerState) : Prop :=
  crossingReplay s.emitted = some s.mouseWindow

namespace InMouseWindow

variable {s s' : PointerState}

/-- A change that keeps the mouse window and sends no enter or leave. -/
theorem of_quiet (hs : InMouseWindow s) (hwindow : s'.mouseWindow = s.mouseWindow)
    (extra : List Effect) (hemitted : s'.emitted = s.emitted ++ extra)
    (hquiet : ∀ effect ∈ extra, effect.isCrossing = false) : InMouseWindow s' := by
  unfold InMouseWindow crossingReplay at *
  rw [hemitted, hwindow, replay_append_of_quiet fun effect heffect =>
    enterLeave_of_quiet (hquiet effect heffect), hs]

theorem emit (hs : InMouseWindow s) {effect : Effect} (hquiet : effect.isCrossing = false) :
    InMouseWindow (s.emit effect) :=
  hs.of_quiet rfl [effect] rfl (by simpa using hquiet)

theorem syncButtons (hs : InMouseWindow s) : InMouseWindow (syncButtons s) := by
  unfold MacPlatformCore.syncButtons
  split
  · refine @List.foldl_rel _ _ _ _ (fun t _ => t) s s (fun t _ => InMouseWindow t) hs
      fun i _ t _ ht => ?_
    dsimp only at ht ⊢
    unfold syncButton
    split
    · exact ht.emit rfl
    · exact ht
  · exact hs

theorem sendDragIfStarted (hs : InMouseWindow s) (env : Env) (location : MCPoint) :
    InMouseWindow (sendDragIfStarted env location s) := by
  unfold MacPlatformCore.sendDragIfStarted
  split_ifs
  · exact hs.emit rfl
  · exact hs

theorem updateMouseCursor (hs : InMouseWindow s) : InMouseWindow (updateMouseCursor s) := by
  rw [updateMouseCursor_eq]
  exact hs.of_quiet rfl _ rfl (by split_ifs <;> simp [Effect.isCrossing])

end InMouseWindow

/-! ## One `HandleMouseMove` whose leave and enter handlers return at once -/

section Motion

variable {leave enter move : PointerState → PointerState}

theorem inMouseWindow_switchMouseWindow (newWindow : Option Window) {s : PointerState}
    (hs : InMouseWindow s) : InMouseWindow (switchMouseWindow ⟨id, id, move⟩ newWindow s) := by
  rw [switchMouseWindow_eq]
  unfold InMouseWindow crossingReplay at *
  rw [replay_append, hs]
  cases s.mouseWindow <;> cases newWindow <;> cases s.mouseCursorLocked <;>
    simp only [enterLeave, crossingEffects, Option.toList_none, Option.toList_some, List.map_nil,
      List.map_cons, Bool.false_eq_true, ↓reduceIte, List.nil_append, List.append_nil,
      List.singleton_append, List.cons_append, List.foldl_cons, List.foldl_nil, Option.some_bind,
      Option.bind_some]

theorem inMouseWindow_trackMouseIn (hmove : ∀ t, InMouseWindow t → InMouseWindow (move t))
    (env : Env) (changed : Bool) (location : MCPoint) (window : Window) {s : PointerState}
    (hs : InMouseWindow s) :
    InMouseWindow (trackMouseIn ⟨leave, enter, move⟩ env changed location window s) := by
  unfold trackMouseIn
  apply InMouseWindow.updateMouseCursor
  split_ifs
  · refine (hmove _ ?_).sendDragIfStarted env location
    exact InMouseWindow.emit (show InMouseWindow { s with mousePosition := _ } from hs) rfl
  · exact hs

theorem inMouseWindow_handleMouseMove (hmove : ∀ t, InMouseWindow t → InMouseWindow (move t))
    (env : Env) (location : MCPoint) {s : PointerState} (hs : InMouseWindow s) :
    InMouseWindow (handleMouseMove ⟨id, id, move⟩ env location s) := by
  have hswitched : InMouseWindow (if (if s.mouseGrabbed then s.mouseWindow
      else env.windowAtPoint location) ≠ s.mouseWindow then
      switchMouseWindow ⟨id, id, move⟩ (if s.mouseGrabbed then s.mouseWindow
        else env.windowAtPoint location) s else s) := by
    split_ifs <;> first | exact inMouseWindow_switchMouseWindow _ hs | exact hs
  unfold handleMouseMove
  dsimp only
  split
  · exact inMouseWindow_trackMouseIn hmove env _ location _ hswitched
  · exact hswitched

end Motion

/-! ## Reentrant runs whose leave and enter handlers return at once -/

/-- Scripts whose leave and enter handlers return at once, at every depth; move
handlers may call back into the core. -/
def Reentry.MoveOnly : Reentry → Prop
  | .done => True
  | .move _ _ onLeave onEnter onMove next | .afterWindowHidden _ onLeave onEnter onMove next =>
      onLeave = .done ∧ onEnter = .done ∧ onMove.MoveOnly ∧ next.MoveOnly

/-- `MoveOnly` scripts for the three handlers of one operation. -/
def Scripts.MoveOnly (scripts : Scripts) : Prop :=
  scripts.leave = .done ∧ scripts.enter = .done ∧ scripts.move.MoveOnly

theorem Reentry.MoveOnly.run {r : Reentry} (hr : r.MoveOnly) {s : PointerState}
    (hs : InMouseWindow s) : InMouseWindow (r.run s) := by
  induction r generalizing s with
  | done => exact hs
  | move env location onLeave onEnter onMove next _ _ ihMove ihNext =>
      obtain ⟨rfl, rfl, hmove, hnext⟩ := hr
      exact ihNext hnext
        (inMouseWindow_handleMouseMove (fun _ ht => ihMove hmove ht) env location hs)
  | afterWindowHidden env onLeave onEnter onMove next _ _ ihMove ihNext =>
      obtain ⟨rfl, rfl, hmove, hnext⟩ := hr
      exact ihNext hnext (inMouseWindow_handleMouseMove (fun _ ht => ihMove hmove ht) env _ hs)

theorem Scripts.MoveOnly.handleMouseMove {scripts : Scripts} (hscripts : scripts.MoveOnly)
    (env : Env) (location : MCPoint) {s : PointerState} (hs : InMouseWindow s) :
    InMouseWindow (handleMouseMove scripts.handlers env location s) := by
  obtain ⟨leave, enter, move⟩ := scripts
  obtain ⟨rfl, rfl, hmove⟩ := hscripts
  exact inMouseWindow_handleMouseMove (fun _ ht => hmove.run ht) env location hs

/-- Reentrant operations whose leave and enter handlers return at once, at every
depth. -/
def MoveOnlyReentry (_ : PointerState) : ReentrantOp → Prop
  | .move _ _ scripts | .afterWindowHidden _ scripts | .sync _ scripts => scripts.MoveOnly
  | .syncBeforeDragging leave => leave = .done
  | _ => True

theorem inMouseWindow_reentrantStep {s s' : PointerState} {op : ReentrantOp}
    (hs : InMouseWindow s) (hop : MoveOnlyReentry s op) (h : reentrantStep op s = some s') :
    InMouseWindow s' := by
  cases op with
  | move env location scripts => cases h; exact hop.handleMouseMove env location hs
  | afterWindowHidden env scripts => cases h; exact hop.handleMouseMove env _ hs
  | press env button newState =>
      obtain ⟨extra, hemitted, hpress⟩ := handleMousePress_emitted env s h
      have hwindow : s'.mouseWindow = s.mouseWindow := by
        rcases handleMousePress_owner env s h with rfl | ⟨-, hwindow, -⟩
        · rfl
        · exact hwindow
      exact hs.of_quiet hwindow extra hemitted fun effect heffect =>
        Effect.isCrossing_eq_false_of_isPress (hpress effect heffect)
  | sync env scripts =>
      cases h
      refine hop.handleMouseMove env _ ?_
      exact hs.syncButtons
  | syncBeforeDragging leave =>
      cases h
      subst hop
      show InMouseWindow (syncMouseBeforeDragging .idle s)
      rw [syncMouseBeforeDragging_idle]
      unfold InMouseWindow crossingReplay at *
      rw [replay_append, hs]
      cases s.mouseWindow
      · rfl
      · split_ifs <;> simp [enterLeave]
  | grab window =>
      cases h
      rw [grabPointer_eq]
      split_ifs <;> exact hs
  | ungrab =>
      cases h
      unfold ungrabPointer
      split_ifs <;> exact hs
  | liveResize =>
      cases h
      rw [handleMouseForResizeEnd_eq, handleMouseForResizeStart_eq]
      unfold InMouseWindow crossingReplay at *
      rw [List.append_assoc, replay_append, hs]
      cases s.mouseWindow <;> simp [enterLeave]

/-- When leave and enter handlers return at once and move handlers may call back
at any depth, the enter and leave notifications alternate for every window,
starting with an enter, a leave always comes before the next enter, and after
every operation the window left entered is the mouse window. -/
theorem crossings_alternate {s : PointerState}
    (h : ReachableBy initial reentrantStep MoveOnlyReentry s) :
    crossingReplay s.emitted = some s.mouseWindow ∧
      ∀ window, windowReplay window s.emitted = some (decide (s.mouseWindow = some window)) := by
  have hs : InMouseWindow s := by
    induction h with
    | init => rfl
    | next _ hop hstep ih => exact inMouseWindow_reentrantStep ih hop hstep
  exact ⟨hs, windowReplay_of_crossingReplay hs⟩

/-- Window 1 under (10, 10) and window 2 under (20, 20). -/
def twoWindowsEnv : Env :=
  { windowOneEnv with
    windowAtPoint := fun p =>
      if p = ⟨10, 10⟩ then some 1 else if p = ⟨20, 20⟩ then some 2 else none }

/-- A move into window 1 whose move handler moves the pointer on into window 2. -/
def moveOnIntoWindowTwo : ReentrantOp :=
  .move twoWindowsEnv ⟨10, 10⟩
    ⟨.done, .done, .move twoWindowsEnv ⟨20, 20⟩ .done .done .done .done⟩

theorem moveOnIntoWindowTwo_alternates :
    ReachableBy initial reentrantStep MoveOnlyReentry
        ((reentrantStep moveOnIntoWindowTwo initial).getD initial) ∧
      crossingReplay ((reentrantStep moveOnIntoWindowTwo initial).getD initial).emitted =
        some (some 2) :=
  have h : ReachableBy initial reentrantStep MoveOnlyReentry
      ((reentrantStep moveOnIntoWindowTwo initial).getD initial) :=
    @ReachableBy.next _ _ _ _ _ _ _ moveOnIntoWindowTwo .init
      ⟨rfl, rfl, rfl, rfl, trivial, trivial⟩ rfl
  ⟨h, (crossings_alternate h).1.trans (by decide)⟩

/-- No window under any point: window 1 is gone. -/
def windowOneHiddenEnv : Env := { windowOneEnv with windowAtPoint := fun _ => none }

/-- A leave handler that closes its window, so that the engine calls
`HandleMouseAfterWindowHidden` from it. -/
def closeOnLeave : Scripts :=
  ⟨.afterWindowHidden windowOneHiddenEnv .done .done .done .done, .done, .done⟩

/-- Leaving window 1 with a leave handler that closes it: the nested
`HandleMouseMove` still sees window 1 as the mouse window and leaves it again. -/
theorem leaveHandler_leaves_twice :
    (run reentrantStep [.move windowOneEnv ⟨10, 10⟩ .idle,
        .move windowOneEnv ⟨500, 500⟩ closeOnLeave] initial).map
      (fun s => s.emitted.filter Effect.isCrossing) =
      some [.mouseEnter 1, .mouseLeave 1, .mouseLeave 1] := by
  decide

end MacPlatformCore
