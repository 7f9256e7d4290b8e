/-
# The core's hold on platform windows

`MCMacPlatformCore` keeps platform windows in four places: the mouse window
(`m_mouse_window`), the window the window server is moving
(`m_moving_window`), the backdrop (`m_backdrop_window`), and the entries of
`m_modal_sessions`. Each place retains the window it stores and releases it
when it lets go.

`CoreState` puts the four together. The pointer and the modal stack keep their
own logs (`emitted`, `log`); the moving window and the backdrop log their calls
in `windowCalls`. `coreStep` runs one operation of the core: any reentrant
pointer operation, `ApplicationWindowStartedMoving`,
`ApplicationWindowStoppedMoving`, `ApplicationSendEvent`, `ConfigureBackdrop`,
`BeginModalSession` (with the `SyncMouseBeforeDragging` it starts with) and
`EndModalSession`. The window server's stacking order, which `ConfigureBackdrop`
changes through `SyncBackdrop`, is modelled in `Windows.Backdrop`.
-/

import MacPlatformCore.Pointer.Reentry
import MacPlatformCore.Modal.Sessions

namespace MacPlatformCore

/-- A call the moving-window and backdrop code makes on a platform window. -/
inductive WindowCall
  | retain (window : Window)
  | release (window : Window)
  /-- `[[window delegate] windowMoveFinished]`. -/
  | windowMoveFinished (window : Window)
  /-- `MCMacPlatformWindow::WindowMoved`. -/
  | windowMoved (window : Window)
  deriving DecidableEq, Repr

/-- The members of `MCMacPlatformCore` that hold platform windows, with the logs
of what was done to them. -/
structure CoreState where
  pointer : PointerState
  modal : ModalState
  movingWindow : Option Window
  backdropWindow : Option Window
  windowCalls : List WindowCall
  deriving DecidableEq, Repr

namespace CoreState

/-- Nothing held, nothing logged. -/
def initial : CoreState := ⟨MacPlatformCore.initial, ModalState.initial, none, none, []⟩

/-- Log one window call. -/
def call (s : CoreState) (c : WindowCall) : CoreState :=
  { s with windowCalls := s.windowCalls ++ [c] }

end CoreState

open CoreState

/-! ## The moving window -/

/-- `MCMacPlatformCore::ApplicationWindowStoppedMoving`. Its argument is not read:
it stops whatever window is moving. -/
def applicationWindowStoppedMoving (_window : Window) (s : CoreState) : CoreState :=
  match s.movingWindow with
  | none => s
  | some moving =>
    { (s.call (.windowMoveFinished moving)).call (.release moving) with movingWindow := none }

/-- `MCMacPlatformCore::ApplicationWindowStartedMoving`. -/
def applicationWindowStartedMoving (window : Window) (s : CoreState) : CoreState :=
  let s := match s.movingWindow with
    | some moving => applicationWindowStoppedMoving moving s
    | none => s
  { s.call (.retain window) with movingWindow := some window }

@[simp] theorem applicationWindowStoppedMoving_movingWindow (window : Window) (s : CoreState) :
    (applicationWindowStoppedMoving window s).movingWindow = none := by
  unfold applicationWindowStoppedMoving
  split
  · assumption
  · rfl

/-- Starting a move stops the one in progress, whichever window it is for. -/
theorem applicationWindowStartedMoving_eq (window : Window) (s : CoreState) :
    applicationWindowStartedMoving window s =
      { (applicationWindowStoppedMoving window s).call (.retain window) with
        movingWindow := some window } := by
  unfold applicationWindowStartedMoving
  split
  · rfl
  · next hnone => simp [applicationWindowStoppedMoving, hnone]

/-- The `NSEvent` types `ApplicationSendEvent` tells apart. -/
inductive NSEventType
  | applicationDefined
  | leftMouseDragged
  | leftMouseUp
  | other
  deriving DecidableEq, Repr

/-- An event passed to `[NSApp sendEvent:]`: its type, its subtype and the
window it is for. -/
structure SentEvent where
  type : NSEventType
  subtype : Nat
  window : Option Window
  deriving DecidableEq, Repr

/-- `kMCMacPlatformMouseSyncEvent`. -/
def kMCMacPlatformMouseSyncEvent : Nat := 1

/-- `MCMacPlatformCore::ApplicationSendEvent`: whether the event was handled, and
the state. The mouse-sync event runs `HandleMouseSync`; while a window is being
moved, its drags report the move and its left mouse-up stops it. -/
def applicationSendEvent (handlers : Handlers) (env : Env) (event : SentEvent)
    (s : CoreState) : Bool × CoreState :=
  if event.type = .applicationDefined ∧ event.subtype = kMCMacPlatformMouseSyncEvent then
    (true, { s with pointer := handleMouseSync handlers env s.pointer })
  else
    match s.movingWindow with
    | some moving =>
      if event.window = some moving then
        if event.type = .leftMouseDragged then (false, s.call (.windowMoved moving))
        else if event.type = .leftMouseUp then (false, applicationWindowStoppedMoving moving s)
        else (false, s)
      else (false, s)
    | none => (false, s)

/-! ## The backdrop -/

/-- `MCMacPlatformCore::ConfigureBackdrop`, up to the `SyncBackdrop` that ends it. -/
def configureBackdrop (backdrop : Option Window) (s : CoreState) : CoreState :=
  let s := match s.backdropWindow with
    | some old => { s.call (.release old) with backdropWindow := none }
    | none => s
  let s := { s with backdropWindow := backdrop }
  match backdrop with
  | some window => s.call (.retain window)
  | none => s

/-- `ConfigureBackdrop` releases the old backdrop and retains the new one. -/
theorem configureBackdrop_eq (backdrop : Option Window) (s : CoreState) :
    configureBackdrop backdrop s =
      { s with
        backdropWindow := backdrop
        windowCalls := s.windowCalls ++ s.backdropWindow.toList.map .release ++
          backdrop.toList.map .retain } := by
  rcases s with ⟨_, _, _, _ | old, _⟩ <;> cases backdrop <;> simp [configureBackdrop, call]

/-! ## One operation of the core -/

/-- A call into the core from the engine or from Cocoa, with the scripts of the
pointer handlers it reaches. -/
inductive CoreOp
  | pointer (op : ReentrantOp)
  | windowStartedMoving (window : Window)
  | windowStoppedMoving (window : Window)
  | sendEvent (env : Env) (scripts : Scripts) (event : SentEvent)
  | configureBackdrop (backdrop : Option Window)
  | beginModalSession (leave : Reentry) (window : Window)
  | endModalSession (window : Window)

/-- One operation; `none` when it crashes. `BeginModalSession` first runs
`SyncMouseBeforeDragging`, whose leave handler may call back into the core; the
host runs nothing while the session begins. -/
def coreStep : CoreOp → CoreState → Option CoreState
  | .pointer op, s => (reentrantStep op s.pointer).map fun pointer => { s with pointer }
  | .windowStartedMoving window, s => some (applicationWindowStartedMoving window s)
  | .windowStoppedMoving window, s => some (applicationWindowStoppedMoving window s)
  | .sendEvent env scripts event, s => some (applicationSendEvent scripts.handlers env event s).2
  | .configureBackdrop backdrop, s => some (configureBackdrop backdrop s)
  | .beginModalSession leave window, s =>
      (beginModalSession some window s.modal).map fun modal =>
        { s with pointer := syncMouseBeforeDragging ⟨leave.run, id, id⟩ s.pointer, modal }
  | .endModalSession window, s => some { s with modal := endModalSession window s.modal }

end MacPlatformCore
