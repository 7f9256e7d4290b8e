/-
# Handlers that call back into the core

The engine's handlers for the leave, enter and move notifications may call
`HandleMouseMove` or `HandleMouseAfterWindowHidden` before they return; a leave
handler that closes its window does (the comment of bug 14350 in
`SyncMouseBeforeDragging`). A `Reentry` script says what one handler does: the
calls it makes, in order, each with the scripts of the handlers that the call's
own notifications reach. A script is a finite tree, and running it is structural
recursion on it, so every reentrant run ends.

`ReentrantOp` is an operation of the pointer with scripts for its handlers, with
a live resize as the bracket `HandleMouseForResizeStart`, `HandleMouseForResizeEnd`;
`Scripts.idle` is the handler that returns at once.
-/

import MacPlatformCore.Pointer.Operations

namespace MacPlatformCore

/-- What a handler does before it returns: nothing, or call the core and go on
with `next`. The `leave`, `enter` and `move` of a call are the scripts of the
handlers of the notifications that call sends. -/
inductive Reentry
  | done
  | move (env : Env) (location : MCPoint) (leave enter move next : Reentry)
  | afterWindowHidden (env : Env) (leave enter move next : Reentry)

/-- Run a handler's script. -/
def Reentry.run : Reentry → PointerState → PointerState
  | .done, s => s
  | .move env location onLeave onEnter onMove next, s =>
      next.run (handleMouseMove ⟨onLeave.run, onEnter.run, onMove.run⟩ env location s)
  | .afterWindowHidden env onLeave onEnter onMove next, s =>
      next.run (handleMouseAfterWindowHidden ⟨onLeave.run, onEnter.run, onMove.run⟩ env s)

/-- The scripts of the three handlers one operation's notifications reach. -/
structure Scripts where
  leave : Reentry
  enter : Reentry
  move : Reentry

namespace Scripts

/-- The handlers the scripts run. -/
def handlers (scripts : Scripts) : Handlers :=
  ⟨scripts.leave.run, scripts.enter.run, scripts.move.run⟩

/-- Handlers that all return at once. -/
def idle : Scripts := ⟨.done, .done, .done⟩

end Scripts

/-- A pointer operation with the scripts of the handlers it reaches. The live
resize is the bracket of `HandleMouseForResizeStart` and
`HandleMouseForResizeEnd` with nothing between them. -/
inductive ReentrantOp
  | move (env : Env) (location : MCPoint) (scripts : Scripts)
  | afterWindowHidden (env : Env) (scripts : Scripts)
  | press (env : Env) (button : Nat) (newState : Bool)
  | sync (env : Env) (scripts : Scripts)
  | syncBeforeDragging (leave : Reentry)
  | grab (window : Option Window)
  | ungrab
  | liveResize

/-- One reentrant operation; `none` when it crashes. -/
def reentrantStep : ReentrantOp → PointerState → Option PointerState
  | .move env location scripts, s => some (handleMouseMove scripts.handlers env location s)
  | .afterWindowHidden env scripts, s =>
      some (handleMouseAfterWindowHidden scripts.handlers env s)
  | .press env button newState, s => handleMousePress env button newState s
  | .sync env scripts, s => some (handleMouseSync scripts.handlers env s)
  | .syncBeforeDragging leave, s => some (syncMouseBeforeDragging ⟨leave.run, id, id⟩ s)
  | .grab window, s => some (grabPointer window s)
  | .ungrab, s => some (ungrabPointer s)
  | .liveResize, s => some (handleMouseForResizeEnd (handleMouseForResizeStart s))

end MacPlatformCore
