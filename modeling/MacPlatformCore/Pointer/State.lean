/-
# Pointer state of the Mac platform core

`MCMacPlatformCore` keeps the mouse window, the button mask, the grab flags and
the click-tracking fields as members; here they are one record. What the core
does is recorded in the same record as a list of effects: the notifications it
sends to the engine's callback sink and the window retains and releases it
makes. The window server is not state of the model. Each call reads its answers
(the window under a point, window geometry, the time of the current event, the
mouse location) from an `Env`, so a run may change them freely between calls.
-/

import Mathlib.Data.BitVec
import MacPlatformCore.Runs

namespace MacPlatformCore

/-- A platform window (`MCPlatformWindowRef`); `none` plays the nil reference. -/
abbrev Window := Nat

/-- `MCPoint`. The source fields are `int16_t`; every use of them below promotes
to `int` before subtracting, so no arithmetic here wraps. -/
structure MCPoint where
  x : Int
  y : Int
  deriving DecidableEq, Repr

/-- `MCPlatformModifiers`: the five flags that `MCMacPlatformMapNSModifiersToModifiers`
can set. Only `command` is read by the pointer code. -/
structure MCPlatformModifiers where
  shift : Bool
  control : Bool
  option : Bool
  command : Bool
  capsLock : Bool
  deriving DecidableEq, Repr

/-- What one call of the core reads from outside it: the window server's answers
(`GetWindowAtPoint`, the window's screen mapping, `GetEventTime`,
`[NSEvent mouseLocation]`) and the engine's click preferences `MCdoubledelta`,
`MCdoubletime` and `MCdragdelta`. -/
structure Env where
  windowAtPoint : MCPoint → Option Window
  mapPointFromScreenToWindow : Window → MCPoint → MCPoint
  mapPointFromWindowToScreen : Window → MCPoint → MCPoint
  eventTime : UInt32
  mouseLocation : MCPoint
  doubleDelta : Nat
  doubleTime : Nat
  dragDelta : Nat

/-- One upcall to the callback sink, or one reference-count or cursor call. -/
inductive Effect
  | mouseDown (window : Window) (button : Nat) (count : Nat)
  | mouseUp (window : Window) (button : Nat) (count : Nat)
  | mouseRelease (window : Window) (button : Nat) (synthetic : Bool)
  | mouseMove (window : Window) (location : MCPoint)
  | mouseDrag (window : Option Window) (button : Nat)
  | mouseEnter (window : Window)
  | mouseLeave (window : Window)
  | mouseScroll (window : Window) (dx dy : Int)
  | modifiersChanged (modifiers : MCPlatformModifiers)
  | retain (window : Window)
  | release (window : Window)
  | resetCursor
  | cursorChange (window : Window)
  deriving DecidableEq, Repr

/-- Down, up and release: the notifications of a button transition. -/
def Effect.isPress : Effect → Bool
  | .mouseDown .. | .mouseUp .. | .mouseRelease .. => true
  | _ => false

/-- Enter and leave: the notifications of a window crossing. -/
def Effect.isCrossing : Effect → Bool
  | .mouseEnter _ | .mouseLeave _ => true
  | _ => false

theorem Effect.isCrossing_eq_false_of_isPress {effect : Effect} (hpress : effect.isPress = true) :
    effect.isCrossing = false := by
  cases effect <;> first | rfl | contradiction

/-- The `m_mouse_*` members of `MCMacPlatformCore`, and `emitted`, the effects of
the run so far, oldest first. -/
structure PointerState where
  mouseWindow : Option Window
  mousePosition : MCPoint
  mouseScreenPosition : MCPoint
  mouseButtons : BitVec 32
  mouseGrabbed : Bool
  mouseGrabbedExplicit : Bool
  mouseDragButton : Nat
  mouseClickCount : Nat
  mouseLastClickTime : UInt32
  mouseLastClickScreenPosition : MCPoint
  mouseLastClickButton : Nat
  mouseWasControlClick : Bool
  mouseCursorLocked : Bool
  mouseModifiers : MCPlatformModifiers
  emitted : List Effect
  deriving DecidableEq, Repr

/-- The drag-button sentinel `0xffffffff`: no drag is in progress. -/
def noButton : Nat := 0xffffffff

/-- `1 << p_button` as stored into the 32-bit button mask. -/
def buttonBit (button : Nat) : BitVec 32 := 1#32 <<< button

namespace PointerState

/-- Record one effect. -/
def emit (s : PointerState) (effect : Effect) : PointerState :=
  { s with emitted := s.emitted ++ [effect] }

variable (s : PointerState) (effect : Effect)

@[simp] theorem emit_mouseWindow : (s.emit effect).mouseWindow = s.mouseWindow := rfl
@[simp] theorem emit_mouseButtons : (s.emit effect).mouseButtons = s.mouseButtons := rfl
@[simp] theorem emit_mouseGrabbed : (s.emit effect).mouseGrabbed = s.mouseGrabbed := rfl
@[simp] theorem emit_mouseGrabbedExplicit :
    (s.emit effect).mouseGrabbedExplicit = s.mouseGrabbedExplicit := rfl
@[simp] theorem emit_mouseDragButton : (s.emit effect).mouseDragButton = s.mouseDragButton := rfl
@[simp] theorem emit_mouseLastClickButton :
    (s.emit effect).mouseLastClickButton = s.mouseLastClickButton := rfl
@[simp] theorem emit_mouseWasControlClick :
    (s.emit effect).mouseWasControlClick = s.mouseWasControlClick := rfl
@[simp] theorem emit_emitted : (s.emit effect).emitted = s.emitted ++ [effect] := rfl

end PointerState

/-- Modelled from the spec: the member initialisers of `MCMacPlatformCore` are in a
header outside `src/`. No button is down, there is no mouse window, nothing is
grabbed and no drag is in progress ("none"); positions, times and counts are zero. -/
def initial : PointerState where
  mouseWindow := none
  mousePosition := ⟨0, 0⟩
  mouseScreenPosition := ⟨0, 0⟩
  mouseButtons := 0
  mouseGrabbed := false
  mouseGrabbedExplicit := false
  mouseDragButton := noButton
  mouseClickCount := 0
  mouseLastClickTime := 0
  mouseLastClickScreenPosition := ⟨0, 0⟩
  mouseLastClickButton := 0
  mouseWasControlClick := false
  mouseCursorLocked := false
  mouseModifiers := ⟨false, false, false, false, false⟩
  emitted := []

/-! ## The button mask -/

theorem getLsbD_buttonBit {button i : Nat} (hbutton : button < 32) :
    (buttonBit button).getLsbD i = decide (i = button) := by
  simp only [buttonBit, BitVec.getLsbD_shiftLeft, BitVec.getLsbD_one]
  by_cases h : i = button <;> simp [h, hbutton]; omega

/-- The test `(m_mouse_buttons & (1 << p_button)) != 0` reads bit `p_button`. -/
theorem and_buttonBit_eq_zero {buttons : BitVec 32} {button : Nat} (hbutton : button < 32) :
    buttons &&& buttonBit button = 0#32 ↔ buttons.getLsbD button = false := by
  constructor
  · intro hzero
    simpa [getLsbD_buttonBit hbutton] using congrArg (fun x => x.getLsbD button) hzero
  · intro hbit
    refine BitVec.eq_of_getLsbD_eq fun i => ?_
    by_cases hi : (i : Nat) = button
    · simp [hi, hbit]
    · simp [getLsbD_buttonBit hbutton, hi]

theorem eq_of_getLsbD_buttonBit {button i : Nat} (hbutton : button < 32)
    (h : (buttonBit button).getLsbD i = true) : i = button := by
  simpa [getLsbD_buttonBit hbutton] using h

/-- Clearing bits that are already clear changes nothing. -/
theorem and_not_self_of_and_eq_zero {buttons mask : BitVec 32} (h : buttons &&& mask = 0#32) :
    buttons &&& ~~~mask = buttons := by
  refine BitVec.eq_of_getLsbD_eq fun i => ?_
  have hi := congrArg (fun x => x.getLsbD i) h
  simp only [BitVec.getLsbD_and, BitVec.getLsbD_zero, BitVec.getLsbD_not, i.isLt, decide_True,
    Bool.true_and] at hi ⊢
  cases hbit : buttons.getLsbD i <;> simp_all

end MacPlatformCore
