/-
# Flushing the event queue

`FlushEvents` turns the engine's event mask into an `NSEvent` mask (the downs,
or the ups, of all three button classes; key-downs; key-ups) and then takes
matching events off the queue until `nextEventMatchingMask:` finds none. Each
turn dequeues the first matching event, so the loop ends after as many turns as
there are matching events and leaves every other event in its place
(`flushEvents_spec`): drags, moves, scrolls and modifier changes are never
flushed, whatever the mask.

The queue is a list of events in delivery order, each with its `NSEventType`
code; the mask test of `nextEventMatchingMask:` is `NSEventMaskFromType`, bit
`type` of the mask. The loop runs on fuel, and `flushEvents` gives it the
queue's length, which covers every turn it takes. The bits of the engine's
`MCPlatformEventMask` are defined outside the source, so the mask is the four
tests the function makes of it. Events that arrive while the loop runs are not
modelled.
-/

import Mathlib.Data.List.Basic

namespace MacPlatformCore

/-- The four tests `FlushEvents` makes of its `MCPlatformEventMask`:
`kMCPlatformEventMouseDown`, `kMCPlatformEventMouseUp`, `kMCPlatformEventKeyDown`
and `kMCPlatformEventKeyUp`. -/
structure MCPlatformEventMask where
  mouseDown : Bool
  mouseUp : Bool
  keyDown : Bool
  keyUp : Bool
  deriving DecidableEq, Repr

/-- A queued `NSEvent`: its `type` code, and a serial number that tells equal
types apart. -/
structure QueuedNSEvent where
  type : Nat
  serial : Nat
  deriving DecidableEq, Repr

/-! ## Event types and masks -/

/-- `NSLeftMouseDown`. -/
def nsLeftMouseDown : Nat := 1
/-- `NSLeftMouseUp`. -/
def nsLeftMouseUp : Nat := 2
/-- `NSRightMouseDown`. -/
def nsRightMouseDown : Nat := 3
/-- `NSRightMouseUp`. -/
def nsRightMouseUp : Nat := 4
/-- `NSKeyDown`. -/
def nsKeyDown : Nat := 10
/-- `NSKeyUp`. -/
def nsKeyUp : Nat := 11
/-- `NSOtherMouseDown`. -/
def nsOtherMouseDown : Nat := 25
/-- `NSOtherMouseUp`. -/
def nsOtherMouseUp : Nat := 26

/-- `NSEventMaskFromType`: the `NS...Mask` of an event type. -/
def nsEventMaskFromType (type : Nat) : Nat := 1 <<< type

/-- The `t_ns_mask` that `FlushEvents` builds from its argument. -/
def flushEventsNSMask (p_mask : MCPlatformEventMask) : Nat :=
  let mask := 0
  let mask := if p_mask.mouseDown then
      mask ||| nsEventMaskFromType nsLeftMouseDown ||| nsEventMaskFromType nsRightMouseDown |||
        nsEventMaskFromType nsOtherMouseDown
    else mask
  let mask := if p_mask.mouseUp then
      mask ||| nsEventMaskFromType nsLeftMouseUp ||| nsEventMaskFromType nsRightMouseUp |||
        nsEventMaskFromType nsOtherMouseUp
    else mask
  let mask := if p_mask.keyDown then mask ||| nsEventMaskFromType nsKeyDown else mask
  if p_mask.keyUp then mask ||| nsEventMaskFromType nsKeyUp else mask

/-- Whether `nextEventMatchingMask:` takes an event for a mask. -/
def matchesNSMask (mask : Nat) (event : QueuedNSEvent) : Bool := mask.testBit event.type

/-- The loop of `FlushEvents`: dequeue the first matching event until there is
none, one turn per unit of fuel. -/
def dequeueMatching (mask : Nat) : Nat → List QueuedNSEvent → List QueuedNSEvent
  | 0, queue => queue
  | fuel + 1, queue =>
    match queue.find? (matchesNSMask mask) with
    | none => queue
    | some _ => dequeueMatching mask fuel (queue.eraseP (matchesNSMask mask))

/-- `MCMacPlatformCore::FlushEvents`: the queue it leaves. -/
def flushEvents (p_mask : MCPlatformEventMask) (queue : List QueuedNSEvent) :
    List QueuedNSEvent :=
  dequeueMatching (flushEventsNSMask p_mask) queue.length queue

/-! ## What the loop removes -/

/-- A queue with no matching event is left as it is. -/
theorem filter_not_matchesNSMask {mask : Nat} {queue : List QueuedNSEvent}
    (hnone : ∀ e ∈ queue, matchesNSMask mask e = false) :
    queue.filter (fun e => !matchesNSMask mask e) = queue :=
  List.filter_eq_self.mpr (by simpa using hnone)

/-- Enough fuel for every matching event, and the loop removes exactly those. -/
theorem dequeueMatching_eq_filter (mask : Nat) :
    ∀ (fuel : Nat) (queue : List QueuedNSEvent), queue.countP (matchesNSMask mask) ≤ fuel →
      dequeueMatching mask fuel queue = queue.filter fun e => !matchesNSMask mask e
  | 0, queue, hfuel => by
    rw [dequeueMatching, filter_not_matchesNSMask (by simpa [List.countP_eq_zero] using hfuel)]
  | fuel + 1, queue, hfuel => by
    unfold dequeueMatching
    split
    · next hfind =>
      rw [filter_not_matchesNSMask (by simpa using List.find?_eq_none.mp hfind)]
    · next first hfind =>
      obtain ⟨_, before, after, hbefore, hfirst, rfl, herase⟩ :=
        List.exists_of_eraseP (List.mem_of_find?_eq_some hfind) (List.find?_some hfind)
      rw [herase, dequeueMatching_eq_filter mask fuel _ (by simp [hfirst] at hfuel ⊢; omega)]
      simp [hfirst, filter_not_matchesNSMask (by simpa using hbefore)]

/-- The event types the engine's mask names. -/
def flushedTypes (p_mask : MCPlatformEventMask) : List Nat :=
  (if p_mask.mouseDown then [nsLeftMouseDown, nsRightMouseDown, nsOtherMouseDown] else []) ++
    (if p_mask.mouseUp then [nsLeftMouseUp, nsRightMouseUp, nsOtherMouseUp] else []) ++
    (if p_mask.keyDown then [nsKeyDown] else []) ++
    (if p_mask.keyUp then [nsKeyUp] else [])

@[simp] theorem testBit_nsEventMaskFromType (t type : Nat) :
    (nsEventMaskFromType t).testBit type = decide (t = type) := by
  rw [nsEventMaskFromType, Nat.one_shiftLeft, Nat.testBit_two_pow]

/-- `t_ns_mask` has exactly the bits of the types the engine's mask names. -/
theorem testBit_flushEventsNSMask (p_mask : MCPlatformEventMask) (type : Nat) :
    (flushEventsNSMask p_mask).testBit type = decide (type ∈ flushedTypes p_mask) := by
  rcases p_mask with ⟨_ | _, _ | _, _ | _, _ | _⟩ <;>
    simp [flushEventsNSMask, flushedTypes, eq_comm, Bool.or_assoc]

/-- `FlushEvents` removes exactly the queued events of the types its mask names,
mouse-downs or mouse-ups of every button class, key-downs, key-ups, and leaves
every other event in its order. -/
theorem flushEvents_spec (p_mask : MCPlatformEventMask) (queue : List QueuedNSEvent) :
    flushEvents p_mask queue = queue.filter fun e => e.type ∉ flushedTypes p_mask := by
  rw [flushEvents, dequeueMatching_eq_filter _ _ _ (List.countP_le_length _)]
  simp [matchesNSMask, testBit_flushEventsNSMask]

/-- Flushing mouse-downs takes the left and the other-button down and keeps the
drag and the up between them. -/
example : flushEvents ⟨true, false, false, false⟩
    [⟨nsLeftMouseDown, 0⟩, ⟨6, 1⟩, ⟨nsLeftMouseUp, 2⟩, ⟨nsOtherMouseDown, 3⟩] =
      [⟨6, 1⟩, ⟨nsLeftMouseUp, 2⟩] := by
  decide

end MacPlatformCore
