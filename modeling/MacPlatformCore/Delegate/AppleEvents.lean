/-
# Apple events around startup

The application delegate installs `preDispatchAppleEvent` as the Apple Event
Manager's pre-dispatch handler. Until `applicationDidFinishLaunching:` has run
the engine's startup callback, `m_running` is clear and each Apple event is
copied into `m_pending_apple_events` and suspended. Once startup succeeds,
`m_running` is set and the delegate drains the array front to back: each event
goes through the handler again, now reaching the engine, and is then resumed
with `kAENoDispatch`. A failed startup exits the process instead.

With `m_running` set, the handler reads the event's class and ID and hands it
to the engine: a quit terminates the application, an answer goes to
`MCAppleEventHandlerDoAEAnswer`, and every other event to
`MCAppleEventHandlerDoSpecial`, then to `MCAppleEventHandlerDoOpenDoc` when it
opens documents and the special handler declined it. An event the engine
handled breaks the engine's wait.

The engine's handlers are not under `src/`; what each answers for an event is
part of the event here. They may run event loops of their own, so further
Apple events can arrive while a drained event is being handled: those reach
the engine at once, ahead of the events still queued. The model puts such an
arrival between the dispatch of the drained event (`dispatchPending`) and its
resume (`resumePending`), and allows no other arrival while the queue drains.

Along every run no event is lost or dispatched twice, and the queue is first in,
first out: the suspended events are the resumed ones, the one being drained and
the pending ones, in order (`appleEvents_delivered_in_order`).
-/

import Mathlib.Data.List.Basic
import MacPlatformCore.Runs

namespace MacPlatformCore

/-- `OSErr`. -/
abbrev OSErr := Int

/-- `noErr`. -/
def noErr : OSErr := 0

/-- `errAEEventNotHandled`. -/
def errAEEventNotHandled : OSErr := -1708

/-- The Apple events the pre-dispatch handler tells apart by their class and ID:
`kCoreEventClass` with `kAEQuitApplication`, `kAEAnswer` or `kAEOpenDocuments`,
and every other. -/
inductive AppleEventKind
  | quit
  | answer
  | openDocuments
  | other
  deriving DecidableEq, Repr

/-- An Apple event with its reply, by its identity, and what the engine's
handlers return for it. -/
structure AppleEvent where
  id : Nat
  kind : AppleEventKind
  answerResult : OSErr
  specialResult : OSErr
  openDocResult : OSErr
  deriving DecidableEq, Repr

/-- A call the delegate makes about an Apple event, or the call it is in. -/
inductive DelegateCall
  /-- The Apple Event Manager calls the pre-dispatch handler. -/
  | received (event : AppleEvent)
  /-- `AESuspendTheCurrentEvent`, after the event is queued. -/
  | suspended (event : AppleEvent)
  /-- `AEGetAttributePtr` reads the class and the ID: the event reaches the
  engine. -/
  | dispatched (event : AppleEvent)
  /-- `[NSApp terminate: self]`. -/
  | terminate
  /-- `MCAppleEventHandlerDoAEAnswer`. -/
  | doAEAnswer (event : AppleEvent)
  /-- `MCAppleEventHandlerDoSpecial`. -/
  | doSpecial (event : AppleEvent)
  /-- `MCAppleEventHandlerDoOpenDoc`. -/
  | doOpenDoc (event : AppleEvent)
  /-- `m_platform -> BreakWait()`. -/
  | breakWait
  /-- `AEResumeTheCurrentEvent` with `kAENoDispatch`, after the drained event's
  dispatch. -/
  | resumed (event : AppleEvent)
  deriving DecidableEq, Repr

/-- The delegate's `m_running` and `m_pending_apple_events`, the event the drain
loop of `applicationDidFinishLaunching:` is handling, the exit code once startup
failed, and the calls made so far, oldest first. -/
structure DelegateState where
  running : Bool
  pendingAppleEvents : List AppleEvent
  draining : Option AppleEvent
  exitCode : Option Int
  calls : List DelegateCall
  deriving DecidableEq, Repr

namespace DelegateState

/-- Launching: not running, nothing queued, nothing called. -/
def initial : DelegateState := ⟨false, [], none, none, []⟩

/-- Log one call. -/
def call (s : DelegateState) (c : DelegateCall) : DelegateState :=
  { s with calls := s.calls ++ [c] }

end DelegateState

open DelegateState

/-! ## The delegate -/

/-- `[MCApplicationDelegate preDispatchAppleEvent:withReply:]`: its result and the
state. -/
def preDispatchAppleEvent (event : AppleEvent) (s : DelegateState) : OSErr × DelegateState :=
  if s.running = false then
    (noErr, { s with pendingAppleEvents := s.pendingAppleEvents ++ [event] }.call
      (.suspended event))
  else
    let s := s.call (.dispatched event)
    match event.kind with
    | .quit => (noErr, s.call .terminate)
    | .answer => (event.answerResult, s.call (.doAEAnswer event))
    | kind =>
      let s := s.call (.doSpecial event)
      let (err, s) :=
        if event.specialResult = errAEEventNotHandled ∧ kind = .openDocuments then
          (event.openDocResult, s.call (.doOpenDoc event))
        else (event.specialResult, s)
      (err, if err ≠ errAEEventNotHandled then s.call .breakWait else s)

/-- `applicationDidFinishLaunching:` up to its drain loop: a non-zero error code
from the startup callback exits the process; otherwise `m_running` is set. -/
def applicationDidFinishLaunching (errorCode : Int) (s : DelegateState) : DelegateState :=
  if errorCode ≠ 0 then { s with exitCode := some errorCode } else { s with running := true }

/-- What happens on the main thread, one step at a time. -/
inductive DelegateOp
  /-- An Apple event arrives. -/
  | appleEvent (event : AppleEvent)
  /-- `applicationDidFinishLaunching:` with the startup callback's error code. -/
  | didFinishLaunching (errorCode : Int)
  /-- The drain loop takes the first pending event and dispatches it. -/
  | dispatchPending
  /-- The drain loop resumes the event it dispatched and releases it. -/
  | resumePending

/-- One step; `none` where the main thread cannot take it: after the exit, a
second launch, a drain step out of turn, or an arrival while the drain loop runs
outside a drained event's handlers. -/
def delegateStep : DelegateOp → DelegateState → Option DelegateState
  | .appleEvent event, s =>
      if s.exitCode = none ∧ (s.running = true → s.pendingAppleEvents = [] ∨ s.draining ≠ none)
      then some (preDispatchAppleEvent event (s.call (.received event))).2
      else none
  | .didFinishLaunching errorCode, s =>
      if s.running = false ∧ s.exitCode = none then some (applicationDidFinishLaunching errorCode s)
      else none
  | .dispatchPending, s =>
      match s.running, s.draining, s.pendingAppleEvents with
      | true, none, event :: rest =>
          some { (preDispatchAppleEvent event { s with pendingAppleEvents := rest }).2 with
            draining := some event }
      | _, _, _ => none
  | .resumePending, s =>
      match s.draining with
      | some event => some { s.call (.resumed event) with draining := none }
      | none => none

/-! ## What the log says -/

namespace DelegateCall

/-- The event a call receives. -/
def receivedEvent : DelegateCall → Option AppleEvent
  | .received event => some event
  | _ => none

/-- The event a call suspends. -/
def suspendedEvent : DelegateCall → Option AppleEvent
  | .suspended event => some event
  | _ => none

/-- The event a call dispatches to the engine. -/
def dispatchedEvent : DelegateCall → Option AppleEvent
  | .dispatched event => some event
  | _ => none

/-- The event a call resumes. -/
def resumedEvent : DelegateCall → Option AppleEvent
  | .resumed event => some event
  | _ => none

end DelegateCall

namespace DelegateState

/-- The events received, in order. -/
def received (s : DelegateState) : List AppleEvent := s.calls.filterMap DelegateCall.receivedEvent

/-- The events suspended, in order. -/
def suspended (s : DelegateState) : List AppleEvent :=
  s.calls.filterMap DelegateCall.suspendedEvent

/-- The events dispatched to the engine, in order. -/
def dispatched (s : DelegateState) : List AppleEvent :=
  s.calls.filterMap DelegateCall.dispatchedEvent

/-- The events resumed, in order. -/
def resumed (s : DelegateState) : List AppleEvent := s.calls.filterMap DelegateCall.resumedEvent

end DelegateState

/-- The calls a dispatch makes to the engine's handlers and to the wait. -/
def DelegateCall.IsHandlerCall : DelegateCall → Bool
  | .terminate | .doAEAnswer _ | .doSpecial _ | .doOpenDoc _ | .breakWait => true
  | _ => false

theorem preDispatchAppleEvent_of_not_running {event : AppleEvent} {s : DelegateState}
    (h : s.running = false) :
    (preDispatchAppleEvent event s).2 =
      { s with pendingAppleEvents := s.pendingAppleEvents ++ [event] }.call (.suspended event) := by
  simp [preDispatchAppleEvent, h]

/-- With `m_running` set, the handler dispatches the event and touches nothing
but the log. -/
theorem preDispatchAppleEvent_of_running {event : AppleEvent} {s : DelegateState}
    (h : s.running = true) :
    ∃ extra, (preDispatchAppleEvent event s).2 =
      { s with calls := s.calls ++ .dispatched event :: extra } ∧
        ∀ c ∈ extra, c.IsHandlerCall = true := by
  unfold preDispatchAppleEvent
  rw [if_neg (by rw [h]; decide)]
  rcases hkind : event.kind <;> simp only [hkind]
  all_goals
    try split_ifs
    all_goals
      refine ⟨_, by simp only [call, List.append_assoc, List.singleton_append]; rfl, ?_⟩
      simp_all [DelegateCall.IsHandlerCall]

theorem DelegateCall.events_of_isHandlerCall {c : DelegateCall} (h : c.IsHandlerCall = true) :
    c.receivedEvent = none ∧ c.suspendedEvent = none ∧ c.dispatchedEvent = none ∧
      c.resumedEvent = none := by
  cases c <;> first | exact ⟨rfl, rfl, rfl, rfl⟩ | cases h

namespace DelegateState

variable (s : DelegateState) (c : DelegateCall)

@[simp] theorem call_running : (s.call c).running = s.running := rfl

@[simp] theorem call_pendingAppleEvents : (s.call c).pendingAppleEvents = s.pendingAppleEvents :=
  rfl

@[simp] theorem call_draining : (s.call c).draining = s.draining := rfl

@[simp] theorem call_exitCode : (s.call c).exitCode = s.exitCode := rfl

@[simp] theorem received_call : (s.call c).received = s.received ++ c.receivedEvent.toList := by
  cases h : c.receivedEvent <;> simp [received, call, h]

@[simp] theorem suspended_call :
    (s.call c).suspended = s.suspended ++ c.suspendedEvent.toList := by
  cases h : c.suspendedEvent <;> simp [suspended, call, h]

@[simp] theorem dispatched_call :
    (s.call c).dispatched = s.dispatched ++ c.dispatchedEvent.toList := by
  cases h : c.dispatchedEvent <;> simp [dispatched, call, h]

@[simp] theorem resumed_call : (s.call c).resumed = s.resumed ++ c.resumedEvent.toList := by
  cases h : c.resumedEvent <;> simp [resumed, call, h]

end DelegateState

/-- A dispatch with `m_running` set adds the event to the dispatched ones and
changes nothing else the delegate keeps. -/
theorem preDispatchAppleEvent_running_spec {event : AppleEvent} {s : DelegateState}
    (h : s.running = true) :
    let s' := (preDispatchAppleEvent event s).2
    s'.running = s.running ∧ s'.pendingAppleEvents = s.pendingAppleEvents ∧
      s'.draining = s.draining ∧ s'.exitCode = s.exitCode ∧
      s'.received = s.received ∧ s'.suspended = s.suspended ∧
      s'.dispatched = s.dispatched ++ [event] ∧ s'.resumed = s.resumed := by
  obtain ⟨extra, heq, hhandlers⟩ := @preDispatchAppleEvent_of_running event s h
  have hnone := fun c hc => DelegateCall.events_of_isHandlerCall (hhandlers c hc)
  rw [heq]
  refine ⟨rfl, rfl, rfl, rfl, ?_, ?_, ?_, ?_⟩ <;>
    simp only [DelegateState.received, DelegateState.suspended, DelegateState.dispatched,
      DelegateState.resumed, List.filterMap_append, List.filterMap_cons, DelegateCall.receivedEvent,
      DelegateCall.suspendedEvent, DelegateCall.dispatchedEvent, DelegateCall.resumedEvent,
      List.filterMap_eq_nil_iff.mpr fun c hc => (hnone c hc).1,
      List.filterMap_eq_nil_iff.mpr fun c hc => (hnone c hc).2.1,
      List.filterMap_eq_nil_iff.mpr fun c hc => (hnone c hc).2.2.1,
      List.filterMap_eq_nil_iff.mpr fun c hc => (hnone c hc).2.2.2, List.append_nil,
      List.singleton_append]

/-! ## Every run -/

/-- What the delegate keeps along every run: no event is lost or dispatched
twice, the queue is first in, first out, and nothing reaches the engine before
startup. -/
structure Delivered (s : DelegateState) : Prop where
  perm : s.received.Perm (s.dispatched ++ s.pendingAppleEvents)
  fifo : s.suspended = s.resumed ++ s.draining.toList ++ s.pendingAppleEvents
  early : s.running = false → s.dispatched = []

namespace Delivered

variable {s : DelegateState}

theorem initial : Delivered DelegateState.initial :=
  ⟨List.Perm.refl _, rfl, fun _ => rfl⟩

theorem appleEvent (hs : Delivered s) (event : AppleEvent) :
    Delivered (preDispatchAppleEvent event (s.call (.received event))).2 := by
  cases hrun : s.running
  · rw [@preDispatchAppleEvent_of_not_running event (s.call (.received event)) hrun]
    obtain ⟨hperm, hfifo, hearly⟩ := hs
    have hnone := hearly hrun
    simp only [received, suspended, dispatched, resumed] at hperm hfifo hnone
    refine ⟨?_, ?_, fun _ => ?_⟩ <;>
      simp [received, suspended, dispatched, resumed, call, DelegateCall.receivedEvent,
        DelegateCall.suspendedEvent, DelegateCall.dispatchedEvent, DelegateCall.resumedEvent,
        hnone, hfifo]
    simpa [hnone] using hperm.append_right [event]
  · have hspec := @preDispatchAppleEvent_running_spec event (s.call (.received event)) hrun
    simp only [received_call, suspended_call, dispatched_call, resumed_call, call_running,
      call_pendingAppleEvents, call_draining, DelegateCall.receivedEvent,
      DelegateCall.suspendedEvent, DelegateCall.dispatchedEvent, DelegateCall.resumedEvent,
      Option.toList_some, Option.toList_none, List.append_nil] at hspec
    obtain ⟨hrunning, hpending, hdraining, -, hreceived, hsuspended, hdispatched, hresumed⟩ :=
      hspec
    refine ⟨?_, ?_, fun h => absurd (h.symm.trans (hrunning.trans hrun)) Bool.false_ne_true⟩
    · have hmove : (s.pendingAppleEvents ++ [event]).Perm ([event] ++ s.pendingAppleEvents) :=
        List.perm_append_comm
      rw [hreceived, hdispatched, hpending]
      exact (hs.perm.append_right [event]).trans
        (by simpa only [List.append_assoc] using hmove.append_left s.dispatched)
    · rw [hsuspended, hresumed, hdraining, hpending]
      exact hs.fifo

theorem applicationDidFinishLaunching (hs : Delivered s) (errorCode : Int) :
    Delivered (applicationDidFinishLaunching errorCode s) := by
  unfold MacPlatformCore.applicationDidFinishLaunching
  split_ifs
  · exact ⟨hs.perm, hs.fifo, hs.early⟩
  · exact ⟨hs.perm, hs.fifo, fun h => Bool.noConfusion h⟩

/-- The drain loop dispatches the first pending event: it leaves the queue and
joins the dispatched events, and is the one being drained. -/
theorem dispatchPending (hs : Delivered s) {event : AppleEvent} {rest : List AppleEvent}
    (hrun : s.running = true) (hdraining : s.draining = none)
    (hpending : s.pendingAppleEvents = event :: rest) :
    Delivered { (preDispatchAppleEvent event { s with pendingAppleEvents := rest }).2 with
      draining := some event } := by
  obtain ⟨hrunning, hpending', -, -, hreceived, hsuspended, hdispatched, hresumed⟩ :=
    @preDispatchAppleEvent_running_spec event { s with pendingAppleEvents := rest } hrun
  generalize (preDispatchAppleEvent event { s with pendingAppleEvents := rest }).2 = t at *
  have hreceived : t.received = s.received := hreceived
  have hsuspended : t.suspended = s.suspended := hsuspended
  have hdispatched : t.dispatched = s.dispatched ++ [event] := hdispatched
  have hresumed : t.resumed = s.resumed := hresumed
  obtain ⟨hperm, hfifo, -⟩ := hs
  rw [hpending] at hperm hfifo
  refine ⟨?_, ?_, fun h => absurd (h.symm.trans (hrunning.trans hrun)) Bool.false_ne_true⟩
  · show t.received.Perm (t.dispatched ++ t.pendingAppleEvents)
    rw [hreceived, hdispatched, hpending', List.append_assoc]
    exact hperm
  · show t.suspended = t.resumed ++ [event] ++ t.pendingAppleEvents
    rw [hsuspended, hresumed, hpending', hfifo, hdraining]
    simp

/-- The drain loop resumes the event it dispatched. -/
theorem resumePending (hs : Delivered s) {event : AppleEvent}
    (hdraining : s.draining = some event) :
    Delivered { s.call (.resumed event) with draining := none } := by
  obtain ⟨hperm, hfifo, hearly⟩ := hs
  refine ⟨?_, ?_, fun h => ?_⟩
  · show (s.call _).received.Perm ((s.call _).dispatched ++ s.pendingAppleEvents)
    simpa [DelegateCall.receivedEvent, DelegateCall.dispatchedEvent] using hperm
  · show (s.call _).suspended = (s.call _).resumed ++ [] ++ s.pendingAppleEvents
    simp [DelegateCall.suspendedEvent, DelegateCall.resumedEvent, hfifo, hdraining]
  · show (s.call _).dispatched = []
    simpa [DelegateCall.dispatchedEvent] using hearly h

/-- Every step of the main thread keeps what the delegate keeps. -/
theorem step {s' : DelegateState} {op : DelegateOp} (hs : Delivered s)
    (h : delegateStep op s = some s') : Delivered s' := by
  cases op with
  | appleEvent event =>
      simp only [delegateStep] at h
      split_ifs at h
      cases h
      exact hs.appleEvent event
  | didFinishLaunching errorCode =>
      simp only [delegateStep] at h
      split_ifs at h
      cases h
      exact hs.applicationDidFinishLaunching errorCode
  | dispatchPending =>
      simp only [delegateStep] at h
      split at h
      · next event rest hrun hdraining hpending =>
        cases h
        exact hs.dispatchPending hrun hdraining hpending
      · cases h
  | resumePending =>
      simp only [delegateStep] at h
      split at h
      · next event hdraining =>
        cases h
        exact hs.resumePending hdraining
      · cases h

theorem of_reachable {allowed : DelegateState → DelegateOp → Prop}
    (h : ReachableBy DelegateState.initial delegateStep allowed s) : Delivered s := by
  induction h with
  | init => exact initial
  | next _ _ hstep ih => exact ih.step hstep

end Delivered

/-! ## The delegate's guarantees -/

/-- Along every run of the main thread no Apple event is lost or reaches the
engine twice: the events received are the ones dispatched and the ones still
queued. The queue is first in, first out: the events suspended are the ones
resumed, the one the drain loop is handling and the ones still queued, in the
order they arrived. No event reaches the engine before startup succeeded. -/
theorem appleEvents_delivered_in_order {s : DelegateState}
    (h : ReachableBy DelegateState.initial delegateStep (fun _ _ => True) s) :
    s.received.Perm (s.dispatched ++ s.pendingAppleEvents) ∧
      s.suspended = s.resumed ++ s.draining.toList ++ s.pendingAppleEvents ∧
      (s.running = false → s.dispatched = []) :=
  have hs := Delivered.of_reachable h
  ⟨hs.perm, hs.fifo, hs.early⟩

/-- Two events queued before startup, the first an ordinary event the special
handler takes and the second documents to open that only the open-document
handler takes; while the first is handled, a quit arrives. -/
def overtakingOps : List DelegateOp :=
  [.appleEvent ⟨0, .other, 0, 0, 0⟩, .appleEvent ⟨1, .openDocuments, 0, -1708, 0⟩,
    .didFinishLaunching 0, .dispatchPending, .appleEvent ⟨2, .quit, 0, 0, 0⟩, .resumePending,
    .dispatchPending, .resumePending]

/-- The state after `overtakingOps`. -/
def overtaking : DelegateState :=
  (runAllowed delegateStep (fun _ _ => True) overtakingOps DelegateState.initial).getD
    DelegateState.initial

/-- The quit that arrives while the first queued event is handled reaches the
engine ahead of the second: every event is dispatched once, but not in arrival
order. -/
theorem overtaking_delivered :
    ReachableBy DelegateState.initial delegateStep (fun _ _ => True) overtaking ∧
      overtaking.received.map (·.id) = [0, 1, 2] ∧ overtaking.dispatched.map (·.id) = [0, 2, 1] ∧
      (overtaking.received.Perm (overtaking.dispatched ++ overtaking.pendingAppleEvents) ∧
        overtaking.suspended = overtaking.resumed ++ overtaking.draining.toList ++
          overtaking.pendingAppleEvents ∧
        (overtaking.running = false → overtaking.dispatched = [])) :=
  have h : ReachableBy DelegateState.initial delegateStep (fun _ _ => True) overtaking :=
    ReachableBy.runAllowed_getD _ (by decide)
  ⟨h, by decide, by decide, appleEvents_delivered_in_order h⟩

end MacPlatformCore
