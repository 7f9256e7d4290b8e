/-
# The modal session stack

`m_modal_sessions` holds one entry per modal window, oldest first; its length is
`m_modal_session_count`. `BeginModalSession` appends an entry for its window and
stores into the last entry the session the host begins. `EndModalSession` marks
the first entry of its window done, then ends, from the tail, every done entry
until one is not done. `WaitForEvent` pumps the last entry's session.

The host calls `beginModalSessionForWindow` and `nextEventMatchingMask` may run
nested event loops that call back into the core. Like the pointer operations,
`beginModalSession` and `pumpModalSession` take what the host runs meanwhile as
an argument (`host`, `none` if a nested call crashes); a call of the source with
no reentrancy passes `some`.

What the code does is logged: the retain of the window, the session the host
returns, each `EndModalSession` call, each teardown (`endModalSession`,
`orderOut`, `Release`) and each `runModalSession`. `sessionReplay` checks a log
against the stack discipline the sessions should follow.
-/

import MacPlatformCore.Runs
import MacPlatformCore.Pointer.State

namespace MacPlatformCore

/-- One entry of `m_modal_sessions`. The session is `none` (nil) until the host
has begun it. -/
structure ModalSession where
  isDone : Bool
  window : Window
  session : Option Nat
  deriving DecidableEq, Repr

/-- What the modal code does, in the order it does it. -/
inductive ModalEvent
  /-- `BeginModalSession` appended an entry for `window` and retained it. -/
  | retain (window : Window)
  /-- `beginModalSessionForWindow` returned `session` for `window`. -/
  | began (window : Window) (session : Nat)
  /-- `EndModalSession(window)` was called. -/
  | endCalled (window : Window)
  /-- An entry was torn down: `endModalSession`, `orderOut`, `Release`. -/
  | ended (window : Window) (session : Option Nat)
  /-- `WaitForEvent` ran `runModalSession` on `session`. -/
  | pumped (session : Nat)
  deriving DecidableEq, Repr

/-- The modal members of `MCMacPlatformCore`, the next session the host will hand
out (sessions are fresh), and the log. -/
structure ModalState where
  sessions : List ModalSession
  nextSession : Nat
  log : List ModalEvent
  deriving DecidableEq, Repr

namespace ModalState

/-- No modal session. -/
def initial : ModalState := ⟨[], 0, []⟩

/-- Record one event. -/
def record (s : ModalState) (event : ModalEvent) : ModalState :=
  { s with log := s.log ++ [event] }

end ModalState

open ModalState

/-! ## The operations -/

/-- `MCMacPlatformCore::BeginModalSession`. The entry is appended and its window
retained before the host begins the session, during which `host` runs. The
session is then stored into `m_modal_sessions[m_modal_session_count - 1]`, the
last entry as the count is once the host returns (C++17 sequences the call
before the indexed store); with no entry left that index is out of bounds,
`none`. Before all this the source calls `SyncMouseBeforeDragging`
(`Pointer.Operations`) and locks the window's frame around the host call. -/
def beginModalSession (host : ModalState → Option ModalState) (window : Window)
    (s : ModalState) : Option ModalState := do
  let entry : ModalSession := ⟨false, window, none⟩
  let s := { s with sessions := s.sessions ++ [entry] }.record (.retain window)
  let s ← host s
  let session := s.nextSession
  let s := { s with nextSession := session + 1 }.record (.began window session)
  match s.sessions.getLast? with
  | none => none
  | some entry => some { s with sessions := s.sessions.dropLast ++ [{ entry with session }] }

/-- The search of `EndModalSession`: mark the first entry of `window` done, or
`none` when no entry has that window. -/
def markFirstDone (window : Window) : List ModalSession → Option (List ModalSession)
  | [] => none
  | entry :: entries =>
      if entry.window = window then some ({ entry with isDone := true } :: entries)
      else (markFirstDone window entries).map (entry :: ·)

/-- The teardown loop of `EndModalSession`, `t_final_index` counting down from
`m_modal_session_count`: while the last entry is done, tear it down and drop it.
The count drops with `t_final_index`, so index `t_final_index - 1` is always the
last entry. -/
def endDoneSessions : Nat → ModalState → ModalState
  | 0, s => s
  | finalIndex + 1, s =>
    match s.sessions.getLast? with
    | some entry =>
      if entry.isDone then
        endDoneSessions finalIndex
          ({ s with sessions := s.sessions.dropLast }.record (.ended entry.window entry.session))
      else s
    | none => s

/-- `MCMacPlatformCore::EndModalSession`: nothing but the call itself when no entry
has `window`. -/
def endModalSession (window : Window) (s : ModalState) : ModalState :=
  let s := s.record (.endCalled window)
  match markFirstDone window s.sessions with
  | none => s
  | some sessions => endDoneSessions sessions.length { s with sessions }

/-- The modal part of `MCMacPlatformCore::WaitForEvent`: whether a session is
running is read before the host waits for an event (during which `host` runs);
after it, the session of `m_modal_sessions[m_modal_session_count - 1]` is pumped
if it is not nil. With no entry left that index is out of bounds, `none`. -/
def pumpModalSession (host : ModalState → Option ModalState) (s : ModalState) :
    Option ModalState := do
  let modal := decide (0 < s.sessions.length)
  let s ← host s
  if modal then
    match s.sessions.getLast? with
    | none => none
    | some entry =>
      match entry.session with
      | some session => some (s.record (.pumped session))
      | none => some s
  else some s

/-! ## The stack discipline of the log -/

/-- The replay of a modal log: the sessions begun and not yet ended, oldest first,
as (window, session, whether an `EndModalSession` has named the window since),
and every session ever begun. -/
structure SessionReplay where
  live : List (Window × Option Nat × Bool)
  begun : List Nat
  deriving DecidableEq, Repr

/-- Naming a window raises the named flag of its open entries. -/
def nameWindow (window : Window) (live : Window × Option Nat × Bool) :
    Window × Option Nat × Bool :=
  (live.1, live.2.1, live.2.2 || live.1 == window)

/-- One event against the stack discipline: a retain opens an entry whose session
the next `began` of its window fills with a fresh session; a call of
`EndModalSession` names every open entry of its window; only the last open entry
may be torn down, once named, and only with its session; only an open session
may be pumped. -/
def sessionStep (r : SessionReplay) : ModalEvent → Option SessionReplay
  | .retain window => some { r with live := r.live ++ [(window, none, false)] }
  | .began window session =>
    match r.live.getLast? with
    | some (w, none, named) =>
      if w = window ∧ session ∉ r.begun then
        some ⟨r.live.dropLast ++ [(window, some session, named)], r.begun ++ [session]⟩
      else none
    | _ => none
  | .endCalled window => some { r with live := r.live.map (nameWindow window) }
  | .ended window session =>
    match r.live.getLast? with
    | some (w, some id, true) =>
      if w = window ∧ session = some id then some { r with live := r.live.dropLast } else none
    | _ => none
  | .pumped session => if r.live.any (·.2.1 == some session) then some r else none

/-- The replay of a whole log, from no session. -/
def sessionReplay (log : List ModalEvent) : Option SessionReplay :=
  replay sessionStep ⟨[], []⟩ log

/-! ## Calls one at a time -/

/-- A call of the modal code from the engine. -/
inductive ModalOp
  | beginSession (window : Window)
  | endSession (window : Window)

/-- One call, the host running nothing meanwhile. -/
def modalStep : ModalOp → ModalState → Option ModalState
  | .beginSession window, s => beginModalSession some window s
  | .endSession window, s => some (endModalSession window s)

end MacPlatformCore
