/-
# Every retain has its release

Each place of the core that holds a platform window retains it on store and
releases it on clear. Counting, for a window `w`, the retains and releases in
the three logs of `CoreState`, the retains outstanding are exactly the places
that hold `w` now: the mouse window, the moving window, the backdrop, and each
modal entry of `w` (`references_balanced`). This holds along every run of
`coreStep`, with handler scripts that call `HandleMouseMove` back at any depth
from the leave, enter and move notifications: the window `switchMouseWindow`
and `SyncMouseBeforeDragging` release is the one the core holds after the
handlers, not the one they left.

The pointer's share is a `MoveFrame`, so it holds through every reentrant move
by `MoveFrame.run`; the moving window and the backdrop, and the modal stack, are
counted on their own.
-/

import MacPlatformCore.Pointer.Frames
import MacPlatformCore.Pointer.Ownership
import MacPlatformCore.Modal.Stack
import MacPlatformCore.Windows.Core

namespace MacPlatformCore

open PointerState

/-- One if `held` is `window`. -/
def holds (held : Option Window) (window : Window) : Nat :=
  if held = some window then 1 else 0

section Holds

variable {β : Type} [DecidableEq β]

/-- A place letting go of (or taking) what it holds calls `f` on it once. -/
theorem count_toList_map_self {f : Window → β} (hf : Function.Injective f)
    (held : Option Window) (window : Window) :
    (held.toList.map f).count (f window) = holds held window := by
  rcases held with _ | w
  · rfl
  · by_cases hw : w = window
    · simp [holds, hw]
    · simp [holds, hw, List.count_cons, hf.ne hw]

theorem count_toList_map_of_ne {f : Window → β} {b : β} (hb : ∀ w, f w ≠ b)
    (held : Option Window) : (held.toList.map f).count b = 0 := by
  rcases held with _ | w
  · rfl
  · simp [List.count_cons, hb w]

end Holds

/-! ## The mouse window -/

/-- The pointer's retains of each window are its releases, plus one for the
mouse window. -/
def PointerHolds (t : PointerState) : Prop :=
  ∀ window, t.emitted.count (.retain window) =
    t.emitted.count (.release window) + holds t.mouseWindow window

namespace PointerHolds

variable {t t' : PointerState}

/-- A change that keeps the mouse window and sends no retain or release. -/
theorem of_quiet (ht : PointerHolds t) (hwindow : t'.mouseWindow = t.mouseWindow)
    (extra : List Effect) (hemitted : t'.emitted = t.emitted ++ extra)
    (hquiet : ∀ effect ∈ extra, effect.isRef = false) : PointerHolds t' := by
  have hnone : ∀ effect, effect.isRef = true → extra.count effect = 0 := fun effect hr =>
    List.count_eq_zero.mpr fun hmem => by simp [hquiet effect hmem] at hr
  intro window
  rw [hemitted, hwindow, List.count_append, List.count_append, hnone (.retain window) rfl,
    hnone (.release window) rfl]
  exact ht window

theorem hold (ht : PointerHolds t) (newWindow : Option Window) :
    PointerHolds (holdMouseWindow newWindow t) := by
  rw [holdMouseWindow_eq]
  intro window
  have hwindow := ht window
  have hretained : (t.mouseWindow.toList.map Effect.release).count (.retain window) = 0 :=
    count_toList_map_of_ne (fun _ h => Effect.noConfusion h) _
  have hreleased : (newWindow.toList.map Effect.retain).count (.release window) = 0 :=
    count_toList_map_of_ne (fun _ h => Effect.noConfusion h) _
  simp only [List.count_append, hretained, hreleased,
    count_toList_map_self (fun _ _ => Effect.retain.inj),
    count_toList_map_self (fun _ _ => Effect.release.inj)]
  omega

end PointerHolds

/-- The pointer's ledger is kept by every change the move code makes itself. -/
theorem pointerHolds_moveFrame : MoveFrame fun t t' => PointerHolds t → PointerHolds t' where
  refl _ := id
  trans h h' := h' ∘ h
  emit _ effect hquiet ht := ht.of_quiet rfl [effect] rfl (by simpa using hquiet)
  position _ _ := id
  screenPosition _ _ := id
  hold _ newWindow ht := ht.hold newWindow
  drag t env location ht := by
    unfold sendDragIfStarted
    split_ifs
    · exact ht.of_quiet rfl [_] rfl (by simp [Effect.isRef])
    · exact ht
  cursor t ht := by
    rw [updateMouseCursor_eq]
    refine ht.of_quiet rfl _ rfl ?_
    split_ifs
    · exact List.forall_mem_nil _
    · cases t.mouseWindow <;> simp [Effect.isRef]

namespace PointerHolds

variable {t : PointerState}

theorem syncButtons (ht : PointerHolds t) : PointerHolds (syncButtons t) := by
  unfold MacPlatformCore.syncButtons
  split
  · refine @List.foldl_rel _ _ _ _ (fun u _ => u) t t (fun u _ => PointerHolds u) ht
      fun i _ u _ hu => ?_
    dsimp only at hu ⊢
    unfold syncButton
    split
    · exact hu.of_quiet rfl [_] rfl (by simp [Effect.isRef])
    · exact hu
  · exact ht

theorem resetButtons (ht : PointerHolds t) : PointerHolds (resetButtons t) := by
  unfold MacPlatformCore.resetButtons
  split_ifs
  · exact ht
  · exact ht

end PointerHolds

/-- `SyncMouseBeforeDragging` keeps the pointer's ledger whatever its leave
handler script does. -/
theorem PointerHolds.syncMouseBeforeDragging {t : PointerState} (ht : PointerHolds t)
    (leave : Reentry) : PointerHolds (syncMouseBeforeDragging ⟨leave.run, id, id⟩ t) := by
  rw [syncMouseBeforeDragging_eq_drop]
  exact pointerHolds_moveFrame.dropMouseWindow (fun u => pointerHolds_moveFrame.run leave u) _ _
    ht.resetButtons

/-- `HandleMouseMove` keeps the pointer's ledger whatever its handler scripts do. -/
theorem PointerHolds.handleMouseMove {t : PointerState} (ht : PointerHolds t) (scripts : Scripts)
    (env : Env) (location : MCPoint) :
    PointerHolds (handleMouseMove scripts.handlers env location t) :=
  pointerHolds_moveFrame.handleMouseMove (fun u => pointerHolds_moveFrame.run scripts.leave u)
    (fun u => pointerHolds_moveFrame.run scripts.enter u)
    (fun u => pointerHolds_moveFrame.run scripts.move u) env location t ht

theorem PointerHolds.handleMouseSync {t : PointerState} (ht : PointerHolds t) (scripts : Scripts)
    (env : Env) : PointerHolds (handleMouseSync scripts.handlers env t) := by
  unfold MacPlatformCore.handleMouseSync
  refine PointerHolds.handleMouseMove ?_ scripts env _
  exact ht.syncButtons

/-- Every reentrant pointer operation keeps the pointer's ledger. -/
theorem pointerHolds_reentrantStep {t t' : PointerState} {op : ReentrantOp}
    (ht : PointerHolds t) (h : reentrantStep op t = some t') : PointerHolds t' := by
  cases op with
  | move env location scripts => cases h; exact ht.handleMouseMove scripts env location
  | afterWindowHidden env scripts => cases h; exact ht.handleMouseMove scripts env _
  | press env button newState =>
      obtain ⟨extra, hemitted, hpress⟩ := handleMousePress_emitted env t h
      have hwindow : t'.mouseWindow = t.mouseWindow := by
        rcases handleMousePress_owner env t h with rfl | ⟨-, hwindow, -⟩
        · rfl
        · exact hwindow
      refine ht.of_quiet hwindow extra hemitted fun effect heffect => ?_
      have := hpress effect heffect
      cases effect <;> first | rfl | simp [Effect.isPress] at this
  | sync env scripts => cases h; exact ht.handleMouseSync scripts env
  | syncBeforeDragging leave => cases h; exact ht.syncMouseBeforeDragging leave
  | grab window =>
      cases h
      rw [grabPointer_eq]
      split_ifs
      · exact ht
      · exact ht
  | ungrab =>
      cases h
      unfold ungrabPointer
      split_ifs
      · exact ht
      · exact ht
  | liveResize =>
      cases h
      rw [handleMouseForResizeEnd_eq, handleMouseForResizeStart_eq]
      refine ht.of_quiet rfl _ (List.append_assoc _ _ _) ?_
      cases t.mouseWindow <;> simp [Effect.isRef]

/-! ## The moving window and the backdrop -/

/-- The retains of each window in `windowCalls` are its releases, plus one for
the moving window and one for the backdrop. -/
def WindowsHeld (s : CoreState) : Prop :=
  ∀ window, s.windowCalls.count (.retain window) =
    s.windowCalls.count (.release window) + holds s.movingWindow window +
      holds s.backdropWindow window

namespace WindowsHeld

variable {s : CoreState}

/-- The pointer and the modal stack hold nothing of `windowCalls`. -/
theorem of_calls {s' : CoreState} (hs : WindowsHeld s) (hcalls : s'.windowCalls = s.windowCalls)
    (hmoving : s'.movingWindow = s.movingWindow) (hbackdrop : s'.backdropWindow = s.backdropWindow) :
    WindowsHeld s' := by
  intro window
  rw [hcalls, hmoving, hbackdrop]
  exact hs window

theorem applicationWindowStoppedMoving (hs : WindowsHeld s) (window : Window) :
    WindowsHeld (applicationWindowStoppedMoving window s) := by
  unfold MacPlatformCore.applicationWindowStoppedMoving
  split
  · exact hs
  · next moving hmoving =>
    intro w
    have hw := hs w
    simp only [CoreState.call, List.count_append, hmoving, holds] at hw ⊢
    by_cases hwm : moving = w <;> simp [hwm, List.count_singleton'] at hw ⊢ <;> omega

theorem applicationWindowStartedMoving (hs : WindowsHeld s) (window : Window) :
    WindowsHeld (applicationWindowStartedMoving window s) := by
  rw [applicationWindowStartedMoving_eq]
  intro w
  have hw := hs.applicationWindowStoppedMoving window w
  simp only [CoreState.call, List.count_append, holds,
    applicationWindowStoppedMoving_movingWindow] at hw ⊢
  by_cases hww : window = w <;> simp [hww, List.count_singleton'] at hw ⊢ <;> omega

theorem configureBackdrop (hs : WindowsHeld s) (backdrop : Option Window) :
    WindowsHeld (configureBackdrop backdrop s) := by
  rw [configureBackdrop_eq]
  intro window
  have hwindow := hs window
  have hretained : (s.backdropWindow.toList.map WindowCall.release).count (.retain window) = 0 :=
    count_toList_map_of_ne (fun _ h => WindowCall.noConfusion h) _
  have hreleased : (backdrop.toList.map WindowCall.retain).count (.release window) = 0 :=
    count_toList_map_of_ne (fun _ h => WindowCall.noConfusion h) _
  simp only [List.count_append, hretained, hreleased,
    count_toList_map_self (fun _ _ => WindowCall.retain.inj),
    count_toList_map_self (fun _ _ => WindowCall.release.inj)]
  omega

end WindowsHeld

/-! ## The modal entries -/

/-- Whether a modal event retains `window`. -/
def ModalEvent.retains (window : Window) : ModalEvent → Bool
  | .retain w => w = window
  | _ => false

/-- Whether a modal event releases `window`: a teardown ends with `Release`. -/
def ModalEvent.releases (window : Window) : ModalEvent → Bool
  | .ended w _ => w = window
  | _ => false

/-- The modal code's retains of each window are its releases, plus one for each
entry of that window. -/
def ModalHolds (m : ModalState) : Prop :=
  ∀ window, m.log.countP (ModalEvent.retains window) =
    m.log.countP (ModalEvent.releases window) + m.sessions.countP (·.window = window)

namespace ModalHolds

variable {m : ModalState}

theorem beginModalSession (hm : ModalHolds m) (window : Window) :
    ModalHolds ((beginModalSession some window m).getD m) := by
  rw [beginModalSession_some]
  intro w
  have hw := hm w
  by_cases hww : window = w <;>
    simp [List.countP_append, ModalEvent.retains, ModalEvent.releases, hww] at hw ⊢ <;> omega

theorem endModalSession (hm : ModalHolds m) (window : Window) :
    ModalHolds (endModalSession window m) := by
  -- the call itself retains and releases nothing
  have hcalled : ModalHolds (m.record (.endCalled window)) := fun w => by
    simpa [ModalState.record, List.countP_append, ModalEvent.retains, ModalEvent.releases]
      using hm w
  unfold MacPlatformCore.endModalSession
  dsimp only
  split
  · exact hcalled
  · next sessions hmark =>
    obtain ⟨pre, entry, post, hsessions, -, -, rfl⟩ := markFirstDone_eq_some hmark
    obtain ⟨kept, dropped, hkept, -, heq, -⟩ := endDoneSessions_spec
      (pre ++ { entry with isDone := true } :: post).length
      { m.record (.endCalled window) with sessions := pre ++ { entry with isDone := true } :: post }
    rw [heq]
    intro w
    -- the entries dropped are the teardowns logged; the others are kept
    have hsplit : m.sessions.countP (·.window = w) =
        kept.countP (·.window = w) + dropped.countP (·.window = w) := by
      rw [← List.countP_append, ← hkept, show m.sessions = pre ++ entry :: post from hsessions]
      simp [List.countP_append, List.countP_cons]
    have hreleased : (dropped.reverse.map fun e => ModalEvent.ended e.window e.session).countP
        (ModalEvent.releases w) = dropped.countP (·.window = w) := by
      rw [List.countP_map, List.countP_reverse]
      rfl
    have hretained : (dropped.reverse.map fun e => ModalEvent.ended e.window e.session).countP
        (ModalEvent.retains w) = 0 :=
      List.countP_eq_zero.mpr fun e he => by
        obtain ⟨x, -, rfl⟩ := List.mem_map.mp he
        exact Bool.false_ne_true
    have hw := hm w
    simp only [ModalState.record, List.countP_append, hreleased, hretained]
    simp only [List.countP_cons, List.countP_nil, ModalEvent.retains, ModalEvent.releases]
    omega

end ModalHolds

/-! ## The core -/

namespace CoreState

/-- The retains the core has made on `window`, over its three logs. -/
def retains (s : CoreState) (window : Window) : Nat :=
  s.pointer.emitted.count (.retain window) + s.windowCalls.count (.retain window) +
    s.modal.log.countP (ModalEvent.retains window)

/-- The releases the core has made on `window`. -/
def releases (s : CoreState) (window : Window) : Nat :=
  s.pointer.emitted.count (.release window) + s.windowCalls.count (.release window) +
    s.modal.log.countP (ModalEvent.releases window)

/-- The places of the core that hold `window`: the mouse window, the moving
window, the backdrop and the modal entries. -/
def holders (s : CoreState) (window : Window) : Nat :=
  holds s.pointer.mouseWindow window + holds s.movingWindow window +
    holds s.backdropWindow window + s.modal.sessions.countP (·.window = window)

end CoreState

/-- The ledgers of the three parts of the core. -/
structure CoreHolds (s : CoreState) : Prop where
  /-- The mouse window's retains against the pointer's log. -/
  pointer : PointerHolds s.pointer
  /-- The moving window's and the backdrop's against `windowCalls`. -/
  windows : WindowsHeld s
  /-- The modal entries' against the modal log. -/
  modal : ModalHolds s.modal

namespace CoreHolds

variable {s : CoreState}

theorem initial : CoreHolds CoreState.initial :=
  ⟨fun _ => rfl, fun _ => rfl, fun _ => rfl⟩

/-- A change of the moving window and the backdrop only. -/
theorem of_windows {s' : CoreState} (hs : CoreHolds s) (hpointer : s'.pointer = s.pointer)
    (hmodal : s'.modal = s.modal) (hwindows : WindowsHeld s') : CoreHolds s' :=
  ⟨hpointer ▸ hs.pointer, hwindows, hmodal ▸ hs.modal⟩

theorem applicationWindowStoppedMoving (hs : CoreHolds s) (window : Window) :
    CoreHolds (applicationWindowStoppedMoving window s) := by
  refine hs.of_windows ?_ ?_ (hs.windows.applicationWindowStoppedMoving window) <;>
    unfold MacPlatformCore.applicationWindowStoppedMoving <;> split <;> rfl

theorem applicationWindowStartedMoving (hs : CoreHolds s) (window : Window) :
    CoreHolds (applicationWindowStartedMoving window s) := by
  have hstopped := hs.applicationWindowStoppedMoving window
  have hwindows := hs.windows.applicationWindowStartedMoving window
  rw [applicationWindowStartedMoving_eq] at hwindows ⊢
  exact hstopped.of_windows rfl rfl hwindows

theorem applicationSendEvent (hs : CoreHolds s) (handlers : Scripts) (env : Env)
    (event : SentEvent) : CoreHolds (applicationSendEvent handlers.handlers env event s).2 := by
  unfold MacPlatformCore.applicationSendEvent
  split
  · exact ⟨hs.pointer.handleMouseSync handlers env, hs.windows.of_calls rfl rfl rfl, hs.modal⟩
  · split
    · next moving _ =>
      split_ifs
      · refine hs.of_windows rfl rfl fun w => ?_
        simpa [CoreState.call, List.count_append] using hs.windows w
      · exact hs.applicationWindowStoppedMoving moving
      · exact hs
      · exact hs
    · exact hs

theorem configureBackdrop (hs : CoreHolds s) (backdrop : Option Window) :
    CoreHolds (configureBackdrop backdrop s) := by
  refine hs.of_windows ?_ ?_ (hs.windows.configureBackdrop backdrop) <;>
    unfold MacPlatformCore.configureBackdrop <;> split <;> split <;> rfl

/-- Every operation of the core keeps the ledgers. -/
theorem step {s' : CoreState} {op : CoreOp} (hs : CoreHolds s) (h : coreStep op s = some s') :
    CoreHolds s' := by
  cases op with
  | pointer op =>
      obtain ⟨pointer, hpointer, rfl⟩ := Option.map_eq_some'.mp h
      exact ⟨pointerHolds_reentrantStep hs.pointer hpointer, hs.windows, hs.modal⟩
  | windowStartedMoving window => cases h; exact hs.applicationWindowStartedMoving window
  | windowStoppedMoving window => cases h; exact hs.applicationWindowStoppedMoving window
  | sendEvent env scripts event => cases h; exact hs.applicationSendEvent scripts env event
  | configureBackdrop backdrop => cases h; exact hs.configureBackdrop backdrop
  | beginModalSession leave window =>
      obtain ⟨modal, hmodal, rfl⟩ := Option.map_eq_some'.mp h
      have hbegun := hs.modal.beginModalSession window
      rw [hmodal] at hbegun
      exact ⟨hs.pointer.syncMouseBeforeDragging leave, hs.windows, hbegun⟩
  | endModalSession window =>
      cases h
      exact ⟨hs.pointer, hs.windows, hs.modal.endModalSession window⟩

/-- Every run of the core keeps the ledgers. -/
theorem of_reachable {allowed : CoreState → CoreOp → Prop}
    (h : ReachableBy CoreState.initial coreStep allowed s) : CoreHolds s := by
  induction h with
  | init => exact initial
  | next _ _ hstep ih => exact ih.step hstep

end CoreHolds

/-- Along every run of the core, reentrant handlers included, the retains of each
window are its releases plus one for each place that holds it now. -/
theorem references_balanced {s : CoreState}
    (h : ReachableBy CoreState.initial coreStep (fun _ _ => True) s) (window : Window) :
    s.retains window = s.releases window + s.holders window := by
  have hs := CoreHolds.of_reachable h
  have hpointer := hs.pointer window
  have hwindows := hs.windows window
  have hmodal := hs.modal window
  unfold CoreState.retains CoreState.releases CoreState.holders
  omega

/-- Window 1 under the mouse, moving, the backdrop and in a modal session, whose
`SyncMouseBeforeDragging` runs a leave handler that moves the mouse off it. -/
def heldFourTimes : CoreState :=
  (runAllowed coreStep (fun _ _ => True)
    [.pointer (.move windowOneEnv ⟨10, 10⟩ Scripts.idle), .windowStartedMoving 1,
      .configureBackdrop (some 1),
      .beginModalSession (.move windowOneEnv ⟨0, 0⟩ .done .done .done .done) 1]
    CoreState.initial).getD CoreState.initial

/-- The mouse window is let go inside the leave handler; the three other places
still hold window 1. -/
theorem heldFourTimes_balanced :
    ReachableBy CoreState.initial coreStep (fun _ _ => True) heldFourTimes ∧
      heldFourTimes.holders 1 = 3 ∧ heldFourTimes.retains 1 = 4 ∧
      heldFourTimes.retains 1 = heldFourTimes.releases 1 + heldFourTimes.holders 1 :=
  have h : ReachableBy CoreState.initial coreStep (fun _ _ => True) heldFourTimes :=
    ReachableBy.runAllowed_getD _ (by decide)
  ⟨h, by decide, by decide, references_balanced h 1⟩

end MacPlatformCore
