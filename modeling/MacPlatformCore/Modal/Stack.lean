/-
# The modal stack, and calls made from inside the host

With no call back into the core from the host, the modal session stack keeps the
stack discipline: the log replays, entry for entry, to the stack
(`Replayed`), and the last entry is never done. So every session is torn down
at most once, after an `EndModalSession` naming its window, in the reverse of the
order the sessions were begun, the array only grows and shrinks at its tail, and
an `EndModalSession` naming no entry leaves every session in place
(`modal_sessions_lifo`).

`beginModalSessionForWindow` (in `BeginModalSession`) and `nextEventMatchingMask`
(in `WaitForEvent`) may run nested event loops that call `BeginModalSession` and
`EndModalSession` before they return; a `ModalReentry` script says which calls,
each begin with the script its own host call runs. Both operations index
`m_modal_sessions[m_modal_session_count - 1]` after the host call, with the count
as the nested calls left it. With no nested call the index is the entry the
operation means (`beginModalSession_some`). With nested calls it is not: a
nested begin makes the outer begin store its session into the nested window's
entry, and a nested end of the only session leaves both operations indexing one
below the array (`modal_index_after_reentry`).
-/

import MacPlatformCore.Modal.Sessions
import Mathlib.Data.List.Forall2

namespace MacPlatformCore

open ModalState

/-! ## The steps as list operations -/

theorem beginModalSession_some (window : Window) (s : ModalState) :
    beginModalSession some window s = some
      { sessions := s.sessions ++ [⟨false, window, some s.nextSession⟩]
        nextSession := s.nextSession + 1
        log := s.log ++ [.retain window, .began window s.nextSession] } := by
  simp [beginModalSession, record]

/-- The search of `EndModalSession` marks the first entry of its window. -/
theorem markFirstDone_eq_some {window : Window} {sessions sessions' : List ModalSession}
    (h : markFirstDone window sessions = some sessions') :
    ∃ pre entry post, sessions = pre ++ entry :: post ∧ entry.window = window ∧
      (∀ e ∈ pre, e.window ≠ window) ∧
      sessions' = pre ++ { entry with isDone := true } :: post := by
  induction sessions generalizing sessions' with
  | nil => cases h
  | cons e sessions ih =>
      simp only [markFirstDone] at h
      split_ifs at h with hw
      · cases h
        exact ⟨[], e, sessions, rfl, hw, List.forall_mem_nil _, rfl⟩
      · obtain ⟨rest, hrest, rfl⟩ := Option.map_eq_some'.mp h
        obtain ⟨pre, entry, post, rfl, hwindow, hpre, rfl⟩ := ih hrest
        exact ⟨e :: pre, entry, post, rfl, hwindow, List.forall_mem_cons.mpr ⟨hw, hpre⟩,
          rfl⟩

theorem markFirstDone_eq_none {window : Window} {sessions : List ModalSession}
    (h : markFirstDone window sessions = none) : ∀ e ∈ sessions, e.window ≠ window := by
  induction sessions with
  | nil => exact List.forall_mem_nil _
  | cons e sessions ih =>
      simp only [markFirstDone] at h
      split_ifs at h with hw
      exact List.forall_mem_cons.mpr ⟨hw, ih (Option.map_eq_none'.mp h)⟩

/-- With no entry of its window, the search finds nothing. -/
theorem markFirstDone_of_absent {window : Window} {sessions : List ModalSession}
    (h : ∀ e ∈ sessions, e.window ≠ window) : markFirstDone window sessions = none := by
  induction sessions with
  | nil => rfl
  | cons e sessions ih =>
      rw [List.forall_mem_cons] at h
      simp [markFirstDone, h.1, ih h.2]

/-- `EndModalSession` of a window with no entry keeps every entry. -/
theorem endModalSession_of_absent {window : Window} {s : ModalState}
    (h : ∀ e ∈ s.sessions, e.window ≠ window) :
    (endModalSession window s).sessions = s.sessions := by
  simp [endModalSession, record, markFirstDone_of_absent h]

/-- The teardown loop drops a tail of done entries, logging their teardown last
first, and with enough rounds stops at an entry that is not done. -/
theorem endDoneSessions_spec (n : Nat) (s : ModalState) :
    ∃ kept dropped, s.sessions = kept ++ dropped ∧ (∀ e ∈ dropped, e.isDone = true) ∧
      endDoneSessions n s =
        { s with
          sessions := kept
          log := s.log ++ dropped.reverse.map fun e => .ended e.window e.session } ∧
      (s.sessions.length ≤ n → ∀ e ∈ kept.getLast?, e.isDone = false) := by
  induction n generalizing s with
  | zero =>
      refine ⟨s.sessions, [], by simp, List.forall_mem_nil _, by simp [endDoneSessions],
        fun hlen => ?_⟩
      simp [List.eq_nil_of_length_eq_zero (Nat.le_zero.mp hlen)]
  | succ n ih =>
      cases hlast : s.sessions.getLast? with
      | none =>
          refine ⟨s.sessions, [], by simp, List.forall_mem_nil _,
            by simp [endDoneSessions, hlast], ?_⟩
          simp [hlast]
      | some last =>
          obtain ⟨init, hinit⟩ := List.getLast?_eq_some_iff.mp hlast
          by_cases hdone : last.isDone = true
          · obtain ⟨kept, dropped, hkept, hdropped, heq, hopen⟩ :=
              ih ({ s with sessions := s.sessions.dropLast }.record
                (.ended last.window last.session))
            refine ⟨kept, dropped ++ [last], ?_, ?_, ?_, fun hlen => hopen ?_⟩
            · have hinit' : init = kept ++ dropped := by simpa [hinit, record] using hkept
              rw [hinit, hinit', List.append_assoc]
            · intro e he
              rcases List.mem_append.mp he with he | he
              · exact hdropped e he
              · rw [List.mem_singleton.mp he]
                exact hdone
            · simp only [endDoneSessions, hlast, hdone, if_true, heq]
              simp [record]
            · simp only [record, hinit, List.dropLast_concat]
              simp [hinit] at hlen
              omega
          · refine ⟨s.sessions, [], by simp, List.forall_mem_nil _,
              by simp [endDoneSessions, hlast, hdone], ?_⟩
            simp [hlast, hdone]

/-! ## The log replays to the stack -/

/-- A replayed entry (window, session, named) stands for a stack entry: the same
window and begun session, named if the entry is done. -/
def Tracks (live : Window × Option Nat × Bool) (entry : ModalSession) : Prop :=
  live.1 = entry.window ∧ live.2.1 = entry.session ∧ entry.session.isSome ∧
    (entry.isDone = true → live.2.2 = true)

/-- The log replays to the stack, entry for entry, and every session it began is
older than the next the host hands out. -/
def Replayed (s : ModalState) : Prop :=
  ∃ r, sessionReplay s.log = some r ∧ List.Forall₂ Tracks r.live s.sessions ∧
    ∀ session ∈ r.begun, session < s.nextSession

theorem forall₂_append_singleton_right {α β : Type} {R : α → β → Prop} {l : List α}
    {l₂ : List β} {b : β} (h : List.Forall₂ R l (l₂ ++ [b])) :
    ∃ l₁ a, l = l₁ ++ [a] ∧ List.Forall₂ R l₁ l₂ ∧ R a b := by
  have hrev := List.forall₂_reverse_iff.mpr h
  rw [List.reverse_append, List.reverse_singleton, List.singleton_append] at hrev
  obtain ⟨a, u, hab, hu, hl⟩ := List.forall₂_cons_right_iff.mp hrev
  refine ⟨u.reverse, a, ?_, List.forall₂_reverse_iff.mp (by simpa using hu), hab⟩
  rw [← List.reverse_reverse l, hl]
  simp

theorem Replayed.initial : Replayed ModalState.initial :=
  ⟨⟨[], []⟩, rfl, .nil, List.forall_mem_nil _⟩

theorem Replayed.beginModalSession {s : ModalState} (hs : Replayed s) (window : Window) :
    Replayed
      { sessions := s.sessions ++ [⟨false, window, some s.nextSession⟩]
        nextSession := s.nextSession + 1
        log := s.log ++ [.retain window, .began window s.nextSession] } := by
  obtain ⟨r, hreplay, htracks, hfresh⟩ := hs
  have hnew : s.nextSession ∉ r.begun := fun hin => lt_irrefl _ (hfresh _ hin)
  refine ⟨⟨r.live ++ [(window, some s.nextSession, false)], r.begun ++ [s.nextSession]⟩,
    ?_, ?_, ?_⟩
  · unfold sessionReplay at hreplay ⊢
    rw [replay_append, hreplay]
    simp only [sessionStep, List.foldl_cons, Option.some_bind, List.getLast?_append,
      List.getLast?_singleton, Option.or_some, hnew, not_false_eq_true, and_self, ↓reduceIte,
      List.dropLast_concat, List.foldl_nil]
  · exact List.rel_append htracks (.cons ⟨rfl, rfl, rfl, nofun⟩ .nil)
  · simp only [List.mem_append, List.mem_singleton]
    rintro session (hin | rfl)
    · exact Nat.lt_succ_of_lt (hfresh session hin)
    · exact Nat.lt_succ_self _

theorem Tracks.named {x : Window × Option Nat × Bool} {e : ModalSession} (window : Window)
    (h : Tracks x e) : Tracks (nameWindow window x) e :=
  ⟨h.1, h.2.1, h.2.2.1, fun hdone => by simp [nameWindow, h.2.2.2 hdone]⟩

theorem tracks_markFirstDone {window : Window} {live : List (Window × Option Nat × Bool)}
    {sessions sessions' : List ModalSession} (htracks : List.Forall₂ Tracks live sessions)
    (h : markFirstDone window sessions = some sessions') :
    List.Forall₂ Tracks (live.map (nameWindow window)) sessions' := by
  induction htracks generalizing sessions' with
  | nil => cases h
  | @cons x e live sessions hx _ ih =>
      simp only [markFirstDone] at h
      split_ifs at h with hwindow
      · cases h
        refine .cons ⟨hx.1, hx.2.1, hx.2.2.1, fun _ => ?_⟩
          (List.forall₂_map_left_iff.mpr (‹List.Forall₂ Tracks live sessions›.imp
            fun _ _ => Tracks.named window))
        simp [nameWindow, hx.1, hwindow]
      · obtain ⟨rest, hrest, rfl⟩ := Option.map_eq_some'.mp h
        exact .cons (hx.named window) (ih hrest)

theorem Replayed.pop {s : ModalState} {last : ModalSession} (hs : Replayed s)
    (hlast : s.sessions.getLast? = some last) (hdone : last.isDone = true) :
    Replayed
      ({ s with sessions := s.sessions.dropLast }.record (.ended last.window last.session)) := by
  obtain ⟨r, hreplay, htracks, hfresh⟩ := hs
  obtain ⟨init, hinit⟩ := List.getLast?_eq_some_iff.mp hlast
  rw [hinit] at htracks
  obtain ⟨live, ⟨w, session, named⟩, hlive, htracks', hw, hsession, hsome, hnamed⟩ :=
    forall₂_append_singleton_right htracks
  obtain ⟨id, hid⟩ := Option.isSome_iff_exists.mp hsome
  refine ⟨{ r with live }, ?_, by simpa [record, hinit] using htracks', hfresh⟩
  unfold sessionReplay at hreplay ⊢
  simp only [record, replay_append_singleton, hreplay, hlive]
  simp only at hw hsession hnamed
  simp [sessionStep, hlive, hw, hsession, hid, hnamed hdone]

theorem Replayed.endDoneSessions {s : ModalState} (hs : Replayed s) (n : Nat) :
    Replayed (endDoneSessions n s) := by
  induction n generalizing s with
  | zero => exact hs
  | succ n ih =>
      simp only [MacPlatformCore.endDoneSessions]
      split
      · split_ifs with hdone
        · exact ih (hs.pop ‹_› hdone)
        · exact hs
      · exact hs

theorem Replayed.endModalSession {s : ModalState} (hs : Replayed s) (window : Window) :
    Replayed (endModalSession window s) := by
  obtain ⟨r, hreplay, htracks, hfresh⟩ := hs
  have hcalled : sessionReplay (s.record (.endCalled window)).log =
      some { r with live := r.live.map (nameWindow window) } := by
    unfold sessionReplay at hreplay ⊢
    simp [record, replay_append_singleton, hreplay, sessionStep]
  unfold MacPlatformCore.endModalSession
  dsimp only
  split
  · exact ⟨_, hcalled,
      List.forall₂_map_left_iff.mpr (htracks.imp fun _ _ => Tracks.named window), hfresh⟩
  · next hmark =>
    refine Replayed.endDoneSessions ?_ _
    exact ⟨_, hcalled, tracks_markFirstDone htracks hmark, hfresh⟩

/-! ## The last entry is open -/

/-- The last entry, the one `WaitForEvent` pumps, is not done. -/
def LastOpen (s : ModalState) : Prop :=
  ∀ entry ∈ s.sessions.getLast?, entry.isDone = false

theorem LastOpen.endModalSession {s : ModalState} (hs : LastOpen s) (window : Window) :
    LastOpen (endModalSession window s) := by
  unfold MacPlatformCore.endModalSession
  dsimp only
  split
  · exact hs
  · next sessions _ =>
    obtain ⟨kept, dropped, -, -, heq, hopen⟩ :=
      endDoneSessions_spec sessions.length { s.record (.endCalled window) with sessions }
    rw [heq]
    exact hopen le_rfl

/-! ## Every call keeps the stack discipline -/

theorem stack_modalStep {s s' : ModalState} {op : ModalOp} (hs : Replayed s ∧ LastOpen s)
    (h : modalStep op s = some s') : Replayed s' ∧ LastOpen s' := by
  cases op with
  | beginSession window =>
      rw [modalStep, beginModalSession_some, Option.some.injEq] at h
      subst h
      exact ⟨hs.1.beginModalSession window, by simp [LastOpen]⟩
  | endSession window =>
      cases h
      exact ⟨hs.1.endModalSession window, hs.2.endModalSession window⟩

theorem stack_of_reachable {allowed : ModalState → ModalOp → Prop} {s : ModalState}
    (h : ReachableBy ModalState.initial modalStep allowed s) : Replayed s ∧ LastOpen s := by
  induction h with
  | init => exact ⟨Replayed.initial, nofun⟩
  | next _ _ hstep ih => exact stack_modalStep ih hstep

/-- Each call appends one entry or keeps a prefix of the entries, by window and
session: the array grows and shrinks only at its tail, never reordered. -/
theorem modalStep_tail {s s' : ModalState} {op : ModalOp} (h : modalStep op s = some s') :
    (∃ entry, s'.sessions = s.sessions ++ [entry]) ∨
      s'.sessions.map (fun e => (e.window, e.session)) <+:
        s.sessions.map (fun e => (e.window, e.session)) := by
  cases op with
  | beginSession window =>
      rw [modalStep, beginModalSession_some, Option.some.injEq] at h
      exact .inl ⟨_, by rw [← h]⟩
  | endSession window =>
      cases h
      right
      unfold endModalSession
      dsimp only
      split
      · exact List.prefix_refl _
      · next sessions hmark =>
        obtain ⟨pre, entry, post, hs, -, -, hsessions⟩ := markFirstDone_eq_some hmark
        obtain ⟨kept, dropped, hkept, -, heq, -⟩ :=
          endDoneSessions_spec sessions.length { s.record (.endCalled window) with sessions }
        rw [heq]
        have hkeys : sessions.map (fun e => (e.window, e.session)) =
            s.sessions.map (fun e => (e.window, e.session)) := by
          simp only [record] at hs
          simp [hsessions, hs]
        rw [← hkeys, show sessions = kept ++ dropped from hkept, List.map_append]
        exact List.prefix_append _ _

/-- One call at a time, the modal log keeps the stack discipline: it replays,
entry for entry, to the stack, so every session is torn down at most once, only
after an `EndModalSession` named its window, the last begun first. The last
entry is never done, and each call appends an entry or keeps a prefix of the
entries, and an `EndModalSession` of a window with no entry keeps them all. -/
theorem modal_sessions_lifo {s : ModalState}
    (h : ReachableBy ModalState.initial modalStep (fun _ _ => True) s) :
    (∃ r, sessionReplay s.log = some r ∧ List.Forall₂ Tracks r.live s.sessions) ∧
      (∀ entry ∈ s.sessions.getLast?, entry.isDone = false) ∧
      (∀ op s', modalStep op s = some s' →
        (∃ entry, s'.sessions = s.sessions ++ [entry]) ∨
          s'.sessions.map (fun e => (e.window, e.session)) <+:
            s.sessions.map (fun e => (e.window, e.session))) ∧
      ∀ window s', (∀ entry ∈ s.sessions, entry.window ≠ window) →
        modalStep (.endSession window) s = some s' → s'.sessions = s.sessions := by
  obtain ⟨⟨r, hreplay, htracks, -⟩, hopen⟩ := stack_of_reachable h
  refine ⟨⟨r, hreplay, htracks⟩, hopen, fun _ _ => modalStep_tail, fun window s' habsent hs' => ?_⟩
  cases hs'
  exact endModalSession_of_absent habsent

/-- Windows 1 and 2 begun, then window 1 ended below window 2. -/
def endBelowTopCalls : List ModalOp := [.beginSession 1, .beginSession 2, .endSession 1]

/-- After `endBelowTopCalls` the entry of window 1 waits, done, under the open
one of window 2. -/
def endBelowTop : ModalState :=
  (run modalStep endBelowTopCalls ModalState.initial).getD ModalState.initial

theorem endBelowTop_lifo :
    ReachableBy ModalState.initial modalStep (fun _ _ => True) endBelowTop ∧
      (∃ r, sessionReplay endBelowTop.log = some r ∧
        List.Forall₂ Tracks r.live endBelowTop.sessions) ∧
      (∀ entry ∈ endBelowTop.sessions.getLast?, entry.isDone = false) ∧
      (∀ op s', modalStep op endBelowTop = some s' →
        (∃ entry, s'.sessions = endBelowTop.sessions ++ [entry]) ∨
          s'.sessions.map (fun e => (e.window, e.session)) <+:
            endBelowTop.sessions.map (fun e => (e.window, e.session))) ∧
      ∀ window s', (∀ entry ∈ endBelowTop.sessions, entry.window ≠ window) →
        modalStep (.endSession window) endBelowTop = some s' →
          s'.sessions = endBelowTop.sessions :=
  have h : ReachableBy ModalState.initial modalStep (fun _ _ => True) endBelowTop :=
    ReachableBy.of_run (fun _ _ => trivial) endBelowTopCalls .init (by decide)
  ⟨h, modal_sessions_lifo h⟩

/-! ## Calls made from inside the host -/

/-- What the host runs before it returns: nothing, or a call of the modal code and
then `next`. A begin's `host` is what its own host call runs. -/
inductive ModalReentry
  | done
  | beginSession (window : Window) (host next : ModalReentry)
  | endSession (window : Window) (next : ModalReentry)

/-- Run a host script; `none` if a nested call crashes. -/
def ModalReentry.run : ModalReentry → ModalState → Option ModalState
  | .done, s => some s
  | .beginSession window host next, s =>
      (beginModalSession host.run window s).bind next.run
  | .endSession window next, s => next.run (endModalSession window s)

/-- A call of the modal code from the engine, with what its host call runs. -/
inductive ReentrantModalOp
  | beginSession (window : Window) (host : ModalReentry)
  | endSession (window : Window)
  | waitForEvent (host : ModalReentry)

/-- One call; `none` when it crashes. -/
def reentrantModalStep : ReentrantModalOp → ModalState → Option ModalState
  | .beginSession window host, s => beginModalSession host.run window s
  | .endSession window, s => some (endModalSession window s)
  | .waitForEvent host, s => pumpModalSession host.run s

/-- Reentrant calls break the indexing of `m_modal_sessions[m_modal_session_count - 1]`:
a begin of window 1 whose host begins window 2 stores window 1's session (the
second one handed out) into window 2's entry and leaves its own entry nil; a
begin of window 1 whose host ends it, and a wait whose host ends the only
session, index below the array. -/
theorem modal_index_after_reentry :
    (reentrantModalStep (.beginSession 1 (.beginSession 2 .done .done)) ModalState.initial).map
        (fun s => (s.log.filter (· matches .began ..), s.sessions)) =
      some ([.began 2 0, .began 1 1], [⟨false, 1, none⟩, ⟨false, 2, some 1⟩]) ∧
    reentrantModalStep (.beginSession 1 (.endSession 1 .done)) ModalState.initial = none ∧
    run reentrantModalStep [.beginSession 1 .done, .waitForEvent (.endSession 1 .done)]
      ModalState.initial = none := by
  decide

end MacPlatformCore
