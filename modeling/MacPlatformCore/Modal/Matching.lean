/-
# Matched modal calls end every session

`EndModalSession` marks the *first* entry of its window. If a window is begun a
second time while it still has an entry, the later entry can never be marked,
and a run of calls matched one to one ends with sessions left
(`beginTwice_leaves_sessions`). When no window is begun while it still has an
entry, every `EndModalSession` marks the one entry of its window, and a matched
run ends every session, each torn down once (`matched_sessions_all_ended`).

A run is matched when each `EndModalSession(w)` comes after more calls of
`BeginModalSession(w)` than of `EndModalSession(w)`, and complete when the two
counts agree for every window; the log records both calls.
-/

import MacPlatformCore.Modal.Stack

namespace MacPlatformCore

open ModalState

/-- Window 1 begun twice and ended twice: one session is left. -/
theorem beginTwice_leaves_sessions :
    (run modalStep [.beginSession 1, .beginSession 1, .endSession 1, .endSession 1]
        ModalState.initial).map
      (fun s => (s.log.count (.retain 1), s.log.count (.endCalled 1), s.sessions)) =
      some (2, 2, [⟨true, 1, some 0⟩, ⟨false, 1, some 1⟩]) := by
  decide

/-- Calls matched one to one, each `EndModalSession(w)` after a begin of `w` not yet
ended, that never begin a window which still has an entry. -/
def DistinctMatched (s : ModalState) : ModalOp → Prop
  | .beginSession window => ∀ e ∈ s.sessions, e.window ≠ window
  | .endSession window => s.log.count (.endCalled window) < s.log.count (.retain window)

instance (s : ModalState) (op : ModalOp) : Decidable (DistinctMatched s op) :=
  match op with
  | .beginSession window => inferInstanceAs (Decidable (∀ e ∈ s.sessions, e.window ≠ window))
  | .endSession window =>
      inferInstanceAs (Decidable (s.log.count (.endCalled window) < s.log.count (.retain window)))

/-- An open entry of `window`. -/
def IsOpenOf (window : Window) (e : ModalSession) : Bool :=
  e.window == window && !e.isDone

/-- No two entries share a window, and for every window the begins not yet ended
are its open entries. -/
structure Balanced (s : ModalState) : Prop where
  distinct : (s.sessions.map (·.window)).Nodup
  pending : ∀ window, s.log.count (.retain window) =
    s.log.count (.endCalled window) + s.sessions.countP (IsOpenOf window)

theorem Balanced.initial : Balanced ModalState.initial :=
  ⟨List.nodup_nil, fun _ => rfl⟩

theorem Balanced.beginModalSession {s : ModalState} (hs : Balanced s) {window : Window}
    (hfresh : ∀ e ∈ s.sessions, e.window ≠ window) :
    Balanced
      { sessions := s.sessions ++ [⟨false, window, some s.nextSession⟩]
        nextSession := s.nextSession + 1
        log := s.log ++ [.retain window, .began window s.nextSession] } := by
  refine ⟨?_, fun w => ?_⟩
  · simpa [List.nodup_append, hs.distinct] using fun e he => hfresh e he
  · have := hs.pending w
    by_cases hw : window = w <;> simp [List.count_cons, List.countP_append, IsOpenOf, hw] <;> omega

/-- The teardown loop drops only done entries and logs only teardowns. -/
theorem Balanced.endDoneSessions {s : ModalState} (hs : Balanced s) (n : Nat) :
    Balanced (endDoneSessions n s) := by
  obtain ⟨kept, dropped, hkept, hdropped, heq, -⟩ := endDoneSessions_spec n s
  have hclosed : ∀ window, dropped.countP (IsOpenOf window) = 0 := fun window =>
    List.countP_eq_zero.mpr fun e he => by simp [IsOpenOf, hdropped e he]
  rw [heq]
  refine ⟨?_, fun window => ?_⟩
  · have := hs.distinct
    rw [hkept, List.map_append] at this
    exact this.sublist (List.sublist_append_left _ _)
  · have hended : ∀ event, (∀ e ∈ dropped, event ≠ .ended e.window e.session) →
        (dropped.reverse.map fun e => ModalEvent.ended e.window e.session).count event = 0 :=
      fun event hne => List.count_eq_zero_of_not_mem (by simpa [eq_comm] using hne)
    have := hs.pending window
    rw [hkept, List.countP_append, hclosed] at this
    rw [List.count_append, List.count_append, hended _ (by simp), hended _ (by simp)]
    simpa using this

theorem Balanced.endModalSession {s : ModalState} (hs : Balanced s) {window : Window}
    (hpending : s.log.count (.endCalled window) < s.log.count (.retain window)) :
    Balanced (endModalSession window s) := by
  have hopen : 0 < s.sessions.countP (IsOpenOf window) := by
    have := hs.pending window
    omega
  obtain ⟨e, he, hewin⟩ := List.countP_pos_iff.mp hopen
  have hewin : e.window = window ∧ e.isDone = false := by simpa [IsOpenOf] using hewin
  unfold MacPlatformCore.endModalSession
  dsimp only
  split
  · next hmark => exact absurd hewin.1 (markFirstDone_eq_none hmark e he)
  · next sessions hmark =>
    obtain ⟨pre, entry, post, hsessions, hentry, -, rfl⟩ := markFirstDone_eq_some hmark
    simp only [record] at hsessions
    have hdistinct := hs.distinct
    rw [hsessions] at hdistinct he
    -- the open entry of `window` is the marked one, the only entry of `window`
    have hwindows : ∀ x ∈ pre ++ post, x.window ≠ window := by
      intro x hx
      rintro rfl
      simp only [List.map_append, List.map_cons] at hdistinct
      rw [List.nodup_append] at hdistinct
      rcases List.mem_append.mp hx with hx | hx
      · exact hdistinct.2.2 (List.mem_map_of_mem _ hx) (by simp [hentry])
      · exact (List.nodup_cons.mp hdistinct.2.1).1
          (by simpa [hentry] using List.mem_map_of_mem _ hx)
    have hentryOpen : entry.isDone = false := by
      rcases List.mem_append.mp he with he | he
      · exact absurd hewin.1 (hwindows e (List.mem_append_left _ he))
      · rcases List.mem_cons.mp he with rfl | he
        · exact hewin.2
        · exact absurd hewin.1 (hwindows e (List.mem_append_right _ he))
    refine Balanced.endDoneSessions ⟨?_, fun w => ?_⟩ _
    · simpa [hsessions] using hs.distinct
    · have := hs.pending w
      rw [hsessions] at this
      by_cases hw : window = w
      · subst hw
        have hpre : pre.countP (IsOpenOf window) = 0 := List.countP_eq_zero.mpr fun x hx => by
          simp [IsOpenOf, hwindows x (List.mem_append_left _ hx)]
        have hpost : post.countP (IsOpenOf window) = 0 := List.countP_eq_zero.mpr fun x hx => by
          simp [IsOpenOf, hwindows x (List.mem_append_right _ hx)]
        simp [record, List.count_append, List.countP_append, List.countP_cons, IsOpenOf, hentry,
          hentryOpen, hpre, hpost] at this ⊢
        omega
      · simp [record, List.count_append, List.count_cons, List.countP_append, List.countP_cons,
          IsOpenOf, hentry, hw] at this ⊢
        omega

theorem balanced_of_reachable {s : ModalState}
    (h : ReachableBy ModalState.initial modalStep DistinctMatched s) : Balanced s := by
  induction h with
  | init => exact Balanced.initial
  | @next s s' op _ hop hstep ih =>
      cases op with
      | beginSession window =>
          rw [modalStep, beginModalSession_some, Option.some.injEq] at hstep
          subst hstep
          exact ih.beginModalSession hop
      | endSession window =>
          cases hstep
          exact ih.endModalSession hop

/-- A complete run of calls matched one to one, that never begins a window which
still has an entry, leaves no modal session, and its log replays to the empty
stack: every session begun was torn down exactly once, and so every window
retained was released exactly once. -/
theorem matched_sessions_all_ended {s : ModalState}
    (h : ReachableBy ModalState.initial modalStep DistinctMatched s)
    (hcomplete : ∀ window, s.log.count (.endCalled window) = s.log.count (.retain window)) :
    s.sessions = [] ∧ ∃ begun, sessionReplay s.log = some ⟨[], begun⟩ := by
  have hbalanced := balanced_of_reachable h
  obtain ⟨⟨r, hreplay, htracks, -⟩, hlast⟩ := stack_of_reachable h
  have hdone : ∀ e ∈ s.sessions, e.isDone = true := by
    intro e he
    have hzero : s.sessions.countP (IsOpenOf e.window) = 0 := by
      have := hbalanced.pending e.window
      have := hcomplete e.window
      omega
    simpa [IsOpenOf] using List.countP_eq_zero.mp hzero e he
  have hempty : s.sessions = [] := by
    cases hget : s.sessions.getLast? with
    | none => exact List.getLast?_eq_none_iff.mp hget
    | some e =>
        have := hlast e hget
        rw [hdone e (List.mem_of_getLast?_eq_some hget)] at this
        cases this
  rw [hempty] at htracks
  obtain ⟨live, begun⟩ := r
  cases List.forall₂_nil_right_iff.mp htracks
  exact ⟨hempty, begun, hreplay⟩

/-- Windows 1 and 2 begun, then ended in the order they were begun. -/
def endInBeginOrder : ModalState :=
  (run modalStep [.beginSession 1, .beginSession 2, .endSession 1, .endSession 2]
    ModalState.initial).getD ModalState.initial

theorem endInBeginOrder_all_ended :
    (ReachableBy ModalState.initial modalStep DistinctMatched endInBeginOrder ∧
      ∀ window, endInBeginOrder.log.count (.endCalled window) =
        endInBeginOrder.log.count (.retain window)) ∧
    endInBeginOrder.sessions = [] ∧
      ∃ begun, sessionReplay endInBeginOrder.log = some ⟨[], begun⟩ :=
  have h : ReachableBy ModalState.initial modalStep DistinctMatched endInBeginOrder :=
    @ReachableBy.next _ _ _ _ _ _ _ (.endSession 2)
      (@ReachableBy.next _ _ _ _ _ _ _ (.endSession 1)
        (@ReachableBy.next _ _ _ _ _ _ _ (.beginSession 2)
          (@ReachableBy.next _ _ _ _ _ _ _ (.beginSession 1) .init (by decide) rfl)
          (by decide) rfl)
        (by decide) rfl)
      (by decide) (by decide)
  have hcomplete : ∀ window, endInBeginOrder.log.count (.endCalled window) =
      endInBeginOrder.log.count (.retain window) := fun window => by
    have hlog : endInBeginOrder.log = [.retain 1, .began 1 0, .retain 2, .began 2 1,
        .endCalled 1, .endCalled 2, .ended 2 (some 1), .ended 1 (some 0)] := by decide
    simp [hlog, List.count_cons]
  ⟨⟨h, hcomplete⟩, matched_sessions_all_ended h hcomplete⟩

end MacPlatformCore
