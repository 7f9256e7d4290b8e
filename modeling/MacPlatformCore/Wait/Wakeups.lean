/-
# Break events and wake-ups

`BreakWait` posts only when it finds `m_wait_broken` clear, and sets it under the
same lock; only a drain clears it. So between two drains at most one call passes
the test, and at most one break event more is posted than there are drains
(`BreakCounts`). Each posted event is named by the pass that posted it.

A wake-up is owed when the dispatch thread starts the host wait with callbacks
queued. Between the drain of an activation and its host wait, every callback
appended has a `BreakWait` still to test, or one passed since the drain; the event
of that pass is then queued or about to be posted, because nothing else takes
events from the queue in that span (`WakeupKept`). A callback can break that: a
host event loop it runs may take the event, and so may the host wait of a
`WaitForEvent` it calls; `m_wait_broken` stays set, so no later `BreakWait` posts
another before the next drain (`host_wait_starts_unwoken`). And a thread that has
appended but not yet reached its test owes the wake-up without having posted.
-/

import MacPlatformCore.Wait.Callbacks

namespace MacPlatformCore

open WaitState

variable {s s' : WaitState} {op : WaitAction}

/-! ## Passes and posts -/

/-- The counts of `BreakWait`: one pass since the last drain exactly when
`m_wait_broken` is set, at most one per drain before it, and each break event
posted or about to be posted names its own pass. -/
structure BreakCounts (s : WaitState) : Prop where
  sinceDrain : s.passes = s.passesAtDrain + if s.waitBroken then 1 else 0
  atDrain : s.passesAtDrain ≤ s.drains
  postsNodup : s.posts.Nodup
  postsPassed : ∀ pass ∈ s.posts, pass < s.passes
  postingPassed : ∀ agent pass, s.calls agent = .posting pass →
    pass < s.passes ∧ pass ∉ s.posts
  postingUnique : ∀ agent agent' pass, s.calls agent = .posting pass →
    s.calls agent' = .posting pass → agent = agent'

theorem BreakCounts.initial : BreakCounts WaitState.initial :=
  ⟨rfl, le_rfl, List.nodup_nil, fun _ h => (by cases h), fun _ _ h => (by cases h),
    fun _ _ _ h => (by cases h)⟩

/-- A step that keeps the counts and moves one thread to a place that posts
nothing keeps them. -/
theorem BreakCounts.setCall (hs : BreakCounts s) {agent : Agent} {pc : CallPc}
    (hpc : ∀ pass, pc ≠ .posting pass) (hwas : ∀ pass, s.calls agent ≠ .posting pass)
    (hbroken : s'.waitBroken = s.waitBroken) (hpasses : s'.passes = s.passes)
    (hat : s'.passesAtDrain = s.passesAtDrain) (hdrains : s'.drains = s.drains)
    (hposts : s'.posts = s.posts) (hcalls : s'.calls = Function.update s.calls agent pc) :
    BreakCounts s' := by
  have hother : ∀ agent' pass, s'.calls agent' = .posting pass →
      agent' ≠ agent ∧ s.calls agent' = .posting pass := fun agent' pass h => by
    by_cases hagent : agent' = agent
    · subst hagent
      simp [hcalls] at h
      exact absurd h (hpc pass)
    · simpa [hcalls, Function.update_noteq hagent, hagent] using h
  refine ⟨?_, ?_, ?_, ?_, fun b pass h => ?_, fun b b' pass h h' => ?_⟩
  · rw [hbroken, hpasses, hat]; exact hs.sinceDrain
  · rw [hat, hdrains]; exact hs.atDrain
  · rw [hposts]; exact hs.postsNodup
  · rw [hposts, hpasses]; exact hs.postsPassed
  · rw [hposts, hpasses]; exact hs.postingPassed b pass (hother b pass h).2
  · exact hs.postingUnique b b' pass (hother b pass h).2 (hother b' pass h').2

/-- Of the activation's steps only the drain touches the counts: it clears
`m_wait_broken` and records the passes so far. -/
theorem BreakCounts.resumeActivation (hs : BreakCounts s)
    (h : resumeActivation s s.activations = some s') : BreakCounts s' := by
  rcases resumeActivation_cases h with
    ⟨outer, -, -, -, rfl⟩ | ⟨outer, -, -, rfl⟩ | ⟨outer, -, rfl⟩ |
    ⟨callback, rest, outer, -, rfl⟩ | ⟨outer, -, rfl⟩ | ⟨rest, outer, -, rfl⟩ |
    ⟨outer, -, rfl⟩
  case inr.inr.inl =>
    have hsince := hs.sinceDrain
    have hat := hs.atDrain
    refine ⟨by simp, show s.passes ≤ s.drains + 1 by split at hsince <;> omega,
      hs.3, hs.4, hs.5, hs.6⟩
  all_goals exact ⟨hs.1, hs.2, hs.3, hs.4, hs.5, hs.6⟩

/-- The pass of `BreakWait`: `m_wait_broken` was clear, so this is the first pass
since the drain, and the thread goes on to post the pass it counted. -/
theorem BreakCounts.pass (hs : BreakCounts s) {agent : Agent} (hclear : s.waitBroken = false) :
    BreakCounts ({ s with waitBroken := true, passes := s.passes + 1 }.unlock
      |>.setCall agent (.posting s.passes)) := by
  have hsince := hs.sinceDrain
  rw [hclear] at hsince
  -- a thread posting now is the one that passed, or was posting before
  have hposting : ∀ b pass,
      Function.update s.calls agent (.posting s.passes) b = .posting pass →
        b = agent ∧ pass = s.passes ∨ s.calls b = .posting pass := fun b pass hb => by
    by_cases hagent : b = agent
    · subst hagent
      simp only [Function.update_same, CallPc.posting.injEq] at hb
      exact .inl ⟨rfl, hb.symm⟩
    · rw [Function.update_noteq hagent] at hb
      exact .inr hb
  refine ⟨by simp [hsince], hs.atDrain, hs.postsNodup,
    fun pass hpass => Nat.lt_succ_of_lt (hs.postsPassed pass hpass),
    fun b pass hb => ?_, fun b b' pass hb hb' => ?_⟩
  · rcases hposting b pass hb with ⟨-, rfl⟩ | hb
    · exact ⟨Nat.lt_succ_self _, fun hmem => Nat.lt_irrefl _ (hs.postsPassed _ hmem)⟩
    · obtain ⟨hlt, hfresh⟩ := hs.postingPassed b pass hb
      exact ⟨Nat.lt_succ_of_lt hlt, hfresh⟩
  · rcases hposting b pass hb with ⟨rfl, hpass⟩ | hwas <;>
      rcases hposting b' pass hb' with ⟨rfl, hpass'⟩ | hwas'
    · rfl
    · exact absurd (hs.postingPassed b' pass hwas').1 (by omega)
    · exact absurd (hs.postingPassed b pass hwas).1 (by omega)
    · exact hs.postingUnique b b' pass hwas hwas'

/-- The post of the break event: the pass it names is posted once, by the only
thread that was to post it. -/
theorem BreakCounts.post (hs : BreakCounts s) {agent : Agent} {pass : Nat}
    (hat : s.calls agent = .posting pass) :
    BreakCounts ({ s with events := pass :: s.events, posts := s.posts ++ [pass] }.setCall
      agent .idle) := by
  obtain ⟨hlt, hfresh⟩ := hs.postingPassed agent pass hat
  -- a thread posting now is another one, which was posting before
  have hposting : ∀ b p, Function.update s.calls agent .idle b = .posting p →
      b ≠ agent ∧ s.calls b = .posting p := fun b p hb => by
    have hagent : b ≠ agent := by rintro rfl; simp at hb
    exact ⟨hagent, by rwa [Function.update_noteq hagent] at hb⟩
  refine ⟨hs.sinceDrain, hs.atDrain, hs.postsNodup.append (List.nodup_singleton _)
    (List.disjoint_singleton.mpr hfresh), fun p hp => ?_, fun b p hb => ?_,
    fun b b' p hb hb' => hs.postingUnique b b' p (hposting b p hb).2 (hposting b' p hb').2⟩
  · rcases List.mem_append.mp hp with hp | hp
    · exact hs.postsPassed p hp
    · rw [List.mem_singleton.mp hp]; exact hlt
  · obtain ⟨hagent, hb⟩ := hposting b p hb
    refine ⟨(hs.postingPassed b p hb).1, fun hmem => ?_⟩
    rcases List.mem_append.mp hmem with hmem | hmem
    · exact (hs.postingPassed b p hb).2 hmem
    · rw [List.mem_singleton.mp hmem] at hb
      exact hagent (hs.postingUnique b agent pass hb hat)

theorem BreakCounts.step (hs : BreakCounts s) (h : waitStep op s = some s') : BreakCounts s' := by
  cases op with
  | call agent call =>
      obtain ⟨hidle, -, -, rfl⟩ := waitStep_call h
      exact hs.setCall (by cases call <;> simp [Call.start]) (by simp [hidle])
        rfl rfl rfl rfl rfl rfl
  | advance agent =>
      have hpc : callStep agent (s.calls agent) s = some s' := h
      rcases callStep_cases hpc with ⟨hat, rfl⟩ | ⟨hat, -, rfl⟩ | ⟨hat, -, rfl⟩ |
        ⟨hat, hclear, rfl⟩ | ⟨pass, hat, rfl⟩
      · exact hs.setCall (by simp) (by simp [hat]) rfl rfl rfl rfl rfl rfl
      · exact hs.setCall (by simp) (by simp [hat]) rfl rfl rfl rfl rfl rfl
      · exact hs.setCall (by simp) (by simp [hat]) rfl rfl rfl rfl rfl rfl
      · exact hs.pass hclear
      · exact hs.post hat
  | dispatch action =>
      obtain ⟨-, h⟩ := waitStep_dispatch h
      rcases dispatchStep_cases h with
        ⟨-, -, rfl⟩ | ⟨-, h⟩ | ⟨_, -, -, -, rfl⟩ | ⟨-, rfl | rfl⟩
      · exact ⟨hs.1, hs.2, hs.3, hs.4, hs.5, hs.6⟩
      · exact hs.resumeActivation h
      all_goals exact ⟨hs.1, hs.2, hs.3, hs.4, hs.5, hs.6⟩

/-- Runs in which no callback calls `WaitForEvent`. -/
def NoNestedWait (s : WaitState) (op : WaitAction) : Prop :=
  op = .dispatch .waitForEvent → s.activations = []

instance (s : WaitState) (op : WaitAction) : Decidable (NoNestedWait s op) :=
  inferInstanceAs (Decidable (_ → _))

/-- Runs in which no callback calls `WaitForEvent` or runs a host event loop. -/
def Unnested (s : WaitState) (op : WaitAction) : Prop :=
  NoNestedWait s op ∧ (op matches .dispatch (.nestedDequeue _)) = false

instance (s : WaitState) (op : WaitAction) : Decidable (Unnested s op) :=
  inferInstanceAs (Decidable (_ ∧ _))

/-- A wake-up is on its way: a callback queued has a `BreakWait` still to test, or
`m_wait_broken` is set; and when it is set, the event of the pass since the last
drain is queued or about to be posted. -/
def BreakOwed (s : WaitState) : Prop :=
  (s.callbacks ≠ [] →
    s.waitBroken = true ∨ ∃ agent, s.calls agent = .breaking ∨ s.calls agent = .testing) ∧
  (s.waitBroken = true →
    s.passesAtDrain ∈ s.events ∨ ∃ agent, s.calls agent = .posting s.passesAtDrain)

/-- A thread other than the one that moves keeps its place. -/
theorem update_keeps {f : Agent → CallPc} {agent b : Agent} {pc x : CallPc}
    (hb : f b = x) (hagent : f agent ≠ x) : Function.update f agent pc b = x := by
  have hne : b ≠ agent := by rintro rfl; exact hagent hb
  rwa [Function.update_noteq hne]

/-- A thread in no call that starts one keeps a wake-up on its way. -/
theorem BreakOwed.start (hs : BreakOwed s) {agent : Agent} {pc : CallPc}
    (hidle : s.calls agent = .idle) :
    BreakOwed ({ s with lockHolder := some agent }.setCall agent pc) :=
  ⟨fun hqueued => (hs.1 hqueued).imp id fun ⟨b, hb⟩ =>
      ⟨b, hb.imp (update_keeps · (by simp [hidle])) (update_keeps · (by simp [hidle]))⟩,
    fun hset => (hs.2 hset).imp id fun ⟨b, hb⟩ => ⟨b, update_keeps hb (by simp [hidle])⟩⟩

/-- Each step of a call keeps a wake-up on its way: an append leaves its thread
owing a `BreakWait`, a pass since the drain is the one whose event is owed, and a
post queues it. -/
theorem BreakOwed.advance (hs : BreakOwed s) (hcounts : BreakCounts s) {agent : Agent}
    (h : callStep agent (s.calls agent) s = some s') : BreakOwed s' := by
  rcases callStep_cases h with ⟨hat, rfl⟩ | ⟨hat, -, rfl⟩ | ⟨hat, hset, rfl⟩ |
    ⟨hat, hclear, rfl⟩ | ⟨pass, hat, rfl⟩
  · -- the append
    refine ⟨fun _ => .inr ⟨agent, .inl (by simp)⟩, fun hset => ?_⟩
    exact (hs.2 hset).imp id fun ⟨b, hb⟩ => ⟨b, update_keeps hb (by simp [hat])⟩
  · -- `BreakWait` takes the lock
    refine ⟨fun hqueued => ?_, fun hset => ?_⟩
    · rcases hs.1 hqueued with hset | ⟨b, hb⟩
      · exact .inl hset
      · by_cases hagent : b = agent
        · exact .inr ⟨agent, .inr (by simp)⟩
        · exact .inr ⟨b, by simpa [Function.update_noteq hagent] using hb⟩
    · exact (hs.2 hset).imp id fun ⟨b, hb⟩ => ⟨b, update_keeps hb (by simp [hat])⟩
  · -- the test fails: the flag is set
    refine ⟨fun _ => .inl hset, fun _ => ?_⟩
    exact (hs.2 hset).imp id fun ⟨b, hb⟩ => ⟨b, update_keeps hb (by simp [hat])⟩
  · -- the first pass since the drain
    have hsince := hcounts.sinceDrain
    simp only [hclear] at hsince
    exact ⟨fun _ => .inl rfl, fun _ => .inr ⟨agent, by simp [hsince]⟩⟩
  · -- the post
    refine ⟨fun hqueued => ?_, fun hset => ?_⟩
    · exact (hs.1 hqueued).imp id fun ⟨b, hb⟩ =>
        ⟨b, hb.imp (update_keeps · (by simp [hat])) (update_keeps · (by simp [hat]))⟩
    · rcases hs.2 hset with hqueued | ⟨b, hb⟩
      · exact .inl (List.mem_cons_of_mem _ hqueued)
      · by_cases hagent : b = agent
        · subst hagent
          rw [hat, CallPc.posting.injEq] at hb
          exact .inl (hb ▸ List.mem_cons_self _ _)
        · exact .inr ⟨b, by simpa [Function.update_noteq hagent] using hb⟩

/-- The only activation has drained and has not started its host wait. -/
def AfterDrain : List Activation → Prop
  | [.invoking _] | [.inCallback _] => True
  | _ => False

/-- At most one activation, and a wake-up on its way while it runs its callbacks. -/
structure WakeupKept (s : WaitState) : Prop where
  flat : s.activations.length ≤ 1
  owed : AfterDrain s.activations → BreakOwed s

/-- The drain empties the queue and clears the flag; an invoke and a return keep
the wake-up owed; every other step of the only activation leaves its callbacks. -/
theorem WakeupKept.resumeActivation (hs : WakeupKept s)
    (h : resumeActivation s s.activations = some s') : WakeupKept s' := by
  rcases resumeActivation_cases h with
    ⟨outer, hacts, -, -, rfl⟩ | ⟨outer, hacts, -, rfl⟩ | ⟨outer, hacts, rfl⟩ |
    ⟨callback, rest, outer, hacts, rfl⟩ | ⟨outer, hacts, rfl⟩ |
    ⟨rest, outer, hacts, rfl⟩ | ⟨outer, hacts, rfl⟩ <;>
    obtain rfl : outer = [] := by simpa [hacts] using hs.flat
  · exact ⟨by simp, fun hafter => hafter.elim⟩
  · exact ⟨by simp, fun hafter => hafter.elim⟩
  · exact ⟨by simp, fun _ => ⟨fun hqueued => absurd rfl hqueued, fun hset => by cases hset⟩⟩
  · exact ⟨by simp, fun _ => hs.owed (by simp [hacts, AfterDrain])⟩
  · exact ⟨by simp, fun hafter => hafter.elim⟩
  · exact ⟨by simp, fun _ => hs.owed (by simp [hacts, AfterDrain])⟩
  · exact ⟨by simp, fun hafter => hafter.elim⟩

theorem WakeupKept.step (hs : WakeupKept s) (hcounts : BreakCounts s) (hop : Unnested s op)
    (h : waitStep op s = some s') : WakeupKept s' := by
  cases op with
  | call agent call =>
      obtain ⟨hidle, -, -, rfl⟩ := waitStep_call h
      exact ⟨hs.flat, fun hafter => (hs.owed hafter).start hidle⟩
  | advance agent =>
      have hacts := callStep_activations h
      exact ⟨hacts ▸ hs.flat, fun hafter => (hs.owed (hacts ▸ hafter)).advance hcounts h⟩
  | dispatch action =>
      obtain ⟨-, h⟩ := waitStep_dispatch h
      rcases dispatchStep_cases h with ⟨rfl, -, rfl⟩ | ⟨-, h⟩ | ⟨_, rfl, -, -, rfl⟩ |
        ⟨-, rfl | rfl⟩
      · have hnone := hop.1 rfl
        exact ⟨by simp [hnone], fun hafter => by simp [hnone, AfterDrain] at hafter⟩
      · exact hs.resumeActivation h
      · exact absurd hop.2 (by simp)
      all_goals exact ⟨hs.flat, hs.owed⟩

end MacPlatformCore
