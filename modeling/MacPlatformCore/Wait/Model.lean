/-
# The blocking wait and the callback queue

`ScheduleCallback` may be called on any thread. It appends a callback to
`m_callbacks` under `m_callback_lock`, unlocks, and calls `BreakWait`, which tests
and sets `m_wait_broken` under the lock and, if the flag was clear, posts a break
event at the head of the host's queue once it has unlocked. `WaitForEvent`, on the
dispatch thread, returns at once while event checking is disabled. Otherwise it
resets `m_wait_broken` and takes all of `m_callbacks` under the lock, invokes the
callbacks it took with the lock released, and then waits for the next host event
with `m_in_blocking_wait` set. A callback may schedule callbacks, break the wait,
run a host event loop of its own, or call `WaitForEvent`, which drains the queue
again before the outer activation has invoked all it took.

All threads share one state. Each call of the source is cut at its lock operations
and at its post, so that a step of another thread can come wherever one can come
in the source. The dispatch thread keeps a stack of `WaitForEvent` activations,
innermost first: each outer one is suspended in the callback that called the next.
An action names the thread that moves; `waitStep` is `none` when that thread cannot
move that way, in particular while it waits for a lock another thread holds.

A callback is named by its place in the order of appends, which
`m_callback_lock` makes total; the (method, context) pair it carries is only passed
back to the method, and is left out. A break event is named by the `BreakWait`
call that posted it, counted among the calls that passed the test. Ghost fields
count the appends, drains and passes, and log the callbacks invoked and the break
events posted.
-/

import MacPlatformCore.Runs

namespace MacPlatformCore

/-- A thread that calls the wait code: the dispatch thread, which runs
`WaitForEvent`, or another thread. -/
inductive Agent
  | dispatch
  | thread (n : Nat)
  deriving DecidableEq, Repr

/-- Where a thread is in a call of `ScheduleCallback` or `BreakWait`. -/
inductive CallPc
  /-- In no call. -/
  | idle
  /-- `ScheduleCallback` holds `m_callback_lock` and appends its callback. -/
  | appending
  /-- `ScheduleCallback` has unlocked; its `BreakWait` waits for the lock. -/
  | breaking
  /-- `BreakWait` holds the lock and tests `m_wait_broken`. -/
  | testing
  /-- `BreakWait` set `m_wait_broken` as the `pass`-th call to pass the test, and
  unlocked; it posts its break event. -/
  | posting (pass : Nat)
  deriving DecidableEq, Repr

/-- The places of a call that hold `m_callback_lock`. -/
def CallPc.holdsLock : CallPc → Bool
  | .appending | .testing => true
  | _ => false

/-- A call of the wait code's entry points other than `WaitForEvent`. -/
inductive Call
  | scheduleCallback
  | breakWait
  deriving DecidableEq, Repr

/-- Where a call is once it holds the lock it starts by taking. -/
def Call.start : Call → CallPc
  | .scheduleCallback => .appending
  | .breakWait => .testing

/-- Where an activation of `WaitForEvent` is. -/
inductive Activation
  /-- Called: tests `IsEventCheckingEnabled`, then takes the lock. -/
  | entered
  /-- Holds `m_callback_lock`; resets `m_wait_broken` and takes `m_callbacks`. -/
  | draining
  /-- In the loop over the callbacks it took; `rest` are not invoked yet. -/
  | invoking (rest : List Nat)
  /-- A callback runs; `rest` come after it. -/
  | inCallback (rest : List Nat)
  /-- In `nextEventMatchingMask`. -/
  | waiting
  deriving DecidableEq, Repr

/-- The callbacks an activation took and has not invoked. -/
def Activation.pending : Activation → List Nat
  | .invoking rest | .inCallback rest => rest
  | _ => []

/-- The dispatch thread runs code of the engine: at the top of its event loop, with
no activation, or in the body of a callback. -/
def inBody : List Activation → Bool
  | [] | .inCallback _ :: _ => true
  | _ => false

/-- The wait members of `MCMacPlatformCore`, the host's event queue, where each
thread is, and the ghost counts and logs. -/
structure WaitState where
  /-- `m_callbacks` (with `m_callback_count` its length), oldest first. -/
  callbacks : List Nat
  /-- `m_wait_broken`. -/
  waitBroken : Bool
  /-- The thread holding `m_callback_lock`. -/
  lockHolder : Option Agent
  /-- The host's event queue, head first; other events than break events are left out. -/
  events : List Nat
  /-- `m_in_blocking_wait`. -/
  inBlockingWait : Bool
  /-- `m_event_checking_enabled`; checking is enabled when it is zero. -/
  eventCheckingEnabled : Int
  /-- The call each thread is in. -/
  calls : Agent → CallPc
  /-- The dispatch thread's activations of `WaitForEvent`, innermost first. -/
  activations : List Activation
  /-- Ghost: the number of appends; the callbacks appended are `0` to `appended - 1`. -/
  appended : Nat
  /-- Ghost: the callbacks invoked, in order. -/
  invoked : List Nat
  /-- Ghost: the number of drains of `m_callbacks`. -/
  drains : Nat
  /-- Ghost: the number of `BreakWait` calls that passed the test of `m_wait_broken`. -/
  passes : Nat
  /-- Ghost: `passes` at the last drain. -/
  passesAtDrain : Nat
  /-- Ghost: the break events posted, in order. -/
  posts : List Nat

namespace WaitState

/-- Nothing scheduled, no thread in a call, no activation. The header that
initialises the members is not under `src/`; they start as zero, false and nil. -/
def initial : WaitState where
  callbacks := []
  waitBroken := false
  lockHolder := none
  events := []
  inBlockingWait := false
  eventCheckingEnabled := 0
  calls := fun _ => .idle
  activations := []
  appended := 0
  invoked := []
  drains := 0
  passes := 0
  passesAtDrain := 0
  posts := []

/-- The callbacks that the activations took and have not invoked. -/
def pending (s : WaitState) : List Nat :=
  s.activations.flatMap Activation.pending

/-- `[m_callback_lock lock]`; `none` while a thread holds it. -/
def acquire (s : WaitState) (agent : Agent) : Option WaitState :=
  if s.lockHolder = none then some { s with lockHolder := some agent } else none

/-- `[m_callback_lock unlock]`. -/
def unlock (s : WaitState) : WaitState :=
  { s with lockHolder := none }

/-- Move `agent` to `pc` in its call. -/
def setCall (s : WaitState) (agent : Agent) (pc : CallPc) : WaitState :=
  { s with calls := Function.update s.calls agent pc }

/-- Where a thread may call `ScheduleCallback` or `BreakWait`: a thread other than
the dispatch thread at any time; the dispatch thread from code of the engine, and
`BreakWait` also from `runloop_observer`, which calls it when `InBlockingWait()`. -/
def MayCall (s : WaitState) : Agent → Call → Bool
  | .thread _, _ => true
  | .dispatch, .scheduleCallback => inBody s.activations
  | .dispatch, .breakWait => inBody s.activations || s.inBlockingWait

end WaitState

open WaitState

/-! ## The steps -/

/-- The next step of the call `agent` is in, at `pc`. -/
def callStep (agent : Agent) : CallPc → WaitState → Option WaitState
  | .idle, _ => none
  | .appending, s =>
      some ({ s with callbacks := s.callbacks ++ [s.appended], appended := s.appended + 1 }.unlock
        |>.setCall agent .breaking)
  | .breaking, s => (s.acquire agent).map (·.setCall agent .testing)
  | .testing, s =>
      some <| if s.waitBroken then s.unlock.setCall agent .idle
        else ({ s with waitBroken := true, passes := s.passes + 1 }.unlock
          |>.setCall agent (.posting s.passes))
  | .posting pass, s =>
      -- `[NSApp postEvent: t_event atStart: YES]`
      some ({ s with events := pass :: s.events, posts := s.posts ++ [pass] }.setCall agent .idle)

/-- The next step of the innermost activation of `WaitForEvent`, `activations`. -/
def resumeActivation (s : WaitState) : List Activation → Option WaitState
  | .entered :: outer =>
      if s.eventCheckingEnabled = 0 then
        (s.acquire .dispatch).map ({ · with activations := .draining :: outer })
      else some { s with activations := outer }
  | .draining :: outer =>
      some { s with
        waitBroken := false, callbacks := [], lockHolder := none
        activations := .invoking s.callbacks :: outer
        drains := s.drains + 1, passesAtDrain := s.passes }
  | .invoking (callback :: rest) :: outer =>
      some { s with invoked := s.invoked ++ [callback], activations := .inCallback rest :: outer }
  | .invoking [] :: outer =>
      some { s with inBlockingWait := true, activations := .waiting :: outer }
  | .inCallback rest :: outer =>
      -- the callback returns
      some { s with activations := .invoking rest :: outer }
  | .waiting :: outer =>
      -- the host wait returns the event at the head of the queue, or times out on none
      some { s with events := s.events.tail, inBlockingWait := false, activations := outer }
  | [] => none

/-- A step of the dispatch thread outside its calls of `ScheduleCallback` and
`BreakWait`. -/
inductive DispatchAction
  /-- A call of `WaitForEvent`, at the top of the event loop or from a callback. -/
  | waitForEvent
  /-- The next step of the innermost activation. -/
  | resume
  /-- A host event loop run by a callback takes the event at `index`. -/
  | nestedDequeue (index : Nat)
  | enableEventChecking
  | disableEventChecking
  deriving DecidableEq, Repr

/-- A step of the dispatch thread. -/
def dispatchStep (s : WaitState) : DispatchAction → Option WaitState
  | .waitForEvent =>
      if inBody s.activations then some { s with activations := .entered :: s.activations }
      else none
  | .resume => resumeActivation s s.activations
  | .nestedDequeue index =>
      if (s.activations.head? matches some (.inCallback _)) ∧ index < s.events.length then
        some { s with events := s.events.eraseIdx index }
      else none
  | .enableEventChecking =>
      if inBody s.activations then
        some { s with eventCheckingEnabled := s.eventCheckingEnabled + 1 }
      else none
  | .disableEventChecking =>
      if inBody s.activations then
        some { s with eventCheckingEnabled := s.eventCheckingEnabled - 1 }
      else none

/-- A step of some thread. -/
inductive WaitAction
  /-- `agent` calls `ScheduleCallback` or `BreakWait` and takes the lock. -/
  | call (agent : Agent) (call : Call)
  /-- The next step of the call `agent` is in. -/
  | advance (agent : Agent)
  /-- A step of the dispatch thread outside its calls. -/
  | dispatch (action : DispatchAction)
  deriving DecidableEq, Repr

/-- One step of one thread; `none` when it cannot take it. -/
def waitStep : WaitAction → WaitState → Option WaitState
  | .call agent call, s =>
      if s.calls agent = .idle ∧ s.MayCall agent call then
        (s.acquire agent).map (·.setCall agent call.start)
      else none
  | .advance agent, s => callStep agent (s.calls agent) s
  | .dispatch action, s =>
      if s.calls .dispatch = .idle then dispatchStep s action else none

/-! ## What each step does -/

namespace WaitState

variable (s : WaitState) (agent : Agent) (pc : CallPc)

@[simp] theorem setCall_calls : (s.setCall agent pc).calls = Function.update s.calls agent pc := rfl
@[simp] theorem setCall_callbacks : (s.setCall agent pc).callbacks = s.callbacks := rfl
@[simp] theorem setCall_waitBroken : (s.setCall agent pc).waitBroken = s.waitBroken := rfl
@[simp] theorem setCall_lockHolder : (s.setCall agent pc).lockHolder = s.lockHolder := rfl
@[simp] theorem setCall_events : (s.setCall agent pc).events = s.events := rfl
@[simp] theorem setCall_inBlockingWait :
    (s.setCall agent pc).inBlockingWait = s.inBlockingWait := rfl
@[simp] theorem setCall_activations : (s.setCall agent pc).activations = s.activations := rfl
@[simp] theorem setCall_appended : (s.setCall agent pc).appended = s.appended := rfl
@[simp] theorem setCall_invoked : (s.setCall agent pc).invoked = s.invoked := rfl
@[simp] theorem setCall_drains : (s.setCall agent pc).drains = s.drains := rfl
@[simp] theorem setCall_passes : (s.setCall agent pc).passes = s.passes := rfl
@[simp] theorem setCall_passesAtDrain : (s.setCall agent pc).passesAtDrain = s.passesAtDrain := rfl
@[simp] theorem setCall_posts : (s.setCall agent pc).posts = s.posts := rfl
@[simp] theorem setCall_pending : (s.setCall agent pc).pending = s.pending := rfl

@[simp] theorem unlock_eq : s.unlock = { s with lockHolder := none } := rfl

@[simp] theorem acquire_eq_some {s' : WaitState} :
    s.acquire agent = some s' ↔
      s.lockHolder = none ∧ s' = { s with lockHolder := some agent } := by
  unfold acquire
  split <;> simp [*, eq_comm]

end WaitState

variable {s s' : WaitState} {agent : Agent}

/-- A call starts where it may, when its thread is in no call and the lock is free. -/
theorem waitStep_call {call : Call} (h : waitStep (.call agent call) s = some s') :
    s.calls agent = .idle ∧ s.MayCall agent call ∧ s.lockHolder = none ∧
      s' = { s with lockHolder := some agent }.setCall agent call.start := by
  simp only [waitStep] at h
  split at h
  · obtain ⟨s₁, h₁, rfl⟩ := Option.map_eq_some'.mp h
    obtain ⟨hfree, rfl⟩ := (acquire_eq_some _ _).mp h₁
    exact ⟨‹_ ∧ _›.1, ‹_ ∧ _›.2, hfree, rfl⟩
  · cases h

/-- The steps of a call: the append, which releases the lock; `BreakWait` taking
the lock; its test, which releases it, passing when the flag was clear; the post. -/
theorem callStep_cases {pc : CallPc} (h : callStep agent pc s = some s') :
    (pc = .appending ∧
      s' = ({ s with callbacks := s.callbacks ++ [s.appended], appended := s.appended + 1 }.unlock
        |>.setCall agent .breaking)) ∨
    (pc = .breaking ∧ s.lockHolder = none ∧
      s' = { s with lockHolder := some agent }.setCall agent .testing) ∨
    (pc = .testing ∧ s.waitBroken = true ∧ s' = s.unlock.setCall agent .idle) ∨
    (pc = .testing ∧ s.waitBroken = false ∧
      s' = ({ s with waitBroken := true, passes := s.passes + 1 }.unlock
        |>.setCall agent (.posting s.passes))) ∨
    (∃ pass, pc = .posting pass ∧
      s' = { s with events := pass :: s.events, posts := s.posts ++ [pass] }.setCall agent
        .idle) := by
  cases pc with
  | idle => cases h
  | appending => exact .inl ⟨rfl, (Option.some.inj h).symm⟩
  | breaking =>
      obtain ⟨s₁, h₁, rfl⟩ := Option.map_eq_some'.mp h
      obtain ⟨hfree, rfl⟩ := (acquire_eq_some _ _).mp h₁
      exact .inr (.inl ⟨rfl, hfree, rfl⟩)
  | testing =>
      cases hbroken : s.waitBroken <;> simp only [callStep, hbroken] at h <;> cases h
      · exact .inr (.inr (.inr (.inl ⟨rfl, rfl, rfl⟩)))
      · exact .inr (.inr (.inl ⟨rfl, rfl, rfl⟩))
  | posting pass => exact .inr (.inr (.inr (.inr ⟨pass, rfl, (Option.some.inj h).symm⟩)))

/-- A call moves no activation. -/
theorem callStep_activations {pc : CallPc} (h : callStep agent pc s = some s') :
    s'.activations = s.activations := by
  rcases callStep_cases h with
    ⟨-, rfl⟩ | ⟨-, -, rfl⟩ | ⟨-, -, rfl⟩ | ⟨-, -, rfl⟩ | ⟨_, -, rfl⟩ <;> rfl

/-- A step of the dispatch thread happens outside its calls. -/
theorem waitStep_dispatch {action : DispatchAction}
    (h : waitStep (.dispatch action) s = some s') :
    s.calls .dispatch = .idle ∧ dispatchStep s action = some s' := by
  simp only [waitStep] at h
  split at h
  · exact ⟨‹_›, h⟩
  · cases h

/-- The steps of the innermost activation. -/
theorem resumeActivation_cases {activations : List Activation}
    (h : resumeActivation s activations = some s') :
    (∃ outer, activations = .entered :: outer ∧ s.eventCheckingEnabled = 0 ∧
      s.lockHolder = none ∧
      s' = { s with lockHolder := some .dispatch, activations := .draining :: outer }) ∨
    (∃ outer, activations = .entered :: outer ∧ s.eventCheckingEnabled ≠ 0 ∧
      s' = { s with activations := outer }) ∨
    (∃ outer, activations = .draining :: outer ∧
      s' = { s with
        waitBroken := false, callbacks := [], lockHolder := none
        activations := .invoking s.callbacks :: outer
        drains := s.drains + 1, passesAtDrain := s.passes }) ∨
    (∃ callback rest outer, activations = .invoking (callback :: rest) :: outer ∧
      s' = { s with
        invoked := s.invoked ++ [callback], activations := .inCallback rest :: outer }) ∨
    (∃ outer, activations = .invoking [] :: outer ∧
      s' = { s with inBlockingWait := true, activations := .waiting :: outer }) ∨
    (∃ rest outer, activations = .inCallback rest :: outer ∧
      s' = { s with activations := .invoking rest :: outer }) ∨
    (∃ outer, activations = .waiting :: outer ∧
      s' = { s with events := s.events.tail, inBlockingWait := false, activations := outer }) := by
  match activations, h with
  | .entered :: outer, h =>
      simp only [resumeActivation] at h
      split at h
      · obtain ⟨s₁, h₁, rfl⟩ := Option.map_eq_some'.mp h
        obtain ⟨hfree, rfl⟩ := (acquire_eq_some _ _).mp h₁
        exact .inl ⟨outer, rfl, ‹_›, hfree, rfl⟩
      · exact .inr (.inl ⟨outer, rfl, ‹_›, (Option.some.inj h).symm⟩)
  | .draining :: outer, h => exact .inr (.inr (.inl ⟨outer, rfl, (Option.some.inj h).symm⟩))
  | .invoking (callback :: rest) :: outer, h =>
      exact .inr (.inr (.inr (.inl ⟨callback, rest, outer, rfl, (Option.some.inj h).symm⟩)))
  | .invoking [] :: outer, h =>
      exact .inr (.inr (.inr (.inr (.inl ⟨outer, rfl, (Option.some.inj h).symm⟩))))
  | .inCallback rest :: outer, h =>
      exact .inr (.inr (.inr (.inr (.inr (.inl ⟨rest, outer, rfl, (Option.some.inj h).symm⟩)))))
  | .waiting :: outer, h =>
      exact .inr (.inr (.inr (.inr (.inr (.inr ⟨outer, rfl, (Option.some.inj h).symm⟩)))))

/-- The steps of the dispatch thread other than those of its innermost activation
touch only the activations, the event queue and `m_event_checking_enabled`. -/
theorem dispatchStep_cases {action : DispatchAction} (h : dispatchStep s action = some s') :
    (action = .waitForEvent ∧ inBody s.activations = true ∧
      s' = { s with activations := .entered :: s.activations }) ∨
    (action = .resume ∧ resumeActivation s s.activations = some s') ∨
    (∃ index, action = .nestedDequeue index ∧
      (s.activations.head? matches some (.inCallback _)) = true ∧ index < s.events.length ∧
      s' = { s with events := s.events.eraseIdx index }) ∨
    (inBody s.activations = true ∧
      (s' = { s with eventCheckingEnabled := s.eventCheckingEnabled + 1 } ∨
        s' = { s with eventCheckingEnabled := s.eventCheckingEnabled - 1 })) := by
  cases action with
  | resume => exact .inr (.inl ⟨rfl, h⟩)
  | waitForEvent | nestedDequeue | enableEventChecking | disableEventChecking =>
      simp only [dispatchStep] at h
      split at h <;> cases h
      · first
          | exact .inl ⟨rfl, ‹_›, rfl⟩
          | exact .inr (.inr (.inl ⟨_, rfl, ‹_ ∧ _›.1, ‹_ ∧ _›.2, rfl⟩))
          | exact .inr (.inr (.inr ⟨‹_›, .inl rfl⟩))
          | exact .inr (.inr (.inr ⟨‹_›, .inr rfl⟩))

end MacPlatformCore
