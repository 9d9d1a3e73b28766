import Tlss.Library.Run

/-!
# The thread of an event loop

`EventLoopThread` runs an `EventLoop` in a thread of its own. The thread publishes the loop
under the mutex before it enters `loop()`, so that `start_loop` can return it; `stop` calls
`quit()` on the published loop and joins the thread.

The steps are the critical sections of the mutex and, outside of them, the single reads and
writes of the quit flag and of the wakeup descriptor: the flag is written by two threads. An
event says which thread goes next and what the environment decides: whether a callback of the
loop calls `quit()` itself, and when other threads wake the loop up.

`loop()` clears the flag when it begins. A `quit()` between the publication and this write is
forgotten (`early_quit_forgotten`).
-/

namespace Tlss.Net

open Library

inductive LoopThread where
  | absent
  /-- It constructs the loop and calls the initialisation callback. -/
  | starting
  /-- It has published the loop and calls `loop()`. -/
  | published
  | testing
  | polling
  /-- It handles the active channels; `woken` tells whether the wakeup channel is one. -/
  | handling (woken : Bool)
  | calling
  | leaving
  | finished
deriving DecidableEq, Repr

namespace LoopThread

def inLoop : LoopThread → Bool
  | .testing | .polling | .handling _ | .calling => true
  | .absent | .starting | .published | .leaving | .finished => false

/-- The thread is behind the write `_quit = false` of `loop()`. -/
def hasReset : LoopThread → Bool
  | .absent | .starting | .published => false
  | .testing | .polling | .handling _ | .calling | .leaving | .finished => true

def isPublished : LoopThread → Bool
  | .absent | .starting | .finished => false
  | .published | .testing | .polling | .handling _ | .calling | .leaving => true

lemma eq_finished {thread : LoopThread} (hreset : thread.hasReset)
    (hgone : thread.isPublished ≠ true) : thread = .finished := by
  cases thread with
  | finished => rfl
  | absent | starting | published => cases hreset
  | testing | polling | handling | calling | leaving => exact absurd rfl hgone

end LoopThread

/-- Where a call of `start_loop` is. -/
inductive Starter where
  | idle
  | waiting
  | returned
deriving DecidableEq, Repr

inductive Stopper where
  | idle
  | locked
  | quitting
  | released
  | joining
deriving DecidableEq, Repr

/-- `EventLoopThread` with its loop: `quit` is the flag, `wakeups` the counter of the wakeup
descriptor. `quitCalled` records that `stop` has called `quit()` on the loop. -/
structure EventLoopThread where
  loop : Bool
  joined : Bool
  thread : LoopThread
  starter : Starter
  stopper : Stopper
  quit : Bool
  wakeups : ℕ
  quitCalled : Bool

namespace EventLoopThread

def new : EventLoopThread := ⟨false, false, .absent, .idle, .idle, false, 0, false⟩

/-- Nobody holds the mutex across steps but a `stop` that calls `quit()`. -/
def mutexFree (loopThread : EventLoopThread) : Bool :=
  loopThread.stopper != .locked && loopThread.stopper != .quitting

inductive Event where
  /-- `start_loop` begins: the thread is created. -/
  | startLoop
  /-- `start_loop` looks at `_loop`. -/
  | startReturns
  | publish
  /-- The thread enters `loop()`, which clears the flag. -/
  | enterLoop
  | testQuit
  /-- `poll` returns, because of an event or because its time is over. -/
  | pollReturns
  /-- The active channels are handled; a callback may call `quit()`. -/
  | handleEvents (quits : Bool)
  /-- The pending functors are called; one of them may call `quit()`. -/
  | doPendingFunctors (quits : Bool)
  | leave
  | wakeup
  /-- `stop` begins: it takes the mutex and looks at `_loop`. -/
  | stop
  | stopQuit
  /-- and wakes the loop up; then `stop` releases the mutex. -/
  | stopWakeup
  | stopJoin
  | joinReturns
deriving DecidableEq, Repr

def step (state : EventLoopThread) : Event → EventLoopThread
  | .startLoop =>
    if state.thread = .absent then { state with thread := .starting, starter := .waiting }
    else state
  | .startReturns =>
    if state.starter = .waiting ∧ state.mutexFree ∧ state.loop then
      { state with starter := .returned }
    else state
  | .publish =>
    if state.thread = .starting ∧ state.mutexFree then
      { state with thread := .published, loop := true }
    else state
  | .enterLoop =>
    if state.thread = .published then { state with thread := .testing, quit := false } else state
  | .testQuit =>
    if state.thread = .testing then
      { state with thread := if state.quit then .leaving else .polling }
    else state
  | .pollReturns =>
    if state.thread = .polling then { state with thread := .handling (0 < state.wakeups) }
    else state
  | .handleEvents quits =>
    match state.thread with
    | .handling woken =>
      { state with
        thread := .calling
        -- `handle_read` takes the whole counter
        wakeups := if woken then 0 else state.wakeups
        quit := state.quit || quits }
    | _ => state
  | .doPendingFunctors quits =>
    if state.thread = .calling then
      { state with thread := .testing, quit := state.quit || quits }
    else state
  | .leave =>
    if state.thread = .leaving ∧ state.mutexFree then
      { state with thread := .finished, loop := false }
    else state
  | .wakeup => if state.loop then { state with wakeups := state.wakeups + 1 } else state
  | .stop =>
    if state.stopper = .idle then
      { state with stopper := if state.loop then .locked else .released }
    else state
  | .stopQuit =>
    if state.stopper = .locked then
      { state with stopper := .quitting, quit := true, quitCalled := true }
    else state
  | .stopWakeup =>
    if state.stopper = .quitting then
      { state with stopper := .released, wakeups := state.wakeups + 1 }
    else state
  | .stopJoin =>
    if state.stopper = .released then
      { state with
        stopper := if state.thread ≠ .absent ∧ state.joined = false then .joining else .idle }
    else state
  | .joinReturns =>
    if state.stopper = .joining ∧ state.thread = .finished then
      { state with stopper := .idle, joined := true }
    else state

/-! ## The quit request -/

/-- `stop` begins when the thread does not exist yet or has cleared the flag in `loop()`, and
the thread is not created while a `stop` is under way. -/
def StopsAfterReset (state : EventLoopThread) : Event → Prop
  | .stop => state.thread = .absent ∨ state.thread.hasReset = true
  | .startLoop => state.stopper = .idle
  | _ => True

/-- The request of a `stop` is not forgotten. -/
structure Remembers (state : EventLoopThread) : Prop where
  published : state.loop = state.thread.isPublished
  requested : state.quitCalled = true → state.thread.hasReset = true ∧ state.quit = true
  locked : state.stopper = .locked → state.thread.hasReset = true
  quitting : state.stopper = .quitting → state.quitCalled = true
  released : state.stopper = .released → state.thread = .absent ∨ state.thread = .finished ∨
    state.quitCalled = true
  joining : state.stopper = .joining → state.thread = .finished ∨ state.quitCalled = true

variable {state : EventLoopThread}

lemma remembers_new : new.Remembers := by
  constructor <;> simp [new, LoopThread.isPublished]

/-- The thread goes on inside of `loop()`; its callbacks may set the flag. -/
lemma Remembers.turn (h : state.Remembers) {thread : LoopThread} {wakeups : ℕ} {quit : Bool}
    (hbefore : state.thread.inLoop)
    (hafter : thread.inLoop ∨ thread = .leaving) (hquit : state.quit → quit) :
    { state with thread := thread, wakeups := wakeups, quit := quit }.Remembers := by
  have hreset : thread.hasReset ∧ thread.isPublished := by
    rcases hafter with hin | rfl
    · cases thread <;> first | exact ⟨rfl, rfl⟩ | cases hin
    · exact ⟨rfl, rfl⟩
  have hvisible : state.thread.isPublished ∧ state.thread ≠ .absent ∧
      state.thread ≠ .finished := by
    cases hthread : state.thread <;> rw [hthread] at hbefore <;>
      first | exact ⟨rfl, nofun, nofun⟩ | cases hbefore
  refine ⟨?_, fun hcalled => ⟨hreset.1, hquit (h.requested hcalled).2⟩, fun _ => hreset.1,
    h.quitting, fun hreleased => ?_, fun hjoining => ?_⟩
  · exact h.published.trans (hvisible.1.trans hreset.2.symm)
  · exact .inr (.inr ((h.released hreleased).resolve_left hvisible.2.1 |>.resolve_left
      hvisible.2.2))
  · exact .inr ((h.joining hjoining).resolve_left hvisible.2.2)

/-- The thread has not cleared the flag yet, so no `stop` has found its loop. -/
lemma Remembers.not_quitCalled (h : state.Remembers) (hearly : state.thread.hasReset = false) :
    state.quitCalled ≠ true := by
  intro hcalled
  have hreset := (h.requested hcalled).1
  rw [hearly] at hreset
  cases hreset

lemma Remembers.step (h : state.Remembers) (event : Event)
    (hmeets : state.StopsAfterReset event) : (state.step event).Remembers := by
  cases event with simp only [EventLoopThread.step]
  | startLoop =>
    split_ifs with habsent
    · have hidle : state.stopper = .idle := hmeets
      have hcalled := h.not_quitCalled (by rw [habsent]; rfl)
      have hloop := h.published
      rw [habsent] at hloop
      refine ⟨hloop, fun hcalled' => absurd hcalled' hcalled, ?_, h.quitting, ?_, ?_⟩
      all_goals simp [hidle]
    · exact h
  | startReturns =>
    split_ifs
    · exact { h with }
    · exact h
  | publish =>
    split_ifs with hstarting
    · have hearly : state.thread.hasReset = false := by rw [hstarting.1]; rfl
      have hcalled := h.not_quitCalled hearly
      refine ⟨rfl, fun hcalled' => absurd hcalled' hcalled, fun hlocked => ?_, h.quitting,
        fun hreleased => ?_, fun hjoining => ?_⟩
      · exact absurd (h.locked hlocked) (by rw [hearly]; decide)
      · have hwhere := h.released hreleased
        simp [hstarting.1, hcalled] at hwhere
      · have hwhere := h.joining hjoining
        simp [hstarting.1, hcalled] at hwhere
    · exact h
  | enterLoop =>
    split_ifs with hpublished
    · have hcalled := h.not_quitCalled (by rw [hpublished]; rfl)
      have hloop := h.published
      rw [hpublished] at hloop
      refine ⟨hloop, fun hcalled' => absurd hcalled' hcalled, fun _ => rfl, h.quitting,
        fun hreleased => ?_, fun hjoining => ?_⟩
      · have hwhere := h.released hreleased
        simp [hpublished, hcalled] at hwhere
      · have hwhere := h.joining hjoining
        simp [hpublished, hcalled] at hwhere
    · exact h
  | testQuit =>
    split_ifs with htesting hquit
    · exact h.turn (by rw [htesting]; rfl) (.inr rfl) id
    · exact h.turn (by rw [htesting]; rfl) (.inl rfl) id
    · exact h
  | pollReturns =>
    split_ifs with hpolling
    · exact h.turn (by rw [hpolling]; rfl) (.inl rfl) id
    · exact h
  | handleEvents quits =>
    split
    · rename_i woken hhandling
      exact h.turn (by rw [hhandling]; rfl) (.inl rfl) fun hquit => by simp [hquit]
    · exact h
  | doPendingFunctors quits =>
    split_ifs with hcalling
    · exact h.turn (by rw [hcalling]; rfl) (.inl rfl) fun hquit => by simp [hquit]
    · exact h
  | leave =>
    split_ifs with hleaving
    · exact ⟨rfl, fun hcalled => ⟨rfl, (h.requested hcalled).2⟩, fun _ => rfl, h.quitting,
        fun _ => .inr (.inl rfl), fun _ => .inl rfl⟩
    · exact h
  | wakeup =>
    split_ifs
    · exact { h with }
    · exact h
  | stop =>
    split_ifs with hidle hloop
    · -- the loop is published, so the thread is there, and it has cleared the flag
      refine ⟨h.published, h.requested, fun _ => ?_, nofun, nofun, nofun⟩
      refine hmeets.resolve_left fun habsent => ?_
      rw [h.published, habsent] at hloop
      cases hloop
    · refine ⟨h.published, h.requested, nofun, nofun, fun _ => ?_, nofun⟩
      rcases hmeets with habsent | hreset
      · exact .inl habsent
      · rw [h.published] at hloop
        exact .inr (.inl (LoopThread.eq_finished hreset hloop))
    · exact h
  | stopQuit =>
    split_ifs with hlocked
    · exact ⟨h.published, fun _ => ⟨h.locked hlocked, rfl⟩, nofun, fun _ => rfl, nofun, nofun⟩
    · exact h
  | stopWakeup =>
    split_ifs with hquitting
    · exact ⟨h.published, h.requested, nofun, nofun,
        fun _ => .inr (.inr (h.quitting hquitting)), nofun⟩
    · exact h
  | stopJoin =>
    split_ifs with hreleased hjoins
    · exact ⟨h.published, h.requested, nofun, nofun, nofun,
        fun _ => (h.released hreleased).resolve_left hjoins.1⟩
    · exact ⟨h.published, h.requested, nofun, nofun, nofun, nofun⟩
    · exact h
  | joinReturns =>
    split_ifs
    · exact ⟨h.published, h.requested, nofun, nofun, nofun, nofun⟩
    · exact h

/-! ## Whole runs -/

/-- The steps the thread still takes once the flag is set. -/
def windDown : LoopThread → List Event
  | .testing => [.testQuit, .leave]
  | .polling =>
    [.pollReturns, .handleEvents false, .doPendingFunctors false, .testQuit, .leave]
  | .handling _ => [.handleEvents false, .doPendingFunctors false, .testQuit, .leave]
  | .calling => [.doPendingFunctors false, .testQuit, .leave]
  | .leaving => [.leave]
  | .absent | .starting | .published | .finished => []

/-- A thread that has cleared the flag before it was set ends by its own steps, so that the
join returns. -/
lemma run_windDown (hreset : state.thread.hasReset)
    (hquit : state.thread = .finished ∨ state.quit) (hjoining : state.stopper = .joining) :
    (run step state (windDown state.thread ++ [.joinReturns])).joined := by
  obtain ⟨loop, joined, thread, starter, stopper, quit, wakeups, quitCalled⟩ := state
  cases hjoining
  cases thread with
  | absent | starting | published => cases hreset
  | finished => rfl
  | testing | polling | handling | calling | leaving =>
    obtain rfl : quit := hquit.resolve_left nofun
    rfl

/-- If `stop` only begins when the thread has not been created or has cleared the flag: once `stop`
has called `quit()`, the flag is set as long as the thread is in `loop()`, and the remaining steps
of that thread end a join. -/
theorem quit_remembered (events : List Event) (hmeets : StepsMeet step StopsAfterReset new events) :
    ((run step new events).quitCalled = true → (run step new events).thread.inLoop = true →
      ¬ ((run step new events).quit = false ∧ (run step new events).wakeups = 0)) ∧
    ((run step new events).stopper = .joining →
      ((run step new events).thread = .finished ∨ (run step new events).quit = true) ∧
      (run step (run step new events)
        (windDown (run step new events).thread ++ [.joinReturns])).joined = true) := by
  have hstep : ∀ (state : EventLoopThread) event, state.Remembers → state.StopsAfterReset event →
      (state.step event).Remembers := fun state event h hmeet => h.step event hmeet
  have hinv : (run step new events).Remembers := run_invariant_of_meets hstep remembers_new hmeets
  refine ⟨fun hcalled _ hlost => ?_, fun hjoining => ?_⟩
  · rw [(hinv.requested hcalled).2] at hlost
    cases hlost.1
  · have hreset : (run step new events).thread.hasReset = true := by
      rcases hinv.joining hjoining with hfinished | hcalled
      · rw [hfinished]
        rfl
      · exact (hinv.requested hcalled).1
    have hquit : (run step new events).thread = .finished ∨ (run step new events).quit = true :=
      (hinv.joining hjoining).imp_right fun hcalled => (hinv.requested hcalled).2
    exact ⟨hquit, run_windDown hreset hquit hjoining⟩

/-- `stop` comes while the loop polls; the thread has cleared the flag before. -/
def stopWhilePolling : List Event :=
  [.startLoop, .publish, .startReturns, .enterLoop, .testQuit, .stop, .stopQuit, .stopWakeup,
    .stopJoin]

theorem quit_remembered_stopWhilePolling : (run step new stopWhilePolling).stopper = .joining ∧
      (run step new stopWhilePolling).quit = true := by
  have hjoining : (run step new stopWhilePolling).stopper = .joining := by decide
  have hmeets : StepsMeet step StopsAfterReset new stopWhilePolling :=
    ⟨rfl, trivial, trivial, trivial, trivial, .inr rfl, trivial, trivial, trivial, trivial⟩
  have hquit := ((quit_remembered stopWhilePolling hmeets).2 hjoining).1
  exact ⟨hjoining, hquit.resolve_left (by decide)⟩

/-- `start_loop` returns, `stop` calls `quit()`, and only then the thread enters `loop()`. -/
def stopBeforeLoop : List Event :=
  [.startLoop, .publish, .startReturns, .stop, .stopQuit, .stopWakeup, .stopJoin, .enterLoop,
    .testQuit, .pollReturns, .handleEvents false, .doPendingFunctors false, .testQuit]

/-- The wakeup of `quit()` has been used up, the flag is clear, the loop polls, and `stop`
waits for the thread. -/
theorem early_quit_forgotten : (run step new stopBeforeLoop).quitCalled = true ∧
      (run step new stopBeforeLoop).thread = .polling ∧
      (run step new stopBeforeLoop).quit = false ∧ (run step new stopBeforeLoop).wakeups = 0 ∧
      (run step new stopBeforeLoop).stopper = .joining := by
  decide

end EventLoopThread

end Tlss.Net
