import Tlss.Library.Run

/-!
# The functors of an event loop

`queue_in_loop` appends a functor under the mutex and then, unless the thread of the loop
itself has called it outside of `do_pending_functors`, writes to the wakeup descriptor.
`do_pending_functors` swaps the queue for an empty one and calls what was in it.

The steps are the critical sections of the mutex, the writes and reads of the descriptor, and
the calls of the functors. The counter of the descriptor is only read while the channels are
handled, and every turn swaps the queue after that; so a functor that is queued behind the swap
finds the counter positive when the loop polls again, or a thread that is about to raise it
(`Served.armed`).

The batch is destroyed after `_calling_pending_functors` has been cleared. A functor whose
destruction calls `queue_in_loop`, as that of the last reference to a connection does, does not
wake the loop up and is left behind (`destroyed_functor_strands`).
-/

namespace Tlss.Net

open Library List

inductive LoopPhase where
  | testing
  | polling
  /-- Between `poll` and `do_pending_functors`; `woken` tells whether the wakeup channel is
  active and has not been handled. -/
  | handling (woken : Bool)
  /-- In `do_pending_functors`, in front of the swap. -/
  | swapping
  | calling
  /-- The flag is cleared, and the functors of the batch are being destroyed. -/
  | destroying
  | left
deriving DecidableEq

namespace LoopPhase

/-- Channel handlers, functors or their destructors run, which may call `queue_in_loop`. -/
def runsCallbacks : LoopPhase → Bool
  | .handling _ | .calling | .destroying => true
  | .testing | .polling | .swapping | .left => false

/-- The next turn of the loop begins with `poll`. -/
def beforePoll : LoopPhase → Bool
  | .testing | .polling | .calling | .destroying => true
  | .handling _ | .swapping | .left => false

end LoopPhase

/-- The loop: `functors` is what is left of the batch of `do_pending_functors`, `writers` counts
the other threads between their insertion and their write to the descriptor, and `waking` tells
that the loop's own thread is there. `inserted` and `executed` record the functors. -/
structure EventLoop (F : Type*) where
  phase : LoopPhase
  callingPendingFunctors : Bool
  pendingFunctors : List F
  functors : List F
  wakeups : ℕ
  writers : ℕ
  waking : Bool
  inserted : List F
  executed : List F

namespace EventLoop

variable {F : Type*} {loop : EventLoop F} {waking : Bool} {calm : Prop}

def entered (callingPendingFunctors : Bool) (wakeups writers : ℕ) : EventLoop F :=
  ⟨.testing, callingPendingFunctors, [], [], wakeups, writers, false, [], []⟩

inductive Event (F : Type*) where
  | testQuit (quit : Bool)
  /-- `poll` returns; it may leave the wakeup channel for the next turn. -/
  | pollReturns (woken : Bool)
  | handleRead
  /-- All active channels are handled: `do_pending_functors` begins. -/
  | handled
  | swap
  | call
  /-- All functors are called: the flag is cleared. -/
  | called
  /-- The batch is destroyed, and `do_pending_functors` ends. -/
  | destroyed
  /-- A handler, a functor or the destructor of one calls `queue_in_loop`, -/
  | queueHere (functor : F)
  | wakeHere
  /-- Another thread inserts a functor in `queue_in_loop`, -/
  | queue (functor : F)
  | wakeup
  /-- Another thread calls `quit()`. -/
  | quit

/-- The largest value of an `eventfd`; a write beyond it fails. -/
def maxWakeups : ℕ := 0xfffffffffffffffe

def raise (loop : EventLoop F) : EventLoop F :=
  { loop with wakeups := min (loop.wakeups + 1) maxWakeups }

/-- The critical section of `queue_in_loop`. -/
def insert (loop : EventLoop F) (functor : F) : EventLoop F :=
  { loop with
    pendingFunctors := loop.pendingFunctors ++ [functor]
    inserted := loop.inserted ++ [functor] }

def step (loop : EventLoop F) : Event F → EventLoop F
  | .testQuit quit =>
    if loop.phase = .testing then { loop with phase := if quit then .left else .polling } else loop
  | .pollReturns woken =>
    if loop.phase = .polling then
      { loop with phase := .handling (woken && loop.wakeups != 0) }
    else loop
  | .handleRead =>
    if loop.phase = .handling true then { loop with phase := .handling false, wakeups := 0 }
    else loop
  | .handled =>
    if loop.phase = .handling false ∧ loop.waking = false then
      { loop with phase := .swapping, callingPendingFunctors := true }
    else loop
  | .swap =>
    if loop.phase = .swapping then
      { loop with phase := .calling, functors := loop.pendingFunctors, pendingFunctors := [] }
    else loop
  | .call =>
    match loop.functors with
    | [] => loop
    | functor :: functors =>
      if loop.phase = .calling ∧ loop.waking = false then
        { loop with functors, executed := loop.executed ++ [functor] }
      else loop
  | .called =>
    if loop.phase = .calling ∧ loop.functors = [] ∧ loop.waking = false then
      { loop with phase := .destroying, callingPendingFunctors := false }
    else loop
  | .destroyed =>
    if loop.phase = .destroying ∧ loop.waking = false then { loop with phase := .testing }
    else loop
  | .queueHere functor =>
    if loop.phase.runsCallbacks = true ∧ loop.waking = false then
      { loop.insert functor with waking := loop.callingPendingFunctors }
    else loop
  | .wakeHere => if loop.waking = true then { loop.raise with waking := false } else loop
  | .queue functor => { loop.insert functor with writers := loop.writers + 1 }
  | .wakeup => if loop.writers = 0 then loop else { loop.raise with writers := loop.writers - 1 }
  | .quit => loop.raise

/-! ## Order and wakeups -/

/-- The condition on a step: no destructor of a functor queues another one. -/
def Spares (loop : EventLoop F) : Event F → Prop
  | .queueHere _ => loop.phase ≠ .destroying
  | _ => True

/-- The invariant of the loop; `armed` holds in the `calm` runs, whose steps meet `Spares`. -/
structure Served (calm : Prop) (loop : EventLoop F) : Prop where
  order : loop.executed ++ loop.functors ++ loop.pendingFunctors = loop.inserted
  batch : loop.functors ≠ [] → loop.phase = .calling
  flag : loop.phase = .swapping ∨ loop.phase = .calling → loop.callingPendingFunctors = true
  here : loop.waking = true → loop.phase.runsCallbacks = true
  armed : calm → loop.phase.beforePoll = true → loop.pendingFunctors ≠ [] →
    loop.wakeups ≠ 0 ∨ loop.writers ≠ 0 ∨ loop.waking = true

lemma raise_wakeups_ne_zero : loop.raise.wakeups ≠ 0 := by
  simp only [raise, maxWakeups]
  omega

lemma Served.raised (h : loop.Served calm) (writers : ℕ)
    (hhere : waking → loop.phase.runsCallbacks) :
    { loop.raise with writers, waking }.Served calm where
  order := h.order
  batch := h.batch
  flag := h.flag
  here := hhere
  armed _ _ _ := .inl raise_wakeups_ne_zero

lemma Served.insert (h : loop.Served calm) (functor : F) {writers : ℕ}
    (hhere : waking → loop.phase.runsCallbacks)
    (harmed : calm → loop.phase.beforePoll → writers ≠ 0 ∨ waking) :
    { loop.insert functor with writers, waking }.Served calm where
  order := by simp [EventLoop.insert, ← h.order]
  batch := h.batch
  flag := h.flag
  here := hhere
  armed hcalm hpoll _ := .inr (harmed hcalm hpoll)

lemma Served.functors_eq_nil (h : loop.Served calm) (hph : loop.phase ≠ .calling) :
    loop.functors = [] :=
  by_contra fun hne => hph (h.batch hne)

lemma Served.waking_eq_false (h : loop.Served calm) (hph : loop.phase.runsCallbacks = false) :
    loop.waking = false := by
  rw [← Bool.not_eq_true]
  exact fun hwaking => absurd (h.here hwaking) (by simp [hph])

lemma Served.goes (h : loop.Served calm) {phase : LoopPhase} {wakeups : ℕ} {flag : Bool}
    (hbatch : loop.functors = []) (hwaking : phase.runsCallbacks ∨ loop.waking = false)
    (hflag : phase = .swapping ∨ phase = .calling → flag)
    (harmed : phase.beforePoll → loop.phase.beforePoll ∧ wakeups = loop.wakeups) :
    { loop with phase, wakeups, callingPendingFunctors := flag }.Served calm where
  order := h.order
  batch hne := absurd hbatch hne
  flag := hflag
  here hwake := hwaking.resolve_right (by simpa using hwake)
  armed hcalm hpoll := by
    obtain ⟨hbefore, rfl⟩ := harmed hpoll
    exact h.armed hcalm hbefore

lemma Served.step (h : loop.Served calm) (event : Event F) (hspares : calm → loop.Spares event) :
    (loop.step event).Served calm := by
  cases event with
  | queue functor => exact h.insert functor h.here fun _ _ => .inl (Nat.succ_ne_zero _)
  | quit => exact h.raised loop.writers h.here
  | wakeHere => exact iteInduction (fun _ => h.raised loop.writers nofun) fun _ => h
  | wakeup => exact iteInduction (fun _ => h) fun _ => h.raised _ h.here
  | testQuit quit =>
    refine iteInduction (fun hph => ?_) fun _ => h
    refine h.goes (h.functors_eq_nil (by simp [hph])) ?_ ?_ fun _ => ⟨by rw [hph]; rfl, rfl⟩
    · exact .inr (h.waking_eq_false (by rw [hph]; rfl))
    · cases quit <;> simp
  | pollReturns woken | handleRead =>
    refine iteInduction (fun hph => ?_) fun _ => h
    exact h.goes (h.functors_eq_nil (by simp [hph])) (.inl rfl) (by simp)
      (by simp [LoopPhase.beforePoll])
  | handled =>
    refine iteInduction (fun hph => ?_) fun _ => h
    exact h.goes (h.functors_eq_nil (by simp [hph.1])) (.inr hph.2) (fun _ => rfl)
      (by simp [LoopPhase.beforePoll])
  | swap =>
    refine iteInduction (fun hph => ?_) fun _ => h
    have horder := h.order
    rw [h.functors_eq_nil (by simp [hph]), append_nil] at horder
    refine ⟨?_, fun _ => rfl, fun _ => h.flag (.inl hph), fun _ => rfl, by simp⟩
    rw [append_nil]
    exact horder
  | call =>
    unfold EventLoop.step
    cases hfunctors : loop.functors with
    | nil => exact h
    | cons functor functors =>
      refine iteInduction (fun hph => ?_) fun _ => h
      refine ⟨?_, fun _ => hph.1, h.flag, h.here, h.armed⟩
      rw [← h.order, hfunctors, append_assoc loop.executed]
      rfl
  | called =>
    refine iteInduction (fun hph => ?_) fun _ => h
    exact h.goes hph.2.1 (.inl rfl) (by simp) fun _ => ⟨by rw [hph.1]; rfl, rfl⟩
  | destroyed =>
    refine iteInduction (fun hph => ?_) fun _ => h
    exact h.goes (h.functors_eq_nil (by simp [hph.1])) (.inr hph.2) (by simp)
      fun _ => ⟨by rw [hph.1]; rfl, rfl⟩
  | queueHere functor =>
    refine iteInduction (fun hph => ?_) fun _ => h
    refine h.insert functor (fun _ => hph.1) fun hcalm hpoll =>
      .inr (h.flag (.inr ?_))
    -- a handler does not have to wake the loop up, since the swap is still to come
    have hnot : loop.phase ≠ .destroying := hspares hcalm
    revert hpoll
    cases hcase : loop.phase <;> simp_all [LoopPhase.beforePoll, LoopPhase.runsCallbacks]

/-- Functors are executed in the order in which they were inserted, each at most once. If no
destructor of a functor queues another one, then whenever the loop polls with a functor in the queue
the counter is positive or a thread is about to raise it. -/
theorem functors_fifo_never_stranded (callingPendingFunctors : Bool) (wakeups writers : ℕ)
    (events : List (Event F)) :
    let start := entered callingPendingFunctors wakeups writers
    let loop := run step start events
    loop.executed <+: loop.inserted ∧
      (StepsMeet step Spares start events →
        ¬ (loop.phase = .polling ∧ loop.pendingFunctors ≠ [] ∧ loop.wakeups = 0 ∧
          loop.writers = 0)) := by
  intro start loop
  have hstart : ∀ calm, start.Served calm := fun calm =>
    ⟨rfl, by simp [start, entered], by simp [start, entered], nofun, by simp [start, entered]⟩
  constructor
  · have h : loop.Served False := run_invariant (fun _ event h => h.step event nofun) (hstart _) _
    refine ⟨loop.functors ++ loop.pendingFunctors, ?_⟩
    rw [← append_assoc, h.order]
  · rintro hmeets ⟨hphase, hqueue, hwakeups, hwriters⟩
    have h : loop.Served True := run_invariant_of_meets
      (fun _ event h hspares => h.step event fun _ => hspares) (hstart _) hmeets
    have hwaking := h.waking_eq_false (by rw [hphase]; rfl)
    have harmed := h.armed trivial (by rw [hphase]; rfl) hqueue
    simp [hwakeups, hwriters, hwaking] at harmed

instance (loop : EventLoop F) : DecidablePred loop.Spares
  | .queueHere _ => inferInstanceAs (Decidable (_ ≠ _))
  | .testQuit _ | .pollReturns _ | .handleRead | .handled | .swap | .call | .called | .destroyed
  | .wakeHere | .queue _ | .wakeup | .quit => inferInstanceAs (Decidable True)

/-- One turn of the loop with a functor from another thread, up to its call. -/
def sampleTurn : List (Event ℕ) :=
  [.queue 0, .wakeup, .testQuit false, .pollReturns true, .handleRead, .handled, .swap, .call]

theorem functors_fifo_never_stranded_queueHere :
    let loop := run step (entered false 0 0)
      (sampleTurn ++ [.queueHere 1, .wakeHere, .called, .destroyed, .testQuit false])
    loop.pendingFunctors = [1] ∧ ¬ (loop.phase = .polling ∧ loop.pendingFunctors ≠ [] ∧
      loop.wakeups = 0 ∧ loop.writers = 0) :=
  ⟨rfl, (functors_fifo_never_stranded false 0 0
    (sampleTurn ++ [.queueHere 1, .wakeHere, .called, .destroyed, .testQuit false])).2 (by decide)⟩

/-- The destructor of the functor queues another one, and the loop polls over it. -/
theorem destroyed_functor_strands :
    let loop := run step (entered false 0 0)
      (sampleTurn ++ [.called, .queueHere 1, .destroyed, .testQuit false])
    loop.phase = .polling ∧ loop.pendingFunctors = [1] ∧ loop.wakeups = 0 ∧ loop.writers = 0 := by
  decide

end EventLoop

end Tlss.Net
