import Tlss.Base.PoolOrder

/-!
# Wakeups of the workers

A worker that finds the queue empty sleeps until it is notified. Whoever pushes a task
notifies one sleeper, so as long as somebody sleeps there are at least as many notified
workers on their way to the mutex as there are tasks in the queue (`Woken`).

One way into the queue notifies nobody: a worker that takes a task moves waiting tasks up.
If that worker was itself one of the notified, its task is replaced by one nobody was woken
for (`movedUp_task_unnoticed`). A worker that was busy, on the other hand, takes a task for
which somebody else is on the way, and all other steps keep the balance (`Woken.step`).
-/

namespace Tlss.Base

open Library List

/-! ## Counting notified workers -/

variable {ts : List Worker} {i : ℕ} {old : Worker}

lemma count_notified_set (hold : ts[i]? = some old) (wk : Worker) :
    (ts.set i wk).count .notified + [old].count .notified =
      ts.count .notified + [wk].count .notified := by
  induction ts generalizing i with
  | nil => cases hold
  | cons first ts ih =>
    cases i with
    | zero =>
      cases hold
      simp only [set_cons_zero, count_cons, count_nil]
      omega
    | succ i =>
      have hrest := ih hold
      simp only [set_cons_succ, count_cons, count_nil] at hrest ⊢
      omega

lemma asleep_mem_notifyFirst (hmem : .asleep ∈ notifyFirst ts) : .asleep ∈ ts := by
  induction ts with
  | nil => exact hmem
  | cons wk ts ih =>
    cases wk with
    | asleep => exact mem_cons_self
    | entering | notified | returning | executing | exited =>
      simp only [notifyFirst, mem_cons, reduceCtorEq, false_or] at hmem
      exact mem_cons_of_mem _ (ih hmem)

lemma asleep_mem_notifyOne {c : ℕ} (hmem : .asleep ∈ notifyOne ts c) : .asleep ∈ ts := by
  unfold notifyOne at hmem
  split_ifs at hmem
  · exact (mem_or_eq_of_mem_set hmem).resolve_right nofun
  · exact asleep_mem_notifyFirst hmem

lemma count_notified_notifyFirst (hasleep : .asleep ∈ ts) :
    (notifyFirst ts).count .notified = ts.count .notified + 1 := by
  induction ts with
  | nil => cases hasleep
  | cons wk ts ih =>
    cases wk with
    | asleep => simp [notifyFirst]
    | entering | notified | returning | executing | exited =>
      simp only [mem_cons, reduceCtorEq, false_or] at hasleep
      have hrest := ih hasleep
      simp only [notifyFirst, count_cons, hrest]
      omega

lemma count_notified_notifyOne (hasleep : .asleep ∈ ts) (c : ℕ) :
    (notifyOne ts c).count .notified = ts.count .notified + 1 := by
  unfold notifyOne
  split_ifs with hchosen
  · exact count_notified_set hchosen .notified
  · exact count_notified_notifyFirst hasleep

namespace ThreadPool

/-! ## The balance -/

/-- If somebody sleeps, every task in the queue has a notified worker. -/
def Woken (pool : ThreadPool) : Prop :=
  .asleep ∈ pool.threads → pool.queue.length ≤ pool.threads.count .notified

/-- When a notified worker takes a task while others sleep, no task waits whose deadline
is still to come. -/
def KeepsWakeup (pool : ThreadPool) : Event → Prop
  | .enterTake index _ =>
    pool.threads[index]? = some .notified → .asleep ∈ pool.threads →
      ∀ pending ∈ pool.waiters, pending.deadline ≤ pool.clock
  | _ => True

variable {pool later : ThreadPool}

lemma queue_refill_of_expired (waiters : List PendingTask) (delays : List ℕ)
    (hlate : ∀ pending ∈ waiters, pending.deadline ≤ pool.clock) :
    (refill waiters delays pool).1.queue = pool.queue := by
  induction waiters generalizing delays pool with
  | nil => rfl
  | cons pending rest ih =>
    obtain ⟨hfirst, hrest⟩ := forall_mem_cons.mp hlate
    by_cases hroom : 0 < pool.maxQueueSize ∧ pool.queue.length < pool.maxQueueSize
    · rw [refill_cons_expired hroom (by omega)]
      refine ih _ fun next hmem => ?_
      have hnext := hrest next hmem
      simp only [tick, expire, emit]
      omega
    · rw [refill, if_neg hroom]

lemma queue_take_of_expired (delays : List ℕ)
    (hlate : ∀ pending ∈ pool.waiters, pending.deadline ≤ pool.clock) :
    (pool.take i delays).queue = pool.queue.tail := by
  unfold take
  cases hqueue : pool.queue with
  | nil => exact hqueue
  | cons task rest => exact queue_refill_of_expired _ delays hlate

lemma Woken.setThread (h : pool.Woken) {wk : Worker}
    (hold : pool.threads[i]? = some old) (hold' : old ≠ .notified)
    (hworker : wk ≠ .asleep) : (pool.setThread i wk).Woken := by
  intro hmem
  have hbefore := (mem_or_eq_of_mem_set hmem).resolve_right fun heq => hworker heq.symm
  have hcount := count_notified_set hold wk
  have hzero : [old].count .notified = 0 := by simpa [count_eq_zero] using hold'.symm
  calc pool.queue.length ≤ pool.threads.count .notified := h hbefore
    _ ≤ (pool.threads.set i wk).count .notified := by omega

lemma Woken.push (h : pool.Woken) (task c : ℕ) : (pool.push task c).Woken := by
  intro hmem
  have hbefore := asleep_mem_notifyOne hmem
  have hle := h hbefore
  have hcount := count_notified_notifyOne hbefore c
  simp only [ThreadPool.push, length_append, length_singleton] at hcount ⊢
  omega

/-- A worker takes a task. If it was notified it moves nobody up; if not, its task had
somebody else on the way, and at most one waiting task takes the place. -/
lemma Woken.take (h : pool.Woken) (hfair : pool.Fair)
    (hold : pool.threads[i]? = some old) (delays : List ℕ)
    (hkeeps : old = .notified → .asleep ∈ pool.threads →
      (pool.take i delays).queue = pool.queue.tail) : (pool.take i delays).Woken := by
  intro hmem
  cases hqueue : pool.queue with
  | nil =>
    unfold ThreadPool.take
    simp only [hqueue]
    rw [show (pool.setThread i _).queue = [] from hqueue]
    exact Nat.zero_le _
  | cons task rest =>
    obtain ⟨moved, expired, left, clock, hdivides, htake⟩ := take_of_cons i hqueue delays
    rw [htake] at hmem hkeeps ⊢
    have hbefore := (mem_or_eq_of_mem_set hmem).resolve_right nofun
    have hle := h hbefore
    have hcount := count_notified_set hold (.returning (expiredCallbacks expired) task)
    rw [hqueue, length_cons] at hle
    simp only [taken, length_append, length_map] at hkeeps ⊢
    by_cases hnotified : old = .notified
    · have hnobody := congrArg length (hkeeps hnotified hbefore)
      rw [hqueue, tail_cons, length_append, length_map] at hnobody
      have hone : [old].count .notified = 1 := by simp [hnotified]
      omega
    · have hzero : [old].count .notified = 0 := by
        simpa [count_eq_zero] using Ne.symm hnotified
      cases moved with
      | nil =>
        rw [length_nil]
        omega
      | cons first moved =>
        have hwaiting : pool.waiters ≠ [] := by
          intro hnil
          have hsublist := hdivides.sublist
          rw [hnil] at hsublist
          cases sublist_nil.mp hsublist
        obtain ⟨hpositive, hfull⟩ := isFull_eq.mp (hfair.full hwaiting)
        have hbound := hfair.queue_le hpositive
        rw [hqueue, length_cons] at hbound hfull
        have hroom := hdivides.room (by omega)
        omega

lemma Woken.step (h : pool.Woken) (hfair : pool.Fair) (event : Event)
    (hkeeps : pool.KeepsWakeup event) : (pool.step event).Woken := by
  cases event with
  | setMaxQueueSize size | setMaxWaitQueueSize size | initReturns throws | finishStop =>
    simp only [ThreadPool.step, setMaxQueueSize, setMaxWaitQueueSize, initReturns, finishStop]
    split_ifs
    all_goals exact h
  | start ts hasInit failure =>
    simp only [ThreadPool.step, start]
    by_cases hrefused : pool.lifecycle ≠ .free ∨ pool.state ≠ .created
    · rwa [if_pos hrefused]
    · -- the new threads have only just called `take`
      rw [if_neg hrefused]
      cases failure <;> exact fun hmem => by cases eq_of_mem_replicate hmem
  | submitAsync delay deadline onTimeout c =>
    simp only [ThreadPool.step, submitAsync]
    split_ifs
    on_goal 3 => exact Woken.push h _ _
    all_goals exact h
  | tryRun c =>
    simp only [ThreadPool.step, tryRun]
    split_ifs
    on_goal 4 => exact Woken.push h _ _
    all_goals exact h
  | run nested c =>
    simp only [ThreadPool.step, ThreadPool.run]
    split_ifs
    on_goal 5 => exact Woken.push h _ _
    all_goals exact h
  | wakeRunner task c =>
    simp only [ThreadPool.step, wakeRunner]
    split_ifs
    on_goal 3 => exact Woken.push h _ _
    all_goals exact h
  | finishInlineTask => exact h
  | enterTake i delays =>
    simp only [ThreadPool.step, enterTake]
    split
    · rename_i hold
      exact h.take hfair hold delays (by simp)
    · rename_i hold
      exact h.take hfair hold delays fun _ hasleep =>
        queue_take_of_expired delays (hkeeps hold hasleep)
    · exact h
  | wakeWorker i | callExpired i | returnTask i | finishTask i =>
    simp only [ThreadPool.step, wakeWorker, callExpired, returnTask, finishTask]
    split
    · rename_i hold
      exact h.setThread hold (by simp) (by simp)
    · exact h
  | deadlineLoop delay =>
    rcases pool.deadlineLoop_cases delay with heq | ⟨-, -, heq⟩ | heq | ⟨earliest, left, -, -, -,
      -, -, heq⟩
    all_goals
      rw [ThreadPool.step, heq]
      exact h
  | callTimeout =>
    simp only [ThreadPool.step, callTimeout]
    split
    · exact h
    · exact h
  | stop =>
    simp only [ThreadPool.step, stop]
    split_ifs
    · exact h
    · exact fun hmem => absurd hmem (asleep_notMem_map_notify _)

/-! ## Whole runs -/

/-- As long as no notified worker replaces its task while others sleep: if a worker sleeps without
having been notified, the queue is no longer than the number of workers that are notified and do not
have the mutex yet. -/
theorem wakeups_suffice (events : List Event) (hmeets : StepsMeet step KeepsWakeup new events)
    (hasleep : .asleep ∈ (Library.run step new events).threads) :
    (Library.run step new events).queue.length ≤
        (Library.run step new events).threads.count .notified ∧
      ((Library.run step new events).queue ≠ [] →
        .notified ∈ (Library.run step new events).threads) := by
  have hinv : ((Library.run step new events).Phases ∧ (Library.run step new events).Fair) ∧
      (Library.run step new events).Woken := by
    have hstep : ∀ (pool : ThreadPool) event, (pool.Phases ∧ pool.Fair) ∧ pool.Woken →
        pool.KeepsWakeup event → ((pool.step event).Phases ∧ (pool.step event).Fair) ∧
          (pool.step event).Woken :=
      fun pool event h hkeeps => ⟨⟨step_phases h.1.1 event, step_fair h.1.2 h.1.1 event⟩,
        h.2.step h.1.2 event hkeeps⟩
    exact run_invariant_of_meets hstep ⟨⟨new_phases, new_fair⟩, nofun⟩ hmeets
  have hle := hinv.2 hasleep
  refine ⟨hle, fun hne => ?_⟩
  have hpositive : 0 < (Library.run step new events).queue.length := length_pos_iff.mpr hne
  exact count_pos_iff.mp (Nat.lt_of_lt_of_le hpositive hle)

instance (pool : ThreadPool) : DecidablePred pool.KeepsWakeup := fun event => by
  cases event
  all_goals
    dsimp only [KeepsWakeup]
    infer_instance

/-- Three workers sleep, and one is notified of task 0. Task 1 waits behind it and is late when
the worker has the mutex; then task 3 is pushed. -/
def expiredWaiter : List Event :=
  [.setMaxQueueSize 1, .setMaxWaitQueueSize 1, .start 3 false none, .enterTake 0 [],
    .enterTake 1 [], .enterTake 2 [], .tryRun 0, .submitAsync 0 10 false 0,
    .submitAsync 20 30 false 0, .enterTake 0 [], .tryRun 1]

theorem wakeups_suffice_expiredWaiter : (Library.run step new expiredWaiter).queue = [3] ∧
    (Library.run step new expiredWaiter).queue.length ≤
      (Library.run step new expiredWaiter).threads.count .notified :=
  ⟨by decide, (wakeups_suffice expiredWaiter (by decide) (by decide)).1⟩

/-- The queue holds one task. One worker is notified of task 0; before it has the mutex,
task 1 begins to wait. The worker takes task 0, moves task 1 up and begins with task 0. -/
def replacedTask : List Event :=
  [.setMaxQueueSize 1, .setMaxWaitQueueSize 1, .start 2 false none, .enterTake 0 [],
    .enterTake 1 [], .tryRun 0, .submitAsync 0 10 false 0, .enterTake 0 [], .returnTask 0]

theorem movedUp_task_unnoticed : (Library.run step new replacedTask).state = .running ∧
      (Library.run step new replacedTask).queue = [1] ∧
      (Library.run step new replacedTask).threads = [.executing 0, .asleep] ∧
      ¬ (Library.run step new replacedTask).queue.length ≤
        (Library.run step new replacedTask).threads.count .notified := by
  decide

end ThreadPool

end Tlss.Base
