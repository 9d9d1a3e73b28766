import Mathlib.Data.List.Nodup
import Tlss.Base.PoolTasks

/-!
# The order of admission

Tasks wait only while the queue is full: whoever makes room in the queue moves waiting
tasks up before it lets go of the mutex. A task that is pushed therefore never passes
one that waits, and the tasks that were taken, followed by the queue and the waiting
tasks, are in the order in which they were accepted (`Fair`). The order of two `take`
calls is that of their critical sections.
-/

namespace Tlss.Base

open Library List Function Effect

namespace ThreadPool

def lineup (pool : ThreadPool) : List ℕ :=
  pool.observed takes ++ pool.queue ++ pool.waiters.map PendingTask.task

/-- Tasks wait only for a full queue, in the order of their acceptance. -/
structure Fair (pool : ThreadPool) : Prop where
  full : pool.waiters ≠ [] → pool.isFull = true
  queue_le : 0 < pool.maxQueueSize → pool.queue.length ≤ pool.maxQueueSize
  waiters_le : pool.waiters.length ≤ pool.maxWaitQueueSize
  ordered : pool.lineup.Sublist (pool.observed accepts)

variable {pool later : ThreadPool}

lemma new_fair : new.Fair := by
  constructor <;> simp [new, lineup, observed]

lemma isFull_eq : pool.isFull = true ↔
    0 < pool.maxQueueSize ∧ pool.maxQueueSize ≤ pool.queue.length := by
  simp [isFull]

lemma Fair.leave (h : pool.Fair) {effects : List Effect}
    (htrace : later.trace = pool.trace ++ effects)
    (haccepts : effects.filterMap accepts = [])
    (htakes : effects.filterMap takes = []) (hqueue : later.queue = pool.queue)
    (hwaiters : later.waiters.Sublist pool.waiters) (hmax : later.maxQueueSize = pool.maxQueueSize)
    (hmaxWait : later.maxWaitQueueSize = pool.maxWaitQueueSize) : later.Fair where
  full hne := by
    have hbefore : pool.waiters ≠ [] := fun hnil => hne (sublist_nil.mp (hnil ▸ hwaiters))
    have hfull := isFull_eq.mp (h.full hbefore)
    rw [isFull_eq, hmax, hqueue]
    exact hfull
  queue_le := by
    rw [hmax, hqueue]
    exact h.queue_le
  waiters_le := by
    rw [hmaxWait]
    exact Nat.le_trans hwaiters.length_le h.waiters_le
  ordered := by
    rw [lineup, observed_append htrace, observed_append htrace, haccepts, htakes, append_nil,
      append_nil, hqueue]
    exact ((List.Sublist.refl _).append (hwaiters.map _)).trans h.ordered

lemma Fair.push (h : pool.Fair) {t : ℕ} {effect : Effect} (hroom : pool.isFull = false)
    (htrace : later.trace = pool.trace ++ [effect]) (haccepts : effect.accepts = some t)
    (htakes : effect.takes = none) (hqueue : later.queue = pool.queue ++ [t])
    (hwaiters : later.waiters = pool.waiters) (hmax : later.maxQueueSize = pool.maxQueueSize)
    (hmaxWait : later.maxWaitQueueSize = pool.maxWaitQueueSize) : later.Fair := by
  have hnone : pool.waiters = [] := by
    by_contra hne
    simp [h.full hne] at hroom
  have hlt : 0 < pool.maxQueueSize → pool.queue.length < pool.maxQueueSize := by
    simpa [isFull] using hroom
  constructor
  · exact fun hne => absurd (hwaiters.trans hnone) hne
  · intro hpositive
    rw [hmax] at hpositive ⊢
    simpa [hqueue] using Nat.succ_le_of_lt (hlt hpositive)
  · rw [hwaiters, hmaxWait]
    exact h.waiters_le
  · have hordered := h.ordered
    rw [lineup, hnone, map_nil, append_nil] at hordered
    rw [lineup, observed_append htrace, observed_append htrace, hqueue, hwaiters, hnone,
      filterMap_cons_some haccepts, filterMap_cons_none htakes, filterMap_nil,
      append_nil, map_nil, append_nil, ← append_assoc]
    exact hordered.append (.refl _)

lemma Fair.wait (h : pool.Fair) {pending : PendingTask} (hfull : pool.isFull)
    (hlt : pool.waiters.length < pool.maxWaitQueueSize)
    (htrace : later.trace = pool.trace ++ [.acceptedAsync pending])
    (hqueue : later.queue = pool.queue) (hwaiters : later.waiters = pool.waiters ++ [pending])
    (hmax : later.maxQueueSize = pool.maxQueueSize)
    (hmaxWait : later.maxWaitQueueSize = pool.maxWaitQueueSize) : later.Fair where
  full _ := by
    rw [isFull_eq, hmax, hqueue]
    exact isFull_eq.mp hfull
  queue_le := by
    rw [hmax, hqueue]
    exact h.queue_le
  waiters_le := by
    rw [hwaiters, hmaxWait, length_append, length_singleton]
    exact hlt
  ordered := by
    rw [lineup, observed_append htrace, observed_append htrace, hqueue, hwaiters, map_append,
      ← append_assoc, filterMap_cons_none rfl, filterMap_nil, append_nil]
    exact h.ordered.append (.refl _)

lemma Fair.take (h : pool.Fair) (i : ℕ) (delays : List ℕ) : (pool.take i delays).Fair := by
  cases hqueue : pool.queue with
  | nil =>
    unfold ThreadPool.take
    simp only [hqueue]
    exact { h with }
  | cons t rest =>
    obtain ⟨moved, expired, left, clock, hdivides, htake⟩ := take_of_cons i hqueue delays
    have hleft := (sublist_append_right moved left).trans hdivides.sublist
    rw [htake]
    constructor
    · intro hne
      have hbefore : pool.waiters ≠ [] := fun hnil => hne (sublist_nil.mp (hnil ▸ hleft))
      have hfull := isFull_eq.mp (h.full hbefore)
      have hdone := hdivides.done.resolve_left hne
      refine isFull_eq.mpr ⟨hfull.1, ?_⟩
      simpa [taken] using hdone
    · intro hpositive
      have hle := h.queue_le hpositive
      rw [hqueue, length_cons] at hle
      simpa [taken] using hdivides.room (by omega)
    · exact Nat.le_trans hleft.length_le h.waiters_le
    · have htrace : (pool.taken i t rest moved expired left clock).trace =
          pool.trace ++ .taken t :: expiries expired := rfl
      have htakes : (Effect.taken t :: expiries expired).filterMap Effect.takes = [t] := by
        simp [expiries, filterMap_map, comp_def, Effect.takes]
      have haccepts : (Effect.taken t :: expiries expired).filterMap Effect.accepts = [] := by
        rw [filterMap_cons_none rfl, filterMap_accepts_expiries]
      have hlineup : (pool.taken i t rest moved expired left clock).lineup =
          pool.observed takes ++ t :: rest ++ (moved ++ left).map PendingTask.task := by
        rw [lineup, observed_append htrace, htakes]
        simp [taken]
      have hordered := h.ordered
      rw [lineup, hqueue] at hordered
      rw [hlineup, observed_append htrace, haccepts, append_nil]
      exact ((List.Sublist.refl _).append (hdivides.sublist.map _)).trans hordered

lemma step_fair (h : pool.Fair) (hphases : pool.Phases) (event : Event) :
    (pool.step event).Fair := by
  have hcreated : pool.state = .created → pool.queue = [] ∧ pool.waiters = [] :=
    fun hcreated => hphases.threadless (hphases.created hcreated).1
  cases event with
  | setMaxQueueSize size =>
    simp only [step, setMaxQueueSize]
    split_ifs with href
    · exact h
    · rw [not_or, not_not] at href
      obtain ⟨hqueue, hwaiters⟩ := hcreated href.2
      exact ⟨fun hne => absurd hwaiters hne, by simp [hqueue], h.waiters_le, h.ordered⟩
  | setMaxWaitQueueSize size =>
    simp only [step, setMaxWaitQueueSize]
    split_ifs with href
    · exact h
    · rw [not_or, not_not] at href
      obtain ⟨-, hwaiters⟩ := hcreated href.2
      exact { h with waiters_le := by simp [hwaiters] }
  | start threads hasInit failure =>
    simp only [step, start]
    by_cases href : pool.lifecycle ≠ .free ∨ pool.state ≠ .created
    · rwa [if_pos href]
    · rw [if_neg href]
      cases failure <;> exact { h with }
  | initReturns throws =>
    simp only [step, initReturns]
    by_cases hother : pool.lifecycle ≠ .starting
    · rwa [if_pos hother]
    · rw [if_neg hother]
      exact { h with }
  | submitAsync delay deadline onTimeout choice =>
    simp only [step, submitAsync]
    split_ifs with href hlate hroom hcrowded
    on_goal 3 => exact h.push (by simpa using hroom) rfl rfl rfl rfl rfl rfl rfl
    on_goal 4 => exact h.wait (by simpa using hroom) (Nat.not_le.mp hcrowded) rfl rfl rfl rfl rfl
    all_goals exact h.leave rfl rfl rfl rfl (.refl _) rfl rfl
  | tryRun choice =>
    simp only [step, tryRun]
    split_ifs with hstate hthreads hfull
    iterate 3 exact h.leave rfl rfl rfl rfl (.refl _) rfl rfl
    · exact h.push (Bool.not_eq_true _ ▸ hfull) rfl rfl rfl rfl rfl rfl rfl
  | run nested choice =>
    simp only [step, ThreadPool.run]
    split_ifs with hstate hthreads hnested hfull
    iterate 3 exact h.leave rfl rfl rfl rfl (.refl _) rfl rfl
    · exact { h with }
    · exact h.push (Bool.not_eq_true _ ▸ hfull) rfl rfl rfl rfl rfl rfl rfl
  | wakeRunner t choice =>
    simp only [step, wakeRunner]
    split_ifs with hmem hstate hfull
    · exact h.leave rfl rfl rfl rfl (.refl _) rfl rfl
    · exact h
    · exact h.push (Bool.not_eq_true _ ▸ hfull) rfl rfl rfl rfl rfl rfl rfl
    · exact h
  | finishInlineTask => exact { h with }
  | enterTake i delays =>
    simp only [step, enterTake]
    split
    · exact h.take i delays
    · exact h.take i delays
    · exact h
  | wakeWorker i | finishTask i =>
    simp only [step, wakeWorker, finishTask]
    split
    · exact { h with }
    · exact h
  | callExpired i | returnTask i | callTimeout =>
    simp only [step, callExpired, returnTask, callTimeout]
    split
    · exact h.leave rfl rfl rfl rfl (.refl _) rfl rfl
    · exact h
  | deadlineLoop delay =>
    rcases pool.deadlineLoop_cases delay with heq | ⟨-, -, heq⟩ | heq |
      ⟨earliest, left, -, -, -, hsublist, -, heq⟩
    · rwa [step, heq]
    · rw [step, heq]
      exact { h with }
    · rw [step, heq]
      exact { h with }
    · rw [step, heq]
      exact h.leave rfl rfl rfl rfl hsublist rfl rfl
  | stop =>
    simp only [step, stop]
    split_ifs
    · exact h
    · refine h.leave rfl ?_ ?_ rfl (nil_sublist _) rfl rfl
      · simp [filterMap_map, comp_def, accepts]
      · simp [filterMap_map, comp_def, takes]
  | finishStop =>
    simp only [step, finishStop]
    split_ifs
    · exact { h with }
    · exact h

/-- A task waits only if the queue is full, and queue and waiting list keep to their sizes. What
`take` has removed, the queue and the waiting tasks are in the order in which all of them were
accepted, each once. -/
theorem admission_fair (events : List Event) : ((Library.run step new events).state = .running →
      (Library.run step new events).threads ≠ [] → 0 < (Library.run step new events).maxQueueSize →
      (Library.run step new events).waiters ≠ [] →
        (Library.run step new events).queue.length = (Library.run step new events).maxQueueSize) ∧
    (0 < (Library.run step new events).maxQueueSize →
      (Library.run step new events).queue.length ≤ (Library.run step new events).maxQueueSize) ∧
    (Library.run step new events).waiters.length ≤ (Library.run step new events).maxWaitQueueSize ∧
    ((Library.run step new events).observed accepts).Nodup ∧
    ((Library.run step new events).observed takes ++ (Library.run step new events).queue ++
        (Library.run step new events).waiters.map PendingTask.task).Sublist
      ((Library.run step new events).observed accepts) := by
  have hinv : ((Library.run step new events).Phases ∧ (Library.run step new events).Conserved) ∧
      (Library.run step new events).Fair := by
    have hstep : ∀ (pool : ThreadPool) event, (pool.Phases ∧ pool.Conserved) ∧ pool.Fair →
        ((pool.step event).Phases ∧ (pool.step event).Conserved) ∧ (pool.step event).Fair :=
      fun pool event h => ⟨⟨step_phases h.1.1 event, step_conserved h.1.2 h.1.1 event⟩,
        step_fair h.2 h.1.1 event⟩
    exact run_invariant hstep ⟨⟨new_phases, new_conserved⟩, new_fair⟩ events
  obtain ⟨⟨-, hconserved⟩, hfair⟩ := hinv
  refine ⟨fun _ _ hpositive hwaiting => ?_, hfair.queue_le, hfair.waiters_le, ?_, hfair.ordered⟩
  · exact Nat.le_antisymm (hfair.queue_le hpositive) (isFull_eq.mp (hfair.full hwaiting)).2
  · refine nodup_iff_count_le_one.mpr fun task => ?_
    have honce := hconserved.once task
    split_ifs at honce <;> omega

/-- Two workers take their tasks in the order of acceptance, and the second returns first. -/
theorem tasks_returned_out_of_order :
    let pool := Library.run step new [.start 2 false none, .tryRun 0, .tryRun 0, .enterTake 0 [],
      .enterTake 1 [], .returnTask 1, .returnTask 0]
    pool.observed accepts = [0, 1] ∧ pool.observed takes = [0, 1] ∧
      pool.observed returns = [1, 0] := by
  decide

end ThreadPool

end Tlss.Base
