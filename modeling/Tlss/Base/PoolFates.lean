import Mathlib.Algebra.GroupWithZero.Nat
import Tlss.Base.PoolTasks

/-!
# The fates of the tasks

A task that is in the queue stays on its way to a worker until `take` returns it, also
while the pool stops. A `stop` that has begun can always be finished by the threads of
the pool alone (`stop_completes`): no worker sleeps any more, and each of their steps
uses up some work.
-/

namespace Tlss.Base

open Library List Effect Worker

/-- The steps a worker has to take until it leaves, with an empty queue. -/
def Worker.remaining : Worker → ℕ
  | .entering | .asleep | .notified => 1
  | .executing _ => 2
  | .returning callbacks _ => callbacks.length + 3
  | .exited => 0

def DeadlineThread.remaining : DeadlineThread → ℕ
  | .waiting => 1
  | .calling _ => 2
  | .absent | .exited => 0

variable {i task : ℕ} {effects : List Effect} {old : Worker}

lemma sum_remaining_set {ts : List Worker} (hold : ts[i]? = some old) (wk : Worker) :
    ((ts.set i wk).map remaining).sum + old.remaining =
      (ts.map remaining).sum + wk.remaining := by
  induction ts generalizing i with
  | nil => cases hold
  | cons first ts ih =>
    cases i with
    | zero =>
      cases hold
      simp only [set_cons_zero, map_cons, sum_cons]
      omega
    | succ i =>
      have hrest := ih hold
      simp only [set_cons_succ, map_cons, sum_cons]
      omega

namespace ThreadPool

variable {p later : ThreadPool}

/-! ## On the way to a worker -/

/-- How often the task is in the queue, with a worker, or was returned. -/
def scheduled (pool : ThreadPool) (task : ℕ) : ℕ :=
  pool.queue.count task + pool.carried.count task + (pool.observed returns).count task

lemma scheduled_le {tasks : List ℕ} (hqueue : later.queue = p.queue ++ tasks)
    (hcarried : later.carried = p.carried) (htrace : later.trace = p.trace ++ effects) :
    p.scheduled task ≤ later.scheduled task := by
  unfold scheduled
  rw [hqueue, hcarried, observed_append htrace, count_append, count_append]
  omega

lemma scheduled_le_of_eq (hqueue : later.queue = p.queue)
    (hcarried : later.carried = p.carried) (htrace : later.trace = p.trace ++ effects) :
    p.scheduled task ≤ later.scheduled task :=
  scheduled_le (hqueue.trans (append_nil _).symm) hcarried htrace

lemma scheduled_take_le (hold : p.threads[i]? = some old)
    (hcarries : old.carries = []) (delays : List ℕ) (task : ℕ) :
    p.scheduled task ≤ (p.take i delays).scheduled task := by
  cases hqueue : p.queue with
  | nil =>
    have hset : ∀ wk : Worker, wk.carries = [] →
        p.scheduled task ≤ (p.setThread i wk).scheduled task := fun wk hnone =>
      scheduled_le_of_eq rfl (flatMap_set_of_eq hold (hnone.trans hcarries.symm))
        (append_nil _).symm
    unfold ThreadPool.take
    simp only [hqueue]
    split_ifs
    · exact hset .asleep rfl
    · exact hset .exited rfl
  | cons front rest =>
    obtain ⟨moved, expired, left, clock, -, htake⟩ := take_of_cons i hqueue delays
    have hcarried := carried_setThread hold (.returning (expiredCallbacks expired) front) task
    have hsame : (p.taken i front rest moved expired left clock).carried =
      (p.setThread i (.returning (expiredCallbacks expired) front)).carried := rfl
    have htrace : (p.taken i front rest moved expired left clock).trace =
      p.trace ++ .taken front :: expiries expired := rfl
    rw [htake, scheduled, scheduled, hsame, observed_append htrace]
    rw [hcarries] at hcarried
    simp only [hqueue, taken, carries, count_append, count_cons, count_nil] at hcarried ⊢
    omega

lemma scheduled_step_le (hphases : p.Phases) (e : Event) (task : ℕ) :
    p.scheduled task ≤ (p.step e).scheduled task := by
  have hnil : p.trace = p.trace ++ [] := (append_nil _).symm
  cases e with
  | setMaxQueueSize size | setMaxWaitQueueSize size | finishStop =>
    simp only [step, setMaxQueueSize, setMaxWaitQueueSize, finishStop]
    split_ifs <;> exact Nat.le_refl _
  | start ts hasInit failure =>
    -- nobody carries a task before the start
    simp only [step, start]
    by_cases hrefused : p.lifecycle ≠ .free ∨ p.state ≠ .created
    · exact Nat.le_of_eq (by rw [if_pos hrefused])
    · rw [if_neg hrefused]
      rw [not_or, not_not, not_not] at hrefused
      have hcarried : p.carried = [] := by
        rw [carried, (hphases.created hrefused.2).1, flatMap_nil]
      unfold scheduled
      cases failure <;> simp [hcarried, observed]
  | initReturns throws =>
    simp only [step, initReturns]
    by_cases hother : p.lifecycle ≠ .starting
    · exact Nat.le_of_eq (by rw [if_pos hother])
    · rw [if_neg hother]
      exact Nat.le_refl _
  | submitAsync delay deadline onTimeout choice =>
    simp only [step, submitAsync]
    split_ifs
    on_goal 3 => exact scheduled_le rfl (carried_push _ _ _) rfl
    all_goals exact scheduled_le_of_eq rfl rfl rfl
  | tryRun choice =>
    simp only [step, tryRun]
    split_ifs
    iterate 3 exact scheduled_le_of_eq rfl rfl rfl
    · exact scheduled_le rfl (carried_push _ _ _) rfl
  | run nested choice =>
    simp only [step, ThreadPool.run]
    split_ifs
    iterate 3 exact scheduled_le_of_eq rfl rfl rfl
    · exact scheduled_le_of_eq rfl rfl hnil
    · exact scheduled_le rfl (carried_push _ _ _) rfl
  | wakeRunner runner choice =>
    simp only [step, wakeRunner]
    split_ifs
    · exact scheduled_le_of_eq rfl rfl rfl
    · exact Nat.le_refl _
    · exact scheduled_le rfl (carried_push _ _ _) rfl
    · exact Nat.le_refl _
  | finishInlineTask => exact Nat.le_refl _
  | enterTake i delays =>
    simp only [step, enterTake]
    split
    · rename_i hold
      exact scheduled_take_le hold rfl delays task
    · rename_i hold
      exact scheduled_take_le hold rfl delays task
    · exact Nat.le_refl _
  | wakeWorker i | finishTask i =>
    simp only [step, wakeWorker, finishTask]
    split
    · rename_i hold
      exact scheduled_le_of_eq rfl (flatMap_set_of_eq hold rfl) hnil
    · exact Nat.le_refl _
  | callExpired i =>
    simp only [step, callExpired]
    split
    · rename_i hold
      exact scheduled_le_of_eq rfl (flatMap_set_of_eq hold rfl) rfl
    · exact Nat.le_refl _
  | returnTask i =>
    simp only [step, returnTask]
    split
    · rename_i returned hold
      have hcarried := carried_setThread hold (.executing returned) task
      have htrace :
        ((p.setThread i (.executing returned)).emit (.returned returned)).trace =
          p.trace ++ [.returned returned] := rfl
      rw [scheduled, scheduled, observed_append htrace]
      simp only [carries, count_append, count_nil, filterMap_cons,
        filterMap_nil, returns, carried_emit, queue_emit,
        queue_setThread] at hcarried ⊢
      omega
    · exact Nat.le_refl _
  | deadlineLoop delay =>
    rcases p.deadlineLoop_cases delay with heq | ⟨-, -, heq⟩ | heq | ⟨_, _, -, -, -, -, -, heq⟩
    · exact Nat.le_of_eq (by rw [step, heq])
    · rw [step, heq]
      exact Nat.le_refl _
    · rw [step, heq]
      exact Nat.le_refl _
    · rw [step, heq]
      exact scheduled_le_of_eq rfl rfl rfl
  | callTimeout =>
    simp only [step, callTimeout]
    split
    · exact scheduled_le_of_eq rfl rfl rfl
    · exact Nat.le_refl _
  | stop =>
    simp only [step, stop]
    split_ifs
    · exact Nat.le_refl _
    · exact scheduled_le_of_eq rfl (flatMap_map_notify p.threads rfl) rfl

/-! ## The end of a stop -/

/-- The steps that a thread of the pool, a task or the caller of `stop` takes on its own. -/
inductive Event.IsInternal : Event → Prop where
  | enterTake (index : ℕ) (delays : List ℕ) : IsInternal (.enterTake index delays)
  | callExpired (index : ℕ) : IsInternal (.callExpired index)
  | returnTask (index : ℕ) : IsInternal (.returnTask index)
  | finishTask (index : ℕ) : IsInternal (.finishTask index)
  | finishInlineTask : IsInternal .finishInlineTask
  | deadlineLoop (delay : ℕ) : IsInternal (.deadlineLoop delay)
  | callTimeout : IsInternal .callTimeout
  | finishStop : IsInternal .finishStop

/-- The work that is left before a stop can finish. A task in the queue costs a worker
three steps. -/
def remaining (pool : ThreadPool) : ℕ :=
  4 * pool.queue.length + (pool.threads.map Worker.remaining).sum +
    pool.deadlineThread.remaining + pool.activeInlineTasks

lemma worker_progress (h : p.Phases) (hstop : p.lifecycle = .stopping)
    {wk : Worker} (hwk : p.threads[i]? = some wk) (halive : wk ≠ .exited) :
    ∃ e, e.IsInternal ∧ (p.step e).lifecycle = .stopping ∧ (p.step e).remaining < p.remaining := by
  have hstate := h.stopping hstop
  have hnot : p.state ≠ .running := by simp [hstate]
  have hset := fun next => sum_remaining_set hwk next
  have htake : (p.take i []).lifecycle = .stopping ∧
      (wk.remaining = 1 → (p.take i []).remaining < p.remaining) := by
    cases hqueue : p.queue with
    | nil =>
      have htake : p.take i [] = p.setThread i .exited := by
        simp [ThreadPool.take, hqueue, hnot]
      have hsum := hset .exited
      rw [htake]
      refine ⟨hstop, fun hone => ?_⟩
      rw [hone] at hsum
      simp only [remaining, setThread, Worker.remaining] at hsum ⊢
      omega
    | cons task rest =>
      obtain ⟨moved, expired, left, clock, hdivides, htake⟩ := take_of_cons i hqueue []
      have hnone : moved = [] ∧ expired = [] := by
        have hperm := hdivides.perm
        rw [(h.closing hnot).1, nil_perm] at hperm
        simp only [append_eq_nil_iff, map_eq_nil_iff] at hperm
        exact hperm.1
      have hsum := hset (.returning (expiredCallbacks expired) task)
      rw [htake]
      refine ⟨hstop, fun hone => ?_⟩
      rw [hone] at hsum
      simp only [remaining, taken, hqueue, hnone.1, hnone.2, Worker.remaining, expiredCallbacks,
        filterMap_nil, length_nil, map_nil, append_nil,
        length_cons] at hsum ⊢
      omega
  cases wk with
  | entering | notified =>
    refine ⟨.enterTake i [], .enterTake _ _, ?_, ?_⟩ <;> simp only [step, enterTake, hwk]
    · exact htake.1
    · exact htake.2 rfl
  | asleep => exact absurd (mem_of_getElem? hwk) (h.closing hnot).2
  | returning callbacks task =>
    cases callbacks with
    | nil =>
      have hsum := hset (.executing task)
      refine ⟨.returnTask i, .returnTask _, ?_, ?_⟩ <;>
        simp only [step, returnTask, hwk]
      · exact hstop
      · simp only [remaining, emit, setThread, Worker.remaining, length_nil] at hsum ⊢
        omega
    | cons callback callbacks =>
      have hsum := hset (.returning callbacks task)
      refine ⟨.callExpired i, .callExpired _, ?_, ?_⟩ <;>
        simp only [step, callExpired, hwk]
      · exact hstop
      · simp only [remaining, emit, setThread, Worker.remaining, length_cons] at hsum ⊢
        omega
  | executing task =>
    have hsum := hset .entering
    refine ⟨.finishTask i, .finishTask _, ?_, ?_⟩ <;> simp only [step, finishTask, hwk]
    · exact hstop
    · simp only [remaining, setThread, Worker.remaining] at hsum ⊢
      omega
  | exited => exact absurd rfl halive

lemma stop_progress (h : p.Phases) (hstop : p.lifecycle = .stopping) :
    p.finishStop.state = .stopped ∨ ∃ e, e.IsInternal ∧ (p.step e).lifecycle = .stopping ∧
        (p.step e).remaining < p.remaining := by
  by_cases hinline : p.activeInlineTasks = 0
  · by_cases hexited : ∀ wk ∈ p.threads, wk = .exited
    · cases hdeadline : p.deadlineThread with
      | absent =>
        refine .inl ?_
        simp only [finishStop]
        rw [if_pos ⟨hstop, hinline, hexited, .inl hdeadline⟩]
      | exited =>
        refine .inl ?_
        simp only [finishStop]
        rw [if_pos ⟨hstop, hinline, hexited, .inr hdeadline⟩]
      | waiting =>
        have hnot : p.state ≠ .running := by simp [h.stopping hstop]
        refine .inr ⟨.deadlineLoop 0, .deadlineLoop _, ?_, ?_⟩ <;>
          simp [step, deadlineLoop, hdeadline, hnot, hstop, remaining, DeadlineThread.remaining]
      | calling task =>
        refine .inr ⟨.callTimeout, .callTimeout, ?_, ?_⟩ <;>
          simp [step, callTimeout, hdeadline, hstop, remaining, DeadlineThread.remaining, emit]
    · push Not at hexited
      obtain ⟨wk, hmem, halive⟩ := hexited
      obtain ⟨i, hindex⟩ := mem_iff_getElem?.mp hmem
      exact .inr (worker_progress h hstop hindex halive)
  · refine .inr ⟨.finishInlineTask, .finishInlineTask, hstop, ?_⟩
    simp only [step, finishInlineTask, remaining]
    omega

/-- Whatever the state a stop finds, the threads can finish it; by induction on the
work that is left. -/
lemma stop_completes (h : p.Phases) (hstop : p.lifecycle = .stopping) :
    ∃ events, (∀ e ∈ events, e.IsInternal) ∧ (Library.run step p events).state = .stopped := by
  induction hleft : p.remaining using Nat.strongRecOn generalizing p with
  | ind left ih =>
    rcases stop_progress h hstop with hdone | ⟨e, hinternal, hstill, hless⟩
    · exact ⟨[.finishStop], by simpa using Event.IsInternal.finishStop, hdone⟩
    · obtain ⟨events, hevents, hstopped⟩ :=
        ih _ (hleft ▸ hless) (step_phases h e) hstill rfl
      exact ⟨e :: events, forall_mem_cons.mpr ⟨hinternal, hevents⟩, hstopped⟩

/-! ## Fates -/

/-- How often the task was returned by `take`, expired or was dropped. -/
def fates (pool : ThreadPool) (task : ℕ) : ℕ :=
  (pool.observed returns).count task + (pool.observed expires).count task +
    (pool.observed drops).count task

/-- How often the task is still in the pool, waiting or on its way to a worker. -/
def held (pool : ThreadPool) (task : ℕ) : ℕ :=
  pool.queue.count task + (pool.waiters.map PendingTask.task).count task + pool.carried.count task

lemma Phases.held_of_stopped (h : p.Phases) (hstopped : p.state = .stopped) (task : ℕ) :
    p.held task = 0 ∧ p.callbacksDue = [] := by
  obtain ⟨hexited, hgone⟩ := h.stopped hstopped
  have hqueue : p.queue = [] := by
    rcases hthreads : p.threads with _ | ⟨wk, ts⟩
    · exact (h.threadless hthreads).1
    · have hfirst := hexited wk (by rw [hthreads]; exact mem_cons_self)
      exact (h.exited (by rw [hthreads, hfirst]; exact mem_cons_self)).2
  have hcarried : p.carried = [] :=
    flatMap_eq_nil_iff.mpr fun wk hmem => by rw [hexited wk hmem]; rfl
  have hdue : p.threads.flatMap callbacks = [] :=
    flatMap_eq_nil_iff.mpr fun wk hmem => by rw [hexited wk hmem]; rfl
  refine ⟨?_, ?_⟩
  · simp [held, hqueue, (h.closing (by simp [hstopped])).1, hcarried]
  · unfold callbacksDue
    rcases hgone with habsent | hleft
    · rw [hdue, habsent]
      rfl
    · rw [hdue, hleft]
      rfl

end ThreadPool

lemma eq_of_count_filterMap_le_one {select : Effect → Option ℕ}
    (hcount : (effects.filterMap select).count task ≤ 1) {first second : Effect}
    (hfirst : first ∈ effects) (hsecond : second ∈ effects) (hfirst_eq : select first = some task)
    (hsecond_eq : select second = some task) : first = second := by
  induction effects with
  | nil => cases hfirst
  | cons effect effects ih =>
    have hsome : ∀ y ∈ effects, select y = some task →
        0 < (effects.filterMap select).count task := fun y hmem heq =>
      count_pos_iff.mpr (mem_filterMap.mpr ⟨y, hmem, heq⟩)
    rw [filterMap_cons] at hcount
    rcases mem_cons.mp hfirst with rfl | hfirst_mem <;>
      rcases mem_cons.mp hsecond with rfl | hsecond_mem
    · rfl
    · have hpos := hsome second hsecond_mem hsecond_eq
      simp only [hfirst_eq, count_cons_self] at hcount
      omega
    · have hpos := hsome first hfirst_mem hfirst_eq
      simp only [hsecond_eq, count_cons_self] at hcount
      omega
    · refine ih ?_ hfirst_mem hsecond_mem
      split at hcount
      · exact hcount
      · rw [count_cons] at hcount
        omega

lemma count_expiresWithCallback {onTimeout : Bool}
    (hsame : ∀ pend now, .expired pend now ∈ effects → pend.task = task →
      pend.onTimeout = onTimeout) : (effects.filterMap expiresWithCallback).count task =
      if onTimeout then (effects.filterMap expires).count task else 0 := by
  induction effects with
  | nil => simp
  | cons effect effects ih =>
    have hrest := ih fun pend now hmem => hsame pend now (mem_cons_of_mem _ hmem)
    cases effect with
    | expired pend now =>
      have hfirst := hsame pend now mem_cons_self
      rw [filterMap_cons, filterMap_cons]
      simp only [expiresWithCallback, expires]
      by_cases htask : pend.task = task
      · rw [hfirst htask, count_cons, htask]
        cases onTimeout <;> simp_all
      · cases pend.onTimeout <;> simp [htask, hrest]
    | accepted | acceptedAsync | rejected | calledInline | taken | returned | timedOut
    | dropped =>
      simpa [filterMap_cons, expiresWithCallback, expires] using hrest

namespace ThreadPool

variable {p : ThreadPool}

lemma run_conserved (events : List Event) :
    (Library.run step new events).Phases ∧ (Library.run step new events).Conserved := by
  have hstep : ∀ (p : ThreadPool) e, p.Phases ∧ p.Conserved →
      (p.step e).Phases ∧ (p.step e).Conserved :=
    fun p e h => ⟨step_phases h.1 e, step_conserved h.2 h.1 e⟩
  exact run_invariant hstep ⟨new_phases, new_conserved⟩ events

lemma scheduled_run_le (hphases : p.Phases) (events : List Event) (task : ℕ) :
    p.scheduled task ≤ (Library.run step p events).scheduled task := by
  induction events generalizing p with
  | nil => exact Nat.le_refl _
  | cons e events ih =>
    exact Nat.le_trans (scheduled_step_le hphases e task) (ih (step_phases hphases e))

lemma Conserved.callback_eq (h : p.Conserved) {pend : PendingTask}
    (haccepted : .acceptedAsync pend ∈ p.trace) :
    p.callbacksDue.count pend.task + (p.observed timesOut).count pend.task =
      if pend.onTimeout then (p.observed expires).count pend.task else 0 := by
  have honce : (p.observed accepts).count pend.task ≤ 1 := by
    have hle := h.once pend.task
    split_ifs at hle <;> omega
  rw [← h.callbacks]
  refine count_expiresWithCallback fun y now hmem htask => ?_
  have hother : acceptedAsync y = .acceptedAsync pend :=
    eq_of_count_filterMap_le_one honce (h.late y now hmem).2 haccepted (congrArg some htask) rfl
  cases hother
  rfl

/-- Every task that `submit_async` accepts is in one place, or has met exactly one fate: it was
returned by `take`, it expired, or it was dropped while it waited. A task that has reached the queue
is returned, whatever happens; and a stop can always be finished by the threads. -/
theorem asyncTasks_settle (events : List Event) :
    (∀ pending, .acceptedAsync pending ∈ (Library.run step new events).trace →
      (Library.run step new events).held pending.task +
          (Library.run step new events).fates pending.task = 1 ∧
        (Library.run step new events).callbacksDue.count pending.task +
            ((Library.run step new events).observed timesOut).count pending.task =
          (if pending.onTimeout then
            ((Library.run step new events).observed expires).count pending.task else 0) ∧
        ((Library.run step new events).state = .stopped →
          (Library.run step new events).held pending.task = 0 ∧
            (Library.run step new events).callbacksDue = [])) ∧
    (Library.run step new events).timeouts =
      ((Library.run step new events).observed expires).length ∧
    (∀ pending now, .expired pending now ∈ (Library.run step new events).trace →
      pending.deadline ≤ now ∧ .acceptedAsync pending ∈ (Library.run step new events).trace) ∧
    (∀ early late task, events = early ++ late → task ∈ (Library.run step new early).queue →
      (Library.run step new events).scheduled task = 1 ∧
        ((Library.run step new events).observed expires).count task = 0 ∧
        ((Library.run step new events).observed drops).count task = 0 ∧
        ((Library.run step new events).state = .stopped →
          ((Library.run step new events).observed returns).count task = 1)) ∧
    ((Library.run step new events).lifecycle = .stopping →
      ∃ more, (∀ event ∈ more, event.IsInternal) ∧
        (Library.run step new (events ++ more)).state = .stopped) := by
  obtain ⟨hphases, hconserved⟩ := run_conserved events
  refine ⟨fun pending haccepted => ⟨?_, hconserved.callback_eq haccepted,
    fun hstopped => hphases.held_of_stopped hstopped pending.task⟩, hconserved.timeouts_eq,
    hconserved.late, ?_, fun hstopping => ?_⟩
  · have hplaces := hconserved.places pending.task
    have honce := hconserved.once pending.task
    have hpos : 0 < ((Library.run step new events).observed accepts).count pending.task :=
      count_pos_iff.mpr (mem_filterMap.mpr ⟨_, haccepted, rfl⟩)
    unfold held fates
    split_ifs at honce <;> omega
  · rintro early late task rfl hmem
    have hearly := (run_conserved early).1
    have hle := scheduled_run_le hearly late task
    rw [← run_append] at hle
    have hpos : 0 < (Library.run step new early).queue.count task := count_pos_iff.mpr hmem
    have hplaces := hconserved.places task
    have honce := hconserved.once task
    have honce_le :
        ((Library.run step new (early ++ late)).observed accepts).count task ≤ 1 := by
      split_ifs at honce <;> omega
    unfold scheduled at hle ⊢
    refine ⟨by omega, by omega, by omega, fun hstopped => ?_⟩
    have hheld := (hphases.held_of_stopped hstopped task).1
    unfold held at hheld
    omega
  · obtain ⟨more, hmore, hstopped⟩ := stop_completes hphases hstopping
    exact ⟨more, hmore, by rw [run_append]; exact hstopped⟩

end ThreadPool

end Tlss.Base
