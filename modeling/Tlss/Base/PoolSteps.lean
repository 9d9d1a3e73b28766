import Mathlib.Data.List.Perm.Basic
import Tlss.Base.ThreadPool

/-!
# What the threads of the pool do

A worker that takes a task divides the tasks that wait: some move up, some expire, and
the others wait on because the queue is full again (`take_of_cons`). The thread that
watches the deadlines removes one task, if any (`deadlineLoop_cases`). The invariants
of the pool use these descriptions and not the loops.
-/

namespace Tlss.Base

open List

namespace ThreadPool

variable {p : ThreadPool}

/-- How the loop of `take` divides the waiting tasks: some move up in their order, some
expire, and the others wait on, because the queue is full. -/
structure Divides (waiters : List PendingTask) (queued maxQueueSize : ℕ)
    (moved : List PendingTask) (expired : List (PendingTask × ℤ)) (left : List PendingTask) :
    Prop where
  perm : waiters.Perm (moved ++ expired.map Prod.fst ++ left)
  sublist : (moved ++ left).Sublist waiters
  late : ∀ entry ∈ expired, entry.1.deadline ≤ entry.2
  room : queued ≤ maxQueueSize → queued + moved.length ≤ maxQueueSize
  done : left = [] ∨ maxQueueSize ≤ queued + moved.length

namespace Divides

variable {pend : PendingTask} {waiters moved left : List PendingTask} {queued maxQueueSize : ℕ}
  {expired : List (PendingTask × ℤ)}

lemma expire (h : Divides waiters queued maxQueueSize moved expired left) {now : ℤ}
    (hlate : pend.deadline ≤ now) :
    Divides (pend :: waiters) queued maxQueueSize moved ((pend, now) :: expired) left where
  perm := by
    rw [map_cons, append_assoc, cons_append]
    refine (h.perm.cons pend).trans ?_
    rw [append_assoc]
    exact perm_middle.symm
  sublist := h.sublist.cons pend
  late := forall_mem_cons.mpr ⟨hlate, h.late⟩
  room := h.room
  done := h.done

lemma moveUp (h : Divides waiters (queued + 1) maxQueueSize moved expired left)
    (hroom : queued < maxQueueSize) :
    Divides (pend :: waiters) queued maxQueueSize (pend :: moved) expired left where
  perm := h.perm.cons pend
  sublist := h.sublist.cons_cons pend
  late := h.late
  room _ := by
    have hle := h.room hroom
    rw [length_cons]
    omega
  done := h.done.imp_right fun hfull => by
    rw [length_cons]
    omega

end Divides

def expiries (expired : List (PendingTask × ℤ)) : List Effect :=
  expired.map fun entry => .expired entry.1 entry.2

def expiredCallbacks (expired : List (PendingTask × ℤ)) : List ℕ :=
  expired.filterMap fun entry => if entry.1.onTimeout then some entry.1.task else none

def refilled (pool : ThreadPool) (moved : List PendingTask) (expired : List (PendingTask × ℤ))
    (left : List PendingTask) (clock : ℤ) : ThreadPool :=
  { pool with
    queue := pool.queue ++ moved.map PendingTask.task
    waiters := left
    clock := clock
    timeouts := pool.timeouts + expired.length
    trace := pool.trace ++ expiries expired }

section

variable {pend : PendingTask} {rest : List PendingTask} {delays : List ℕ}

lemma refill_cons_expired (hroom : 0 < p.maxQueueSize ∧ p.queue.length < p.maxQueueSize)
    (hlate : pend.deadline ≤ p.clock + delays.headD 0) :
    refill (pend :: rest) delays p = ((refill rest delays.tail
          (({ p with waiters := rest }.tick (delays.headD 0)).expire pend)).1,
        (if pend.onTimeout then [pend.task] else []) ++ (refill rest delays.tail
          (({ p with waiters := rest }.tick (delays.headD 0)).expire pend)).2) := by
  rw [refill, if_pos hroom]
  exact if_pos hlate

lemma refill_cons_moveUp (hroom : 0 < p.maxQueueSize ∧ p.queue.length < p.maxQueueSize)
    (hearly : ¬ pend.deadline ≤ p.clock + delays.headD 0) : refill (pend :: rest) delays p =
      refill rest delays.tail { { p with waiters := rest }.tick (delays.headD 0) with
        queue := p.queue ++ [pend.task] } := by
  rw [refill, if_pos hroom]
  exact if_neg hearly

end

lemma refill_eq (waiters : List PendingTask) (delays : List ℕ) (p : ThreadPool)
    (hwaiters : p.waiters = waiters) : ∃ moved expired left clock,
      Divides waiters p.queue.length p.maxQueueSize moved expired left ∧ refill waiters delays p =
          (p.refilled moved expired left clock, expiredCallbacks expired) := by
  induction waiters generalizing delays p with
  | nil =>
    refine ⟨[], [], p.waiters, p.clock,
      ⟨by simp [hwaiters], by simp [hwaiters], nofun, id, .inl hwaiters⟩, ?_⟩
    simp [refill, refilled, expiries, expiredCallbacks]
  | cons pend rest ih =>
    by_cases hroom : 0 < p.maxQueueSize ∧ p.queue.length < p.maxQueueSize
    · by_cases hlate : pend.deadline ≤ p.clock + delays.headD 0
      · obtain ⟨moved, expired, left, clock, hdivides, hrefill⟩ := ih delays.tail
          (({ p with waiters := rest }.tick (delays.headD 0)).expire pend) rfl
        refine ⟨moved, _, left, clock, hdivides.expire hlate, ?_⟩
        rw [refill_cons_expired hroom hlate, hrefill]
        cases htimeout : pend.onTimeout <;>
          simp [refilled, expiries, expiredCallbacks, ThreadPool.tick, expire, emit, htimeout,
            Nat.add_assoc, Nat.add_comm 1]
      · obtain ⟨moved, expired, left, clock, hdivides, hrefill⟩ := ih delays.tail
          { { p with waiters := rest }.tick (delays.headD 0) with
            queue := p.queue ++ [pend.task] } rfl
        rw [length_append, length_singleton] at hdivides
        refine ⟨_, expired, left, clock, hdivides.moveUp hroom.2, ?_⟩
        rw [refill_cons_moveUp hroom hlate, hrefill]
        simp [refilled, ThreadPool.tick]
    · have hfull : p.maxQueueSize ≤ p.queue.length := by omega
      refine ⟨[], [], pend :: rest, p.clock, ⟨by simp, by simp, nofun, id, .inr hfull⟩, ?_⟩
      rw [refill, if_neg hroom]
      simp [refilled, expiries, expiredCallbacks, ← hwaiters]

/-- The pool after `take` has found a task in the queue. -/
def taken (pool : ThreadPool) (index task : ℕ) (rest : List ℕ) (moved : List PendingTask)
    (expired : List (PendingTask × ℤ)) (left : List PendingTask) (clock : ℤ) : ThreadPool :=
  { pool with
    queue := rest ++ moved.map PendingTask.task
    waiters := left
    clock := clock
    timeouts := pool.timeouts + expired.length
    threads := pool.threads.set index (.returning (expiredCallbacks expired) task)
    trace := pool.trace ++ .taken task :: expiries expired }

lemma take_of_cons (index : ℕ) {task : ℕ} {rest : List ℕ} (hqueue : p.queue = task :: rest)
    (delays : List ℕ) : ∃ moved expired left clock,
      Divides p.waiters rest.length p.maxQueueSize moved expired left ∧
        p.take index delays = p.taken index task rest moved expired left clock := by
  obtain ⟨moved, expired, left, clock, hdivides, hrefill⟩ := refill_eq p.waiters delays
    ({ p with queue := rest }.emit (.taken task)) rfl
  refine ⟨moved, expired, left, clock, hdivides, ?_⟩
  unfold ThreadPool.take
  simp only [hqueue]
  rw [hrefill]
  simp [ThreadPool.setThread, refilled, emit, taken]

lemma deadlineLoop_cases (p : ThreadPool) (delay : ℕ) : p.deadlineLoop delay = p ∨
      p.deadlineThread = .waiting ∧ p.state ≠ .running ∧
        p.deadlineLoop delay = { p with deadlineThread := .exited } ∨
      p.deadlineLoop delay = p.tick delay ∨
      ∃ earliest left, p.deadlineThread = .waiting ∧ p.state = .running ∧
        p.waiters.Perm (earliest :: left) ∧ left.Sublist p.waiters ∧
        earliest.deadline ≤ p.clock + delay ∧
        p.deadlineLoop delay =
          { (p.tick delay).expire earliest with
            waiters := left
            deadlineThread :=
              if earliest.onTimeout then .calling earliest.task else .waiting } := by
  by_cases hbusy : p.deadlineThread = .waiting
  · by_cases hrunning : p.state = .running
    · unfold deadlineLoop
      rw [if_neg (not_not.mpr hbusy), if_neg (not_not.mpr hrunning)]
      split
      · exact .inl rfl
      · rename_i earliest hearliest
        by_cases hearly : (p.tick delay).clock < earliest.deadline
        · exact .inr (.inr (.inl (if_pos hearly)))
        · obtain ⟨hlt, heq⟩ := List.getElem?_eq_some_iff.mp hearliest
          refine .inr (.inr (.inr ⟨earliest, _, hbusy, hrunning, ?_, eraseIdx_sublist _ _,
            Int.not_lt.mp hearly, if_neg hearly⟩))
          exact heq ▸ (getElem_cons_eraseIdx_perm hlt).symm
    · refine .inr (.inl ⟨hbusy, hrunning, ?_⟩)
      rw [deadlineLoop, if_neg (not_not.mpr hbusy), if_pos hrunning]
  · exact .inl (if_pos hbusy)

end ThreadPool

end Tlss.Base
