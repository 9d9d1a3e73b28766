import Tlss.Base.PoolSteps

/-!
# The phases of the pool

A pool that is not running has no task that waits and no worker that sleeps. A worker
leaves only when the queue is empty and the pool is not running; from then on nothing
enters the queue. So a pool that has stopped has an empty queue.
-/

namespace Tlss.Base

open Library List

/-! ## Lists of workers -/

variable {ts : List Worker} {c : ℕ}

lemma notifyOne_eq_nil : notifyOne ts c = [] ↔ ts = [] := by
  unfold notifyOne
  split_ifs
  · exact set_eq_nil_iff _ _
  · cases ts with
    | nil => simp [notifyFirst]
    | cons wk ts => cases wk <;> simp [notifyFirst]

lemma exited_mem_notifyFirst (hmem : .exited ∈ notifyFirst ts) : .exited ∈ ts := by
  induction ts with
  | nil => exact hmem
  | cons wk ts ih =>
    cases wk with
    | asleep => simpa [notifyFirst] using hmem
    | exited => exact mem_cons_self
    | entering | notified | returning | executing =>
      simp only [notifyFirst, mem_cons, reduceCtorEq, false_or] at hmem
      exact mem_cons_of_mem _ (ih hmem)

lemma exited_mem_notifyOne (hmem : .exited ∈ notifyOne ts c) : .exited ∈ ts := by
  unfold notifyOne at hmem
  split_ifs at hmem
  · exact (mem_or_eq_of_mem_set hmem).resolve_right nofun
  · exact exited_mem_notifyFirst hmem

lemma exited_mem_map_notify (hmem : .exited ∈ ts.map Worker.notify) : .exited ∈ ts := by
  obtain ⟨wk, hworker, heq⟩ := mem_map.mp hmem
  cases wk <;> cases heq
  exact hworker

lemma asleep_notMem_map_notify (ts : List Worker) : .asleep ∉ ts.map Worker.notify := by
  intro hmem
  obtain ⟨wk, -, heq⟩ := mem_map.mp hmem
  cases wk <;> cases heq

namespace ThreadPool

/-- The thread of `deadline_loop` is not there or has left. -/
def DeadlineThreadGone (pool : ThreadPool) : Prop :=
  pool.deadlineThread = .absent ∨ pool.deadlineThread = .exited

/-- What the state of the pool says of its threads and queues. -/
structure Phases (pool : ThreadPool) : Prop where
  created : pool.state = .created → pool.threads = [] ∧ pool.deadlineThread = .absent
  threadless : pool.threads = [] → pool.queue = [] ∧ pool.waiters = []
  closing : pool.state ≠ .running → pool.waiters = [] ∧ .asleep ∉ pool.threads
  exited : .exited ∈ pool.threads → pool.state ≠ .running ∧ pool.queue = []
  stopped : pool.state = .stopped →
    (∀ worker ∈ pool.threads, worker = .exited) ∧ pool.DeadlineThreadGone
  stopping : pool.lifecycle = .stopping → pool.state = .stopping
  starting : pool.lifecycle = .starting → pool.state = .running ∧ pool.threads = []
  blocked : pool.runners ≠ [] → pool.threads ≠ []

variable {p later : ThreadPool}

lemma new_phases : new.Phases := by
  constructor <;> simp [new, DeadlineThreadGone]

section

variable (h : p.Phases)
include h

/-- The thread of `deadline_loop` goes on; it was there before. -/
lemma Phases.setDeadlineThread (hthere : ¬ p.DeadlineThreadGone) (thread : DeadlineThread)
    (trace : List Effect) : { p with deadlineThread := thread, trace := trace }.Phases :=
  { h with
    created := fun hcreated => absurd (.inl (h.created hcreated).2) hthere
    stopped := fun hstopped => absurd (h.stopped hstopped).2 hthere }

lemma Phases.of_running (hrun : p.state = .running)
    (hthreads : p.threads ≠ []) (hst : later.state = p.state)
    (hlifecycle : later.lifecycle = p.lifecycle) (hstill : later.threads ≠ [])
    (hexited : .exited ∈ later.threads → .exited ∈ p.threads) : later.Phases := by
  have hlater : later.state = .running := hst.trans hrun
  have hnone : .exited ∉ later.threads := fun hmem => (h.exited (hexited hmem)).1 hrun
  constructor
  · simp [hlater]
  · exact fun hnil => absurd hnil hstill
  · exact fun hnot => absurd hlater hnot
  · exact fun hmem => absurd hmem hnone
  · simp [hlater]
  · intro hstopping
    have hbefore := h.stopping (hlifecycle ▸ hstopping)
    simp [hrun] at hbefore
  · exact fun hstarting => absurd (h.starting (hlifecycle ▸ hstarting)).2 hthreads
  · exact fun _ => hstill

lemma Phases.setThread {i : ℕ} {old wk : Worker} (hold : p.threads[i]? = some old)
    (halive : old ≠ .exited) (hexited : wk = .exited → p.state ≠ .running ∧ p.queue = [])
    (hasleep : wk = .asleep → p.state = .running) : (p.setThread i wk).Phases where
  created hcreated := by simp [(h.created hcreated).1] at hold
  threadless hnil := by
    rw [ThreadPool.setThread, set_eq_nil_iff] at hnil
    simp [hnil] at hold
  closing hnot := by
    refine ⟨(h.closing hnot).1, fun hmem => ?_⟩
    rcases mem_or_eq_of_mem_set hmem with hbefore | hnew
    · exact (h.closing hnot).2 hbefore
    · exact hnot (hasleep hnew.symm)
  exited hmem := by
    rcases mem_or_eq_of_mem_set hmem with hbefore | hnew
    · exact h.exited hbefore
    · exact hexited hnew.symm
  stopped hstopped :=
    absurd ((h.stopped hstopped).1 old (mem_of_getElem? hold)) halive
  stopping := h.stopping
  starting hstarting := by simp [(h.starting hstarting).2] at hold
  blocked hrunners := mt (set_eq_nil_iff _ _).mp (h.blocked hrunners)

lemma Phases.take {i : ℕ} {old : Worker}
    (hold : p.threads[i]? = some old) (halive : old ≠ .exited) (delays : List ℕ) :
    (p.take i delays).Phases := by
  cases hqueue : p.queue with
  | nil =>
    unfold ThreadPool.take
    simp only [hqueue]
    split_ifs with hrun
    · exact h.setThread hold halive nofun fun _ => hrun
    · exact h.setThread hold halive (fun _ => ⟨hrun, hqueue⟩) nofun
  | cons task rest =>
    obtain ⟨moved, expired, left, clock, hdivides, htake⟩ := take_of_cons i hqueue delays
    rw [htake]
    have hset : (p.setThread i (.returning (expiredCallbacks expired) task)).Phases :=
      h.setThread hold halive nofun nofun
    exact
      { hset with
        threadless := fun hnil => by
          rw [taken, set_eq_nil_iff] at hnil
          simp [hnil] at hold
        closing := fun hnot => by
          refine ⟨?_, (hset.closing hnot).2⟩
          have hleft := (sublist_append_right moved left).trans hdivides.sublist
          rw [(h.closing hnot).1] at hleft
          exact sublist_nil.mp hleft
        exited := fun hmem => by
          have hempty : p.queue = [] := (hset.exited hmem).2
          rw [hqueue] at hempty
          cases hempty }

/-! ## Steps -/

lemma Phases.start (ts : ℕ) (hasInit : Bool) (failure : Option ℕ) :
    (p.start ts hasInit failure).Phases := by
  unfold ThreadPool.start
  by_cases href : p.lifecycle ≠ .free ∨ p.state ≠ .created
  · rwa [if_pos href]
  · rw [if_neg href]
    rw [not_or, not_not, not_not] at href
    obtain ⟨hfree, hcreated⟩ := href
    have hempty := h.threadless (h.created hcreated).1
    have hrunners : p.runners = [] :=
      not_not.mp (mt h.blocked (not_not.mpr (h.created hcreated).1))
    have hentering : ∀ (n : ℕ) (wk : Worker), wk ∈ replicate n Worker.entering →
        wk = .entering := fun n wk hmem => eq_of_mem_replicate hmem
    cases failure with
    | some started =>
      constructor
      · simp
      · exact fun _ => hempty
      · exact fun _ => ⟨hempty.2, fun hmem => nomatch hentering _ _ hmem⟩
      · exact fun hmem => nomatch hentering _ _ hmem
      · simp
      · exact fun _ => rfl
      · simp
      · exact fun hne => absurd hrunners hne
    | none =>
      constructor
      · simp
      · exact fun _ => hempty
      · exact fun hnot => absurd rfl hnot
      · exact fun hmem => nomatch hentering _ _ hmem
      · simp
      · split_ifs <;> simp
      · dsimp only
        split_ifs with hinit
        · simp [hinit.1]
        · simp
      · exact fun hne => absurd hrunners hne

lemma Phases.initReturns (throws : Bool) : (p.initReturns throws).Phases := by
  unfold ThreadPool.initReturns
  by_cases hother : p.lifecycle ≠ .starting
  · rwa [if_pos hother]
  · rw [if_neg hother]
    obtain ⟨hrun, hthreads⟩ := h.starting (not_not.mp hother)
    have hempty := h.threadless hthreads
    have hrunners : p.runners = [] := not_not.mp (mt h.blocked (not_not.mpr hthreads))
    cases throws with
    | false => constructor <;> simp [hrun, hthreads, hempty, hrunners]
    | true => constructor <;> simp [hthreads, hempty, hrunners]

lemma Phases.stop : p.stop.Phases := by
  unfold ThreadPool.stop
  split_ifs
  · exact h
  · constructor
    · simp
    · intro hnil
      exact ⟨(h.threadless (map_eq_nil_iff.mp hnil)).1, rfl⟩
    · exact fun _ => ⟨rfl, asleep_notMem_map_notify _⟩
    · exact fun hmem => ⟨nofun, (h.exited (exited_mem_map_notify hmem)).2⟩
    · simp
    · exact fun _ => rfl
    · simp
    · exact fun hne => mt map_eq_nil_iff.mp (h.blocked hne)

lemma Phases.finishStop : p.finishStop.Phases := by
  unfold ThreadPool.finishStop
  split_ifs with hdone
  · obtain ⟨hstopping, -, hexited, hgone⟩ := hdone
    have hst := h.stopping hstopping
    have hnot : p.state ≠ .running := by simp [hst]
    exact
      { created := nofun
        threadless := h.threadless
        closing := fun _ => h.closing hnot
        exited := fun hmem => ⟨nofun, (h.exited hmem).2⟩
        stopped := fun _ => ⟨hexited, hgone⟩
        stopping := nofun
        starting := nofun
        blocked := h.blocked }
  · exact h

lemma Phases.submitAsync (delay : ℕ) (deadline : ℤ) (onTimeout : Bool)
    (c : ℕ) : (p.submitAsync delay deadline onTimeout c).Phases := by
  unfold ThreadPool.submitAsync
  dsimp only
  split_ifs with href
  · exact { h with }
  · exact { h with }
  all_goals rw [not_or, not_not] at href
  · exact h.of_running href.1 href.2 rfl rfl (mt notifyOne_eq_nil.mp href.2) exited_mem_notifyOne
  · exact { h with }
  · exact h.of_running href.1 href.2 rfl rfl href.2 id

lemma Phases.tryRun (c : ℕ) : (p.tryRun c).Phases := by
  unfold ThreadPool.tryRun
  split_ifs with hst hthreads
  · exact { h with }
  · exact { h with }
  · exact { h with }
  · exact h.of_running (not_not.mp hst) hthreads rfl rfl (mt notifyOne_eq_nil.mp hthreads)
      exited_mem_notifyOne

lemma Phases.run (nested : Bool) (c : ℕ) : (p.run nested c).Phases := by
  unfold ThreadPool.run
  split_ifs with hst hthreads
  · exact { h with }
  · exact { h with }
  · exact { h with }
  · exact { h with blocked := fun _ => hthreads }
  · exact h.of_running (not_not.mp hst) hthreads rfl rfl (mt notifyOne_eq_nil.mp hthreads)
      exited_mem_notifyOne

lemma Phases.wakeRunner (task c : ℕ) : (p.wakeRunner task c).Phases := by
  unfold ThreadPool.wakeRunner
  split_ifs with hmem hst hfull
  · exact { h with blocked := fun _ => h.blocked (ne_nil_of_mem hmem) }
  · exact h
  · have hthreads := h.blocked (ne_nil_of_mem hmem)
    exact h.of_running (not_not.mp hst) hthreads rfl rfl (mt notifyOne_eq_nil.mp hthreads)
      exited_mem_notifyOne
  · exact h

lemma Phases.enterTake (i : ℕ) (delays : List ℕ) : (p.enterTake i delays).Phases := by
  unfold ThreadPool.enterTake
  split
  · rename_i hold
    exact h.take hold nofun delays
  · rename_i hold
    exact h.take hold nofun delays
  · exact h

lemma Phases.emit (effect : Effect) : (p.emit effect).Phases :=
  { h with }

lemma Phases.deadlineLoop (delay : ℕ) : (p.deadlineLoop delay).Phases := by
  rcases p.deadlineLoop_cases delay with heq | ⟨hbusy, -, heq⟩ | heq |
    ⟨earliest, left, hbusy, hrun, hperm, -, -, heq⟩
  · rwa [heq]
  · rw [heq]
    exact h.setDeadlineThread (by simp [DeadlineThreadGone, hbusy]) _ _
  · rw [heq]
    exact { h with }
  · rw [heq]
    have hthreads : p.threads ≠ [] := fun hnil => by
      rw [(h.threadless hnil).2] at hperm
      exact not_perm_nil_cons _ _ hperm
    exact h.of_running hrun hthreads rfl rfl hthreads id

lemma Phases.callTimeout : p.callTimeout.Phases := by
  unfold ThreadPool.callTimeout
  split
  · rename_i task hcalling
    exact h.setDeadlineThread (by simp [DeadlineThreadGone, hcalling]) _ _
  · exact h

lemma step_phases (event : Event) : (p.step event).Phases := by
  cases event with
  | setMaxQueueSize size | setMaxWaitQueueSize size =>
    simp only [step, setMaxQueueSize, setMaxWaitQueueSize]
    split_ifs
    · exact h
    · exact { h with }
  | start ts hasInit failure => exact h.start ts hasInit failure
  | initReturns throws => exact h.initReturns throws
  | submitAsync delay deadline onTimeout c =>
    exact h.submitAsync delay deadline onTimeout c
  | tryRun c => exact h.tryRun c
  | run nested c => exact h.run nested c
  | wakeRunner task c => exact h.wakeRunner task c
  | finishInlineTask => exact { h with }
  | enterTake i delays => exact h.enterTake i delays
  | wakeWorker i | finishTask i =>
    simp only [step, wakeWorker, finishTask]
    split
    · rename_i hold
      exact h.setThread hold nofun nofun nofun
    · exact h
  | callExpired i | returnTask i =>
    simp only [step, callExpired, returnTask]
    split
    · rename_i hold
      refine Phases.emit ?_ _
      exact h.setThread hold nofun nofun nofun
    · exact h
  | deadlineLoop delay => exact h.deadlineLoop delay
  | callTimeout => exact h.callTimeout
  | stop => exact h.stop
  | finishStop => exact h.finishStop

end

end ThreadPool

end Tlss.Base
