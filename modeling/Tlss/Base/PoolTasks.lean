import Tlss.Base.PoolPhases

/-!
# Where the tasks of the pool are

A task that was accepted is in one place: in the queue, among the waiting tasks, with
a worker that is about to return it from `take`, or it has met its fate and was
returned, expired or was dropped. `Conserved` states this as an equation between
counts, and likewise for the callbacks of expired tasks, which are with the thread
that found them expired until they are called. Every step keeps both equations.
-/

namespace Tlss.Base

open Library List Function Effect Worker PendingTask

/-! ## Observations -/

namespace Effect

def accepts : Effect → Option ℕ
  | .accepted task => some task
  | .acceptedAsync pending => some pending.task
  | _ => none

def takes : Effect → Option ℕ
  | .taken task => some task
  | _ => none

def returns : Effect → Option ℕ
  | .returned task => some task
  | _ => none

def expires : Effect → Option ℕ
  | .expired pending _ => some pending.task
  | _ => none

def drops : Effect → Option ℕ
  | .dropped task => some task
  | _ => none

def expiresWithCallback : Effect → Option ℕ
  | .expired pending _ => if pending.onTimeout then some pending.task else none
  | _ => none

def timesOut : Effect → Option ℕ
  | .timedOut task => some task
  | _ => none

end Effect

/-- The task a worker is about to return from `take`. -/
def Worker.carries : Worker → List ℕ
  | .returning _ task => [task]
  | _ => []

def Worker.callbacks : Worker → List ℕ
  | .returning callbacks _ => callbacks
  | _ => []

def DeadlineThread.callbacks : DeadlineThread → List ℕ
  | .calling task => [task]
  | _ => []

variable {old : Worker} {f : Worker → List ℕ} {i : ℕ} {ts : List Worker}

lemma count_flatMap_set (hold : ts[i]? = some old) (f : Worker → List ℕ) (new : Worker) (t : ℕ) :
    ((ts.set i new).flatMap f).count t + (f old).count t =
      (ts.flatMap f).count t + (f new).count t := by
  induction ts generalizing i with
  | nil => cases hold
  | cons wk ts ih =>
    cases i with
    | zero =>
      cases hold
      simp only [set_cons_zero, flatMap_cons, count_append]
      omega
    | succ i =>
      have hrest := ih hold
      simp only [set_cons_succ, flatMap_cons, count_append]
      omega

lemma flatMap_notifyFirst (ts : List Worker)
    (hf : f .notified = f .asleep) : (notifyFirst ts).flatMap f = ts.flatMap f := by
  induction ts with
  | nil => rfl
  | cons wk ts ih =>
    cases wk <;> simp [notifyFirst, hf, ih]

lemma flatMap_set_of_eq {old new : Worker} (hold : ts[i]? = some old) (hf : f new = f old) :
    (ts.set i new).flatMap f = ts.flatMap f := by
  induction ts generalizing i with
  | nil => rfl
  | cons wk ts ih =>
    cases i with
    | zero =>
      cases hold
      simp [hf]
    | succ i => simp [ih hold]

lemma flatMap_notifyOne (ts : List Worker) (c : ℕ)
    (hf : f .notified = f .asleep) : (notifyOne ts c).flatMap f = ts.flatMap f := by
  unfold notifyOne
  split_ifs with hchosen
  · exact flatMap_set_of_eq hchosen hf
  · exact flatMap_notifyFirst ts hf

lemma flatMap_map_notify (ts : List Worker)
    (hf : f .notified = f .asleep) : (ts.map notify).flatMap f = ts.flatMap f := by
  induction ts with
  | nil => rfl
  | cons wk ts ih =>
    cases wk <;> simp [notify, hf, ih]

namespace ThreadPool

def observed (pool : ThreadPool) (select : Effect → Option ℕ) : List ℕ :=
  pool.trace.filterMap select

def carried (pool : ThreadPool) : List ℕ :=
  pool.threads.flatMap carries

def callbacksDue (pool : ThreadPool) : List ℕ :=
  pool.threads.flatMap callbacks ++ pool.deadlineThread.callbacks

/-- Every accepted task and every callback of an expired task is in one place. -/
structure Conserved (pool : ThreadPool) : Prop where
  places : ∀ task, (pool.observed accepts).count task =
    pool.queue.count task + (pool.waiters.map PendingTask.task).count task +
      pool.carried.count task + (pool.observed returns).count task +
      (pool.observed expires).count task + (pool.observed drops).count task
  once : ∀ task, (pool.observed accepts).count task + pool.runners.count task ≤
    if task < pool.submitted then 1 else 0
  callbacks : ∀ task, (pool.observed expiresWithCallback).count task =
    pool.callbacksDue.count task + (pool.observed timesOut).count task
  timeouts_eq : pool.timeouts = (pool.observed expires).length
  waiting : ∀ pending ∈ pool.waiters, .acceptedAsync pending ∈ pool.trace
  late : ∀ pending now, .expired pending now ∈ pool.trace →
    pending.deadline ≤ now ∧ .acceptedAsync pending ∈ pool.trace

variable {p later : ThreadPool} {effects : List Effect}

lemma new_conserved : new.Conserved := by
  constructor <;> simp [new, observed, carried, callbacksDue, DeadlineThread.callbacks]

lemma observed_append (htrace : later.trace = p.trace ++ effects) (select : Effect → Option ℕ) :
    later.observed select = p.observed select ++ effects.filterMap select := by
  unfold observed
  rw [htrace, filterMap_append]

section

variable (h : p.Conserved)
include h

/-- What a step must show: how the effects it emits and its changes balance. -/
lemma Conserved.of_effects (htrace : later.trace = p.trace ++ effects)
    (hplaces : ∀ t, (effects.filterMap accepts).count t + p.queue.count t +
        (p.waiters.map task).count t + p.carried.count t =
      later.queue.count t + (later.waiters.map task).count t +
        later.carried.count t + (effects.filterMap returns).count t +
        (effects.filterMap expires).count t + (effects.filterMap drops).count t)
    (honce : ∀ t, (effects.filterMap accepts).count t + later.runners.count t +
        (if t < p.submitted then 1 else 0) ≤
      p.runners.count t + if t < later.submitted then 1 else 0)
    (hcallbacks : ∀ t, (effects.filterMap expiresWithCallback).count t +
        p.callbacksDue.count t =
      later.callbacksDue.count t + (effects.filterMap timesOut).count t)
    (htimeouts : later.timeouts = p.timeouts + (effects.filterMap expires).length)
    (hwaiting : ∀ pend ∈ later.waiters, pend ∈ p.waiters ∨ .acceptedAsync pend ∈ effects)
    (hlate : ∀ pend now, .expired pend now ∈ effects →
      pend.deadline ≤ now ∧ pend ∈ p.waiters) : later.Conserved := by
  constructor
  · intro t
    have hbefore := h.places t
    have hbalance := hplaces t
    simp only [observed_append htrace, count_append]
    omega
  · intro t
    have hbefore := h.once t
    have hbalance := honce t
    simp only [observed_append htrace, count_append]
    omega
  · intro t
    have hbefore := h.callbacks t
    have hbalance := hcallbacks t
    simp only [observed_append htrace, count_append]
    omega
  · rw [htimeouts, observed_append htrace, length_append, h.timeouts_eq]
  · intro pend hmem
    rw [htrace, mem_append]
    exact (hwaiting pend hmem).imp_left (h.waiting pend)
  · intro pend now hmem
    rw [htrace, mem_append] at hmem ⊢
    rcases hmem with hold | hnew
    · exact ⟨(h.late pend now hold).1, .inl (h.late pend now hold).2⟩
    · exact ⟨(hlate pend now hnew).1, .inl (h.waiting pend (hlate pend now hnew).2)⟩

omit h in
lemma once_of_none (hnone : effects.filterMap accepts = [])
    (hrunners : later.runners = p.runners) (hsubmitted : later.submitted = p.submitted)
    (t : ℕ) : (effects.filterMap accepts).count t + later.runners.count t +
        (if t < p.submitted then 1 else 0) ≤
      p.runners.count t + if t < later.submitted then 1 else 0 := by
  refine Nat.le_of_eq ?_
  rw [hnone, hrunners, hsubmitted, count_nil, Nat.zero_add]

/-- Threads move without a task or a callback, calls come in, and callers give up. -/
lemma Conserved.quiet (htrace : later.trace = p.trace)
    (hqueue : later.queue = p.queue) (hwaiters : later.waiters = p.waiters)
    (hcarried : later.carried = p.carried) (hdue : later.callbacksDue = p.callbacksDue)
    (hrunners : later.runners.Sublist p.runners) (hsubmitted : p.submitted ≤ later.submitted)
    (htimeouts : later.timeouts = p.timeouts) : later.Conserved := by
  rw [← append_nil p.trace] at htrace
  refine h.of_effects htrace ?_ (fun t => ?_) ?_ htimeouts ?_ nofun
  · simp [hqueue, hwaiters, hcarried]
  · have hle := hrunners.count_le t
    simp only [filterMap_nil, count_nil]
    split_ifs <;> omega
  · simp [hdue]
  · exact fun pend hmem => .inl (hwaiters ▸ hmem)

lemma Conserved.note {effect : Effect}
    (heffect : ∃ t, effect = .rejected t ∨ effect = .calledInline t) :
    (p.emit effect).Conserved := by
  have hsilent : effect.accepts = none ∧ effect.returns = none ∧ effect.expires = none ∧
      effect.drops = none ∧ effect.expiresWithCallback = none ∧ effect.timesOut = none := by
    obtain ⟨t, rfl | rfl⟩ := heffect <;> exact ⟨rfl, rfl, rfl, rfl, rfl, rfl⟩
  obtain ⟨haccepts, hreturns, hexpires, hdrops, hdueNone, htimesOut⟩ := hsilent
  refine h.of_effects rfl ?_ (once_of_none (by simp [haccepts]) rfl rfl) ?_ ?_
    (fun pend hmem => .inl hmem) ?_
  · simp [haccepts, hreturns, hexpires, hdrops, emit, carried]
  · simp [hdueNone, htimesOut, emit, callbacksDue]
  · simp [hexpires, emit]
  · intro pend now hmem
    rw [mem_singleton] at hmem
    subst hmem
    cases hexpires

lemma Conserved.reject (t : ℕ) : (p.reject t).Conserved := by
  have hcounted : { p with rejected := p.rejected + 1 }.Conserved :=
    { h with }
  exact hcounted.note ⟨t, .inl rfl⟩

lemma Conserved.callInline (t : ℕ) : (p.callInline t).Conserved := by
  have hcounted : { p with activeInlineTasks := p.activeInlineTasks + 1 }.Conserved :=
    { h with }
  exact hcounted.note ⟨t, .inr rfl⟩

lemma Conserved.tick (delay : ℕ) : (p.tick delay).Conserved :=
  { h with }

lemma Conserved.called : { p with submitted := p.submitted + 1 }.Conserved :=
  h.quiet rfl rfl rfl rfl rfl (.refl _) (Nat.le_succ _) rfl

lemma Conserved.accept {effect : Effect} {t : ℕ}
    (heffect : effect = .accepted t ∨ ∃ pend, pend.task = t ∧
      effect = .acceptedAsync pend) (htrace : later.trace = p.trace ++ [effect])
    (hplace : later.queue = p.queue ++ [t] ∧ later.waiters = p.waiters ∨
      later.queue = p.queue ∧ ∃ pend, pend.task = t ∧
        later.waiters = p.waiters ++ [pend] ∧ effect = .acceptedAsync pend)
    (hcarried : later.carried = p.carried) (hdue : later.callbacksDue = p.callbacksDue)
    (honce : ∀ j, [t].count j + later.runners.count j + (if j < p.submitted then 1 else 0) ≤
      p.runners.count j + if j < later.submitted then 1 else 0)
    (htimeouts : later.timeouts = p.timeouts) : later.Conserved := by
  have hselect : effect.accepts = some t ∧ effect.returns = none ∧ effect.expires = none ∧
      effect.drops = none ∧ effect.expiresWithCallback = none ∧ effect.timesOut = none := by
    obtain rfl | ⟨pend, rfl, rfl⟩ := heffect <;> exact ⟨rfl, rfl, rfl, rfl, rfl, rfl⟩
  obtain ⟨haccepts, hreturns, hexpires, hdrops, hdueNone, htimesOut⟩ := hselect
  refine h.of_effects htrace (fun j => ?_) (fun j => ?_) ?_ ?_ ?_ ?_
  · simp only [filterMap_cons_some haccepts, filterMap_cons_none hreturns,
      filterMap_cons_none hexpires, filterMap_cons_none hdrops, filterMap_nil,
      count_nil, hcarried]
    obtain ⟨hqueue, hwaiters⟩ | ⟨hqueue, pend, rfl, hwaiters, -⟩ := hplace
    · rw [hqueue, hwaiters, count_append]
      omega
    · rw [hqueue, hwaiters, map_append, count_append, map_singleton]
      omega
  · simpa only [filterMap_cons_some haccepts, filterMap_nil] using honce j
  · simp [hdueNone, htimesOut, hdue]
  · simp [hexpires, htimeouts]
  · intro pend hmem
    obtain ⟨-, hwaiters⟩ | ⟨-, entered, -, hwaiters, rfl⟩ := hplace
    · exact .inl (hwaiters ▸ hmem)
    · rw [hwaiters, mem_append, mem_singleton] at hmem
      exact hmem.imp_right (by rintro rfl; exact mem_singleton_self _)
  · intro pend now hmem
    rw [mem_singleton] at hmem
    subst hmem
    cases hexpires

omit h in
lemma once_submitted (p : ThreadPool) (j : ℕ) :
    [p.submitted].count j + p.runners.count j + (if j < p.submitted then 1 else 0) ≤
      p.runners.count j + if j < p.submitted + 1 then 1 else 0 := by
  rw [count_singleton]
  simp only [beq_iff_eq]
  split_ifs <;> omega

omit h in
lemma once_runner {t : ℕ} (hmem : t ∈ p.runners) (j : ℕ) :
    [t].count j + (p.runners.erase t).count j + (if j < p.submitted then 1 else 0) ≤
      p.runners.count j + if j < p.submitted then 1 else 0 := by
  have hcount := (perm_cons_erase hmem).count_eq j
  rw [← singleton_append, count_append] at hcount
  omega

/-! ## Submission -/

omit h in
@[simp] lemma carried_push (p : ThreadPool) (t c : ℕ) : (p.push t c).carried = p.carried :=
  flatMap_notifyOne p.threads c rfl

omit h in
@[simp] lemma callbacksDue_push (p : ThreadPool) (t c : ℕ) :
    (p.push t c).callbacksDue = p.callbacksDue := by
  unfold callbacksDue push
  rw [flatMap_notifyOne p.threads c rfl]

lemma Conserved.submitAsync (delay : ℕ) (deadline : ℤ) (onTimeout : Bool)
    (c : ℕ) : (p.submitAsync delay deadline onTimeout c).Conserved := by
  unfold ThreadPool.submitAsync
  dsimp only
  split_ifs
  · exact h.called.reject _
  · exact (h.called.tick delay).reject _
  · exact h.accept (.inr ⟨_, rfl, rfl⟩) rfl (.inl ⟨rfl, rfl⟩) (carried_push _ _ _)
      (callbacksDue_push _ _ _) (once_submitted p) rfl
  · exact (h.called.tick delay).reject _
  · exact h.accept (.inr ⟨_, rfl, rfl⟩) rfl (.inr ⟨rfl, _, rfl, rfl, rfl⟩) rfl rfl
      (once_submitted p) rfl

lemma Conserved.tryRun (c : ℕ) : (p.tryRun c).Conserved := by
  unfold ThreadPool.tryRun
  split_ifs
  · exact h.called.reject _
  · exact h.called.callInline _
  · exact h.called.reject _
  · exact h.accept (.inl rfl) rfl (.inl ⟨rfl, rfl⟩) (carried_push _ _ _)
      (callbacksDue_push _ _ _) (once_submitted p) rfl

lemma Conserved.run (nested : Bool) (c : ℕ) : (p.run nested c).Conserved := by
  unfold ThreadPool.run
  split_ifs
  · exact h.called.reject _
  · exact h.called.callInline _
  · exact h.called.reject _
  · -- the caller waits; its number is new among those that wait and those accepted
    have htrace : p.trace = p.trace ++ [] := (append_nil _).symm
    refine h.of_effects htrace (fun _ => by simp [carried]) (fun t => ?_)
      (fun _ => by simp [callbacksDue]) rfl (fun pend hmem => .inl hmem) nofun
    have honce := once_submitted p t
    simp only [filterMap_nil, count_nil, count_append]
    omega
  · exact h.accept (.inl rfl) rfl (.inl ⟨rfl, rfl⟩) (carried_push _ _ _)
      (callbacksDue_push _ _ _) (once_submitted p) rfl

lemma Conserved.wakeRunner (t c : ℕ) : (p.wakeRunner t c).Conserved := by
  unfold ThreadPool.wakeRunner
  split_ifs with hmem
  · have hleft : { p with runners := p.runners.erase t }.Conserved :=
      h.quiet rfl rfl rfl rfl rfl erase_sublist (Nat.le_refl _) rfl
    exact hleft.reject t
  · exact h
  · exact h.accept (.inl rfl) rfl (.inl ⟨rfl, rfl⟩) (carried_push _ _ _)
      (callbacksDue_push _ _ _) (once_runner hmem) rfl
  · exact h

/-! ## Expiry -/

section

variable (p) (effect : Effect) (i : ℕ) (wk : Worker)

omit h in
@[simp] lemma queue_emit : (p.emit effect).queue = p.queue := rfl

omit h in
@[simp] lemma waiters_emit : (p.emit effect).waiters = p.waiters := rfl

omit h in
@[simp] lemma carried_emit : (p.emit effect).carried = p.carried := rfl

omit h in
@[simp] lemma callbacksDue_emit : (p.emit effect).callbacksDue = p.callbacksDue := rfl

omit h in
@[simp] lemma queue_setThread : (p.setThread i wk).queue = p.queue := rfl

omit h in
@[simp] lemma waiters_setThread : (p.setThread i wk).waiters = p.waiters := rfl

end

omit h in
lemma carried_setThread (hold : p.threads[i]? = some old) (wk : Worker) (t : ℕ) :
    (p.setThread i wk).carried.count t + old.carries.count t =
      p.carried.count t + wk.carries.count t :=
  count_flatMap_set hold carries wk t

omit h in
lemma callbacksDue_setThread (hold : p.threads[i]? = some old) (wk : Worker) (t : ℕ) :
    (p.setThread i wk).callbacksDue.count t + old.callbacks.count t =
      p.callbacksDue.count t + wk.callbacks.count t := by
  have hcount := count_flatMap_set hold callbacks wk t
  simp only [callbacksDue, setThread, count_append]
  omega

lemma Conserved.setThread {old wk : Worker}
    (hold : p.threads[i]? = some old) (hcarries : wk.carries = old.carries)
    (hcallbacks : wk.callbacks = old.callbacks) : (p.setThread i wk).Conserved := by
  refine h.quiet rfl rfl rfl ?_ ?_ (.refl _) (Nat.le_refl _) rfl
  · exact flatMap_set_of_eq hold hcarries
  · simp only [callbacksDue, ThreadPool.setThread]
    rw [flatMap_set_of_eq hold hcallbacks]

section

variable (expired : List (PendingTask × ℤ))

omit h in
@[simp] lemma filterMap_accepts_expiries : (expiries expired).filterMap accepts = [] := by
  simp [expiries, filterMap_map, comp_def, accepts]

omit h in
@[simp] lemma filterMap_returns_expiries : (expiries expired).filterMap returns = [] := by
  simp [expiries, filterMap_map, comp_def, returns]

omit h in
@[simp] lemma filterMap_drops_expiries : (expiries expired).filterMap drops = [] := by
  simp [expiries, filterMap_map, comp_def, drops]

omit h in
@[simp] lemma filterMap_timesOut_expiries : (expiries expired).filterMap timesOut = [] := by
  simp [expiries, filterMap_map, comp_def, timesOut]

omit h in
@[simp] lemma filterMap_expires_expiries :
    (expiries expired).filterMap expires = (expired.map Prod.fst).map task := by
  simp [expiries, filterMap_map, comp_def, expires]

omit h in
@[simp] lemma filterMap_expiresWithCallback_expiries :
    (expiries expired).filterMap expiresWithCallback = expiredCallbacks expired := by
  simp [expiries, expiredCallbacks, filterMap_map, comp_def, expiresWithCallback]

end

lemma Conserved.take (hold : p.threads[i]? = some old)
    (hcarries : old.carries = []) (hcallbacks : old.callbacks = []) (delays : List ℕ) :
    (p.take i delays).Conserved := by
  cases hqueue : p.queue with
  | nil =>
    unfold ThreadPool.take
    simp only [hqueue]
    split_ifs
    · exact h.setThread hold hcarries.symm hcallbacks.symm
    · exact h.setThread hold hcarries.symm hcallbacks.symm
  | cons t rest =>
    obtain ⟨moved, expired, left, clock, hdivides, htake⟩ := take_of_cons i hqueue delays
    rw [htake]
    have hnone : (Effect.taken t :: expiries expired).filterMap Effect.accepts = [] := by
      rw [filterMap_cons_none rfl, filterMap_accepts_expiries]
    refine h.of_effects rfl (fun j => ?_) (once_of_none hnone rfl rfl) (fun j => ?_) ?_ ?_ ?_
    · have hwaiters := (hdivides.perm.map task).count_eq j
      have hcarried := carried_setThread hold (.returning (expiredCallbacks expired) t) j
      have hsame : (p.taken i t rest moved expired left clock).carried =
        (p.setThread i (.returning (expiredCallbacks expired) t)).carried := rfl
      rw [hcarries, count_nil] at hcarried
      simp only [map_append, count_append] at hwaiters
      simp only [filterMap_cons, accepts, returns, expires,
        drops, filterMap_accepts_expiries, filterMap_returns_expiries,
        filterMap_expires_expiries, filterMap_drops_expiries, count_nil, hsame]
      simp only [taken, hqueue, count_append, count_cons, carries, count_nil] at hcarried ⊢
      omega
    · have hdue := callbacksDue_setThread hold (.returning (expiredCallbacks expired) t) j
      have hsame : (p.taken i t rest moved expired left clock).callbacksDue =
        (p.setThread i (.returning (expiredCallbacks expired) t)).callbacksDue := rfl
      rw [hcallbacks, count_nil] at hdue
      simp only [filterMap_cons, expiresWithCallback, timesOut,
        filterMap_expiresWithCallback_expiries, filterMap_timesOut_expiries, count_nil,
        hsame]
      simp only [Worker.callbacks] at hdue
      omega
    · rw [filterMap_cons_none rfl, filterMap_expires_expiries, length_map, length_map]
      rfl
    · exact fun pend hmem =>
        .inl (hdivides.sublist.subset (mem_append_right _ hmem))
    · intro pend now hmem
      obtain ⟨entry, hentry, heq⟩ :=
        mem_map.mp ((mem_cons.mp hmem).resolve_left (by simp))
      cases heq
      refine ⟨hdivides.late entry hentry, hdivides.perm.mem_iff.mpr ?_⟩
      exact mem_append_left _ (mem_append_right _ (mem_map_of_mem hentry))

/-! ## The other steps -/

lemma Conserved.enterTake (i : ℕ) (delays : List ℕ) : (p.enterTake i delays).Conserved := by
  unfold ThreadPool.enterTake
  split
  · rename_i hold
    exact h.take hold rfl rfl delays
  · rename_i hold
    exact h.take hold rfl rfl delays
  · exact h

lemma Conserved.wakeWorker (i : ℕ) : (p.wakeWorker i).Conserved := by
  unfold ThreadPool.wakeWorker
  split
  · rename_i hold
    exact h.setThread hold rfl rfl
  · exact h

lemma Conserved.finishTask (i : ℕ) : (p.finishTask i).Conserved := by
  unfold ThreadPool.finishTask
  split
  · rename_i hold
    exact h.setThread hold rfl rfl
  · exact h

lemma Conserved.callExpired (i : ℕ) : (p.callExpired i).Conserved := by
  unfold ThreadPool.callExpired
  split
  · rename_i callback callbacks t hold
    refine h.of_effects rfl (fun j => ?_) (once_of_none rfl rfl rfl) (fun j => ?_) rfl
      (fun pend hmem => .inl hmem) (by simp)
    · have hcarried := carried_setThread hold (.returning callbacks t) j
      simp only [carries, Nat.add_right_cancel_iff] at hcarried
      simp [filterMap_cons, accepts, returns, expires, drops, hcarried]
    · have hdue := callbacksDue_setThread hold (.returning callbacks t) j
      simp only [Worker.callbacks, count_cons] at hdue
      simp only [filterMap_cons, filterMap_nil, expiresWithCallback,
        timesOut, callbacksDue_emit, count_cons, count_nil]
      omega
  · exact h

lemma Conserved.returnTask (i : ℕ) : (p.returnTask i).Conserved := by
  unfold ThreadPool.returnTask
  split
  · rename_i t hold
    refine h.of_effects rfl (fun j => ?_) (once_of_none rfl rfl rfl) (fun j => ?_) rfl
      (fun pend hmem => .inl hmem) (by simp)
    · have hcarried := carried_setThread hold (.executing t) j
      simp only [carries, count_nil] at hcarried
      simp only [filterMap_cons, filterMap_nil, accepts, returns,
        expires, drops, queue_emit, waiters_emit, carried_emit, queue_setThread,
        waiters_setThread, count_nil]
      omega
    · have hdue := callbacksDue_setThread hold (.executing t) j
      simp only [Worker.callbacks, Nat.add_right_cancel_iff] at hdue
      simp [filterMap_cons, expiresWithCallback, timesOut, hdue]
  · exact h

lemma Conserved.deadlineLoop (delay : ℕ) : (p.deadlineLoop delay).Conserved := by
  rcases p.deadlineLoop_cases delay with heq | ⟨hbusy, -, heq⟩ | heq |
    ⟨earliest, left, hbusy, -, hperm, hsublist, hlate, heq⟩
  · rwa [heq]
  · rw [heq]
    refine h.quiet rfl rfl rfl rfl ?_ (.refl _) (Nat.le_refl _) rfl
    simp [callbacksDue, hbusy, DeadlineThread.callbacks]
  · rw [heq]
    exact h.tick delay
  · rw [heq]
    refine h.of_effects rfl (fun j => ?_) (once_of_none rfl rfl rfl) (fun j => ?_) rfl
      (fun pend hmem => .inl (hsublist.subset hmem)) (fun pend now hmem => ?_)
    · have hwaiters := (hperm.map task).count_eq j
      rw [map_cons, ← singleton_append, count_append] at hwaiters
      simp only [filterMap_cons, filterMap_nil, accepts, returns,
        expires, drops, count_nil]
      simp only [carried, expire, ThreadPool.tick, emit]
      omega
    · simp only [callbacksDue, expire, ThreadPool.tick, emit, filterMap_cons,
        filterMap_nil, expiresWithCallback, timesOut, hbusy]
      cases earliest.onTimeout <;> simp [DeadlineThread.callbacks, Nat.add_comm]
    · cases mem_singleton.mp hmem
      exact ⟨hlate, hperm.mem_iff.mpr mem_cons_self⟩

lemma Conserved.callTimeout : p.callTimeout.Conserved := by
  unfold ThreadPool.callTimeout
  split
  · rename_i t hcalling
    refine h.of_effects rfl (fun j => ?_) (once_of_none rfl rfl rfl) (fun j => ?_) rfl
      (fun pend hmem => .inl hmem) (by simp)
    · simp [filterMap_cons, accepts, returns, expires, drops,
        carried, emit]
    · simp [filterMap_cons, expiresWithCallback, timesOut, callbacksDue,
        DeadlineThread.callbacks, hcalling, emit]
  · exact h

lemma Conserved.stop : p.stop.Conserved := by
  unfold ThreadPool.stop
  split_ifs
  · exact h
  · have hnone : ∀ select : Effect → Option ℕ, (∀ t, select (.dropped t) = none) →
        (p.waiters.map fun pend => dropped pend.task).filterMap select = [] := by
      intro select hselect
      rw [filterMap_map]
      exact filterMap_eq_nil_iff.mpr fun pend _ => hselect pend.task
    have hdropped : (p.waiters.map fun pend => dropped pend.task).filterMap
        drops = p.waiters.map task := by
      rw [filterMap_map]
      exact congrFun filterMap_eq_map p.waiters
    have hcarried := flatMap_map_notify p.threads (show Worker.carries .notified = _ from rfl)
    have hdue := flatMap_map_notify p.threads (show Worker.callbacks .notified = _ from rfl)
    refine h.of_effects rfl (fun j => ?_)
      (once_of_none (hnone _ fun _ => rfl) rfl rfl) (fun j => ?_) ?_ nofun
      (fun pend now hmem => ?_)
    · rw [hnone accepts fun _ => rfl, hnone returns fun _ => rfl,
        hnone expires fun _ => rfl, hdropped]
      simp only [carried, hcarried, count_nil, map_nil]
      omega
    · rw [hnone expiresWithCallback fun _ => rfl, hnone timesOut fun _ => rfl]
      simp [callbacksDue, hdue]
    · rw [hnone expires fun _ => rfl]
      rfl
    · obtain ⟨_, -, heq⟩ := mem_map.mp hmem
      cases heq

lemma Conserved.start (hphases : p.Phases) (ts : ℕ)
    (hasInit : Bool) (failure : Option ℕ) : (p.start ts hasInit failure).Conserved := by
  unfold ThreadPool.start
  by_cases hrefused : p.lifecycle ≠ .free ∨ p.state ≠ .created
  · rwa [if_pos hrefused]
  · rw [if_neg hrefused]
    rw [not_or, not_not, not_not] at hrefused
    obtain ⟨hthreads, hdeadline⟩ := hphases.created hrefused.2
    have hempty : ∀ (n : ℕ) (f : Worker → List ℕ), f .entering = [] →
        (replicate n entering).flatMap f = [] := by
      intro n f hf
      exact flatMap_eq_nil_iff.mpr fun wk hmem => eq_of_mem_replicate hmem ▸ hf
    cases failure with
    | some started =>
      refine h.quiet rfl rfl rfl ?_ ?_ (.refl _) (Nat.le_refl _) rfl
      · simp [carried, hthreads, hempty _ Worker.carries rfl]
      · simp [callbacksDue, hthreads, hempty _ Worker.callbacks rfl]
    | none =>
      refine h.quiet rfl rfl rfl ?_ ?_ (.refl _) (Nat.le_refl _) rfl
      · simp [carried, hthreads, hempty _ carries rfl]
      · simp only [callbacksDue, hthreads, hdeadline, hempty _ Worker.callbacks rfl]
        split_ifs <;> rfl

lemma step_conserved (hphases : p.Phases) (event : Event) : (p.step event).Conserved := by
  cases event with
  | setMaxQueueSize size | setMaxWaitQueueSize size =>
    simp only [step, setMaxQueueSize, setMaxWaitQueueSize]
    split_ifs
    · exact h
    · exact { h with }
  | start ts hasInit failure => exact h.start hphases ts hasInit failure
  | initReturns throws =>
    simp only [step, initReturns]
    by_cases hother : p.lifecycle ≠ .starting
    · rwa [if_pos hother]
    · rw [if_neg hother]
      exact { h with }
  | submitAsync delay deadline onTimeout c =>
    exact h.submitAsync delay deadline onTimeout c
  | tryRun c => exact h.tryRun c
  | run nested c => exact h.run nested c
  | wakeRunner t c => exact h.wakeRunner t c
  | finishInlineTask => exact { h with }
  | enterTake i delays => exact h.enterTake i delays
  | wakeWorker i => exact h.wakeWorker i
  | callExpired i => exact h.callExpired i
  | returnTask i => exact h.returnTask i
  | finishTask i => exact h.finishTask i
  | deadlineLoop delay => exact h.deadlineLoop delay
  | callTimeout => exact h.callTimeout
  | stop => exact h.stop
  | finishStop =>
    simp only [step, finishStop]
    split_ifs
    · exact { h with }
    · exact h

end

end ThreadPool

end Tlss.Base
