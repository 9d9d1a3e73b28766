import Tlss.Ftp.DiskCustody

/-!
# The steps of the disk executor

The registry is the reason why no cleanup is ever rejected. An adapter has at most one
task in the queue and is registered while it has, and an adapter that posts has none, so
that the queue is never full then (`Accounts.room`). The pool runs as long as anything is
registered (`Phases`): `stop` waits for the registry to become empty before it touches the
pool, and in the phases behind it nothing is registered any more.
-/

namespace Tlss.Ftp

open Library Base List RunningTask DiskTask

/-- The call of `stop` has seen its call of `begin_shutdown` return. -/
def StopCall.hasClosed : StopCall → Bool
  | .entering | .returned | .shuttingDown _ => false
  | .draining | .stoppingPool | .joining | .marking => true

/-- The call of `stop` has seen the registry empty. -/
def StopCall.hasDrained : StopCall → Bool
  | .entering | .returned | .shuttingDown _ | .draining => false
  | .stoppingPool | .joining | .marking => true

namespace DiskExecutor

variable {disk later : DiskExecutor}

/-- How the phases of the executor, the pool and the calls of `stop` fit together. -/
structure Phases (disk : DiskExecutor) : Prop where
  running : disk.phase = .running → disk.pool = .running
  registered : disk.receivers ≠ [] →
    disk.pool = .running ∧ (disk.phase = .running ∨ disk.phase = .closing)
  held : (disk.stops.map fun stop => stop.holds.toNat).sum ≤ 1
  unfinished : ∀ stop ∈ disk.stops, stop.holds = true → disk.phase ≠ .stopped
  closed : ∀ stop ∈ disk.stops, stop.hasClosed = true →
    disk.phase = .closing ∨ disk.phase = .stopped
  drained : ∀ stop ∈ disk.stops, stop.hasDrained = true → disk.receivers = []
  entered : ∀ shutdown ∈ disk.shutdowns, shutdown ≠ .entering →
    disk.phase = .closing ∨ disk.phase = .stopped

lemma phases_new : new.Phases := by
  refine ⟨?_, ?_, ?_, ?_, ?_, ?_, ?_⟩ <;> simp [new]

/-! ## The pool takes the task -/

lemma sum_weight (tasks : List DiskTask) (i : ℕ) :
    (tasks.map (weight i)).sum = (tasks.map state).count i :=
  sum_map_ite_eq_count tasks state i

section

variable (h : disk.Accounts)
include h

lemma Accounts.pending_le_one (i : ℕ) : (disk.tally i).pending ≤ 1 := by
  by_cases hlt : i < disk.states.length
  · have hcount := (h.custody i _ (getElem?_eq_getElem hlt)).busy
    have hle := Bool.toNat_le disk.states[i].busy
    omega
  · rw [h.outside i (by omega)]
    exact Nat.zero_le _

variable {i call worker : ℕ} {s : AdapterState} {shutdowns : List ShutdownCall}
  {cancels : List CancelCall} {old : RunningTask} {t : DiskTask}

lemma Accounts.registered_of_pending
    (hpending : 0 < (disk.tally i).pending) : (disk.tally i).registered = 1 := by
  by_cases hlt : i < disk.states.length
  · have hcustody := h.custody i _ (getElem?_eq_getElem hlt)
    refine hcustody.registered_of_busy (Bool.eq_true_of_not_eq_false fun hidle => ?_)
    have hcount := hcustody.busy
    rw [hidle, Bool.toNat_false] at hcount
    omega
  · rw [h.outside i (by omega)] at hpending
    exact absurd hpending (lt_irrefl 0)

/-- There is room in the queue for a registered adapter that has no task there: the
adapters of the queue and this one are different entries of the registry. -/
lemma Accounts.room (hreg : (disk.tally i).registered = 1)
    (hqueue : (disk.queue.map (weight i)).sum = 0) : disk.queue.length < maxReceivers := by
  have hcount : ∀ y, (disk.queue.map state).count y ≤
      (disk.tally y).pending := by
    intro y
    rw [← sum_weight]
    simp only [tally]
    omega
  have hnodup : (i :: disk.queue.map state).Nodup := by
    refine nodup_cons.mpr ⟨?_, nodup_iff_count_le_one.mpr fun y => ?_⟩
    · rw [sum_weight] at hqueue
      exact count_eq_zero.mp hqueue
    · exact le_trans (hcount y) (h.pending_le_one y)
  have hentry : ∀ y, (disk.tally y).registered = 1 →
      y ∈ disk.receivers.map Prod.snd := by
    intro y hother
    simp only [tally, sum_map_ite_eq_count] at hother
    exact count_pos_iff.mp (hother ▸ Nat.one_pos)
  have hsubset : i :: disk.queue.map state ⊆ disk.receivers.map Prod.snd := by
    refine cons_subset.mpr ⟨hentry i hreg, fun y hmem => hentry y ?_⟩
    exact h.registered_of_pending (lt_of_lt_of_le (count_pos_iff.mpr hmem) (hcount y))
  have hlength := (subperm_of_subset hnodup hsubset).length_le
  have hlimit := h.limit
  rw [length_cons, length_map, length_map] at hlength
  omega

lemma Accounts.accepts (hpool : disk.pool = .running) (hreg : (disk.tally i).registered = 1)
    (hqueue : (disk.queue.map (weight i)).sum = 0) : disk.accepts := by
  simp [DiskExecutor.accepts, hpool, h.room hreg hqueue]

omit h in
lemma post_accepted {cleanup : Bool}
    (hphase : disk.phase = .running ∨ cleanup ∧ disk.phase = .closing) (haccepts : disk.accepts) :
    disk.post t cleanup = (true, { disk with queue := disk.queue ++ [t] }) := by
  unfold post
  rcases hphase with hrun | ⟨hcleanup, hclosing⟩
  · simp [hrun, haccepts]
  · simp [hcleanup, hclosing, haccepts]

omit h in
lemma post_refused (hphase : disk.phase ≠ .running) : disk.post t false =
      (false, { disk with rejected := disk.rejected + 1 }.emit (.rejected false disk.phase)) := by
  unfold post
  simp [hphase]

/-! ## The numbers after an update -/

omit h in
lemma tally_enqueue (disk : DiskExecutor) (t : DiskTask) (i : ℕ) :
    tally { disk with queue := disk.queue ++ [t] } i =
      { disk.tally i with
        pending := (disk.tally i).pending + t.weight i
        reads := (disk.tally i).reads + t.reads i } := by
  simp only [tally, map_append, map_cons, map_nil, sum_append, sum_cons,
    sum_nil, Tally.mk.injEq, and_true]
  omega

omit h in
lemma tally_setStage (hold : disk.running[worker]? = some old)
    (t : DiskTask) (stage : TaskStage) (i : ℕ) : (disk.setStage worker t stage).tally i =
      ⟨(disk.tally i).pending + (RunningTask.mk t stage).active i - old.active i,
        (disk.tally i).reads + (RunningTask.mk t stage).reads i - old.reads i,
        (disk.tally i).closing + (RunningTask.mk t stage).closing i - old.closing i,
        (disk.tally i).releasing + (RunningTask.mk t stage).releasing i -
          old.releasing i, (disk.tally i).registered⟩ := by
  have hactive := sum_map_set hold ⟨t, stage⟩ (active i)
  have hreads := sum_map_set hold ⟨t, stage⟩ (reads i)
  have hclosing := sum_map_set hold ⟨t, stage⟩ (closing i)
  have hreleasing := sum_map_set hold ⟨t, stage⟩ (releasing i)
  simp only [tally, setStage, Tally.mk.injEq, and_true]
  omega

omit h in
lemma tally_dropTask (hold : disk.running[worker]? = some old) (i : ℕ) :
    (disk.dropTask worker).tally i = ⟨(disk.tally i).pending - old.active i,
        (disk.tally i).reads - old.reads i, (disk.tally i).closing - old.closing i,
        (disk.tally i).releasing - old.releasing i, (disk.tally i).registered⟩ := by
  have hactive := sum_map_eraseIdx hold (active i)
  have hreads := sum_map_eraseIdx hold (reads i)
  have hclosing := sum_map_eraseIdx hold (closing i)
  have hreleasing := sum_map_eraseIdx hold (releasing i)
  simp only [tally, dropTask, Tally.mk.injEq, and_true]
  omega

omit h in
lemma tally_setCancel {old : CancelCall} (hold : disk.cancels[call]? = some old)
    (new : CancelCall) (i : ℕ) : tally { disk with cancels := disk.cancels.set call new } i =
      { disk.tally i with
        pending := (disk.tally i).pending + new.weight i - old.weight i } := by
  have hweight := sum_map_set hold new (CancelCall.weight i)
  simp only [tally, Tally.mk.injEq, and_true]
  omega

omit h in
lemma tally_dropCancel {old : CancelCall} (hold : disk.cancels[call]? = some old) (i : ℕ) :
    tally { disk with cancels := disk.cancels.eraseIdx call } i =
      { disk.tally i with
        pending := (disk.tally i).pending - old.weight i } := by
  have hweight := sum_map_eraseIdx hold (CancelCall.weight i)
  simp only [tally, Tally.mk.injEq, and_true]
  omega

omit h in
lemma tally_addCancel (disk : DiskExecutor) (s : ℕ) (byLoop : Bool) (i : ℕ) :
    tally { disk with cancels := disk.cancels ++ [.entering s byLoop] } i = disk.tally i := by
  simp [tally, CancelCall.weight]

omit h in
lemma tally_setShutdown {old : ShutdownCall}
    (hold : disk.shutdowns[call]? = some old) (new : ShutdownCall) (i : ℕ) :
    (disk.setShutdown call new).tally i = { disk.tally i with
        pending := (disk.tally i).pending + new.weight i - old.weight i } := by
  have hweight := sum_map_set hold new (ShutdownCall.weight i)
  simp only [tally, setShutdown, Tally.mk.injEq, and_true]
  omega

omit h in
lemma tally_beginShutdown (disk : DiskExecutor) (i : ℕ) :
    disk.beginShutdown.tally i = disk.tally i := by
  simp [tally, beginShutdown, ShutdownCall.weight]

omit h in
lemma postRead_eq (disk : DiskExecutor) (token : ℕ) (callback byLoop : Bool) :
    disk.postRead token callback byLoop =
      { disk with trace := disk.trace ++ if callback then [.posted token byLoop] else [] } := by
  unfold postRead
  split_ifs
  · rfl
  · rw [append_nil]

/-! ## Launch and request -/

omit h in
lemma Local.same (hst : disk.states[i]? = some s) (hstates : later.states = disk.states)
    (hreceivers : later.receivers = disk.receivers) (hnext : later.nextToken = disk.nextToken)
    (hterminated : later.terminated = disk.terminated) (htally : ∀ y, later.tally y = disk.tally y)
    (htrace : ∃ effects, later.trace = disk.trace ++ effects ∧
      ∀ effect ∈ effects, Allowed s effect) : disk.Local later i s s := by
  refine ⟨hst, ?_, rfl, hreceivers, hnext, hterminated, fun y _ => htally y,
    fun hcustody => (htally i).symm ▸ hcustody, htrace⟩
  obtain ⟨hlt, heq⟩ := List.getElem?_eq_some_iff.mp hst
  rw [hstates, ← heq, List.set_getElem_self]

lemma Accounts.reads_idle (hst : disk.states[i]? = some s) (hbusy : s.busy = false) :
    (disk.tally i).reads = 0 ∧ s.completion = false := by
  have hcustody := h.custody i s hst
  have hcount := hcustody.busy
  have hreads := disk.tally_reads_le i
  rw [hbusy, Bool.toNat_false] at hcount
  refine ⟨by omega, Bool.eq_false_iff.mpr fun hset => ?_⟩
  exact Bool.false_ne_true (hbusy.symm.trans (hcustody.busy_of_completion hreads hset))

/-- An idle adapter that is registered: the pool takes its task while the executor runs. -/
lemma Accounts.accepts_idle (hphases : disk.Phases) (hst : disk.states[i]? = some s)
    (htoken : s.token ≠ 0) (hbusy : s.busy = false) (hterm : s.terminal = false)
    (hrun : disk.phase = .running) : disk.accepts := by
  have hcustody := h.custody i s hst
  have hcount := hcustody.busy
  have hreg := (hcustody.live hterm).2.2
  rw [if_neg htoken] at hreg
  rw [hbusy, Bool.toNat_false] at hcount
  refine h.accepts (hphases.running hrun) hreg ?_
  simp only [tally] at hcount
  omega

omit h in
lemma local_enqueue (hst : disk.states[i]? = some s) (htoken : s.token ≠ 0)
    (hbusy : s.busy = false) (hterm : s.terminal = false) (job : DiskJob) (completion : Bool)
    (hreads : completion → (disk.tally i).reads + DiskTask.reads i ⟨i, job⟩ = 1) :
    disk.Local ({ disk with queue := disk.queue ++ [DiskTask.mk i job] }.setState i
        { s with busy := true, completion := completion })
      i s { s with busy := true, completion := completion } := by
  refine ⟨hst, rfl, rfl, rfl, rfl, rfl, fun y hne => ?_, fun hcustody => ?_,
    [], (append_nil _).symm, fun _ hmem => absurd hmem not_mem_nil⟩
  · refine (tally_enqueue disk ⟨i, job⟩ y).trans ?_
    rw [weight_ne hne, reads_ne hne, add_zero, add_zero]
  · refine (tally_enqueue disk ⟨i, job⟩ i).symm ▸ ?_
    rw [show DiskTask.weight i ⟨i, job⟩ = 1 from DiskTask.weight_self ⟨i, job⟩]
    exact hcustody.enqueue htoken hbusy hterm s.cancelled completion hreads

lemma Accounts.launchJob (hphases : disk.Phases) (i : ℕ)
    (kind : AdapterKind) (job : DiskJob) : (disk.launchJob i kind job).Accounts := by
  unfold DiskExecutor.launchJob
  split
  · rename_i s hst
    by_cases hguard : s.token = 0 ∨ s.kind ≠ kind
    · rw [if_pos hguard]
      exact h
    by_cases hflags : (s.cancelled || s.terminal || s.busy) = true
    · rw [if_neg hguard, if_pos hflags]
      exact h
    rw [if_neg hguard, if_neg hflags]
    simp only [Bool.or_eq_true, not_or, Bool.not_eq_true] at hflags
    obtain ⟨⟨-, hterm⟩, hbusy⟩ := hflags
    have htoken : s.token ≠ 0 := fun hzero => hguard (.inl hzero)
    by_cases hrun : disk.phase = .running
    · rw [post_accepted (.inl hrun) (h.accepts_idle hphases hst htoken hbusy hterm hrun)]
      refine h.local (local_enqueue hst htoken hbusy hterm job s.completion fun hset => ?_)
      exact absurd ((h.reads_idle hst hbusy).2.symm.trans hset) Bool.false_ne_true
    · rw [post_refused hrun]
      refine h.local (Local.same hst rfl rfl rfl rfl
        (fun y => tally_addCancel _ i true y) ⟨_, rfl, fun effect hmem => ?_⟩)
      rw [mem_singleton.mp hmem]
      exact .rejected _ hrun
  · exact h

lemma Accounts.request (hphases : disk.Phases) (i : ℕ) (offset : ℤ)
    (count : ℕ) (callback : Bool) : (disk.request i offset count callback).Accounts := by
  unfold DiskExecutor.request
  split
  · rename_i s hst
    -- an answer at once, by the thread of the loop
    have hreply : (disk.postRead s.token callback true).Accounts := by
      rw [postRead_eq]
      refine h.local (Local.same hst rfl rfl rfl rfl (fun _ => rfl) ⟨_, rfl, fun effect hmem => ?_⟩)
      cases callback with
      | false => exact absurd hmem not_mem_nil
      | true =>
        rw [mem_singleton.mp hmem]
        exact .byLoop
    by_cases hguard : s.token = 0 ∨ s.kind ≠ .source
    · rw [if_pos hguard]
      exact h
    rw [if_neg hguard]
    have htoken : s.token ≠ 0 := fun hzero => hguard (.inl hzero)
    by_cases hended : (s.cancelled || s.terminal) = true
    · rw [if_pos hended]
      exact hreply
    by_cases hunready : (!s.initialized || s.busy) = true
    · rw [if_neg hended, if_pos hunready]
      exact hreply
    by_cases hrange : invalidRange s offset count = true
    · rw [if_neg hended, if_neg hunready, if_pos hrange]
      exact hreply
    rw [if_neg hended, if_neg hunready, if_neg hrange]
    simp only [Bool.or_eq_true, not_or, Bool.not_eq_true] at hended hunready
    by_cases hrun : disk.phase = .running
    · rw [post_accepted (.inl hrun) (h.accepts_idle hphases hst htoken hunready.2 hended.2 hrun)]
      refine h.local (local_enqueue hst htoken hunready.2 hended.2 _ callback fun _ => ?_)
      simp [(h.reads_idle hst hunready.2).1, DiskTask.reads, DiskTask.weight]
    · rw [post_refused hrun]
      dsimp only
      rw [postRead_eq]
      refine h.local (Local.same hst rfl rfl rfl rfl (fun y => tally_addCancel _ i true y)
        ⟨_, append_assoc _ _ _, fun effect hmem => ?_⟩)
      rcases mem_append.mp hmem with hrejected | hposted
      · rw [mem_singleton.mp hrejected]
        exact .rejected _ hrun
      · cases callback with
        | false => exact absurd hposted not_mem_nil
        | true =>
          rw [mem_singleton.mp hposted]
          exact .byLoop
  · exact h

/-! ## Cancellation -/

def cancelRead (disk : DiskExecutor) (state : AdapterState) (byLoop : Bool) : DiskExecutor :=
  { disk with
    trace := disk.trace ++ if state.completion then [.posted state.token byLoop] else [] }

omit h in
/-- The critical section of `cancel`, and whether it leaves a task to post. -/
lemma cancelLock_eq (hst : disk.states[i]? = some s) (byLoop : Bool) :
    disk.cancelLock i byLoop = if s.token = 0 ∨ s.terminal ∨ s.busy = true then
        (false, (disk.cancelRead s byLoop).setState i
          { s with cancelled := true, completion := false })
      else
        (true, (disk.cancelRead s byLoop).setState i
          { s with cancelled := true, completion := false, busy := true }) := by
  unfold cancelLock
  rw [hst]
  dsimp only
  rw [postRead_eq]
  rfl

lemma Accounts.allowed_cancel (hst : disk.states[i]? = some s) (byLoop : Bool) :
    ∀ effect ∈ (if s.completion then [DiskEffect.posted s.token byLoop] else []),
      Allowed s effect := by
  intro effect hmem
  cases hcompletion : s.completion with
  | false =>
    rw [hcompletion] at hmem
    exact absurd hmem not_mem_nil
  | true =>
    rw [hcompletion] at hmem
    rw [mem_singleton.mp hmem]
    exact .busy byLoop ((h.custody i s hst).busy_of_completion (disk.tally_reads_le i) hcompletion)

/-- `cancel` has found the adapter in other hands; the call is done. -/
lemma Accounts.local_cancelled (hst : disk.states[i]? = some s)
    (hother : s.token = 0 ∨ s.terminal ∨ s.busy) (byLoop : Bool)
    (htally : ∀ y, tally { disk with cancels := cancels, shutdowns := shutdowns } y =
      disk.tally y) :
    disk.Local
      { (disk.cancelRead s byLoop).setState i
          { s with cancelled := true, completion := false } with
        cancels := cancels, shutdowns := shutdowns }
      i s { s with cancelled := true, completion := false } := by
  exact ⟨hst, rfl, rfl, rfl, rfl, rfl, fun y _ => htally y,
    fun hcustody => (htally i).symm ▸ hcustody.cancel hother,
    _, rfl, h.allowed_cancel hst byLoop⟩

/-- `cancel` has found the adapter idle and goes on to post its cleanup. -/
lemma Accounts.local_cancelling (hst : disk.states[i]? = some s)
    (hidle : ¬(s.token = 0 ∨ s.terminal ∨ s.busy)) (byLoop : Bool)
    (htally : ∀ y, tally { disk with cancels := cancels, shutdowns := shutdowns } y =
      { disk.tally y with
        pending := (disk.tally y).pending + if i = y then 1 else 0 }) :
    disk.Local
      { (disk.cancelRead s byLoop).setState i
          { s with cancelled := true, completion := false, busy := true } with
        cancels := cancels, shutdowns := shutdowns }
      i s { s with cancelled := true, completion := false, busy := true } := by
  simp only [not_or, Bool.not_eq_true] at hidle
  obtain ⟨htoken, hterm, hbusy⟩ := hidle
  refine ⟨hst, rfl, rfl, rfl, rfl, rfl, fun y hne => ?_, fun hcustody => ?_,
    _, rfl, h.allowed_cancel hst byLoop⟩
  · refine (htally y).trans ?_
    rw [if_neg (Ne.symm hne), add_zero]
  · refine (htally i).symm ▸ ?_
    rw [if_pos rfl]
    exact hcustody.enqueue htoken hbusy hterm true false (fun hset => Bool.noConfusion hset)

lemma Accounts.cancelPost_eq (hphases : disk.Phases)
    (hposting : 0 < (disk.cancels.map (CancelCall.weight i)).sum +
      (disk.shutdowns.map (ShutdownCall.weight i)).sum) :
    cancelPost { disk with cancels := cancels, shutdowns := shutdowns } i =
      { disk with
        cancels := cancels
        shutdowns := shutdowns
        queue := disk.queue ++ [⟨i, .cleanup⟩] } := by
  have hpending := h.pending_le_one i
  have hreg : (disk.tally i).registered = 1 := by
    refine h.registered_of_pending ?_
    simp only [tally]
    omega
  have hqueue : (disk.queue.map (weight i)).sum = 0 := by
    simp only [tally] at hpending
    omega
  have hreceivers : disk.receivers ≠ [] := by
    intro hempty
    simp [tally, hempty] at hreg
  obtain ⟨hpool, hphase⟩ := hphases.registered hreceivers
  have hpost : post { disk with cancels := cancels, shutdowns := shutdowns }
      ⟨i, .cleanup⟩ true = _ :=
    post_accepted (hphase.imp id fun hclosing => ⟨rfl, hclosing⟩)
      (h.accepts hpool hreg hqueue)
  rw [cancelPost, hpost]

lemma Accounts.quiet_cancelPost
    (htally : ∀ y, tally { disk with cancels := cancels, shutdowns := shutdowns } y =
      { disk.tally y with
        pending := (disk.tally y).pending - if i = y then 1 else 0 })
    (hposting : 0 < (disk.tally i).pending) :
    Accounts { disk with
      cancels := cancels
      shutdowns := shutdowns
      queue := disk.queue ++ [⟨i, .cleanup⟩] } := by
  refine h.quiet ⟨rfl, rfl, rfl, rfl, rfl, fun y => ?_⟩
  refine (tally_enqueue { disk with cancels := cancels, shutdowns := shutdowns }
    ⟨i, .cleanup⟩ y).trans ?_
  rw [htally y]
  by_cases heq : i = y
  · subst heq
    ext <;> simp [DiskTask.weight, DiskTask.reads]
    omega
  · ext <;> simp [DiskTask.weight, DiskTask.reads, heq]

lemma Accounts.cancelStep (hphases : disk.Phases) (call : ℕ) : (disk.cancelStep call).Accounts := by
  unfold DiskExecutor.cancelStep
  split
  · rename_i i byLoop hcall
    have hdropped : ∀ y, tally { disk with cancels := disk.cancels.eraseIdx call } y =
        disk.tally y := fun y => tally_dropCancel hcall y
    cases hst : disk.states[i]? with
    | none =>
      rw [cancelLock, hst]
      exact h.quiet ⟨rfl, rfl, rfl, rfl, rfl, hdropped⟩
    | some s =>
      rw [cancelLock_eq hst]
      by_cases hother : s.token = 0 ∨ s.terminal = true ∨ s.busy = true
      · rw [if_pos hother]
        exact h.local (h.local_cancelled hst hother byLoop hdropped)
      · rw [if_neg hother]
        exact h.local (h.local_cancelling hst hother byLoop
          fun y => tally_setCancel hcall (.posting i) y)
  · rename_i i hcall
    have hsum := sum_map_eraseIdx hcall (CancelCall.weight i)
    have hweight : CancelCall.weight i (.posting i) = 1 := if_pos rfl
    have hposting : 0 < (disk.cancels.map (CancelCall.weight i)).sum +
        (disk.shutdowns.map (ShutdownCall.weight i)).sum := by omega
    refine (h.cancelPost_eq hphases hposting).symm ▸
      h.quiet_cancelPost (fun y => tally_dropCancel hcall y) ?_
    simp only [tally]
    omega
  · exact h

end

end DiskExecutor

end Tlss.Ftp
