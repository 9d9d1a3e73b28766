import Tlss.Ftp.DiskLifecycle

/-!
# Shutting the disk executor down

`Still` is what the steps of the loops and the workers leave alone; the phases and the
calls of `begin_shutdown` and `stop` are followed step by step.
-/

namespace Tlss.Ftp

open Library Base List StopCall DiskPhase

def IsCancelled (states : List AdapterState) (index : ℕ) : Prop :=
  ∃ state, states[index]? = some state ∧ state.cancelled = true

lemma isCancelled_set {states : List AdapterState} {i : ℕ} {old new : AdapterState}
    (hst : states[i]? = some old) (hflag : old.cancelled → new.cancelled)
    {other : ℕ} (h : IsCancelled states other) : IsCancelled (states.set i new) other := by
  obtain ⟨s, hother, hset⟩ := h
  by_cases heq : i = other
  · subst heq
    obtain ⟨hlt, -⟩ := List.getElem?_eq_some_iff.mp hst
    have hsame := Option.some.inj (hst.symm.trans hother)
    exact ⟨new, List.getElem?_set_self hlt, hflag (hsame ▸ hset)⟩
  · exact ⟨s, (List.getElem?_set_ne heq).trans hother, hset⟩

lemma StopCall.holds_of_hasClosed {stop : StopCall} (h : stop.hasClosed) : stop.holds := by
  cases stop <;> simp_all [hasClosed, holds]

lemma StopCall.hasClosed_of_hasDrained {stop : StopCall} (h : stop.hasDrained) :
    stop.hasClosed := by
  cases stop <;> simp_all [hasDrained, hasClosed]

namespace DiskExecutor

variable {disk later : DiskExecutor}

/-! ## The steps of the loops and the workers -/

/-- No shutdown goes on, and nothing new is registered. -/
structure Still (disk later : DiskExecutor) : Prop where
  phase : later.phase = disk.phase
  pool : later.pool = disk.pool
  stops : later.stops = disk.stops
  shutdowns : later.shutdowns = disk.shutdowns
  receivers : later.receivers ⊆ disk.receivers
  cancelled : ∀ index, IsCancelled disk.states index → IsCancelled later.states index

lemma still_refl (disk : DiskExecutor) : disk.Still disk :=
  ⟨rfl, rfl, rfl, rfl, List.Subset.refl _, fun _ => id⟩

lemma still_set {i : ℕ} {old new : AdapterState} (hst : disk.states[i]? = some old)
    (hflag : old.cancelled → new.cancelled) {queue : List DiskTask} {running : List RunningTask}
    {cancels : List CancelCall} {rejected : ℕ} {terminated : Bool} {trace : List DiskEffect} :
    disk.Still { disk with
      states := disk.states.set i new
      queue := queue
      running := running
      cancels := cancels
      rejected := rejected
      terminated := terminated
      trace := trace } :=
  ⟨rfl, rfl, rfl, rfl, List.Subset.refl _, fun _ => isCancelled_set hst hflag⟩

lemma post_eq (disk : DiskExecutor) (task : DiskTask) (cleanup : Bool) :
    ∃ queue rejected trace, (disk.post task cleanup).2 =
      { disk with queue := queue, rejected := rejected, trace := trace } := by
  unfold post
  split_ifs
  · exact ⟨_, _, _, rfl⟩
  · exact ⟨_, _, _, rfl⟩
  · exact ⟨_, _, _, rfl⟩

lemma still_launchJob (disk : DiskExecutor) (i : ℕ) (kind : AdapterKind) (job : DiskJob) :
    disk.Still (disk.launchJob i kind job) := by
  unfold launchJob
  split
  · rename_i s hst
    obtain ⟨queue, rejected, trace, hpost⟩ := disk.post_eq ⟨i, job⟩ false
    split_ifs
    · exact still_refl disk
    · exact still_refl disk
    · split <;> rename_i heq <;> rw [heq] at hpost <;> subst hpost
      · exact still_set hst (by exact id)
      · exact ⟨rfl, rfl, rfl, rfl, List.Subset.refl _, fun _ => id⟩
  · exact still_refl disk

lemma still_request (disk : DiskExecutor) (i : ℕ) (offset : ℤ) (count : ℕ)
    (callback : Bool) : disk.Still (disk.request i offset count callback) := by
  unfold request
  split
  · rename_i s hst
    obtain ⟨queue, rejected, trace, hpost⟩ := disk.post_eq ⟨i, .runRead offset count⟩ false
    have hreply : disk.Still (disk.postRead s.token callback true) := by
      rw [postRead_eq]
      exact ⟨rfl, rfl, rfl, rfl, List.Subset.refl _, fun _ => id⟩
    split_ifs
    · exact still_refl disk
    · exact hreply
    · exact hreply
    · exact hreply
    · split <;> rename_i heq <;> rw [heq] at hpost <;> subst hpost
      · exact still_set hst (by exact id)
      · rw [postRead_eq]
        exact ⟨rfl, rfl, rfl, rfl, List.Subset.refl _, fun _ => id⟩
  · exact still_refl disk

lemma cancelLock_still (disk : DiskExecutor) (i : ℕ) (byLoop : Bool) :
    disk.Still (disk.cancelLock i byLoop).2 ∧
      (i < disk.states.length → IsCancelled (disk.cancelLock i byLoop).2.states i) := by
  cases hst : disk.states[i]? with
  | none =>
    rw [cancelLock, hst]
    have hlong := getElem?_eq_none_iff.mp hst
    exact ⟨still_refl disk, fun hlt => absurd hlt (Nat.not_lt_of_le hlong)⟩
  | some s =>
    rw [cancelLock_eq hst]
    split_ifs
    · exact ⟨still_set hst fun _ => rfl, fun hlt => ⟨_, getElem?_set_self hlt, rfl⟩⟩
    · exact ⟨still_set hst fun _ => rfl, fun hlt => ⟨_, getElem?_set_self hlt, rfl⟩⟩

lemma still_cancelPost (disk : DiskExecutor) (i : ℕ) : disk.Still (disk.cancelPost i) := by
  unfold cancelPost
  obtain ⟨queue, rejected, trace, hpost⟩ := disk.post_eq ⟨i, .cleanup⟩ true
  split <;> rename_i heq <;> rw [heq] at hpost <;> subst hpost <;>
    exact ⟨rfl, rfl, rfl, rfl, List.Subset.refl _, fun _ => id⟩

lemma still_cancelStep (disk : DiskExecutor) (call : ℕ) : disk.Still (disk.cancelStep call) := by
  unfold cancelStep
  split
  · rename_i i byLoop hcall
    have hstill := (disk.cancelLock_still i byLoop).1
    split <;> rename_i heq <;> rw [heq] at hstill <;>
      exact { hstill with }
  · rename_i i hcall
    have hstill := still_cancelPost { disk with cancels := disk.cancels.eraseIdx call } i
    exact { hstill with }
  · exact still_refl disk

lemma still_take (disk : DiskExecutor) : disk.Still disk.take := by
  unfold take
  split
  · exact still_refl disk
  · exact ⟨rfl, rfl, rfl, rfl, List.Subset.refl _, fun _ => id⟩

lemma still_work (disk : DiskExecutor) (worker : ℕ) (fails : Bool) (size : ℕ) :
    disk.Still (disk.work worker fails size) := by
  unfold work
  split
  · rename_i current hcurrent
    obtain ⟨task, stage⟩ := current
    split
    · rename_i s hst
      cases stage with
      | taken =>
        rw [workOn]
        split_ifs
        · exact still_set hst (by exact id)
        · exact ⟨rfl, rfl, rfl, rfl, List.Subset.refl _, fun _ => id⟩
      | checked cancelled =>
        obtain ⟨opened, hopened⟩ := operate_state task.job s cancelled fails
        rw [workOn]
        dsimp only
        rw [hopened]
        exact still_set hst (by exact id)
      | ran failed size =>
        rw [workOn]
        split_ifs
        · exact still_set hst (by exact id)
        · rw [postResult_eq]
          refine still_set hst fun hset => ?_
          rw [(answered_flags task.job _).2.2.1, concluded]
          split_ifs <;> exact hset
      | closing =>
        rw [workOn, postResult_eq]
        refine still_set hst fun hset => ?_
        exact (answered_flags task.job _).2.2.1.trans hset
      | releasing =>
        exact ⟨rfl, rfl, rfl, rfl, fun _ => mem_of_mem_filter, fun _ => id⟩
    · exact still_refl disk
  · exact still_refl disk

/-! ## The phases -/

section

variable (h : disk.Phases)
include h

lemma Phases.still (hstill : disk.Still later) : later.Phases := by
  have hempty : disk.receivers = [] → later.receivers = [] := fun hnil =>
    subset_nil.mp (hnil ▸ hstill.receivers)
  constructor
  · rw [hstill.phase, hstill.pool]
    exact h.running
  · rw [hstill.phase, hstill.pool]
    exact fun hreceivers => h.registered fun hnil => hreceivers (hempty hnil)
  · rw [hstill.stops]
    exact h.held
  · rw [hstill.stops, hstill.phase]
    exact h.unfinished
  · rw [hstill.stops, hstill.phase]
    exact h.closed
  · rw [hstill.stops]
    exact fun stop hmem hdrained => hempty (h.drained stop hmem hdrained)
  · rw [hstill.shutdowns, hstill.phase]
    exact h.entered

omit h in
/-- Without a `stop` under way nothing has closed or drained. -/
lemma not_holds (hfree : ¬disk.lifecycleHeld) : ∀ stop ∈ disk.stops, stop.holds = false := by
  simpa [lifecycleHeld] using hfree

lemma Phases.start (fails : Bool) : (disk.start fails).Phases := by
  unfold DiskExecutor.start
  split_ifs with hguard hfails
  · exact h
  all_goals
    simp only [not_or, not_not] at hguard
    obtain ⟨hfree, hcreated⟩ := hguard
    have hnone := not_holds hfree
    have hreceivers : disk.receivers = [] := by
      by_contra hsome
      rcases (h.registered hsome).2 with hph | hph <;> rw [hcreated] at hph <;>
        exact noConfusion hph
    have hentered : ∀ shutdown ∈ disk.shutdowns, shutdown = .entering := by
      intro shutdown hmem
      by_contra hne
      rcases h.entered shutdown hmem hne with hph | hph <;> rw [hcreated] at hph <;>
        exact noConfusion hph
    have hstops : ∀ stop ∈ disk.stops, stop.holds ≠ true := fun stop hmem hholds =>
      Bool.false_ne_true ((hnone stop hmem).symm.trans hholds)
  · exact ⟨fun hrun => noConfusion hrun, fun hsome => absurd hreceivers hsome,
      h.held, fun stop hmem hholds => absurd hholds (hstops stop hmem), fun _ _ _ => .inr rfl,
      fun _ _ _ => hreceivers, fun _ _ _ => .inr rfl⟩
  · exact ⟨fun _ => rfl, fun hsome => absurd hreceivers hsome, h.held,
      fun _ _ _ => noConfusion,
      fun stop hmem hclosed => absurd (holds_of_hasClosed hclosed) (hstops stop hmem),
      fun _ _ _ => hreceivers, fun shutdown hmem hne => absurd (hentered shutdown hmem) hne⟩

lemma Phases.not_closed (hrun : disk.phase = .running) :
    (∀ stop ∈ disk.stops, stop.hasClosed ≠ true) ∧
      ∀ shutdown ∈ disk.shutdowns, shutdown = .entering := by
  refine ⟨fun stop hmem hclosed => ?_, fun shutdown hmem => ?_⟩
  · rcases h.closed stop hmem hclosed with hph | hph <;> rw [hrun] at hph <;>
      exact noConfusion hph
  · by_contra hne
    rcases h.entered shutdown hmem hne with hph | hph <;> rw [hrun] at hph <;>
      exact noConfusion hph

lemma Phases.attach (kind : AdapterKind) (skipped : ℕ) : (disk.attach kind skipped).Phases := by
  unfold DiskExecutor.attach
  dsimp only
  split_ifs with hph hfull hzero
  · exact { h with }
  · exact { h with }
  · exact { h with }
  · rw [not_not] at hph
    obtain ⟨hstops, hshutdowns⟩ := h.not_closed hph
    exact ⟨h.running, fun _ => ⟨h.running hph, .inl hph⟩, h.held, h.unfinished, h.closed,
      fun stop hmem hdrained =>
        absurd (hasClosed_of_hasDrained hdrained) (hstops stop hmem), h.entered⟩

lemma Phases.beginShutdown : disk.beginShutdown.Phases := by
  refine { h with entered := fun shutdown hmem hne => ?_ }
  rcases mem_append.mp hmem with hbef | hnew
  · exact h.entered shutdown hbef hne
  · exact absurd (mem_singleton.mp hnew) hne

variable {call : ℕ} {old new : StopCall} {pool : PoolState}

lemma Phases.setShutdown {shutdown : ShutdownCall}
    (hph : disk.phase = .closing ∨ disk.phase = .stopped) :
    (disk.setShutdown call shutdown).Phases :=
  { h with entered := fun _ _ _ => hph }

lemma Phases.shutdownStep (call : ℕ) : (disk.shutdownStep call).Phases := by
  unfold DiskExecutor.shutdownStep
  split
  · split_ifs with hclosed
    · exact h.setShutdown hclosed
    · exact ⟨fun hrun => noConfusion hrun,
        fun hsome => ⟨(h.registered hsome).1, .inr rfl⟩, h.held,
        fun _ _ _ => noConfusion, fun _ _ _ => .inl rfl, h.drained,
        fun _ _ _ => .inl rfl⟩
  all_goals try rename_i hcall
  · exact h.setShutdown (h.entered _ (mem_of_getElem? hcall) ShutdownCall.noConfusion)
  · rename_i i rest
    have hph := h.entered _ (mem_of_getElem? hcall) ShutdownCall.noConfusion
    have hstill := (disk.cancelLock_still i false).1
    split <;> rename_i heq <;> rw [heq] at hstill <;>
      exact (h.still hstill).setShutdown (hstill.phase.symm ▸ hph)
  · rename_i i rest
    have hph := h.entered _ (mem_of_getElem? hcall) ShutdownCall.noConfusion
    exact (h.setShutdown hph).still (still_cancelPost _ i)
  · exact h
  · exact h

lemma Phases.setStop (hcall : disk.stops[call]? = some old) {phase : DiskPhase}
    (hrun : phase = .running → pool = .running)
    (hregistered : disk.receivers ≠ [] → pool = .running ∧ (phase = .running ∨ phase = .closing))
    (hheld : (disk.stops.map fun stop => stop.holds.toNat).sum + new.holds.toNat ≤
      1 + old.holds.toNat)
    (hunfinished : ∀ stop ∈ disk.stops.set call new, stop.holds → phase ≠ .stopped)
    (hclosed : ∀ stop ∈ disk.stops.set call new, stop.hasClosed →
      phase = .closing ∨ phase = .stopped) (hdrained : new.hasDrained → disk.receivers = [])
    (hentered : ∀ shutdown ∈ disk.shutdowns, shutdown ≠ .entering →
      phase = .closing ∨ phase = .stopped) :
    Phases { disk with phase := phase, pool := pool, stops := disk.stops.set call new } := by
  refine ⟨hrun, hregistered, ?_, hunfinished, hclosed, fun stop hmem hstop => ?_, hentered⟩
  · have hsum := sum_map_set hcall new fun stop => stop.holds.toNat
    dsimp only
    omega
  · rcases mem_or_eq_of_mem_set hmem with hbef | heq
    · exact h.drained stop hbef hstop
    · exact hdrained (heq ▸ hstop)

lemma Phases.moveStop (hcall : disk.stops[call]? = some old)
    (hheld : (disk.stops.map fun stop => stop.holds.toNat).sum + new.holds.toNat ≤
      1 + old.holds.toNat) (hunfinished : new.holds → disk.phase ≠ .stopped)
    (hclosed : new.hasClosed → disk.phase = .closing ∨ disk.phase = .stopped)
    (hdrained : new.hasDrained → disk.receivers = []) : (disk.setStop call new).Phases := by
  refine h.setStop hcall h.running h.registered hheld (fun stop hmem => ?_) (fun stop hmem => ?_)
    hdrained h.entered
  · rcases mem_or_eq_of_mem_set hmem with hbef | heq
    · exact h.unfinished stop hbef
    · exact heq ▸ hunfinished
  · rcases mem_or_eq_of_mem_set hmem with hbef | heq
    · exact h.closed stop hbef
    · exact heq ▸ hclosed

lemma Phases.stopPool (hcall : disk.stops[call]? = some old) (hold : old.hasDrained)
    (hnew : new.hasDrained) :
    Phases { disk with pool := pool, stops := disk.stops.set call new } := by
  have hmem := mem_of_getElem? hcall
  have hempty := h.drained old hmem hold
  have holdClosed := hasClosed_of_hasDrained hold
  have hnewClosed := hasClosed_of_hasDrained hnew
  have hph := h.closed old hmem holdClosed
  have hheld := h.held
  refine h.setStop hcall (fun hrun => ?_) (fun hsome => absurd hempty hsome) ?_
    (fun stop _ _ => h.unfinished old hmem (holds_of_hasClosed holdClosed))
    (fun _ _ _ => hph) (fun _ => hempty) h.entered
  · rcases hph with hph | hph <;> rw [hrun] at hph <;>
      exact noConfusion hph
  · rw [holds_of_hasClosed holdClosed, holds_of_hasClosed hnewClosed]
    omega

lemma Phases.finishStop (hcall : disk.stops[call]? = some .marking) :
    Phases { disk with phase := .stopped, stops := disk.stops.set call .returned } := by
  have hheld := h.held
  have hempty := h.drained _ (mem_of_getElem? hcall) rfl
  have hsum := sum_map_set hcall .returned fun stop => stop.holds.toNat
  have hmarking : marking.holds.toNat = 1 := rfl
  have hreturned : returned.holds.toNat = 0 := rfl
  have hnone : ∀ stop ∈ disk.stops.set call .returned, stop.holds ≠ true := by
    intro stop hmem hholds
    obtain ⟨i, hindex⟩ := getElem?_of_mem hmem
    have hpart := sum_map_eraseIdx hindex fun stop => stop.holds.toNat
    rw [hholds, Bool.toNat_true] at hpart
    omega
  refine h.setStop hcall (fun hrun => noConfusion hrun)
    (fun hsome => absurd hempty hsome) ?_ (fun stop hmem hholds => absurd hholds (hnone stop hmem))
    (fun _ _ _ => .inr rfl) (fun _ => hempty) (fun _ _ _ => .inr rfl)
  omega

lemma Phases.stopStep (call : ℕ) : (disk.stopStep call).Phases := by
  have hheld := h.held
  unfold DiskExecutor.stopStep
  split
  all_goals try rename_i hcall
  · split_ifs with hbusy hstopped
    · exact h
    · exact h.moveStop hcall hheld (fun hset => Bool.noConfusion hset)
        (fun hset => Bool.noConfusion hset) fun hset => Bool.noConfusion hset
    · have hnone : (disk.stops.map fun stop => stop.holds.toNat).sum = 0 := by
        refine sum_eq_zero fun number hmem => ?_
        obtain ⟨stop, hstop, rfl⟩ := mem_map.mp hmem
        rw [not_holds hbusy stop hstop, Bool.toNat_false]
      refine h.beginShutdown.moveStop hcall ?_ (fun _ => hstopped)
        (fun hset => Bool.noConfusion hset) fun hset => Bool.noConfusion hset
      exact Nat.le_of_eq (congrArg (· + 1) hnone)
  · split
    · rename_i shutdown _ _ hreturned
      refine h.moveStop hcall (Nat.add_le_add_right hheld 1) (fun _ => ?_) (fun _ => ?_)
        fun hset => Bool.noConfusion hset
      · exact h.unfinished _ (mem_of_getElem? hcall) rfl
      · exact h.entered _ (mem_of_getElem? hreturned) ShutdownCall.noConfusion
    · exact h
  · split_ifs with hempty
    · refine h.moveStop hcall (Nat.add_le_add_right hheld 1) (fun _ => ?_) (fun _ => ?_)
        fun _ => hempty
      · exact h.unfinished _ (mem_of_getElem? hcall) rfl
      · exact h.closed _ (mem_of_getElem? hcall) rfl
    · exact h
  · exact h.stopPool hcall rfl rfl
  · split_ifs
    · exact h.stopPool hcall rfl rfl
    · exact h
  · exact h.finishStop hcall
  · exact h
  · exact h

lemma Phases.step (event : Event) : (disk.step event).Phases := by
  cases event with
  | start fails => exact h.start fails
  | attach kind skipped => exact h.attach kind skipped
  | launch i operation | launchInitialize i =>
    exact h.still (disk.still_launchJob i _ _)
  | request i offset count callback =>
    exact h.still (disk.still_request i offset count callback)
  | cancel i byLoop =>
    exact h.still ⟨rfl, rfl, rfl, rfl, List.Subset.refl _, fun _ => id⟩
  | cancelStep call => exact h.still (disk.still_cancelStep call)
  | take => exact h.still disk.still_take
  | work worker fails size => exact h.still (disk.still_work worker fails size)
  | beginShutdown => exact h.beginShutdown
  | shutdownStep call => exact h.shutdownStep call
  | stop =>
    refine ⟨h.running, h.registered, ?_, fun stop hmem hholds => ?_, fun stop hmem hclosed => ?_,
      fun stop hmem hdrained => ?_, h.entered⟩
    · simpa [DiskExecutor.step, DiskExecutor.stop, holds] using h.held
    all_goals rcases mem_append.mp hmem with hbef | hnew
    · exact h.unfinished stop hbef hholds
    · rw [mem_singleton.mp hnew] at hholds
      exact Bool.noConfusion hholds
    · exact h.closed stop hbef hclosed
    · rw [mem_singleton.mp hnew] at hclosed
      exact Bool.noConfusion hclosed
    · exact h.drained stop hbef hdrained
    · rw [mem_singleton.mp hnew] at hdrained
      exact Bool.noConfusion hdrained
  | stopStep call => exact h.stopStep call

end

end DiskExecutor

end Tlss.Ftp
