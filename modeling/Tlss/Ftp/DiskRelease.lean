import Tlss.Ftp.DiskShutdown

/-!
# No adapter is forgotten

What the previous modules say about every run of the disk executor, and what holds behind
`begin_shutdown`: everything that is still registered has been cancelled. A call of
`cancel` by the owner that has just made its adapter busy is not yet a task, and the call
of `begin_shutdown` does not wait for it.

The task of a cancelled adapter ends it: each step of its worker brings it closer to the release
of the token (`Attends.work`), and a call that has made the adapter busy puts such a task into
the queue (`Accounts.willRelease`).
-/

namespace Tlss.Ftp

open Library Base List Option RunningTask DiskTask

def ShutdownCall.left : ShutdownCall → Option (List ℕ)
  | .hooks rest | .posting _ rest => some rest
  | .returned true => some []
  | .entering | .returned false => none

/-- The worker is between taking the task and its last access to the file. -/
def RunningTask.touches (index : ℕ) (task : RunningTask) : Bool :=
  task.state = index ∧ task.stage ≠ .releasing

lemma countP_touches (running : List RunningTask) (index : ℕ) :
    running.countP (touches index) = (running.map (active index)).sum +
        (running.map (closing index)).sum := by
  induction running with
  | nil => rfl
  | cons t running ih =>
    obtain ⟨t, stage⟩ := t
    rw [countP_cons, ih, map_cons, map_cons, sum_cons, sum_cons]
    cases stage <;> simp only [touches, active, closing,
      weight, ne_eq, reduceCtorEq, not_false_eq_true, not_true_eq_false, and_true,
      and_false, decide_eq_true_eq, decide_false, Bool.false_eq_true, if_false] <;> omega

/-- The steps that are left in front of the release, if the adapter is cancelled. -/
def TaskStage.distance : TaskStage → ℕ
  | .releasing => 0
  | .closing => 1
  | .ran _ _ => 2
  | .checked _ => 3
  | .taken => 4

namespace DiskExecutor

variable {disk later : DiskExecutor} {index : ℕ}

def Closing (disk : DiskExecutor) : Prop :=
  ∀ shutdown ∈ disk.shutdowns, ∀ rest, shutdown.left = some rest →
    ∀ entry ∈ disk.receivers, entry.2 ∈ rest ∨ IsCancelled disk.states entry.2

section

variable (h : disk.Closing)
include h

lemma Closing.still (hstill : disk.Still later) : later.Closing := by
  intro shutdown hmem rest hleft entry hentry
  rw [hstill.shutdowns] at hmem
  exact (h shutdown hmem rest hleft entry (hstill.receivers hentry)).imp_right
    (hstill.cancelled entry.2)

lemma Closing.beginShutdown : disk.beginShutdown.Closing := by
  intro shutdown hmem rest hleft entry hentry
  rcases mem_append.mp hmem with hbefore | hnew
  · exact h shutdown hbefore rest hleft entry hentry
  · rw [mem_singleton.mp hnew] at hleft
    exact absurd hleft.symm (some_ne_none rest)

lemma Closing.attach (hphases : disk.Phases) (kind : AdapterKind)
    (skipped : ℕ) : (disk.attach kind skipped).Closing := by
  have hkept : ∀ new index, IsCancelled disk.states index →
      IsCancelled (disk.states ++ [new]) index := by
    rintro new index ⟨s, hstate, hset⟩
    refine ⟨s, ?_, hset⟩
    rw [List.getElem?_append_left (List.getElem?_eq_some_iff.mp hstate).1, hstate]
  have hrefused : ∀ nextToken rejected, Closing { disk with
      rejected := rejected, nextToken := nextToken, states := disk.states ++ [{ kind := kind }] } :=
    fun _ _ shutdown hmem rest hleft entry hentry =>
      (h shutdown hmem rest hleft entry hentry).imp_right (hkept _ entry.2)
  unfold DiskExecutor.attach
  dsimp only
  split_ifs with hphase hfull hzero
  · exact hrefused _ _
  · exact hrefused _ _
  · exact hrefused _ _
  · -- while the executor runs no call has set the phase
    rw [not_not] at hphase
    intro shutdown hmem rest hleft
    rw [(hphases.not_closed hphase).2 shutdown hmem] at hleft
    exact absurd hleft.symm (some_ne_none rest)

lemma Closing.setShutdown {call : ℕ} {new : ShutdownCall}
    (hnew : ∀ rest, new.left = some rest → ∀ entry ∈ disk.receivers,
      entry.2 ∈ rest ∨ IsCancelled disk.states entry.2) : (disk.setShutdown call new).Closing := by
  intro shutdown hmem rest hleft
  rcases mem_or_eq_of_mem_set hmem with hbefore | heq
  · exact h shutdown hbefore rest hleft
  · exact hnew rest (heq ▸ hleft)

lemma Closing.shutdownStep (haccounts : disk.Accounts) (call : ℕ) :
    (disk.shutdownStep call).Closing := by
  unfold DiskExecutor.shutdownStep
  split
  all_goals try rename_i hcall
  · split_ifs
    · exact h.setShutdown fun rest hleft => absurd hleft.symm (some_ne_none rest)
    · have hphase : Closing { disk with phase := .closing } := h
      refine hphase.setShutdown fun rest hleft entry hentry => .inl ?_
      rw [← some.inj hleft]
      exact mem_map_of_mem hentry
  · refine h.setShutdown fun rest hleft => h _ (mem_of_getElem? hcall) rest hleft
  · rename_i index rest
    obtain ⟨hstill, hcancelled⟩ := disk.cancelLock_still index false
    -- the entry of the hook that is called now is cancelled, the others are as before
    have hrest : ∀ entry ∈ (disk.cancelLock index false).2.receivers, entry.2 ∈ rest ∨
        IsCancelled (disk.cancelLock index false).2.states entry.2 := by
      intro entry hentry
      have hbefore := hstill.receivers hentry
      rcases h _ (mem_of_getElem? hcall) _ rfl entry hbefore with hmem | hset
      · rcases mem_cons.mp hmem with heq | hlater
        · have hrecorded := (List.getElem?_eq_some_iff.mp (haccounts.entries entry hbefore)).1
          rw [tokens, length_map] at hrecorded
          exact .inr (heq ▸ hcancelled (heq ▸ hrecorded))
        · exact .inl hlater
      · exact .inr (hstill.cancelled entry.2 hset)
    have hlocked := h.still hstill
    split <;> rename_i heq <;> rw [heq] at hlocked hrest <;>
      exact hlocked.setShutdown fun left hleft => some.inj hleft ▸ hrest
  · rename_i index rest
    have hmoved : (disk.setShutdown call (.hooks rest)).Closing :=
      h.setShutdown fun left hleft => h _ (mem_of_getElem? hcall) left hleft
    exact hmoved.still (still_cancelPost _ index)
  · exact h
  · exact h

lemma Closing.stopStep (call : ℕ) : (disk.stopStep call).Closing := by
  unfold DiskExecutor.stopStep
  split
  · split_ifs
    · exact h
    · exact h
    · exact h.beginShutdown
  · split <;> exact h
  · split_ifs <;> exact h
  · exact h
  · split_ifs <;> exact h
  · exact h
  · exact h
  · exact h

lemma Closing.step (haccounts : disk.Accounts) (hphases : disk.Phases)
    (e : Event) : (disk.step e).Closing := by
  cases e with
  | start fails =>
    rw [DiskExecutor.step, DiskExecutor.start]
    split_ifs <;> exact h
  | attach kind skipped => exact h.attach hphases kind skipped
  | launch index operation | launchInitialize index =>
    exact h.still (disk.still_launchJob index _ _)
  | request index offset count callback =>
    exact h.still (disk.still_request index offset count callback)
  | cancel index byLoop | stop => exact h
  | cancelStep call => exact h.still (disk.still_cancelStep call)
  | take => exact h.still disk.still_take
  | work worker fails size => exact h.still (disk.still_work worker fails size)
  | beginShutdown => exact h.beginShutdown
  | shutdownStep call => exact h.shutdownStep haccounts call
  | stopStep call => exact h.stopStep call

end

/-! ## Runs -/

lemma run_accounts_phases_closing (events : List Event) :
    (run step new events).Accounts ∧ (run step new events).Phases ∧
      (run step new events).Closing := by
  have hstep : ∀ (disk : DiskExecutor) e, disk.Accounts ∧ disk.Phases ∧ disk.Closing →
      (disk.step e).Accounts ∧ (disk.step e).Phases ∧ (disk.step e).Closing :=
    fun _ e h => ⟨h.1.step h.2.1 e, h.2.1.step e, h.2.2.step h.1 h.2.1 e⟩
  exact run_invariant hstep ⟨accounts_new, phases_new, fun _ hmem => absurd hmem not_mem_nil⟩ events

/-- A call of `cancel` has made the adapter busy and is about to post its cleanup. -/
def IsPosting (disk : DiskExecutor) (index : ℕ) : Prop :=
  .posting index ∈ disk.cancels ∨ ∃ rest, .posting index rest ∈ disk.shutdowns

def HasTask (disk : DiskExecutor) (index : ℕ) : Prop :=
  (∃ task ∈ disk.queue, task.state = index) ∨ ∃ task ∈ disk.running, task.state = index

lemma DiskTask.state_of_weight {t : DiskTask} (hpos : 0 < t.weight index) : t.state = index := by
  by_contra hne
  rw [weight, if_neg hne] at hpos
  exact lt_irrefl 0 hpos

lemma hasTask_or_isPosting (hpos : 0 < (disk.tally index).pending + (disk.tally index).closing +
      (disk.tally index).releasing) : disk.HasTask index ∨ disk.IsPosting index := by
  have hrunning : ∀ t ∈ disk.running, 0 < t.active index + t.closing index +
      t.releasing index → disk.HasTask index := by
    intro t hmem hweight
    refine .inr ⟨t, hmem, DiskTask.state_of_weight ?_⟩
    obtain ⟨t, stage⟩ := t
    cases stage <;> simpa [active, closing, releasing]
      using hweight
  by_cases hqueue : 0 < (disk.queue.map (weight index)).sum
  · obtain ⟨t, hmem, hweight⟩ := exists_of_sum_map_pos hqueue
    exact .inl (.inl ⟨t, hmem, DiskTask.state_of_weight hweight⟩)
  by_cases hcancels : 0 < (disk.cancels.map (CancelCall.weight index)).sum
  · obtain ⟨call, hmem, hweight⟩ := exists_of_sum_map_pos hcancels
    cases call with
    | entering s byLoop => exact absurd hweight (lt_irrefl 0)
    | posting s =>
      by_cases heq : s = index
      · exact .inr (.inl (heq ▸ hmem))
      · rw [CancelCall.weight, if_neg heq] at hweight
        exact absurd hweight (lt_irrefl 0)
  by_cases hshutdowns : 0 < (disk.shutdowns.map (ShutdownCall.weight index)).sum
  · obtain ⟨call, hmem, hweight⟩ := exists_of_sum_map_pos hshutdowns
    cases call with
    | posting s rest =>
      by_cases heq : s = index
      · exact .inr (.inr ⟨rest, heq ▸ hmem⟩)
      · rw [ShutdownCall.weight, if_neg heq] at hweight
        exact absurd hweight (lt_irrefl 0)
    | entering | hooks rest | returned closer => exact absurd hweight (lt_irrefl 0)
  have hsum : 0 < (disk.running.map fun t =>
      t.active index + t.closing index + t.releasing index).sum := by
    rw [sum_map_add, sum_map_add]
    simp only [tally] at hpos
    omega
  obtain ⟨t, hmem, hweight⟩ := exists_of_sum_map_pos hsum
  exact .inl (hrunning t hmem hweight)

lemma Accounts.cared_for (h : disk.Accounts) {entry : ℕ × ℕ} (hentry : entry ∈ disk.receivers)
    (hcancelled : IsCancelled disk.states entry.2) :
    disk.HasTask entry.2 ∨ disk.IsPosting entry.2 := by
  obtain ⟨s, hstate, hset⟩ := hcancelled
  have hcustody := h.custody entry.2 s hstate
  have hregistered : 0 < (disk.tally entry.2).registered := by
    simp only [tally, sum_map_ite_eq_count]
    exact count_pos_iff.mpr (mem_map_of_mem hentry)
  refine hasTask_or_isPosting ?_
  cases hterminal : s.terminal with
  | true =>
    have hended := (hcustody.ended hterminal).2
    omega
  | false =>
    have htoken : s.token ≠ 0 := by
      intro hzero
      rw [(hcustody.live hterminal).2.2, if_pos hzero] at hregistered
      exact lt_irrefl 0 hregistered
    have hcount := hcustody.busy
    rw [hcustody.cancelled hset hterminal htoken, Bool.toNat_true] at hcount
    omega

/-! ## The way to the release -/

/-- A step of a worker or of a call that is under way; the disk decides as given. -/
def Event.GoesOn (fails : Bool) (size : ℕ) : Event → Prop
  | .take | .cancelStep _ | .shutdownStep _ => True
  | .work _ fails' size' => fails' = fails ∧ size' = size
  | _ => False

/-- Whatever the disk decides, the workers and the calls that are under way release the token
by themselves. -/
def WillRelease (disk : DiskExecutor) (token : ℕ) : Prop :=
  ∀ fails size, ∃ events, (∀ event ∈ events, event.GoesOn fails size) ∧
    .released token ∈ (run step disk events).trace

/-- A worker is with the task of a cancelled adapter. -/
def Attends (disk : DiskExecutor) (worker token : ℕ) (stage : TaskStage) : Prop :=
  ∃ task state, disk.running[worker]? = some ⟨task, stage⟩ ∧
    disk.states[task.state]? = some state ∧ state.token = token ∧ state.cancelled = true

variable {worker token : ℕ} {stage : TaskStage} {state : AdapterState}

lemma WillRelease.of_step (event : Event) (hgoes : ∀ fails size, event.GoesOn fails size)
    (h : (disk.step event).WillRelease token) : disk.WillRelease token := by
  intro fails size
  obtain ⟨events, hall, hreleased⟩ := h fails size
  exact ⟨event :: events, forall_mem_cons.mpr ⟨hgoes fails size, hall⟩, hreleased⟩

/-- A step of the worker releases the token, or brings the task closer to that. -/
lemma Attends.work (h : disk.Attends worker token stage) (fails : Bool) (size : ℕ) :
    .released token ∈ (disk.work worker fails size).trace ∨ ∃ next : TaskStage,
      next.distance < stage.distance ∧
        (disk.work worker fails size).Attends worker token next := by
  obtain ⟨task, state, hrunning, hstate, rfl, hcancelled⟩ := h
  have hworker := (List.getElem?_eq_some_iff.mp hrunning).1
  have hindex := (List.getElem?_eq_some_iff.mp hstate).1
  -- the task goes to its next stage, and the adapter stays cancelled
  have hnext : ∀ (later : DiskExecutor) (next : TaskStage) (new : AdapterState),
      later.running = disk.running.set worker ⟨task, next⟩ →
      later.states = disk.states.set task.state new → new.token = state.token →
      new.cancelled = true → later.Attends worker state.token next := by
    intro later next new hset hnew htoken hflag
    refine ⟨task, new, ?_, ?_, htoken, hflag⟩
    · rw [hset, getElem?_set_self hworker]
    · rw [hnew, getElem?_set_self hindex]
  simp only [work, hrunning, hstate]
  cases stage with
  | taken =>
    rw [workOn]
    split_ifs
    · exact .inr ⟨.closing, by simp [TaskStage.distance], hnext _ _ _ rfl rfl rfl hcancelled⟩
    · exact .inr ⟨.checked state.cancelled, by simp [TaskStage.distance], task, state,
        getElem?_set_self hworker, hstate, rfl, hcancelled⟩
  | checked cancelled =>
    obtain ⟨opened, hopened⟩ := operate_state task.job state cancelled fails
    rw [workOn]
    dsimp only
    rw [hopened]
    exact .inr ⟨_, by simp [TaskStage.distance], hnext _ _ _ rfl rfl rfl hcancelled⟩
  | ran failed size =>
    have hending : isEnding task.job state failed = true := by simp [isEnding, hcancelled]
    rw [workOn, if_pos hending]
    exact .inr ⟨.closing, by simp [TaskStage.distance], hnext _ _ _ rfl rfl rfl hcancelled⟩
  | closing =>
    obtain ⟨htoken, -, hflag, -⟩ :=
      answered_flags task.job { state with opened := false, busy := false }
    rw [workOn, postResult_eq]
    exact .inr ⟨.releasing, by simp [TaskStage.distance],
      hnext _ _ _ rfl rfl htoken (hflag.trans hcancelled)⟩
  | releasing => exact .inl (mem_append_right _ (mem_singleton_self _))

lemma Attends.willRelease (h : disk.Attends worker token stage) : disk.WillRelease token := by
  intro fails size
  induction hleft : stage.distance using Nat.strong_induction_on generalizing disk stage with
  | _ left ih =>
    rcases h.work fails size with hdone | ⟨next, hless, hnext⟩
    · exact ⟨[.work worker fails size], by simp [Event.GoesOn], hdone⟩
    · obtain ⟨events, hall, hreleased⟩ := ih _ (hleft ▸ hless) hnext rfl
      exact ⟨.work worker fails size :: events, forall_mem_cons.mpr ⟨⟨rfl, rfl⟩, hall⟩, hreleased⟩

/-- Workers take the tasks in front of it, and then the task itself. -/
lemma willRelease_of_queued {task : DiskTask} {queue : List DiskTask} (hqueue : disk.queue = queue)
    (hmem : task ∈ queue) (hstate : disk.states[task.state]? = some state)
    (hcancelled : state.cancelled = true) : disk.WillRelease state.token := by
  induction queue generalizing disk with
  | nil => cases hmem
  | cons first rest ih =>
    have htake : disk.step .take =
        { disk with queue := rest, running := disk.running ++ [⟨first, .taken⟩] } := by
      rw [step, take, hqueue]
    refine .of_step .take (fun _ _ => trivial) ?_
    rw [htake]
    rcases mem_cons.mp hmem with rfl | hlater
    · exact Attends.willRelease ⟨task, state, getElem?_concat_length, hstate, rfl, hcancelled⟩
    · exact ih rfl hlater hstate

lemma Accounts.willRelease (h : disk.Accounts) (hphases : disk.Phases)
    (hstate : disk.states[index]? = some state) (hcancelled : state.cancelled = true)
    (hcared : disk.HasTask index ∨ disk.IsPosting index) : disk.WillRelease state.token := by
  have hposted : ∀ (event : Event) (cancels : List CancelCall) (shutdowns : List ShutdownCall),
      (∀ fails size, event.GoesOn fails size) →
      0 < (disk.cancels.map (CancelCall.weight index)).sum +
        (disk.shutdowns.map (ShutdownCall.weight index)).sum →
      disk.step event =
        cancelPost { disk with cancels := cancels, shutdowns := shutdowns } index →
      disk.WillRelease state.token := by
    intro event cancels shutdowns hgoes hposting hstep
    refine .of_step event hgoes ?_
    rw [hstep, h.cancelPost_eq hphases hposting]
    exact willRelease_of_queued rfl (mem_append_right _ (mem_singleton_self _)) hstate hcancelled
  rcases hcared with (⟨task, hmem, rfl⟩ | ⟨task, hmem, rfl⟩) | hmem | ⟨rest, hmem⟩
  · exact willRelease_of_queued rfl hmem hstate hcancelled
  · obtain ⟨worker, hworker⟩ := mem_iff_getElem?.mp hmem
    exact Attends.willRelease ⟨task.toDiskTask, state, hworker, hstate, rfl, hcancelled⟩
  · obtain ⟨call, hcall⟩ := mem_iff_getElem?.mp hmem
    have hsum := sum_map_eraseIdx hcall (CancelCall.weight index)
    have hweight : CancelCall.weight index (.posting index) = 1 := if_pos rfl
    refine hposted (.cancelStep call) (disk.cancels.eraseIdx call) disk.shutdowns
      (fun _ _ => trivial) (by omega) ?_
    rw [DiskExecutor.step, DiskExecutor.cancelStep, hcall]
  · obtain ⟨call, hcall⟩ := mem_iff_getElem?.mp hmem
    have hsum := sum_map_eraseIdx hcall (ShutdownCall.weight index)
    have hweight : ShutdownCall.weight index (.posting index rest) = 1 := if_pos rfl
    refine hposted (.shutdownStep call) disk.cancels (disk.shutdowns.set call (.hooks rest))
      (fun _ _ => trivial) (by omega) ?_
    rw [DiskExecutor.step, DiskExecutor.shutdownStep, hcall]
    rfl

lemma count_released_le_one {trace : List DiskEffect}
    (h : trace.Pairwise DiskEffect.mayPrecede) (token : ℕ) : trace.count (.released token) ≤ 1 := by
  induction h with
  | nil => exact Nat.zero_le 1
  | @cons effect trace hhead _ ih =>
    rw [count_cons]
    split_ifs with heq
    · rw [beq_iff_eq] at heq
      have hnone : trace.count (.released token) = 0 := by
        refine count_eq_zero.mpr fun hmem => ?_
        have hlater := hhead _ hmem
        rw [heq] at hlater
        exact hlater rfl
      omega
    · exact ih

/-- The owner cancels its adapter and has not posted the cleanup yet; `begin_shutdown` finds
the adapter busy and returns. -/
def cancelBesideShutdown : List Event :=
  [.start false, .attach .receiver 0, .cancel 0 true, .cancelStep 0, .beginShutdown,
    .shutdownStep 0, .shutdownStep 0, .shutdownStep 0]

/-- Behind `begin_shutdown` an adapter may be registered without a task of its own, while
the call that cancels it is about to post one. -/
theorem cancel_outlasts_shutdown :
    let disk := run step new cancelBesideShutdown
    .returned true ∈ disk.shutdowns ∧ (1, 0) ∈ disk.receivers ∧ disk.queue = [] ∧
      disk.running = [] ∧ disk.cancels = [.posting 0] := by
  decide

/-- In every state of every run: an adapter has at most one task in the queue and at most 64 are
registered; only tasks that are no cleanups are rejected, and `std::terminate` is not called; at
most one worker is with a file; a token is released at most once. Once `begin_shutdown` has
returned, all that is registered has been cancelled, has a task or a call that is about to post
one, and will be released. -/
theorem disk_lifecycle_safe (events : List Event) :
    let disk := run step new events
    (∀ entry ∈ disk.receivers, (disk.queue.map DiskTask.state).count entry.2 ≤ 1) ∧
      disk.receivers.length ≤ maxReceivers ∧
      disk.terminated = false ∧
      (∀ cleanup phase, .rejected cleanup phase ∈ disk.trace → cleanup = false ∧ phase ≠ .running) ∧
      (∀ index, disk.running.countP (touches index) ≤ 1) ∧
      (∀ token, disk.trace.count (.released token) ≤ 1) ∧
      (∀ before after token byLoop, disk.trace = before ++ .posted token byLoop :: after →
        .released token ∈ before → byLoop = true) ∧
      (.returned true ∈ disk.shutdowns → ∀ entry ∈ disk.receivers,
        IsCancelled disk.states entry.2 ∧ (disk.HasTask entry.2 ∨ disk.IsPosting entry.2) ∧
          disk.WillRelease entry.1) := by
  intro disk
  obtain ⟨haccounts, hphases, hclosing⟩ := run_accounts_phases_closing events
  have hpending : ∀ index, (disk.tally index).pending + (disk.tally index).closing ≤ 1 := by
    intro index
    by_cases hlt : index < disk.states.length
    · rw [(haccounts.custody index _ (getElem?_eq_getElem hlt)).busy]
      exact Bool.toNat_le _
    · rw [haccounts.outside index (Nat.le_of_not_lt hlt)]
      exact Nat.zero_le 1
  refine ⟨fun entry _ => ?_, haccounts.limit, haccounts.intact, haccounts.rejections,
    fun index => ?_, count_released_le_one haccounts.ordered,
    fun before after token byLoop htrace hreleased => ?_, fun hreturned entry hentry => ?_⟩
  · have hle := hpending entry.2
    rw [← sum_weight]
    simp only [tally] at hle
    omega
  · have hle := hpending index
    rw [countP_touches]
    simp only [tally] at hle
    omega
  · have hordered : (before ++ .posted token byLoop :: after).Pairwise DiskEffect.mayPrecede :=
      htrace ▸ haccounts.ordered
    have hcross := (pairwise_append.mp hordered).2.2 _ hreleased _ mem_cons_self
    exact hcross rfl
  · have hset := (hclosing _ hreturned [] rfl entry hentry).resolve_left not_mem_nil
    have hcared := haccounts.cared_for hentry hset
    obtain ⟨state, hstate, hcancelled⟩ := hset
    have htoken := haccounts.entries entry hentry
    rw [tokens, getElem?_map, hstate, map_some, some_inj] at htoken
    exact ⟨⟨state, hstate, hcancelled⟩, hcared,
      htoken ▸ haccounts.willRelease hphases hstate hcancelled hcared⟩

end DiskExecutor

end Tlss.Ftp
