import Tlss.Ftp.DiskSteps

/-!
# The workers of the disk executor

A worker carries its task through the stages. The adapter stays busy until the last
critical section of the task, so that nobody else gets a task for it meanwhile; what is
posted to the loop is posted while it is busy, and only then is its token released.
-/

namespace Tlss.Ftp

open Library Base List Option RunningTask

def TaskStage.isActive : TaskStage → Bool
  | .taken | .checked _ | .ran _ _ => true
  | .closing | .releasing => false

namespace DiskExecutor

variable {disk later : DiskExecutor} {wk : ℕ} {t : DiskTask} {stage : TaskStage}
  {s new : AdapterState}

/-! ## The numbers after a stage -/

section

variable (hold : disk.running[wk]? = some ⟨t, stage⟩)
include hold

lemma tally_move (hactive : stage.isActive) {next : TaskStage} (hnext : next.isActive)
    (i : ℕ) : (disk.setStage wk t next).tally i = disk.tally i := by
  rw [tally_setStage hold]
  cases stage <;> cases next <;> simp_all [TaskStage.isActive, active,
    closing, releasing, reads]

lemma tally_finish (hactive : stage.isActive) (i : ℕ) :
    (disk.setStage wk t .closing).tally i = { disk.tally i with
        pending := (disk.tally i).pending - t.weight i
        closing := (disk.tally i).closing + t.weight i } := by
  rw [tally_setStage hold]
  cases stage <;> simp_all [TaskStage.isActive, active, closing,
    releasing, reads]

lemma tally_conclude (hactive : stage.isActive) (i : ℕ) : (disk.dropTask wk).tally i =
      { disk.tally i with
        pending := (disk.tally i).pending - t.weight i
        reads := (disk.tally i).reads - t.reads i } := by
  rw [tally_dropTask hold]
  cases stage <;> simp_all [TaskStage.isActive, active, closing,
    releasing, reads]

omit hold in
lemma tally_close (hold : disk.running[wk]? = some ⟨t, .closing⟩) (i : ℕ) :
    (disk.setStage wk t .releasing).tally i = { disk.tally i with
        reads := (disk.tally i).reads - t.reads i
        closing := (disk.tally i).closing - t.weight i
        releasing := (disk.tally i).releasing + t.weight i } := by
  rw [tally_setStage hold]
  simp [active, closing, releasing, reads]

omit hold in
lemma tally_release (hold : disk.running[wk]? = some ⟨t, .releasing⟩) (i : ℕ) :
    (disk.dropTask wk).tally i = { disk.tally i with
        releasing := (disk.tally i).releasing - t.weight i } := by
  rw [tally_dropTask hold]
  simp [active, closing, releasing, reads]

lemma pending_pos (hactive : stage.isActive) : 0 < (disk.tally t.state).pending := by
  have hsum := sum_map_eraseIdx hold (active t.state)
  have hweight : active t.state ⟨t, stage⟩ = 1 := by
    cases stage <;> simp_all [TaskStage.isActive, active, DiskTask.weight]
  simp only [tally]
  omega

omit hold in
lemma closing_pos (hold : disk.running[wk]? = some ⟨t, .closing⟩) :
    0 < (disk.tally t.state).closing := by
  have hsum := sum_map_eraseIdx hold (closing t.state)
  have hweight : closing t.state ⟨t, .closing⟩ = 1 := t.weight_self
  simp only [tally]
  omega

omit hold in
lemma releasing_pos (hold : disk.running[wk]? = some ⟨t, .releasing⟩) :
    0 < (disk.tally t.state).releasing := by
  have hsum := sum_map_eraseIdx hold (releasing t.state)
  have hweight : releasing t.state ⟨t, .releasing⟩ = 1 := t.weight_self
  simp only [tally]
  omega

/-! ## The stages -/

omit hold in
lemma Accounts.take (h : disk.Accounts) : disk.take.Accounts := by
  unfold DiskExecutor.take
  split
  · exact h
  · rename_i t rest hqueue
    refine h.quiet ⟨rfl, rfl, rfl, rfl, rfl, fun i => ?_⟩
    simp only [tally, hqueue, map_cons, map_append, map_nil, sum_cons,
      sum_append, sum_nil, active, closing,
      releasing, reads, Tally.mk.injEq, and_true]
    omega

omit hold in
lemma operate_state (job : DiskJob) (s : AdapterState) (cancelled fails : Bool) :
    ∃ opened, (operate job s cancelled fails).2 = { s with opened := opened } := by
  unfold operate
  split
  · split_ifs
    · exact ⟨s.opened, rfl⟩
    · exact ⟨!fails, rfl⟩
  · split_ifs
    · exact ⟨s.opened, rfl⟩
    · exact ⟨!fails, rfl⟩
  · split_ifs <;> exact ⟨s.opened, rfl⟩
  · split_ifs <;> exact ⟨s.opened, rfl⟩
  · split_ifs <;> exact ⟨s.opened, rfl⟩
  · exact ⟨s.opened, rfl⟩

lemma local_finish (hactive : stage.isActive) (hst : disk.states[t.state]? = some s) : disk.Local
      ((disk.setState t.state { s with terminal := true }).setStage wk t .closing)
      t.state s { s with terminal := true } := by
  refine ⟨hst, rfl, rfl, rfl, rfl, rfl, fun j hne => ?_, fun hcustody => ?_,
    [], (append_nil _).symm, fun _ hmem => absurd hmem not_mem_nil⟩
  · refine (tally_finish hold hactive j).trans ?_
    rw [DiskTask.weight_ne hne]
    rfl
  · refine (tally_finish hold hactive t.state).symm ▸ ?_
    rw [t.weight_self]
    exact hcustody.finish (pending_pos hold hactive)

end

def postsResult (job : DiskJob) (state : AdapterState) : Bool :=
  match job with
  | .execute _ | .runInitialize => !state.cancelled
  | .runRead _ _ => state.completion
  | .cleanup => false

def answered (job : DiskJob) (state : AdapterState) : AdapterState :=
  match job with
  | .runRead _ _ => { state with completion := false }
  | .execute _ | .runInitialize | .cleanup => state

lemma postResult_eq (disk : DiskExecutor) (i : ℕ) (s : AdapterState) (job : DiskJob) :
    disk.postResult i s job = { disk with
        trace := disk.trace ++
          if postsResult job s then [DiskEffect.posted s.token false] else [] }.setState
        i (answered job s) := by
  cases job with
  | execute operation | runInitialize | runRead offset count => rw [postResult, postRead_eq]; rfl
  | cleanup => simp [postResult, postsResult, answered, setState]

lemma answered_flags (job : DiskJob) (s : AdapterState) :
    (answered job s).token = s.token ∧ (answered job s).busy = s.busy ∧
      (answered job s).cancelled = s.cancelled ∧ (answered job s).terminal = s.terminal := by
  cases job <;> exact ⟨rfl, rfl, rfl, rfl⟩

/-- Behind the post nobody waits for a read: the task was the only one, so that there is
no read unless it was the task itself. -/
lemma Accounts.answered_completion (h : disk.Accounts) (hst : disk.states[t.state]? = some s)
    (hnew : new.completion = s.completion) {rest : Tally}
    (hreads : rest.reads = (disk.tally t.state).reads - t.reads t.state)
    (hrest : rest.reads ≤ rest.pending + rest.closing) (hless : rest.pending + rest.closing <
      (disk.tally t.state).pending + (disk.tally t.state).closing) :
    (answered t.job new).completion = false := by
  have hcustody := h.custody _ s hst
  have hcount := hcustody.busy
  have hle := s.busy.toNat_le
  obtain ⟨i, job⟩ := t
  have hother : DiskTask.reads i ⟨i, job⟩ = 0 → new.completion = false := by
    intro hnone
    rw [hnew]
    refine Bool.eq_false_iff.mpr fun hset => ?_
    have hread := hcustody.completion hset
    dsimp only at hread hreads hless hcount
    omega
  cases job with
  | runRead offset count => rfl
  | execute operation | runInitialize | cleanup => exact hother rfl

lemma allowed_result {job : DiskJob} (htoken : new.token = s.token) (hbusy : s.busy) :
    ∀ effect ∈ (if postsResult job new then [DiskEffect.posted new.token false] else []),
      Allowed s effect := by
  intro effect hmem
  split_ifs at hmem
  · rw [mem_singleton.mp hmem, htoken]
    exact .busy false hbusy
  · exact absurd hmem not_mem_nil

lemma Accounts.busy_of_pending (h : disk.Accounts) (hst : disk.states[t.state]? = some s)
    (hpos : 0 < (disk.tally t.state).pending + (disk.tally t.state).closing) : s.busy := by
  have hcount := (h.custody _ s hst).busy
  refine Bool.eq_true_of_not_eq_false fun hidle => ?_
  rw [hidle, Bool.toNat_false] at hcount
  omega

lemma Accounts.local_conclude (h : disk.Accounts)
    (hold : disk.running[wk]? = some ⟨t, stage⟩) (hactive : stage.isActive)
    (hst : disk.states[t.state]? = some s) (hcancelled : s.cancelled = false)
    (size : ℕ) : disk.Local ((disk.dropTask wk).postResult t.state (concluded t.job s size) t.job)
      t.state s (answered t.job (concluded t.job s size)) := by
  have hpos := pending_pos hold hactive
  have htally := tally_conclude hold hactive t.state
  have hflags : (concluded t.job s size).token = s.token ∧ (concluded t.job s size).busy = false ∧
      (concluded t.job s size).cancelled = s.cancelled ∧
      (concluded t.job s size).terminal = s.terminal ∧
      (concluded t.job s size).completion = s.completion := by
    unfold concluded
    split_ifs <;> exact ⟨rfl, rfl, rfl, rfl, rfl⟩
  obtain ⟨htoken, hbusy, hflag, hterminal, hcompletion⟩ := hflags
  obtain ⟨htoken', hbusy', hflag', hterminal'⟩ :=
    answered_flags t.job (concluded t.job s size)
  have hanswered : (answered t.job (concluded t.job s size)).completion = false := by
    refine h.answered_completion hst hcompletion (congrArg Tally.reads htally)
      ((disk.dropTask wk).tally_reads_le t.state) ?_
    rw [htally, t.weight_self]
    dsimp only
    omega
  rw [postResult_eq]
  refine ⟨hst, rfl, htoken'.trans htoken, rfl, rfl, rfl, fun j hne => ?_,
    fun hcustody => ?_, _, rfl,
    allowed_result htoken (h.busy_of_pending hst (Nat.add_pos_left hpos _))⟩
  · refine (tally_conclude hold hactive j).trans ?_
    rw [DiskTask.weight_ne hne, DiskTask.reads_ne hne]
    rfl
  · refine htally.symm ▸ ?_
    rw [t.weight_self]
    exact hcustody.conclude hpos hcancelled (htoken'.trans htoken) (hbusy'.trans hbusy)
      (hflag'.trans hflag) (hterminal'.trans hterminal) hanswered

lemma Accounts.local_close (h : disk.Accounts) (hold : disk.running[wk]? = some ⟨t, .closing⟩)
    (hst : disk.states[t.state]? = some s) : disk.Local
      ((disk.postResult t.state { s with opened := false, busy := false } t.job).setStage
        wk t .releasing)
      t.state s (answered t.job { s with opened := false, busy := false }) := by
  have hpos := closing_pos hold
  have htally := tally_close hold t.state
  obtain ⟨htoken, hbusy, -, hterminal⟩ :=
    answered_flags t.job { s with opened := false, busy := false }
  have hanswered :
      (answered t.job { s with opened := false, busy := false }).completion = false := by
    refine h.answered_completion hst rfl (congrArg Tally.reads htally)
      ((disk.setStage wk t .releasing).tally_reads_le t.state) ?_
    rw [htally, t.weight_self]
    dsimp only
    omega
  rw [postResult_eq]
  refine ⟨hst, rfl, htoken, rfl, rfl, rfl, fun j hne => ?_, fun hcustody => ?_, _, rfl,
    allowed_result rfl (h.busy_of_pending hst (Nat.add_pos_right _ hpos))⟩
  · refine (tally_close hold j).trans ?_
    rw [DiskTask.weight_ne hne, DiskTask.reads_ne hne]
    rfl
  · refine htally.symm ▸ ?_
    rw [t.weight_self]
    exact hcustody.close hpos htoken hbusy hterminal hanswered

/-! ## The release -/

lemma Accounts.registered_release (h : disk.Accounts) {i : ℕ}
    (hst : disk.states[i]? = some s) (htoken : s.token ≠ 0) (j : ℕ) :
    ((disk.receivers.filter (·.1 ≠ s.token)).map fun e => if e.2 = j then 1 else 0).sum =
      if j = i then 0 else (disk.tally j).registered := by
  have hentry : ∀ e ∈ disk.receivers, e.1 = s.token ↔ e.2 = i := by
    have hindex : disk.tokens[i]? = some s.token := by
      rw [tokens, getElem?_map, hst, map_some]
    intro e hmem
    have hrecorded := h.entries e hmem
    constructor
    · intro heq
      exact h.distinct _ _ _ (heq ▸ hrecorded) hindex htoken
    · intro heq
      rw [heq, hindex] at hrecorded
      exact (some.inj hrecorded).symm
  simp only [tally, sum_map_ite_eq_count, count, countP_map, countP_filter]
  split_ifs with heq
  · refine countP_eq_zero.mpr fun e hmem => ?_
    simp [hentry e hmem, heq]
  · refine countP_congr fun e hmem => ?_
    simp only [Function.comp_apply, Bool.and_eq_true, beq_iff_eq, decide_eq_true_eq,
      hentry e hmem, ne_eq]
    exact ⟨fun hboth => hboth.1, fun hother => ⟨hother, fun hindex => heq (hother ▸ hindex)⟩⟩

lemma Accounts.release (h : disk.Accounts) (hold : disk.running[wk]? = some ⟨t, .releasing⟩)
    (hst : disk.states[t.state]? = some s) : ((disk.dropTask wk).release s.token).Accounts := by
  have hcustody := h.custody _ s hst
  obtain ⟨hreleased, hregistered⟩ := hcustody.release (releasing_pos hold)
  have htoken : s.token ≠ 0 := by
    intro hzero
    have hnone := (hcustody.live (hcustody.unattached hzero).2).2.2
    rw [if_pos hzero] at hnone
    omega
  have htally : ∀ j, ((disk.dropTask wk).release s.token).tally j =
      { (disk.dropTask wk).tally j with
        registered := if j = t.state then 0 else (disk.tally j).registered } := by
    intro j
    rw [← h.registered_release hst htoken j]
    rfl
  have hmem : s.token ∈ disk.tokens := mem_map_of_mem (mem_of_getElem? hst)
  refine ⟨⟨fun e hentry => h.entries e (mem_of_mem_filter hentry),
    Nat.le_trans (length_filter_le _ _) h.limit, h.positive, h.fresh, h.distinct,
    fun token hmemReleased => ?_, ?_, fun cleanup phase hrejected => ?_,
    fun token htokens hne => ?_⟩, fun j new hnew => ?_, fun j hlength => ?_, h.intact⟩
  · rcases mem_append.mp hmemReleased with hbefore | hnow
    · refine ⟨(h.released token hbefore).1, fun e hentry => ?_⟩
      exact (h.released token hbefore).2 e (mem_of_mem_filter hentry)
    · have heq : token = s.token := DiskEffect.released.inj (mem_singleton.mp hnow)
      rw [heq]
      exact ⟨h.fresh _ hmem, fun e hentry => of_decide_eq_true (mem_filter.mp hentry).2⟩
  · refine pairwise_append.mpr ⟨h.ordered, pairwise_singleton _ _,
      fun earlier hearlier effect heffect => ?_⟩
    rw [mem_singleton.mp heffect]
    cases earlier with
    | released token =>
      intro heq
      exact h.not_released hst hregistered (heq ▸ hearlier)
    | posted token byLoop | rejected cleanup phase => trivial
  · rcases mem_append.mp hrejected with hbefore | hnow
    · exact h.rejections cleanup phase hbefore
    · exact DiskEffect.noConfusion (mem_singleton.mp hnow)
  · rcases h.kept token htokens hne with ⟨e, hentry, rfl⟩ | hbefore
    · by_cases heq : e.1 = s.token
      · exact .inr (List.mem_append_right _ (heq ▸ List.mem_singleton_self _))
      · exact .inl ⟨e, List.mem_filter.mpr ⟨hentry, decide_eq_true heq⟩, rfl⟩
    · exact .inr (List.mem_append_left _ hbefore)
  · rw [htally, tally_release hold]
    by_cases heq : j = t.state
    · subst heq
      rw [if_pos rfl, t.weight_self]
      exact some.inj (hst.symm.trans hnew) ▸ hreleased
    · rw [if_neg heq, DiskTask.weight_ne heq]
      exact h.custody j new hnew
  · obtain ⟨hlt, -⟩ := List.getElem?_eq_some_iff.mp hst
    have hlong : disk.states.length ≤ j := hlength
    have hne : j ≠ t.state := by omega
    rw [htally, tally_release hold, if_neg hne, DiskTask.weight_ne hne, h.outside j hlong]
    rfl

/-! ## The worker as a whole -/

lemma Accounts.work (h : disk.Accounts) (wk : ℕ) (fails : Bool) (size : ℕ) :
    (disk.work wk fails size).Accounts := by
  unfold DiskExecutor.work
  split
  · rename_i current hcur
    obtain ⟨t, stage⟩ := current
    split
    · rename_i s hst
      cases stage with
      | taken =>
        rw [workOn]
        split_ifs
        · exact h.local (local_finish hcur rfl hst)
        · exact h.quiet ⟨rfl, rfl, rfl, rfl, rfl, tally_move hcur rfl rfl⟩
      | checked cancelled =>
        obtain ⟨opened, hopened⟩ := operate_state t.job s cancelled fails
        rw [workOn]
        dsimp only
        rw [hopened]
        have htally : ∀ j, (disk.setStage wk t
            (.ran (operate t.job s cancelled fails).1 size)).tally j =
            disk.tally j := tally_move hcur rfl rfl
        refine h.local ⟨hst, rfl, rfl, rfl, rfl, rfl, fun j _ => htally j,
          fun hcustody => (htally t.state).symm ▸ ?_,
          [], (append_nil _).symm, fun _ hmem => absurd hmem not_mem_nil⟩
        exact { hcustody with }
      | ran failed size =>
        rw [workOn]
        by_cases hending : isEnding t.job s failed = true
        · rw [if_pos hending]
          exact h.local (local_finish hcur rfl hst)
        · rw [if_neg hending]
          simp only [isEnding, Bool.or_eq_true, not_or, Bool.not_eq_true] at hending
          exact h.local (h.local_conclude hcur rfl hst hending.1.1 size)
      | closing => exact h.local (h.local_close hcur hst)
      | releasing => exact h.release hcur hst
    · exact h
  · exact h

end DiskExecutor

end Tlss.Ftp
