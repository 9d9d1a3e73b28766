import Tlss.Base.DbPoolAccounts

/-!
# What a shutdown of the connection pool means

`shutdown` returns `true` when both counters are zero behind the flag. Nothing is lent any
more once the flag is set (`Closing`): a call of `get_connection` that comes later waits,
sees the flag and returns an empty handle.
-/

namespace Tlss.Base

open Library List

namespace DbConnectionPool

variable {pool : DbConnectionPool} {index : ℕ}

/-- Where the calls of `shutdown` are, and what they know. -/
structure Closing (pool : DbConnectionPool) : Prop where
  begun : ∀ shutdown ∈ pool.shutdowns, shutdown ≠ .entering → pool.stopping
  joined : pool.threadsJoined → pool.stopping
  returned : .returned true ∈ pool.shutdowns → pool.borrowedCount = 0

/-- What the threads other than a call of `shutdown` leave alone. With the flag set they do
not lend either. -/
structure Quiet (pool later : DbConnectionPool) : Prop where
  maxSize : later.maxSize = pool.maxSize
  shutdowns : later.shutdowns = pool.shutdowns
  stopping : later.stopping = pool.stopping
  threadsJoined : later.threadsJoined = pool.threadsJoined
  lent : pool.stopping → later.borrowedCount ≤ pool.borrowedCount

lemma quiet_refl (pool : DbConnectionPool) : pool.Quiet pool :=
  ⟨rfl, rfl, rfl, rfl, fun _ => Int.le_refl _⟩

lemma quiet_produce (pool : DbConnectionPool) (succeeds : Bool) :
    pool.Quiet pool.produceReserve ∧ pool.Quiet (pool.produceConnect succeeds) ∧
      pool.Quiet pool.produceDrop ∧ pool.Quiet pool.produceRetry ∧
      pool.Quiet pool.producePublish := by
  refine ⟨?_, ?_, ?_, ?_, ?_⟩
  · unfold produceReserve
    split_ifs <;> exact ⟨rfl, rfl, rfl, rfl, fun _ => Int.le_refl _⟩
  · unfold produceConnect
    split
    · split_ifs <;> exact ⟨rfl, rfl, rfl, rfl, fun _ => Int.le_refl _⟩
    · exact quiet_refl pool
  · unfold produceDrop
    split <;> exact ⟨rfl, rfl, rfl, rfl, fun _ => Int.le_refl _⟩
  · unfold produceRetry
    split <;> exact ⟨rfl, rfl, rfl, rfl, fun _ => Int.le_refl _⟩
  · unfold producePublish
    split
    · split_ifs <;> exact ⟨rfl, rfl, rfl, rfl, fun _ => Int.le_refl _⟩
    · exact quiet_refl pool

lemma quiet_scan (pool : DbConnectionPool) (expired : List Bool) :
    pool.Quiet (pool.scan expired) ∧ pool.Quiet pool.scanDestroy := by
  constructor
  · unfold scan
    split_ifs <;> exact ⟨rfl, rfl, rfl, rfl, fun _ => Int.le_refl _⟩
  · unfold scanDestroy
    split <;> exact ⟨rfl, rfl, rfl, rfl, fun _ => Int.le_refl _⟩

lemma quiet_get (pool : DbConnectionPool) (index : ℕ) (choice : Bool) :
    pool.Quiet pool.getBegin ∧ pool.Quiet (pool.getWake index choice) ∧
      pool.Quiet (pool.getPing index choice) ∧ pool.Quiet (pool.getDiscard index choice) ∧
      pool.Quiet (pool.getFinish index) := by
  refine ⟨⟨rfl, rfl, rfl, rfl, fun _ => Int.le_refl _⟩, ?_, ?_, ?_, ?_⟩
  · unfold getWake
    split
    · by_cases hstopping : pool.stopping
      · rw [if_pos hstopping]
        exact ⟨rfl, rfl, rfl, rfl, fun _ => Int.le_refl _⟩
      · -- without the flag nothing is said about what is lent
        rw [if_neg hstopping]
        split
        · exact ⟨rfl, rfl, rfl, rfl, fun hset => absurd hset hstopping⟩
        · split_ifs
          · exact ⟨rfl, rfl, rfl, rfl, fun _ => Int.le_refl _⟩
          · exact quiet_refl pool
    · exact quiet_refl pool
  · unfold getPing
    split
    · split_ifs <;> exact ⟨rfl, rfl, rfl, rfl, fun _ => Int.le_refl _⟩
    · exact quiet_refl pool
  · unfold getDiscard
    split
    · exact ⟨rfl, rfl, rfl, rfl, fun _ => Int.sub_le_self _ (by decide)⟩
    · exact quiet_refl pool
  · unfold getFinish
    split <;> exact ⟨rfl, rfl, rfl, rfl, fun _ => Int.le_refl _⟩

lemma quiet_release (pool : DbConnectionPool) (index : ℕ) (reusable : Bool) :
    pool.Quiet (pool.releaseBegin index) ∧ pool.Quiet (pool.releaseLock index reusable) ∧
      pool.Quiet (pool.releaseDrop index) := by
  refine ⟨?_, ?_, ?_⟩
  · unfold releaseBegin
    split <;> exact ⟨rfl, rfl, rfl, rfl, fun _ => Int.le_refl _⟩
  · unfold releaseLock
    split
    · split_ifs <;> exact ⟨rfl, rfl, rfl, rfl, fun _ => Int.sub_le_self _ (by decide)⟩
    · exact quiet_refl pool
  · unfold releaseDrop
    split <;> exact ⟨rfl, rfl, rfl, rfl, fun _ => Int.le_refl _⟩

lemma Accounts.borrowedCount_nonneg (h : pool.Accounts) : 0 ≤ pool.borrowedCount := by
  have hborrowed := h.borrowed
  omega

lemma Closing.quiet {later : DbConnectionPool} (h : pool.Closing) (hlater : later.Accounts)
    (hquiet : pool.Quiet later) : later.Closing := by
  refine ⟨?_, ?_, fun hmem => ?_⟩
  · rw [hquiet.shutdowns, hquiet.stopping]
    exact h.begun
  · rw [hquiet.threadsJoined, hquiet.stopping]
    exact h.joined
  · rw [hquiet.shutdowns] at hmem
    have hzero := h.returned hmem
    have hlent := hquiet.lent (h.begun _ hmem Shutdown.noConfusion)
    have hnonneg := hlater.borrowedCount_nonneg
    omega

/-- A call of `shutdown` moves on: behind the flag, and to `true` only if nothing is
borrowed. -/
lemma Closing.moveShutdown (h : pool.Closing) {new : Shutdown}
    {stopping threadsJoined : Bool} (hset : stopping)
    (hnew : new = .returned true → pool.borrowedCount = 0) : Closing { pool with
      shutdowns := pool.shutdowns.set index new
      stopping := stopping
      threadsJoined := threadsJoined } := by
  refine ⟨fun _ _ _ => hset, fun _ => hset, fun hmem => ?_⟩
  rcases mem_or_eq_of_mem_set hmem with hbef | heq
  · exact h.returned hbef
  · exact hnew heq.symm

lemma Closing.shutdown (h : pool.Closing) (index : ℕ) (timedOut : Bool) :
    pool.shutdownBegin.Closing ∧ (pool.shutdownStop index).Closing ∧
      (pool.shutdownJoin index).Closing ∧ (pool.shutdownWake index timedOut).Closing := by
  refine ⟨⟨fun shutdown hmem hentered => ?_, h.joined, fun hmem => ?_⟩, ?_, ?_, ?_⟩
  · rcases mem_append.mp hmem with hbef | hnew
    · exact h.begun shutdown hbef hentered
    · exact absurd (mem_singleton.mp hnew) hentered
  · rcases mem_append.mp hmem with hbef | hnew
    · exact h.returned hbef
    · exact Shutdown.noConfusion (mem_singleton.mp hnew)
  · unfold shutdownStop
    split
    · split_ifs with hbusy hjoined
      · exact h
      · exact h.moveShutdown (h.joined hjoined) Shutdown.noConfusion
      · exact h.moveShutdown rfl Shutdown.noConfusion
    · exact h
  · unfold shutdownJoin
    split
    · rename_i hjoining
      have hset := h.begun _ (mem_of_getElem? hjoining) Shutdown.noConfusion
      split_ifs
      · exact h.moveShutdown hset Shutdown.noConfusion
      · exact h
    · exact h
  · unfold shutdownWake
    split
    · rename_i hwaiting
      have hset := h.begun _ (mem_of_getElem? hwaiting) Shutdown.noConfusion
      split_ifs with hback
      · exact h.moveShutdown hset fun _ => hback.1
      · exact h.moveShutdown hset (by simp)
      · exact h
    · exact h

lemma step_quiet_or_shutdown (pool : DbConnectionPool) (e : Event) :
    pool.Quiet (pool.step e) ∨ pool.step e = pool.shutdownBegin ∨
      (∃ index, pool.step e = pool.shutdownStop index) ∨
      (∃ index, pool.step e = pool.shutdownJoin index) ∨
      ∃ index timedOut, pool.step e = pool.shutdownWake index timedOut := by
  cases e with
  | produceReserve => exact .inl (quiet_produce pool true).1
  | produceConnect succeeds => exact .inl (quiet_produce pool succeeds).2.1
  | produceDrop => exact .inl (quiet_produce pool true).2.2.1
  | produceRetry => exact .inl (quiet_produce pool true).2.2.2.1
  | producePublish => exact .inl (quiet_produce pool true).2.2.2.2
  | scan expired => exact .inl (quiet_scan pool expired).1
  | scanDestroy => exact .inl (quiet_scan pool []).2
  | getBegin => exact .inl (quiet_get pool 0 true).1
  | getWake index timedOut => exact .inl (quiet_get pool index timedOut).2.1
  | getPing index alive => exact .inl (quiet_get pool index alive).2.2.1
  | getDiscard index timedOut => exact .inl (quiet_get pool index timedOut).2.2.2.1
  | getFinish index => exact .inl (quiet_get pool index true).2.2.2.2
  | releaseBegin index => exact .inl (quiet_release pool index true).1
  | releaseLock index reusable => exact .inl (quiet_release pool index reusable).2.1
  | releaseDrop index => exact .inl (quiet_release pool index true).2.2
  | shutdownBegin => exact .inr (.inl rfl)
  | shutdownStop index => exact .inr (.inr (.inl ⟨index, rfl⟩))
  | shutdownJoin index => exact .inr (.inr (.inr (.inl ⟨index, rfl⟩)))
  | shutdownWake index timedOut => exact .inr (.inr (.inr (.inr ⟨index, timedOut, rfl⟩)))

lemma Closing.step (h : pool.Closing) (haccounts : pool.Accounts) (e : Event) :
    (pool.step e).Closing := by
  rcases step_quiet_or_shutdown pool e with
    hquiet | heq | ⟨index, heq⟩ | ⟨index, heq⟩ | ⟨index, timedOut, heq⟩
  · exact h.quiet (haccounts.step e) hquiet
  · exact heq ▸ (h.shutdown 0 true).1
  · exact heq ▸ (h.shutdown index true).2.1
  · exact heq ▸ (h.shutdown index true).2.2.1
  · exact heq ▸ (h.shutdown index timedOut).2.2.2

lemma maxSize_step (pool : DbConnectionPool) (e : Event) :
    (pool.step e).maxSize = pool.maxSize := by
  rcases step_quiet_or_shutdown pool e with
    hquiet | heq | ⟨index, heq⟩ | ⟨index, heq⟩ | ⟨index, timedOut, heq⟩
  · exact hquiet.maxSize
  · rw [heq, shutdownBegin]
  all_goals rw [heq]
  · unfold shutdownStop
    split
    · split_ifs <;> rfl
    · rfl
  · unfold shutdownJoin
    split
    · split_ifs <;> rfl
    · rfl
  · unfold shutdownWake
    split
    · split_ifs <;> rfl
    · rfl

/-! ## Runs -/

lemma run_accounts_closing {initSize maxSize : ℕ} (hsize : initSize ≤ maxSize)
    (events : List Event) : (run step (new initSize maxSize) events).Accounts ∧
      (run step (new initSize maxSize) events).Closing := by
  have hstep : ∀ (pool : DbConnectionPool) e, pool.Accounts ∧ pool.Closing →
      (pool.step e).Accounts ∧ (pool.step e).Closing :=
    fun _ e h => ⟨h.1.step e, h.2.step h.1 e⟩
  exact run_invariant hstep ⟨accounts_new hsize, ⟨fun _ hmem => absurd hmem not_mem_nil, fun
      hjoined => absurd hjoined Bool.false_ne_true, fun _ => rfl⟩⟩ events

lemma run_maxSize (initSize maxSize : ℕ) (events : List Event) :
    (run step (new initSize maxSize) events).maxSize = maxSize := by
  have hstep : ∀ (pool : DbConnectionPool) e, pool.maxSize = maxSize →
      (pool.step e).maxSize = maxSize := fun pool e h => (maxSize_step pool e).trans h
  exact run_invariant hstep rfl events

lemma Accounts.nothing_lent (h : pool.Accounts) (hzero : pool.borrowedCount = 0) :
    pool.handles = [] ∧ ∀ getter ∈ pool.getters, getter = .waiting ∨ getter = .finishing := by
  have hborrowed := h.borrowed
  rw [hzero, holders] at hborrowed
  refine ⟨eq_nil_of_length_eq_zero (by omega), fun getter hmem => ?_⟩
  obtain ⟨index, hold⟩ := getElem?_of_mem hmem
  have hsum := sum_map_eraseIdx hold Getter.borrowing
  have hnone : getter.borrowing = 0 := by omega
  cases getter with
  | waiting => exact .inl rfl
  | finishing => exact .inr rfl
  | pinging conn | discarded | returning conn => exact absurd hnone Nat.one_ne_zero

lemma Accounts.owners_eq (h : pool.Accounts) (conn : ℕ) :
    pool.owners conn = if conn ∈ pool.live then 1 else 0 := by
  have honce := h.once conn
  rw [h.owned conn]
  split_ifs with hlive
  · have hpos := count_pos_iff.mpr hlive
    omega
  · exact count_eq_zero.mpr hlive

/-- The wait of `shutdown` ends with `true` only if nothing is lent and nobody asks. -/
lemma Accounts.shutdownWake_true (h : pool.Accounts) {timedOut : Bool}
    (hbef : pool.shutdowns[index]? ≠ some (.returned true))
    (hafter : (pool.shutdownWake index timedOut).shutdowns[index]? = some (.returned true)) :
    pool.handles = [] ∧ pool.getters = [] := by
  have hactive := h.active
  unfold DbConnectionPool.shutdownWake at hafter
  split at hafter
  · split_ifs at hafter with hback htime
    · exact ⟨(h.nothing_lent hback.1).1, eq_nil_of_length_eq_zero (by omega)⟩
    · rename_i hwaiting
      obtain ⟨hlt, -⟩ := List.getElem?_eq_some_iff.mp hwaiting
      simp [setShutdown, getElem?_set_self hlt] at hafter
    · exact absurd hafter hbef
  · exact absurd hafter hbef

/-- A connection is lent and comes back, and the pool is shut down. The call that comes
behind it still waits. -/
def lendAndClose : List Event :=
  [.getBegin, .getWake 0 false, .getPing 0 true, .getFinish 0, .produceReserve,
    .produceConnect true, .releaseBegin 0, .shutdownBegin, .shutdownStop 0,
    .releaseLock 0 true, .releaseDrop 0, .producePublish, .produceDrop, .scan [],
    .shutdownJoin 0, .shutdownWake 0 false, .getBegin]

end DbConnectionPool

end Tlss.Base
