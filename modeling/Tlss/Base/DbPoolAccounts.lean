import Mathlib.Data.List.Count
import Mathlib.Data.List.Nodup
import Tlss.Base.DbConnectionPool
import Tlss.Library.Slots

/-!
# The accounts of the connection pool

Three counters describe the same connections from different sides. The total counts what
is idle, what is borrowed, and the room the producer has reserved; a connection counts as
borrowed from the moment it is taken out of the queue until the critical section in which
it is put back or given up (`Accounts`). Every connection that has not been destroyed is
in exactly one place.
-/

namespace Tlss.Base

open Library List Getter Producer

/-! ## What the threads hold -/

def Producer.reserved : Producer → ℕ
  | .connecting _ | .connected _ => 1
  | .waiting | .dropping _ | .retrying | .leaving _ | .exited => 0

def Producer.owned : Producer → List ℕ
  | .connecting connection | .dropping connection | .connected connection
  | .leaving connection => [connection]
  | .waiting | .retrying | .exited => []

def Scanner.owned : Scanner → List ℕ
  | .destroying expired => expired
  | .waiting | .exited => []

/-- The call holds a connection or has just discarded it: it counts as borrowed. -/
def Getter.borrowing : Getter → ℕ
  | .pinging _ | .discarded | .returning _ => 1
  | .waiting | .finishing => 0

def Getter.isWaiting : Getter → ℕ
  | .waiting => 1
  | .pinging _ | .discarded | .returning _ | .finishing => 0

def Getter.owned : Getter → List ℕ
  | .pinging connection | .returning connection => [connection]
  | .waiting | .discarded | .finishing => []

/-- The connection has not been put back or given up yet. -/
def Release.borrowing : Release → ℕ
  | .holding _ => 1
  | .dropping _ => 0

def Release.owned : Release → List ℕ
  | .holding connection | .dropping connection => [connection]

namespace DbConnectionPool

def owners (pool : DbConnectionPool) (connection : ℕ) : ℕ :=
  pool.queue.count connection + pool.handles.count connection +
    (pool.getters.flatMap Getter.owned).count connection +
    (pool.releases.flatMap Release.owned).count connection +
    pool.producer.owned.count connection + pool.scanner.owned.count connection

def holders (pool : DbConnectionPool) : ℕ :=
  (pool.getters.map Getter.borrowing).sum + (pool.releases.map Release.borrowing).sum

/-- Every live connection has one owner, and the counters count the owners. -/
structure Accounts (pool : DbConnectionPool) : Prop where
  total : pool.connectionCnt = pool.queue.length + pool.borrowedCount + pool.producer.reserved
  bounded : pool.connectionCnt ≤ pool.maxSize
  borrowed : pool.borrowedCount = pool.handles.length + pool.holders
  active : pool.activeGetters = pool.getters.length
  waiting : pool.waitingGetters = (pool.getters.map Getter.isWaiting).sum
  owned : ∀ connection, pool.owners connection = pool.live.count connection
  once : ∀ connection, pool.live.count connection ≤ 1
  numbered : ∀ connection ∈ pool.live, connection < pool.created

variable {p later : DbConnectionPool}

lemma accounts_new {initSize maxSize : ℕ} (hsize : initSize ≤ maxSize) :
    (new initSize maxSize).Accounts := by
  constructor
  · simp [new, reserved]
  · simpa [new] using hsize
  · simp [new, holders]
  · rfl
  · rfl
  · intro c
    simp [new, owners, Producer.owned, Scanner.owned]
  · exact fun c => nodup_iff_count_le_one.mp nodup_range c
  · exact fun c hmem => mem_range.mp hmem

/-! ## The background threads -/

section

variable (h : p.Accounts)
include h

lemma Accounts.moveProducer {producer : Producer} {connectionCnt : ℤ}
    (hcount : connectionCnt + p.producer.reserved = p.connectionCnt + producer.reserved)
    (hbnd : connectionCnt ≤ p.maxSize) (howned : producer.owned = p.producer.owned) :
    Accounts { p with producer := producer, connectionCnt := connectionCnt } := by
  have htotal := h.total
  refine { h with total := ?_, bounded := hbnd, owned := fun c => ?_ }
  · dsimp only
    omega
  · rw [← h.owned c, owners, owners, howned]

lemma Accounts.dropProducer {c : ℕ} {producer : Producer}
    (howned : p.producer.owned = [c]) (hnothing : producer.owned = [])
    (hreserved : producer.reserved = p.producer.reserved) :
    Accounts { p.destroy c with producer := producer } := by
  have hlive : ∀ y, (p.live.erase c).count y =
      p.live.count y - [c].count y := by
    intro y
    simp [count_erase, count_singleton]
  refine ⟨?_, h.bounded, h.borrowed, h.active, h.waiting, fun y => ?_, fun y => ?_,
    fun y hmem => h.numbered y (mem_of_mem_erase hmem)⟩
  · rw [hreserved]
    exact h.total
  · have hbef := h.owned y
    rw [owners, howned] at hbef
    simp only [owners, destroy, hlive, hnothing, count_nil]
    omega
  · have hbef := h.once y
    simp only [destroy, hlive]
    omega

lemma Accounts.produceReserve : p.produceReserve.Accounts := by
  unfold DbConnectionPool.produceReserve
  split_ifs with hbusy hstopping hroom
  · exact h
  · rw [not_not] at hbusy
    exact h.moveProducer (by simp [hbusy, reserved]) h.bounded (by rw [hbusy]; rfl)
  · -- the new connection has a number of its own
    rw [not_not] at hbusy
    have htotal := h.total
    have hfresh : p.live.count p.created = 0 := by
      refine count_eq_zero.mpr fun hmem => ?_
      exact Nat.lt_irrefl _ (h.numbered _ hmem)
    refine ⟨?_, ?_, h.borrowed, h.active, h.waiting, fun c => ?_, fun c => ?_, fun c hmem => ?_⟩
    · simp only [hbusy, reserved] at htotal ⊢
      omega
    · dsimp only
      omega
    · have hbef := h.owned c
      simp only [owners, hbusy, Producer.owned, count_append, count_nil] at hbef ⊢
      omega
    · have hbef := h.once c
      simp only [count_append, count_singleton]
      split_ifs with heq
      · rw [beq_iff_eq] at heq
        subst heq
        omega
      · omega
    · rcases mem_append.mp hmem with hold | hnew
      · exact Nat.lt_succ_of_lt (h.numbered c hold)
      · rw [mem_singleton.mp hnew]
        exact Nat.lt_succ_self _
  · exact h

lemma Accounts.produceConnect (succeeds : Bool) : (p.produceConnect succeeds).Accounts := by
  unfold DbConnectionPool.produceConnect
  split
  · rename_i c hconnecting
    have hbnd := h.bounded
    split_ifs
    · exact h.moveProducer (by simp [hconnecting, reserved]) h.bounded
        (by rw [hconnecting]; rfl)
    · exact h.moveProducer (by simp [hconnecting, reserved]) (by omega)
        (by rw [hconnecting]; rfl)
  · exact h

lemma Accounts.produceDrop : p.produceDrop.Accounts := by
  unfold DbConnectionPool.produceDrop
  split
  · rename_i c hdropping
    exact h.dropProducer (by rw [hdropping]; rfl) rfl (by rw [hdropping]; rfl)
  · rename_i c hleaving
    exact h.dropProducer (by rw [hleaving]; rfl) rfl (by rw [hleaving]; rfl)
  · exact h

lemma Accounts.produceRetry : p.produceRetry.Accounts := by
  unfold DbConnectionPool.produceRetry
  split_ifs with hother hstopping
  · exact h
  all_goals
    rw [not_not] at hother
    exact h.moveProducer (by simp [hother, reserved]) h.bounded (by rw [hother]; rfl)

lemma Accounts.producePublish : p.producePublish.Accounts := by
  unfold DbConnectionPool.producePublish
  split
  · rename_i c hconnected
    have hbnd := h.bounded
    split_ifs
    · exact h.moveProducer (by simp [hconnected, reserved]) (by omega)
        (by rw [hconnected]; rfl)
    · have htotal := h.total
      refine { h with total := ?_, owned := fun y => ?_ }
      · simp only [hconnected, reserved, length_append, length_singleton] at htotal ⊢
        omega
      · have hbef := h.owned y
        simp only [owners, hconnected, Producer.owned, count_append, count_nil] at hbef ⊢
        omega
  · exact h

omit h in
/-- What the scanner removes comes from the front of the queue, and is taken off the
counter. -/
lemma expire_spec (queue : List ℕ) (expired : List Bool) (connectionCnt initSize : ℤ) :
    queue = (expire queue expired connectionCnt initSize).1 ++
        (expire queue expired connectionCnt initSize).2.1 ∧
      (expire queue expired connectionCnt initSize).2.2 =
        connectionCnt - (expire queue expired connectionCnt initSize).1.length := by
  fun_induction expire queue expired connectionCnt initSize with
  | case1 c queue expired connectionCnt initSize hroom removed rest final heq ih =>
    simp only [heq] at ih
    refine ⟨by rw [cons_append, ← ih.1], ?_⟩
    rw [ih.2, length_cons]
    push_cast
    omega
  | case2 c queue expired connectionCnt initSize hfull
  | case3 queue expired connectionCnt initSize hother => simp

lemma Accounts.scan (expired : List Bool) : (p.scan expired).Accounts := by
  unfold DbConnectionPool.scan
  split_ifs with hbusy hstopping
  · exact h
  · rw [not_not] at hbusy
    refine { h with owned := fun c => ?_ }
    rw [← h.owned c, owners, owners, hbusy]
    rfl
  · rw [not_not] at hbusy
    obtain ⟨hqueue, hcount⟩ := expire_spec p.queue expired p.connectionCnt p.initSize
    generalize expire p.queue expired p.connectionCnt p.initSize = outcome at hqueue hcount
    obtain ⟨removed, rest, connectionCnt⟩ := outcome
    dsimp only at hqueue hcount ⊢
    have htotal := h.total
    have hbnd := h.bounded
    have hlength := congrArg length hqueue
    rw [length_append] at hlength
    refine { h with total := ?_, bounded := ?_, owned := fun c => ?_ }
    · dsimp only
      omega
    · dsimp only
      omega
    · have hbef := h.owned c
      have hsplit := congrArg (count c) hqueue
      rw [count_append] at hsplit
      simp only [owners, hbusy, Scanner.owned, count_nil] at hbef ⊢
      omega

lemma Accounts.scanDestroy : p.scanDestroy.Accounts := by
  unfold DbConnectionPool.scanDestroy
  split
  · rename_i removed hdestroying
    refine { h with owned := fun c => ?_, once := fun c => ?_, numbered := fun
      c hmem => h.numbered c (diff_subset _ _ hmem) }
    · have hbef := h.owned c
      simp only [owners, hdestroying, Scanner.owned, count_nil, count_diff] at hbef ⊢
      omega
    · have hbef := h.once c
      rw [count_diff]
      omega
  · exact h

/-! ## The callers -/

/-- A call of `get_connection` moves on: the counters and what is alive change with what
the call holds. -/
lemma Accounts.moveGetter {i : ℕ} {old new : Getter}
    (hold : p.getters[i]? = some old) {queue live : List ℕ}
    {connectionCnt borrowedCount waitingGetters : ℤ} (hcount : connectionCnt ≤ p.connectionCnt)
    (htotal : connectionCnt - queue.length - borrowedCount =
      p.connectionCnt - p.queue.length - p.borrowedCount)
    (hborrowed : borrowedCount + old.borrowing = p.borrowedCount + new.borrowing)
    (hwaiting : waitingGetters + old.isWaiting = p.waitingGetters + new.isWaiting)
    (howned : ∀ c, queue.count c + new.owned.count c + p.live.count c =
      p.queue.count c + old.owned.count c + live.count c)
    (hlive : live.Sublist p.live) : Accounts { p with
      queue := queue
      connectionCnt := connectionCnt
      borrowedCount := borrowedCount
      waitingGetters := waitingGetters
      getters := p.getters.set i new
      live := live } := by
  have hbef := h.total
  have hbnd := h.bounded
  have hborrowedBefore := h.borrowed
  have hwaitingBefore := h.waiting
  have hborrowing := sum_map_set hold new borrowing
  have hisWaiting := sum_map_set hold new isWaiting
  refine ⟨?_, ?_, ?_, ?_, ?_, fun c => ?_, fun c => ?_,
    fun c hmem => h.numbered c (hlive.subset hmem)⟩
  · dsimp only
    omega
  · dsimp only
    omega
  · simp only [holders] at hborrowedBefore ⊢
    omega
  · rw [length_set]
    exact h.active
  · dsimp only
    omega
  · have hownedBefore := h.owned c
    have hstep := howned c
    have hset := count_flatMap_slots_set hold new Getter.owned c
    simp only [owners] at hownedBefore ⊢
    omega
  · exact Nat.le_trans (hlive.count_le c) (h.once c)

lemma Accounts.getBegin : p.getBegin.Accounts := by
  have hborrowed := h.borrowed
  have hactive := h.active
  have hwaiting := h.waiting
  refine ⟨h.total, h.bounded, ?_, ?_, ?_, fun c => ?_, h.once, h.numbered⟩
  · simpa [DbConnectionPool.getBegin, holders, borrowing] using hborrowed
  · simp [DbConnectionPool.getBegin, hactive]
  · simp [DbConnectionPool.getBegin, hwaiting, isWaiting]
  · have howned := h.owned c
    simpa [DbConnectionPool.getBegin, owners, Getter.owned] using howned

lemma Accounts.getWake (i : ℕ) (timedOut : Bool) : (p.getWake i timedOut).Accounts := by
  unfold DbConnectionPool.getWake
  split
  · rename_i hold
    -- an empty handle: only the waiting call is one less
    have hfinish : Accounts { p.setGetter i .finishing with
        waitingGetters := p.waitingGetters - 1 } :=
      h.moveGetter hold (Int.le_refl _) rfl rfl (by simp [isWaiting])
        (fun c => rfl) (List.Sublist.refl _)
    by_cases hstopping : p.stopping
    · rw [if_pos hstopping]
      exact hfinish
    · rw [if_neg hstopping]
      split
      · rename_i c queue hqueue
        refine h.moveGetter hold (Int.le_refl _) ?_ (by simp [borrowing])
          (by simp [isWaiting]) (fun y => ?_) (List.Sublist.refl _)
        · simp only [hqueue, setGetter, length_cons]
          push_cast
          omega
        · simp only [hqueue, setGetter, Getter.owned, count_cons, count_nil]
          omega
      · split_ifs
        · exact hfinish
        · exact h
  · exact h

lemma Accounts.getPing (i : ℕ) (alive : Bool) : (p.getPing i alive).Accounts := by
  unfold DbConnectionPool.getPing
  split
  · rename_i c hold
    split_ifs
    · exact h.moveGetter hold (Int.le_refl _) rfl rfl rfl (fun y => rfl) (List.Sublist.refl _)
    · refine h.moveGetter hold (Int.le_refl _) rfl rfl rfl (fun y => ?_) erase_sublist
      -- the call still owns the connection, so it is alive
      have howned := h.owned y
      have hcount := count_flatMap_eraseIdx hold Getter.owned y
      simp only [owners, Getter.owned, count_nil, count_singleton,
        count_erase, setGetter] at howned hcount ⊢
      omega
  · exact h

lemma Accounts.getDiscard (i : ℕ) (timedOut : Bool) : (p.getDiscard i timedOut).Accounts := by
  unfold DbConnectionPool.getDiscard
  split
  · rename_i hold
    refine h.moveGetter hold (by omega) (by simp only [setGetter]; omega) ?_ ?_
      (fun c => ?_) (List.Sublist.refl _)
    · cases timedOut <;> simp [borrowing]
    · cases timedOut <;> simp [isWaiting]
    · cases timedOut <;> rfl
  · exact h

lemma Accounts.dropGetter {i : ℕ} {old : Getter} (hold : p.getters[i]? = some old)
    {handles : List ℕ} (hwaits : old.isWaiting = 0)
    (hhandles : handles.length = p.handles.length + old.borrowing) (hcounts : ∀ c, handles.count c =
      p.handles.count c + old.owned.count c) : Accounts { p with
      getters := p.getters.eraseIdx i
      activeGetters := p.activeGetters - 1
      handles := handles } := by
  have hborrowed := h.borrowed
  have hactive := h.active
  have hwaiting := h.waiting
  have hborrowing := sum_map_eraseIdx hold borrowing
  have hisWaiting := sum_map_eraseIdx hold isWaiting
  have hlength := (slots_perm_cons hold).length_eq
  rw [length_cons] at hlength
  refine ⟨h.total, h.bounded, ?_, ?_, ?_, fun y => ?_, h.once, h.numbered⟩
  · simp only [holders] at hborrowed ⊢
    omega
  · dsimp only
    omega
  · dsimp only
    omega
  · have howned := h.owned y
    have herase := count_flatMap_eraseIdx hold Getter.owned y
    have hcount := hcounts y
    simp only [owners] at howned ⊢
    omega

lemma Accounts.getFinish (i : ℕ) : (p.getFinish i).Accounts := by
  unfold DbConnectionPool.getFinish
  split
  · rename_i c hold
    exact h.dropGetter hold rfl length_append fun _ => count_append
  · rename_i hold
    exact h.dropGetter hold rfl rfl fun _ => rfl
  · exact h

lemma Accounts.releaseBegin (i : ℕ) : (p.releaseBegin i).Accounts := by
  unfold DbConnectionPool.releaseBegin
  split
  · rename_i c hold
    have hborrowed := h.borrowed
    have hlength := (slots_perm_cons hold).length_eq
    refine { h with borrowed := ?_, owned := fun y => ?_ }
    · simp only [holders, map_append, map_cons, map_nil, sum_append,
        sum_cons, sum_nil, Release.borrowing, length_cons] at hborrowed hlength ⊢
      omega
    · have howned := h.owned y
      have hcount := (slots_perm_cons hold).count_eq y
      simp only [owners, flatMap_append, flatMap_cons, flatMap_nil,
        Release.owned, count_append, count_cons, count_nil] at howned hcount ⊢
      omega
  · exact h

lemma Accounts.releaseLock (i : ℕ) (reusable : Bool) : (p.releaseLock i reusable).Accounts := by
  have htotal := h.total
  have hbnd := h.bounded
  have hborrowed := h.borrowed
  unfold DbConnectionPool.releaseLock
  split
  · rename_i c hold
    split_ifs
    · have hborrowing := sum_map_eraseIdx hold Release.borrowing
      simp only [Release.borrowing] at hborrowing
      refine { h with total := ?_, borrowed := ?_, owned := fun y => ?_ }
      · simp only [length_append, length_singleton]
        omega
      · simp only [holders] at hborrowed ⊢
        omega
      · have howned := h.owned y
        have herase := count_flatMap_eraseIdx hold Release.owned y
        simp only [owners, Release.owned, count_append] at howned herase ⊢
        omega
    · have hborrowing := sum_map_set hold (.dropping c) Release.borrowing
      simp only [Release.borrowing] at hborrowing
      refine ⟨?_, ?_, ?_, h.active, h.waiting, fun y => ?_, h.once, h.numbered⟩
      · dsimp only
        omega
      · dsimp only
        omega
      · simp only [holders] at hborrowed ⊢
        omega
      · have howned := h.owned y
        have hset := count_flatMap_slots_set hold (.dropping c) Release.owned y
        simp only [owners, Release.owned] at howned hset ⊢
        omega
  · exact h

lemma Accounts.releaseDrop (i : ℕ) : (p.releaseDrop i).Accounts := by
  unfold DbConnectionPool.releaseDrop
  split
  · rename_i c hold
    have hborrowed := h.borrowed
    have hborrowing := sum_map_eraseIdx hold Release.borrowing
    simp only [Release.borrowing] at hborrowing
    refine ⟨h.total, h.bounded, ?_, h.active, h.waiting, fun y => ?_, fun y => ?_,
      fun y hmem => h.numbered y (mem_of_mem_erase hmem)⟩
    · simp only [destroy, holders] at hborrowed ⊢
      omega
    · have howned := h.owned y
      have herase := count_flatMap_eraseIdx hold Release.owned y
      simp only [owners, destroy, Release.owned, count_singleton, count_erase] at howned herase ⊢
      omega
    · exact Nat.le_trans (erase_sublist.count_le y) (h.once y)
  · exact h

lemma Accounts.moveShutdown {shutdowns : List Shutdown} {stopping threadsJoined : Bool} :
    Accounts { p with
      shutdowns := shutdowns
      stopping := stopping
      threadsJoined := threadsJoined } :=
  { h with }

lemma Accounts.shutdownStop (i : ℕ) : (p.shutdownStop i).Accounts := by
  unfold DbConnectionPool.shutdownStop
  split
  · split_ifs
    · exact h
    · exact h.moveShutdown
    · exact h.moveShutdown
  · exact h

lemma Accounts.shutdownJoin (i : ℕ) : (p.shutdownJoin i).Accounts := by
  unfold DbConnectionPool.shutdownJoin
  split
  · split_ifs
    · exact h.moveShutdown
    · exact h
  · exact h

lemma Accounts.shutdownWake (i : ℕ) (timedOut : Bool) : (p.shutdownWake i timedOut).Accounts := by
  unfold DbConnectionPool.shutdownWake
  split
  · split_ifs
    · exact h.moveShutdown
    · exact h.moveShutdown
    · exact h
  · exact h

lemma Accounts.step (event : Event) : (p.step event).Accounts := by
  cases event with
  | produceReserve => exact h.produceReserve
  | produceConnect succeeds => exact h.produceConnect succeeds
  | produceDrop => exact h.produceDrop
  | produceRetry => exact h.produceRetry
  | producePublish => exact h.producePublish
  | scan expired => exact h.scan expired
  | scanDestroy => exact h.scanDestroy
  | getBegin => exact h.getBegin
  | getWake i timedOut => exact h.getWake i timedOut
  | getPing i alive => exact h.getPing i alive
  | getDiscard i timedOut => exact h.getDiscard i timedOut
  | getFinish i => exact h.getFinish i
  | releaseBegin i => exact h.releaseBegin i
  | releaseLock i reusable => exact h.releaseLock i reusable
  | releaseDrop i => exact h.releaseDrop i
  | shutdownBegin => exact h.moveShutdown
  | shutdownStop i => exact h.shutdownStop i
  | shutdownJoin i => exact h.shutdownJoin i
  | shutdownWake i timedOut => exact h.shutdownWake i timedOut

end

end DbConnectionPool

end Tlss.Base
