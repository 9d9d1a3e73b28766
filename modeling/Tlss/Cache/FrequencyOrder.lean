import Tlss.Cache.ArcLfu
import Tlss.Library.Run

/-!
# Evictions from the frequency partition

A key enters a bucket whenever it is put, and whenever it is found. Beside the partition
an observer keeps the keys that entered one, the latest first. Every bucket lists its keys
in this order with the earliest in front.
-/

namespace Tlss.Cache.ArcLfu

open Library List AList

inductive Operation (Key Value : Type*) where
  | put (key : Key) (value : Value)
  | get (key : Key)
  | invalidate (key : Key)
  | checkGhost (key : Key)
  | increaseCapacity
  | decreaseCapacity
deriving DecidableEq

variable {Key Value : Type*} [DecidableEq Key]

def step (lfu : ArcLfu Key Value) : Operation Key Value → ArcLfu Key Value
  | .put key value => (lfu.put key value).2
  | .get key => (lfu.get key).2
  | .invalidate key => (lfu.invalidate key).2
  | .checkGhost key => (lfu.checkGhost key).2
  | .increaseCapacity => lfu.increaseCapacity
  | .decreaseCapacity => lfu.decreaseCapacity.2

/-- The key that enters a bucket. -/
def enters (lfu : ArcLfu Key Value) : Operation Key Value → Option Key
  | .put key _ => if lfu.capacity = 0 then none else some key
  | .get key => if key ∈ lfu.mainCache then some key else none
  | _ => none

/-- The partition, and the keys that have entered a bucket. -/
def observe (state : ArcLfu Key Value × List Key) (operation : Operation Key Value) :
    ArcLfu Key Value × List Key :=
  (state.1.step operation, (state.1.enters operation).toList ++ state.2)

/-- The first key has not entered a bucket since the second one has. -/
def Earlier (entered : List Key) (first second : Key) : Prop :=
  entered.idxOf second < entered.idxOf first

def InOrder (entered : List Key) (freqMap : Buckets Key) : Prop :=
  ∀ freq, (freqMap.bucket freq).Pairwise (Earlier entered)

/-- The key has the least access count, and has entered first of those with this count. -/
def EvictedFirst (lfu : ArcLfu Key Value) (entered : List Key) (victim : Key) : Prop :=
  ∀ node, lfu.mainCache.lookup victim = some node → ∀ other found,
    lfu.mainCache.lookup other = some found → node.accessCount ≤ found.accessCount ∧
      (found.accessCount = node.accessCount → other ≠ victim → Earlier entered victim other)

variable {lfu : ArcLfu Key Value} {entered : List Key} {freqMap : Buckets Key} {key : Key}

lemma InOrder.remove (h : InOrder entered freqMap) (i : ℕ) (key : Key) :
    InOrder entered (freqMap.remove i key) := by
  intro freq
  rw [Buckets.bucket_remove]
  split_ifs
  · exact (h i).sublist erase_sublist
  · exact h freq

lemma InOrder.append (h : InOrder entered freqMap) (hnew : ∀ freq, key ∉ freqMap.bucket freq)
    (i : ℕ) : InOrder (key :: entered) (freqMap.append i key) := by
  have hshift : ∀ freq, ∀ y ∈ freqMap.bucket freq,
      (key :: entered).idxOf y = entered.idxOf y + 1 := by
    intro freq y hmem
    exact idxOf_cons_ne entered fun heq => hnew freq (heq ▸ hmem)
  have hkept : ∀ freq, (freqMap.bucket freq).Pairwise (Earlier (key :: entered)) := by
    refine fun freq => (h freq).imp_of_mem fun hfirst hsecond hearlier => ?_
    unfold Earlier
    rw [hshift freq _ hfirst, hshift freq _ hsecond]
    exact Nat.succ_lt_succ hearlier
  intro freq
  rw [Buckets.bucket_append]
  split_ifs
  · refine pairwise_append.mpr ⟨hkept i, pairwise_singleton _ _, ?_⟩
    intro y hother last hlast
    rw [mem_singleton.mp hlast, Earlier, hshift i y hother, idxOf_cons_self]
    exact Nat.succ_pos _
  · exact hkept freq

section

variable (h : lfu.Linked) (horder : InOrder entered lfu.freqMap)
include h horder

lemma inOrder_evictLeastFrequent (hsome : lfu.size ≠ 0) :
    InOrder entered lfu.evictLeastFrequent.freqMap ∧
      ∀ victim ∈ lfu.mainCache, victim ∉ lfu.evictLeastFrequent.mainCache →
        EvictedFirst lfu entered victim := by
  obtain ⟨first, ghost, minFreq, hfirst, hmem, heq, -⟩ := evictLeastFrequent_spec h hsome
  rw [heq]
  refine ⟨horder.remove _ _, fun victim hvictim hgone => ?_⟩
  obtain rfl : victim = first := by
    by_contra hne
    exact hgone (mem_erase.mpr ⟨hne, hvictim⟩)
  intro x hnode y found hfound
  obtain ⟨rest, hbucket⟩ := head?_eq_some_iff.mp hfirst
  obtain ⟨_, hsame, hcount⟩ := (h.indexed.mem_bucket lfu.minFreq victim).mp (by simp [hbucket])
  obtain rfl := Option.some.inj (hnode.symm.trans hsame)
  have hown := h.indexed.mem_own_bucket hfound
  refine ⟨hcount ▸ (h.indexed.least _ (ne_nil_of_mem hown)).2, fun hequal hne => ?_⟩
  have hinorder := horder lfu.minFreq
  rw [hequal, hcount, hbucket] at hown
  rw [hbucket] at hinorder
  exact rel_of_pairwise_cons hinorder ((mem_cons.mp hown).resolve_left hne)

lemma inOrder_updateNodeFrequency {x old : Node Value}
    (hold : lfu.mainCache.lookup key = some old) (hcount : old.accessCount = x.accessCount) :
    InOrder (key :: entered) (lfu.updateNodeFrequency key x).freqMap := by
  refine (horder.remove _ _).append (fun freq hmem => ?_) _
  rw [← hcount] at hmem
  obtain ⟨found, hfound, -⟩ := ((h.indexed.removeNode_first hold 0).mem_bucket freq key).mp hmem
  rw [lookup_erase] at hfound
  cases hfound

lemma inOrder_addNewNode (hcap : lfu.capacity ≠ 0) (hnew : key ∉ lfu.mainCache) (v : Value) :
    InOrder (key :: entered) (lfu.addNewNode key v).freqMap ∧
      ∀ victim ∈ lfu.mainCache, victim ∉ (lfu.addNewNode key v).mainCache →
        EvictedFirst lfu entered victim := by
  have hroomy : ∃ roomy, (if lfu.size ≥ lfu.capacity then lfu.evictLeastFrequent else lfu) = roomy ∧
      roomy.Linked ∧ key ∉ roomy.mainCache ∧ InOrder entered roomy.freqMap ∧
      ∀ victim ∈ lfu.mainCache, victim ∉ roomy.mainCache → EvictedFirst lfu entered victim := by
    split_ifs with hfull
    · have hsome : lfu.size ≠ 0 := by omega
      refine ⟨_, rfl, h.evictLeastFrequent hsome, fun hmem => hnew ?_,
        inOrder_evictLeastFrequent h horder hsome⟩
      obtain ⟨_, _, _, -, -, heq, -⟩ := evictLeastFrequent_spec h hsome
      rw [heq] at hmem
      exact (mem_erase.mp hmem).2
    · exact ⟨_, rfl, h, hnew, horder, fun victim hmem hgone => absurd hmem hgone⟩
  obtain ⟨roomy, heq, hlinked, hnew', hinorder, hvictim⟩ := hroomy
  simp only [addNewNode, heq]
  refine ⟨hinorder.append (fun freq hmem => hnew' ?_) 1, fun victim hmem hgone => ?_⟩
  · obtain ⟨x, hnode, -⟩ := (hlinked.indexed.mem_bucket freq key).mp hmem
    exact lookup_isSome.mp (by simp [hnode])
  · exact hvictim victim hmem fun hin => hgone ((mem_insert _).mpr (.inr hin))

end

lemma shrink_of_size_le (hle : lfu.size ≤ lfu.capacity) (fuel : ℕ) : shrink fuel lfu = lfu := by
  cases fuel with
  | zero => rfl
  | succ fuel => exact if_neg (Nat.not_lt.mpr hle)

/-- From within the capacity, one eviction is enough. -/
lemma shrink_eq (h : lfu.Linked) (hle : lfu.size ≤ lfu.capacity + 1) :
    shrink lfu.size lfu = if lfu.size > lfu.capacity then lfu.evictLeastFrequent else lfu := by
  split_ifs with hover
  · have hsome : lfu.size ≠ 0 := by omega
    have hsize := evictLeastFrequent_size h hsome
    obtain ⟨_, _, _, -, -, heq, -⟩ := evictLeastFrequent_spec h hsome
    have hcapacity : lfu.evictLeastFrequent.capacity = lfu.capacity := by rw [heq]
    obtain ⟨fuel, hfuel⟩ := Nat.exists_eq_succ_of_ne_zero hsome
    rw [hfuel, shrink, if_pos hover, shrink_of_size_le (by omega)]
  · exact shrink_of_size_le (by omega) _

lemma WellFormed.step (h : lfu.WellFormed) (op : Operation Key Value) :
    (lfu.step op).WellFormed := by
  cases op with
  | put key v =>
    by_cases hcap : lfu.capacity = 0
    · rw [ArcLfu.step, put_of_capacity_eq_zero hcap]
      exact h
    · exact (put_spec h hcap key v).2.1
  | get key => exact (get_spec h key).2.1
  | invalidate key => exact (invalidate_spec h key).1
  | checkGhost key => exact h.eraseGhost key
  | increaseCapacity => exact increaseCapacity_wellFormed h
  | decreaseCapacity => exact (decreaseCapacity_spec h).2.1

lemma inOrder_step (h : lfu.WellFormed) (horder : InOrder entered lfu.freqMap)
    (op : Operation Key Value) : InOrder ((lfu.enters op).toList ++ entered) (lfu.step op).freqMap ∧
      ∀ victim ∈ lfu.mainCache, victim ∉ (lfu.step op).mainCache →
        op ≠ .invalidate victim → EvictedFirst lfu entered victim := by
  have hstays : ∀ {later : ArcLfu Key Value}, later.mainCache = lfu.mainCache →
      ∀ victim ∈ lfu.mainCache, victim ∉ later.mainCache → op ≠ .invalidate victim →
        EvictedFirst lfu entered victim :=
    fun heq victim hmem hgone => absurd (heq ▸ hmem) hgone
  have hupdated : ∀ key x, ∀ victim ∈ lfu.mainCache,
      victim ∉ (lfu.updateNodeFrequency key x).mainCache → op ≠ .invalidate victim →
        EvictedFirst lfu entered victim :=
    fun key x victim hmem hgone => absurd ((mem_insert _).mpr (.inr hmem)) hgone
  cases op with
  | put key v =>
    simp only [ArcLfu.step, put, enters]
    split_ifs with hcap
    · exact ⟨horder, hstays rfl⟩
    · cases hfind : lfu.mainCache.lookup key with
      | some x => exact ⟨inOrder_updateNodeFrequency h.toLinked horder hfind rfl, hupdated key _⟩
      | none =>
        have hnew := lookup_eq_none.mp hfind
        have hadded := @inOrder_addNewNode _ _ _ (lfu.eraseGhost key).2 entered key
          (h.toLinked.eraseGhost key)
        rw [eraseGhost_eq h.toLinked] at hadded ⊢
        obtain ⟨hinorder, hvictim⟩ := hadded horder hcap hnew v
        exact ⟨hinorder, fun victim hmem hgone _ => hvictim victim hmem hgone⟩
  | get key =>
    simp only [ArcLfu.step, get, enters]
    cases hfind : lfu.mainCache.lookup key with
    | none =>
      rw [if_neg (lookup_eq_none.mp hfind)]
      exact ⟨horder, hstays rfl⟩
    | some x =>
      rw [if_pos (lookup_isSome.mp (by simp [hfind]))]
      exact ⟨inOrder_updateNodeFrequency h.toLinked horder hfind rfl, hupdated key _⟩
  | invalidate key =>
    have hwell := (eraseMain_spec h key).1
    simp only [ArcLfu.step, invalidate, eraseGhost_eq hwell.toLinked, enters]
    unfold eraseMain
    cases hfind : lfu.mainCache.lookup key with
    | none => exact ⟨horder, hstays rfl⟩
    | some x =>
      refine ⟨horder.remove _ _, fun victim hmem hgone hother => absurd ?_ hgone⟩
      exact mem_erase.mpr ⟨fun heq => hother (heq ▸ rfl), hmem⟩
  | checkGhost key =>
    simp only [ArcLfu.step, checkGhost, eraseGhost_eq h.toLinked]
    exact ⟨horder, hstays rfl⟩
  | increaseCapacity => exact ⟨horder, hstays rfl⟩
  | decreaseCapacity =>
    simp only [ArcLfu.step, decreaseCapacity]
    split_ifs with hzero
    · exact ⟨horder, hstays rfl⟩
    · have hle := h.residents_le
      have hlinked : Linked { lfu with capacity := lfu.capacity - 1 } := { h with }
      rw [show lfu.size = size { lfu with capacity := lfu.capacity - 1 } from rfl,
        shrink_eq hlinked (show lfu.size ≤ lfu.capacity - 1 + 1 by omega)]
      split_ifs with hover
      · have hsome : lfu.size ≠ 0 := Nat.ne_zero_of_lt hover
        obtain ⟨hinorder, hvictim⟩ := inOrder_evictLeastFrequent hlinked horder hsome
        exact ⟨hinorder, fun victim hmem hgone _ => hvictim victim hmem hgone⟩
      · exact ⟨horder, hstays rfl⟩

/-- After any operations the buckets hold the residents by their access counts, none is empty,
`minFreq` is the least index of one, and the residents keep to the capacity: the loop of
`decrease_capacity` has ended. A key that leaves without being invalidated has the least access
count, and of the keys with this count it has entered its bucket first. -/
theorem lfu_evicts_earliest_of_least (cap trans ghostCap : ℕ)
    (operations : List (Operation Key Value)) :
    let state := run observe (new cap trans ghostCap, []) operations
    let lfu := state.1
    (∀ freq, freq ∈ lfu.freqMap.map ↔ lfu.freqMap.bucket freq ≠ []) ∧
      (∀ freq, (lfu.freqMap.bucket freq).Nodup) ∧
      (∀ freq key, key ∈ lfu.freqMap.bucket freq ↔
        ∃ node, lfu.mainCache.lookup key = some node ∧ node.accessCount = freq) ∧
      (lfu.size ≠ 0 → lfu.freqMap.first? = some lfu.minFreq) ∧
      lfu.ghost.Consistent ∧ lfu.size ≤ lfu.capacity ∧
      ∀ operation, ∀ victim ∈ lfu.mainCache, victim ∉ (lfu.step operation).mainCache →
        operation ≠ .invalidate victim → EvictedFirst lfu state.2 victim := by
  intro state lfu
  have hinv : lfu.WellFormed ∧ InOrder state.2 lfu.freqMap := by
    have hstep : ∀ (state : ArcLfu Key Value × List Key) operation,
        state.1.WellFormed ∧ InOrder state.2 state.1.freqMap →
          (observe state operation).1.WellFormed ∧
            InOrder (observe state operation).2 (observe state operation).1.freqMap :=
      fun state operation hinv =>
        ⟨hinv.1.step operation, (inOrder_step hinv.1 hinv.2 operation).1⟩
    exact run_invariant hstep ⟨new_wellFormed cap trans ghostCap, fun _ => List.Pairwise.nil⟩
      operations
  obtain ⟨hwell, horder⟩ := hinv
  refine ⟨hwell.indexed.compact, hwell.indexed.nodup, hwell.indexed.mem_bucket, fun hsome => ?_,
    hwell.ghost, hwell.residents_le, fun operation => (inOrder_step hwell horder operation).2⟩
  obtain ⟨victim, rest, node, hbucket, -⟩ := hwell.indexed.exists_first hsome
  refine min?_eq_some_iff.mpr ⟨?_, fun freq hmem => ?_⟩
  · exact (hwell.indexed.compact lfu.minFreq).mpr (by simp [hbucket])
  · exact (hwell.indexed.least freq ((hwell.indexed.compact freq).mp hmem)).2

end Tlss.Cache.ArcLfu
