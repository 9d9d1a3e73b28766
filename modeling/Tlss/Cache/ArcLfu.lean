import Tlss.Cache.Partition
import Tlss.Library.Buckets
import Tlss.Library.LinkedMap

/-!
# The frequency partition

`ArcLfu` keeps its residents in a hash map and groups them by their access count:
`_freq_map` has a bucket for every count that occurs, and `_min_freq` is the least
of them. The resident that entered the bucket of `_min_freq` first is the one to
be evicted; its key becomes the newest ghost, at the end of the ghost list.

The buckets, the map and `_min_freq` are changed by separate statements. `Indexed`
says how they belong together; the operations keep it, and from it follows that an
eviction always finds a resident.
-/

namespace Tlss.Cache

open Library List AList LinkedMap Buckets

structure ArcLfu (Key Value : Type*) where
  capacity : ℕ
  ghostCapacity : ℕ
  transformThreshold : ℕ
  minFreq : ℕ
  mainCache : AList fun _ : Key => Node Value
  freqMap : Buckets Key
  /-- `_ghost_cache` and the list between `_ghost_head` and `_ghost_tail`. -/
  ghost : LinkedMap Key Unit

namespace ArcLfu

variable {Key Value : Type*} [DecidableEq Key]

def new (cap trans ghostCap : ℕ) : ArcLfu Key Value :=
  ⟨cap, ghostCap, trans, 0, ∅, .empty, .empty⟩

variable (lfu : ArcLfu Key Value)

def size : ℕ := lfu.mainCache.keys.length

def eraseGhost (key : Key) : Bool × ArcLfu Key Value :=
  if key ∈ lfu.ghost then (true, { lfu with ghost := lfu.ghost.remove key }) else (false, lfu)

def removeOldestGhost : ArcLfu Key Value :=
  { lfu with ghost := lfu.ghost.removeOldest .back }

def addToGhost (key : Key) : ArcLfu Key Value :=
  if lfu.ghostCapacity = 0 then lfu else { lfu with ghost := lfu.ghost.push .back key () }

/-- The step of `evict_least_frequent` that makes the key the newest ghost. -/
def recordGhost (key : Key) : ArcLfu Key Value :=
  if lfu.ghost.size ≥ lfu.ghostCapacity then lfu.removeOldestGhost.addToGhost key
  else lfu.addToGhost key

def evictLeastFrequent : ArcLfu Key Value :=
  if lfu.freqMap.first? = none then lfu
  else
    match lfu.freqMap.bucket lfu.minFreq with
    | [] => { lfu with freqMap := lfu.freqMap.touch lfu.minFreq }
    | key :: rest =>
      -- `key` is the first of its bucket, so taking it out is `pop_front`
      let popped := lfu.freqMap.remove lfu.minFreq key
      let minFreq := if rest = [] then popped.first?.getD lfu.minFreq else lfu.minFreq
      let recorded := { lfu with freqMap := popped, minFreq := minFreq }.recordGhost key
      { recorded with mainCache := recorded.mainCache.erase key }

def addNewNode (key : Key) (value : Value) : ArcLfu Key Value :=
  let roomy := if lfu.size ≥ lfu.capacity then lfu.evictLeastFrequent else lfu
  { roomy with
    mainCache := roomy.mainCache.insert key (.new value)
    freqMap := roomy.freqMap.append 1 key
    minFreq := 1 }

def updateNodeFrequency (key : Key) (node : Node Value) : ArcLfu Key Value :=
  let oldFreq := node.accessCount
  let updated := node.incrementAccessCount
  let newFreq := updated.accessCount
  { lfu with
    mainCache := lfu.mainCache.insert key updated
    freqMap := (lfu.freqMap.remove oldFreq key).append newFreq key
    minFreq :=
      if (lfu.freqMap.bucket oldFreq).erase key = [] ∧ oldFreq = lfu.minFreq then newFreq
      else lfu.minFreq }

def put (key : Key) (value : Value) : Bool × ArcLfu Key Value :=
  if lfu.capacity = 0 then (false, lfu)
  else
    match lfu.mainCache.lookup key with
    | some node => (true, lfu.updateNodeFrequency key (node.setValue value))
    | none => (true, (lfu.eraseGhost key).2.addNewNode key value)

def get (key : Key) : Option Value × ArcLfu Key Value :=
  match lfu.mainCache.lookup key with
  | none => (none, lfu)
  | some node => (some node.value, lfu.updateNodeFrequency key node)

def contain (key : Key) : Bool := decide (key ∈ lfu.mainCache)

/-- The part of `invalidate` that takes a resident out. -/
def eraseMain (key : Key) : Bool × ArcLfu Key Value :=
  match lfu.mainCache.lookup key with
  | none => (false, lfu)
  | some node =>
    let freqMap := lfu.freqMap.remove node.accessCount key
    (true,
      { lfu with
        mainCache := lfu.mainCache.erase key
        freqMap := freqMap
        minFreq := freqMap.first?.getD 0 })

def invalidate (key : Key) : Bool × ArcLfu Key Value :=
  let (removed, erased) := lfu.eraseMain key
  let (ghostRemoved, clean) := erased.eraseGhost key
  (removed || ghostRemoved, clean)

def checkGhost (key : Key) : Bool × ArcLfu Key Value :=
  lfu.eraseGhost key

/-- The sum of the two capacities of an `ArcCache` stays the same, so that `++_capacity` does not
wrap there. -/
def increaseCapacity : ArcLfu Key Value :=
  { lfu with capacity := lfu.capacity + 1 }

/-- The loop of `decrease_capacity`, for at most `fuel` rounds. -/
def shrink : ℕ → ArcLfu Key Value → ArcLfu Key Value
  | 0, lfu => lfu
  | fuel + 1, lfu => if lfu.size > lfu.capacity then shrink fuel lfu.evictLeastFrequent else lfu

/-- `decrease_capacity`; each round of its loop evicts a resident, so there are no
more rounds than residents. -/
def decreaseCapacity : Bool × ArcLfu Key Value :=
  if lfu.capacity = 0 then (false, lfu)
  else (true, shrink lfu.size { lfu with capacity := lfu.capacity - 1 })

def view : View Key Value where
  capacity := lfu.capacity
  ghostCapacity := lfu.ghostCapacity
  value key := (lfu.mainCache.lookup key).map Node.value
  ghost key := key ∈ lfu.ghost

/-! ## How the map, the buckets and the least frequency belong together -/

/-- Every resident is in the bucket of its access count and nowhere else, no bucket
is empty, and `minFreq` is the least index of a bucket. -/
structure Indexed (mainCache : AList fun _ : Key => Node Value) (freqMap : Buckets Key)
    (minFreq : ℕ) : Prop where
  compact : freqMap.Compact
  nodup : ∀ freq, (freqMap.bucket freq).Nodup
  mem_bucket : ∀ freq key, key ∈ freqMap.bucket freq ↔
    ∃ node, mainCache.lookup key = some node ∧ node.accessCount = freq
  positive : ∀ key node, mainCache.lookup key = some node → 1 ≤ node.accessCount
  least : ∀ freq, freqMap.bucket freq ≠ [] → freqMap.bucket minFreq ≠ [] ∧ minFreq ≤ freq

variable {mainCache : AList fun _ : Key => Node Value} {freqMap : Buckets Key} {minFreq : ℕ}
  {lfu : ArcLfu Key Value} {key y : Key} {v : Value} {x : Node Value}

namespace Indexed

lemma empty : Indexed (∅ : AList fun _ : Key => Node Value) .empty 0 where
  compact := compact_empty
  nodup _ := nodup_nil
  mem_bucket freq key := by simp
  positive key x hget := by cases hget
  least freq hne := absurd rfl hne

section

variable (h : Indexed mainCache freqMap minFreq)
include h

lemma mem_own_bucket (hnode : mainCache.lookup key = some x) : key ∈ freqMap.bucket x.accessCount :=
  (h.mem_bucket _ key).mpr ⟨x, hnode, rfl⟩

lemma removeNode (hnode : mainCache.lookup key = some x) (newMin : ℕ)
    (hleast : ∀ freq, (freqMap.remove x.accessCount key).bucket freq ≠ [] →
      (freqMap.remove x.accessCount key).bucket newMin ≠ [] ∧ newMin ≤ freq) :
    Indexed (mainCache.erase key) (freqMap.remove x.accessCount key) newMin where
  compact := h.compact.remove _ _
  nodup freq := by
    rw [bucket_remove]
    split_ifs
    · exact (h.nodup _).erase key
    · exact h.nodup freq
  mem_bucket freq y := by
    rw [bucket_remove]
    by_cases hkey : y = key
    · -- the key itself was in one bucket only
      subst hkey
      simp only [lookup_erase, reduceCtorEq, false_and, exists_false, iff_false]
      split_ifs with hfreq
      · exact (h.nodup _).not_mem_erase
      · intro hmem
        obtain ⟨_, hother, rfl⟩ := (h.mem_bucket freq y).mp hmem
        exact hfreq (by rw [Option.some.inj (hnode.symm.trans hother)])
    · rw [lookup_erase_ne hkey, ← h.mem_bucket]
      split_ifs with hfreq
      · rw [mem_erase_of_ne hkey, hfreq]
      · rfl
  positive y node' hget := by
    by_cases hkey : y = key
    · subst hkey
      simp at hget
    · rw [lookup_erase_ne hkey] at hget
      exact h.positive y node' hget
  least := hleast

/-- The least frequency is looked up again. -/
lemma removeNode_first (hnode : mainCache.lookup key = some x) (default : ℕ) :
    Indexed (mainCache.erase key) (freqMap.remove x.accessCount key)
      ((freqMap.remove x.accessCount key).first?.getD default) := by
  have hcompact := h.compact.remove x.accessCount key
  refine h.removeNode hnode _ fun freq hne => ?_
  cases hleast : (freqMap.remove x.accessCount key).first? with
  | none => exact absurd (hcompact.first?_eq_none hleast freq) hne
  | some least => exact ⟨(hcompact.first? hleast).1, (hcompact.first? hleast).2 freq hne⟩

lemma insertNode (hnew : key ∉ mainCache) (count : ℕ) (hcount : x.accessCount = count)
    (hpositive : 1 ≤ count) {newMin : ℕ}
    (hleast : ∀ freq, (freqMap.append count key).bucket freq ≠ [] →
      (freqMap.append count key).bucket newMin ≠ [] ∧ newMin ≤ freq) :
    Indexed (mainCache.insert key x) (freqMap.append count key) newMin := by
  have hold : ∀ freq, key ∉ freqMap.bucket freq := by
    intro freq hmem
    obtain ⟨found, hfound, -⟩ := (h.mem_bucket freq key).mp hmem
    rw [lookup_eq_none.mpr hnew] at hfound
    cases hfound
  refine ⟨h.compact.append _ key, fun freq => ?_, fun freq y => ?_, fun y found hget => ?_, hleast⟩
  · rw [bucket_append]
    split_ifs
    · refine nodup_append.mpr ⟨h.nodup _, nodup_singleton key, ?_⟩
      rintro y hmem last hlast rfl
      exact hold _ (mem_singleton.mp hlast ▸ hmem)
    · exact h.nodup freq
  · rw [bucket_append]
    by_cases hkey : y = key
    · subst hkey
      simp only [lookup_insert, Option.some.injEq, exists_eq_left', hcount]
      split_ifs with hfreq
      · simp [hfreq]
      · simp [hold freq, Ne.symm hfreq]
    · rw [lookup_insert_ne hkey, ← h.mem_bucket]
      split_ifs with hfreq
      · simp [hkey, hfreq]
      · rfl
  · by_cases hkey : y = key
    · subst hkey
      rw [lookup_insert] at hget
      exact Option.some.inj hget ▸ hcount ▸ hpositive
    · rw [lookup_insert_ne hkey] at hget
      exact h.positive y found hget

lemma insertNew (hnew : key ∉ mainCache) (v : Value) :
    Indexed (mainCache.insert key (.new v)) (freqMap.append 1 key) 1 := by
  refine h.insertNode hnew 1 rfl (le_refl 1) fun freq hne => ⟨?_, ?_⟩
  · simp [bucket_append]
  · rw [bucket_append] at hne
    split_ifs at hne with hfreq
    · exact le_of_eq hfreq.symm
    · obtain ⟨y, hmem⟩ := exists_mem_of_ne_nil _ hne
      obtain ⟨x, hnode, hcount⟩ := (h.mem_bucket freq y).mp hmem
      exact hcount ▸ h.positive y x hnode

lemma exists_first (hsome : mainCache.keys.length ≠ 0) :
    ∃ victim rest x, freqMap.bucket minFreq = victim :: rest ∧
      mainCache.lookup victim = some x ∧ x.accessCount = minFreq := by
  obtain ⟨key, hkey⟩ := exists_mem_of_length_pos (Nat.pos_of_ne_zero hsome)
  obtain ⟨x, hnode⟩ := Option.isSome_iff_exists.mp (lookup_isSome.mpr hkey)
  have hne := (h.least _ (ne_nil_of_mem (h.mem_own_bucket hnode))).1
  obtain ⟨victim, rest, hbucket⟩ := exists_cons_of_ne_nil hne
  obtain ⟨least, hleast, hcount⟩ := (h.mem_bucket minFreq victim).mp (by simp [hbucket])
  exact ⟨victim, rest, least, hbucket, hleast, hcount⟩

omit h in
lemma bucket_moved (freq : ℕ) :
    ((freqMap.remove x.accessCount key).append (x.accessCount + 1) key).bucket freq =
      if freq = x.accessCount + 1 then freqMap.bucket (x.accessCount + 1) ++ [key]
      else if freq = x.accessCount then (freqMap.bucket x.accessCount).erase key
      else freqMap.bucket freq := by
  rw [bucket_append, bucket_remove, bucket_remove,
    if_neg (Nat.succ_ne_self x.accessCount)]

/-- `update_node_frequency`: the resident moves to the next bucket; what was its
value before does not matter. -/
lemma updateNode {old : Node Value}
    (hold : mainCache.lookup key = some old) (hcount : old.accessCount = x.accessCount) :
    Indexed (mainCache.insert key x.incrementAccessCount)
      ((freqMap.remove x.accessCount key).append (x.accessCount + 1) key)
      (if (freqMap.bucket x.accessCount).erase key = [] ∧ x.accessCount = minFreq then
        x.accessCount + 1 else minFreq) := by
  have hremoved := h.removeNode_first hold 0
  rw [hcount] at hremoved
  have hinsert : (mainCache.erase key).insert key x.incrementAccessCount =
      mainCache.insert key x.incrementAccessCount := by
    refine ext ?_
    rw [entries_insert, entries_insert]
    exact congrArg _ (kerase_of_notMem_keys (notMem_keys_kerase key mainCache.nodupKeys))
  rw [← hinsert]
  refine hremoved.insertNode (by simp) (x.accessCount + 1) rfl (Nat.le_add_left 1 _)
    fun freq hne => ?_
  have hown : freqMap.bucket x.accessCount ≠ [] :=
    ne_nil_of_mem (hcount ▸ h.mem_own_bucket hold)
  have hmin := (h.least _ hown).2
  have hlower : freq ≠ x.accessCount + 1 → freqMap.bucket freq ≠ [] := by
    intro hnext
    rw [bucket_moved, if_neg hnext] at hne
    split_ifs at hne with hsame
    · exact hsame ▸ hown
    · exact hne
  by_cases hemptied : (freqMap.bucket x.accessCount).erase key = [] ∧
      x.accessCount = minFreq
  · -- the least bucket is gone, and the one of the resident comes next
    rw [if_pos hemptied]
    refine ⟨by simp [bucket_moved], ?_⟩
    by_cases hnext : freq = x.accessCount + 1
    · omega
    · have hle := (h.least freq (hlower hnext)).2
      have hgone : freq ≠ x.accessCount := by
        rintro rfl
        rw [bucket_moved, if_neg hnext, if_pos rfl] at hne
        exact hne hemptied.1
      omega
  · rw [if_neg hemptied]
    constructor
    · rw [bucket_moved, if_neg (by omega)]
      split_ifs with hsame
      · exact fun hnil => hemptied ⟨hnil, hsame.symm⟩
      · exact (h.least _ hown).1
    · by_cases hnext : freq = x.accessCount + 1
      · omega
      · exact (h.least freq (hlower hnext)).2

end

end Indexed

/-- The map and the buckets belong together, no resident is a ghost, and the ghosts
keep to their budget. -/
structure Linked (lfu : ArcLfu Key Value) : Prop where
  indexed : Indexed lfu.mainCache lfu.freqMap lfu.minFreq
  ghost : lfu.ghost.Consistent
  disjoint : ∀ key ∈ lfu.mainCache, key ∉ lfu.ghost
  ghosts_le : lfu.ghost.size ≤ lfu.ghostCapacity

/-- Between two operations the residents keep to the capacity as well. -/
structure WellFormed (lfu : ArcLfu Key Value) : Prop extends Linked lfu where
  residents_le : lfu.size ≤ lfu.capacity

lemma view_value_eq_none : lfu.view.value key = none ↔ key ∉ lfu.mainCache := by
  rw [view, Option.map_eq_none_iff, lookup_eq_none]

lemma knows_iff : lfu.view.Knows key ↔ key ∈ lfu.mainCache ∨ key ∈ lfu.ghost := by
  simp [View.Knows, view_value_eq_none]
  rfl

lemma new_wellFormed (cap trans ghostCap : ℕ) :
    (new cap trans ghostCap : ArcLfu Key Value).WellFormed where
  indexed := .empty
  ghost := .empty
  disjoint _ hmem := absurd hmem (notMem_empty _)
  ghosts_le := Nat.zero_le _
  residents_le := Nat.zero_le _

/-! ## Ghosts -/

section

variable (h : lfu.Linked)
include h

lemma eraseGhost_eq (key : Key) : lfu.eraseGhost key =
      (decide (key ∈ lfu.ghost), { lfu with ghost := lfu.ghost.remove key }) := by
  unfold eraseGhost
  split_ifs with hghost
  · simp [hghost]
  · simp [hghost, h.ghost.remove_of_notMem hghost]

lemma Linked.eraseGhost (key : Key) : (lfu.eraseGhost key).2.Linked := by
  rw [eraseGhost_eq h]
  exact
    { indexed := h.indexed
      ghost := h.ghost.remove key
      disjoint := fun y hmem hghost =>
        h.disjoint y hmem (mem_remove.mp hghost).2
      ghosts_le := le_trans size_remove_le h.ghosts_le }

lemma forgets_eraseGhost (hnew : key ∉ lfu.mainCache) :
    View.Forgets key lfu.view (lfu.eraseGhost key).2.view := by
  rw [eraseGhost_eq h]
  refine ⟨⟨⟨rfl, id, fun hknows => ?_⟩, rfl⟩, ?_⟩
  · exact hknows.imp_right fun hghost => (mem_remove.mp hghost).2
  · rw [knows_iff]
    simp [hnew]

omit h in
lemma recordGhost_spec (lfu : ArcLfu Key Value) (h : lfu.ghost.Consistent)
    (hle : lfu.ghost.size ≤ lfu.ghostCapacity) (hnew : key ∉ lfu.ghost) :
    ∃ ghost, lfu.recordGhost key = { lfu with ghost := ghost } ∧
      LinkedMap.Records lfu.ghostCapacity key lfu.ghost ghost := by
  refine ⟨_, ?_, h.records .back hle hnew ()⟩
  unfold recordGhost addToGhost removeOldestGhost makeRoom
  split_ifs <;> simp_all

/-! ## Evictions -/

lemma evictLeastFrequent_spec (hsome : lfu.size ≠ 0) :
    ∃ victim ghost minFreq, (lfu.freqMap.bucket lfu.minFreq).head? = some victim ∧
      victim ∈ lfu.mainCache ∧ lfu.evictLeastFrequent = { lfu with
          mainCache := lfu.mainCache.erase victim
          freqMap := lfu.freqMap.remove lfu.minFreq victim
          minFreq := minFreq
          ghost := ghost } ∧
      Indexed (lfu.mainCache.erase victim) (lfu.freqMap.remove lfu.minFreq victim) minFreq ∧
      LinkedMap.Records lfu.ghostCapacity victim lfu.ghost ghost := by
  obtain ⟨victim, rest, x, hbucket, hnode, hcount⟩ := h.indexed.exists_first hsome
  have hmem : victim ∈ lfu.mainCache := AList.lookup_isSome.mp (by simp [hnode])
  have hfirst : lfu.freqMap.first? ≠ none := by
    intro hnone
    rw [h.indexed.compact.first?_eq_none hnone] at hbucket
    cases hbucket
  have hrest : (lfu.freqMap.bucket lfu.minFreq).erase victim = rest := by simp [hbucket]
  -- the least frequency is looked up again when the bucket of the victim is empty
  have hindexed : Indexed (lfu.mainCache.erase victim) (lfu.freqMap.remove lfu.minFreq victim)
      (if rest = [] then (lfu.freqMap.remove lfu.minFreq victim).first?.getD lfu.minFreq
        else lfu.minFreq) := by
    rw [← hcount]
    refine h.indexed.removeNode hnode _ fun freq hne => ?_
    split_ifs with hnil
    · exact (h.indexed.removeNode_first hnode _).least freq hne
    · rw [bucket_remove] at hne ⊢
      rw [if_pos rfl, hcount, hrest]
      refine ⟨hnil, ?_⟩
      split_ifs at hne with hsame
      · omega
      · exact (h.indexed.least freq hne).2
  obtain ⟨ghost, hghost, hrecords⟩ := recordGhost_spec
    { lfu with
      freqMap := lfu.freqMap.remove lfu.minFreq victim
      minFreq := if rest = [] then (lfu.freqMap.remove lfu.minFreq victim).first?.getD lfu.minFreq
        else lfu.minFreq }
    h.ghost h.ghosts_le (h.disjoint victim hmem)
  refine ⟨victim, ghost, _, by rw [hbucket]; rfl, hmem, ?_, hindexed, hrecords⟩
  simp only [evictLeastFrequent, if_neg hfirst, hbucket, hghost]

lemma Linked.evictLeastFrequent (hsome : lfu.size ≠ 0) : lfu.evictLeastFrequent.Linked := by
  obtain ⟨victim, ghost, minFreq, -, -, heq, hindexed, hrecords⟩ := evictLeastFrequent_spec h hsome
  rw [heq]
  refine ⟨hindexed, hrecords.consistent, fun y hmem hin => ?_, hrecords.size_le⟩
  obtain ⟨hne, hmain⟩ := mem_erase.mp hmem
  exact (hrecords.mem_of y hin).elim hne (h.disjoint y hmain)

lemma shrinks_evictLeastFrequent (hsome : lfu.size ≠ 0) :
    lfu.view.Shrinks lfu.evictLeastFrequent.view := by
  obtain ⟨victim, ghost, minFreq, -, hvictim, heq, -, hrecords⟩ := evictLeastFrequent_spec h hsome
  rw [heq]
  refine ⟨⟨rfl, fun {key v} hvalue => ?_, fun {key} hknows => ?_⟩, rfl⟩
  · by_cases hkey : key = victim
    · subst hkey
      simp [view] at hvalue
    · simpa only [view, lookup_erase_ne hkey] using hvalue
  · rw [knows_iff] at hknows ⊢
    rcases hknows with hmain | hghost
    · exact .inl (mem_erase.mp hmain).2
    · rcases hrecords.mem_of key hghost with rfl | hin
      · exact .inl hvictim
      · exact .inr hin

lemma evictLeastFrequent_size (hsome : lfu.size ≠ 0) :
    lfu.evictLeastFrequent.size + 1 = lfu.size := by
  obtain ⟨victim, ghost, minFreq, -, hvictim, heq, -⟩ := evictLeastFrequent_spec h hsome
  rw [heq, size, keys_erase, length_erase_of_mem hvictim]
  unfold size at hsome ⊢
  omega

end

/-- The loop of `decrease_capacity` ends with the residents within the capacity. -/
lemma shrink_spec (fuel : ℕ) (h : lfu.Linked) (hfuel : lfu.size ≤ fuel) :
    (shrink fuel lfu).WellFormed ∧ lfu.view.Shrinks (shrink fuel lfu).view := by
  induction fuel generalizing lfu with
  | zero => exact ⟨⟨h, by rw [shrink]; omega⟩, .refl _⟩
  | succ fuel ih =>
    unfold shrink
    split_ifs with hover
    · have hsome : lfu.size ≠ 0 := by omega
      have hsize := evictLeastFrequent_size h hsome
      obtain ⟨hwell, hshrinks⟩ := ih (h.evictLeastFrequent hsome) (by omega)
      exact ⟨hwell, (shrinks_evictLeastFrequent h hsome).trans hshrinks⟩
    · exact ⟨⟨h, by omega⟩, .refl _⟩

/-! ## The operations -/

section

variable (h : lfu.WellFormed)
include h

lemma WellFormed.eraseGhost (key : Key) : (lfu.eraseGhost key).2.WellFormed := by
  refine ⟨h.toLinked.eraseGhost key, ?_⟩
  rw [eraseGhost_eq h.toLinked]
  exact h.residents_le

lemma addNewNode_spec (hcap : lfu.capacity ≠ 0) (hnew : ¬ lfu.view.Knows key) (v : Value) :
    (lfu.addNewNode key v).WellFormed ∧ View.Stores key v lfu.view (lfu.addNewNode key v).view := by
  have hle := h.residents_le
  -- making room is an eviction or nothing, and leaves room for one resident
  obtain ⟨roomy, hroomy, hlinked, hshrinks, hroom⟩ :
      ∃ roomy, (if lfu.size ≥ lfu.capacity then lfu.evictLeastFrequent else lfu) = roomy ∧
        roomy.Linked ∧ lfu.view.Shrinks roomy.view ∧ roomy.size < lfu.capacity := by
    split_ifs with hfull
    · have hsome : lfu.size ≠ 0 := by omega
      have hsize := evictLeastFrequent_size h.toLinked hsome
      exact ⟨_, rfl, h.evictLeastFrequent hsome, shrinks_evictLeastFrequent h.toLinked hsome,
        by omega⟩
    · exact ⟨_, rfl, h.toLinked, .refl _, by omega⟩
  have hunknown : key ∉ roomy.mainCache ∧ key ∉ roomy.ghost := by
    simpa [knows_iff, not_or] using fun hknows => hnew (hshrinks.knows_of hknows)
  have hcapacity : roomy.capacity = lfu.capacity := hshrinks.capacity_eq
  simp only [addNewNode, hroomy]
  refine ⟨⟨⟨hlinked.indexed.insertNew hunknown.1 v, hlinked.ghost, ?_, hlinked.ghosts_le⟩, ?_⟩,
    .of_shrinks hshrinks ⟨rfl, rfl, ?_, ?_, ?_⟩⟩
  · intro y hmem
    rcases (mem_insert _).mp hmem with rfl | hmain
    · exact hunknown.2
    · exact hlinked.disjoint y hmain
  · unfold size at hroom ⊢
    rw [keys_insert, erase_of_not_mem hunknown.1, length_cons]
    dsimp only
    omega
  · simp [view, Node.new]
  · intro y old hne hvalue
    simpa only [view, lookup_insert_ne hne] using hvalue
  · intro y hknows
    simpa [knows_iff, or_assoc] using hknows

lemma updateNodeFrequency_spec (x : Node Value) {old : Node Value}
    (hold : lfu.mainCache.lookup key = some old) (hcount : old.accessCount = x.accessCount) :
    (lfu.updateNodeFrequency key x).WellFormed ∧
      View.Stores key x.value lfu.view (lfu.updateNodeFrequency key x).view := by
  have hmem : key ∈ lfu.mainCache := lookup_isSome.mp (by simp [hold])
  have hsame : ∀ y, y ∈ lfu.mainCache.insert key x.incrementAccessCount ↔
      y ∈ lfu.mainCache := by
    intro y
    rw [mem_insert]
    exact or_iff_right_of_imp fun hkey => hkey ▸ hmem
  refine ⟨⟨⟨h.indexed.updateNode hold hcount, h.ghost, ?_, h.ghosts_le⟩, ?_⟩,
    ⟨rfl, rfl, ?_, ?_, ?_⟩⟩
  · intro y hother
    exact h.disjoint y ((hsame y).mp hother)
  · have hpositive := length_pos_of_mem (show key ∈ lfu.mainCache.keys from hmem)
    have hle := h.residents_le
    unfold size at hle ⊢
    simp only [updateNodeFrequency, keys_insert, length_cons,
      length_erase_of_mem (show key ∈ lfu.mainCache.keys from hmem)]
    omega
  · simp [view, updateNodeFrequency, Node.incrementAccessCount]
  · intro y kept hne hvalue
    simpa only [view, updateNodeFrequency, lookup_insert_ne hne] using hvalue
  · intro y hknows
    rw [knows_iff] at hknows ⊢
    exact .inr (hknows.imp_left (hsame y).mp)

lemma put_spec (hcap : lfu.capacity ≠ 0) (key : Key) (v : Value) :
    (lfu.put key v).1 ∧ (lfu.put key v).2.WellFormed ∧
      View.Stores key v lfu.view (lfu.put key v).2.view := by
  unfold put
  rw [if_neg hcap]
  cases hfind : lfu.mainCache.lookup key with
  | some x => exact ⟨rfl, updateNodeFrequency_spec h (x.setValue v) hfind rfl⟩
  | none =>
    have hmain : key ∉ lfu.mainCache := lookup_eq_none.mp hfind
    have hforgets := forgets_eraseGhost h.toLinked hmain
    have hcapacity : (lfu.eraseGhost key).2.capacity ≠ 0 :=
      fun hzero => hcap (hforgets.capacity_eq.symm.trans hzero)
    obtain ⟨hadded, hstores⟩ :=
      addNewNode_spec (h.eraseGhost key) hcapacity hforgets.forgotten v
    exact ⟨rfl, hadded, .of_shrinks hforgets.toShrinks hstores⟩

omit h in
lemma put_of_capacity_eq_zero (hzero : lfu.capacity = 0) (key : Key) (v : Value) :
    lfu.put key v = (false, lfu) := if_pos hzero

/-- `get` finds the residents; a resident that is found keeps its value. -/
lemma get_spec (key : Key) : (lfu.get key).1 = lfu.view.value key ∧ (lfu.get key).2.WellFormed ∧
      (lfu.get key).2.view.value key = lfu.view.value key ∧
      lfu.view.Shrinks (lfu.get key).2.view := by
  unfold get
  cases hfind : lfu.mainCache.lookup key with
  | none => exact ⟨by simp [view, hfind], h, rfl, .refl _⟩
  | some x =>
    have hvalue : lfu.view.value key = some x.value := by simp [view, hfind]
    obtain ⟨hwell, hstores⟩ := updateNodeFrequency_spec h x hfind rfl
    exact ⟨hvalue.symm, hwell, hstores.value_self.trans hvalue.symm, hstores.shrinks hvalue⟩

omit h in
lemma contain_iff : lfu.contain key = true ↔ lfu.view.value key ≠ none := by
  rw [ne_eq, view_value_eq_none, not_not]
  exact decide_eq_true_iff

lemma eraseMain_spec (key : Key) :
    (lfu.eraseMain key).2.WellFormed ∧ lfu.view.Shrinks (lfu.eraseMain key).2.view ∧
      key ∉ (lfu.eraseMain key).2.mainCache := by
  unfold eraseMain
  cases hfind : lfu.mainCache.lookup key with
  | none => exact ⟨h, .refl _, lookup_eq_none.mp hfind⟩
  | some x =>
    refine ⟨⟨⟨h.indexed.removeNode_first hfind 0, h.ghost, ?_, h.ghosts_le⟩, ?_⟩,
      ⟨⟨rfl, fun {y v} hvalue => ?_, fun {y} hknows => ?_⟩, rfl⟩, by simp⟩
    · intro y hother
      exact h.disjoint y (mem_erase.mp hother).2
    · refine le_trans ?_ h.residents_le
      unfold size
      rw [keys_erase]
      exact length_erase_le
    · by_cases hkey : y = key
      · subst hkey
        simp [view] at hvalue
      · simpa only [view, lookup_erase_ne hkey] using hvalue
    · rw [knows_iff] at hknows ⊢
      exact hknows.imp_left fun hmain => (mem_erase.mp hmain).2

lemma invalidate_spec (key : Key) :
    (lfu.invalidate key).2.WellFormed ∧ View.Forgets key lfu.view (lfu.invalidate key).2.view := by
  obtain ⟨hwell, hshrinks, hnone⟩ := eraseMain_spec h key
  have hforgets := forgets_eraseGhost hwell.toLinked hnone
  exact ⟨hwell.eraseGhost key, hshrinks.trans hforgets.toShrinks, hforgets.forgotten⟩

lemma checkGhost_spec (hnew : lfu.view.value key = none) :
    ((lfu.checkGhost key).1 = true ↔ lfu.view.Knows key) ∧ (lfu.checkGhost key).2.WellFormed ∧
      View.Forgets key lfu.view (lfu.checkGhost key).2.view := by
  have hmain : key ∉ lfu.mainCache := view_value_eq_none.mp hnew
  refine ⟨?_, h.eraseGhost key, forgets_eraseGhost h.toLinked hmain⟩
  rw [checkGhost, eraseGhost_eq h.toLinked, knows_iff]
  simp [hmain]

lemma increaseCapacity_wellFormed : lfu.increaseCapacity.WellFormed :=
  ⟨{ h with }, Nat.le_succ_of_le h.residents_le⟩

lemma decreaseCapacity_spec : ((lfu.decreaseCapacity).1 = true ↔ lfu.capacity ≠ 0) ∧
      (lfu.decreaseCapacity).2.WellFormed ∧ (lfu.decreaseCapacity).2.capacity = lfu.capacity - 1 ∧
      lfu.view.Fades (lfu.decreaseCapacity).2.view := by
  unfold decreaseCapacity
  split_ifs with hzero
  · exact ⟨by simp [hzero], h, by simp [hzero], rfl, id, id⟩
  · have hlinked : ({ lfu with capacity := lfu.capacity - 1 } : ArcLfu Key Value).Linked :=
      { h with }
    obtain ⟨hwell, hshrinks⟩ := shrink_spec lfu.size hlinked (le_refl _)
    exact ⟨by simp [hzero], hwell, hshrinks.capacity_eq, hshrinks.ghostCapacity_eq,
      hshrinks.value_of, hshrinks.knows_of⟩

end

end ArcLfu

end Tlss.Cache
