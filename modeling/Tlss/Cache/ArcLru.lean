import Tlss.Cache.Partition
import Tlss.Library.LinkedMap

/-!
# The recency partition

`ArcLru` keeps its residents in a linked list, the most recently used in front, and
the keys it has evicted in a second one, the newest in front. Both lists have a
hash index. The partition is full when the index holds `capacity` residents; the
node at the end of the list is then evicted, and its key becomes the newest ghost.
-/

namespace Tlss.Cache

open Library LinkedMap

structure ArcLru (Key Value : Type*) where
  capacity : ℕ
  ghostCapacity : ℕ
  transformThreshold : ℕ
  /-- `_main_cache` and the list between `_main_head` and `_main_tail`. -/
  main : LinkedMap Key (Node Value)
  /-- `_ghost_cache` and the list between `_ghost_head` and `_ghost_tail`. -/
  ghost : LinkedMap Key Unit

namespace ArcLru

variable {Key Value : Type*} [DecidableEq Key]

def new (cap trans ghostCap : ℕ) : ArcLru Key Value := ⟨cap, ghostCap, trans, .empty, .empty⟩

variable (lru : ArcLru Key Value)

def eraseGhost (key : Key) : Bool × ArcLru Key Value :=
  if key ∈ lru.ghost then (true, { lru with ghost := lru.ghost.remove key }) else (false, lru)

def removeOldestGhost : ArcLru Key Value :=
  { lru with ghost := lru.ghost.removeOldest .front }

def addToGhost (key : Key) : ArcLru Key Value :=
  if lru.ghostCapacity = 0 then lru
  else if key ∈ lru.ghost then lru
  else { lru with ghost := lru.ghost.push .front key () }

/-- The second step of `evict_least_recent`: the key becomes the newest ghost. -/
def recordGhost (key : Key) : ArcLru Key Value :=
  if lru.ghost.size ≥ lru.ghostCapacity then lru.removeOldestGhost.addToGhost key
  else lru.addToGhost key

def evictLeastRecent : ArcLru Key Value :=
  match lru.main.oldest? .front with
  | none => lru
  | some key =>
    let recorded := lru.recordGhost key
    { recorded with main := recorded.main.remove key }

def addNewNode (key : Key) (value : Value) : ArcLru Key Value :=
  let roomy := if lru.main.size ≥ lru.capacity then lru.evictLeastRecent else lru
  { roomy with main := roomy.main.push .front key (.new value) }

def updateExistingNode (key : Key) (value : Value) : ArcLru Key Value :=
  { lru with main := (lru.main.modify key (Node.setValue value)).moveToFront key }

def put (key : Key) (value : Value) : Bool × ArcLru Key Value :=
  if lru.capacity = 0 then (false, lru)
  else
    match lru.main.find key with
    | some _ => (true, lru.updateExistingNode key value)
    | none => (true, (lru.eraseGhost key).2.addNewNode key value)

/-- `get`: the value with the advice to promote the key, if it is a resident. -/
def get (key : Key) : Option (Value × Bool) × ArcLru Key Value :=
  match lru.main.find key with
  | none => (none, lru)
  | some node =>
    let accessed := node.incrementAccessCount
    (some (accessed.value, decide (accessed.accessCount ≥ lru.transformThreshold)),
      { lru with main := (lru.main.moveToFront key).modify key Node.incrementAccessCount })

def contain (key : Key) : Bool := decide (key ∈ lru.main)

def erase (key : Key) : Bool × ArcLru Key Value :=
  if key ∈ lru.main then (true, { lru with main := lru.main.remove key }) else (false, lru)

def invalidate (key : Key) : Bool × ArcLru Key Value :=
  let (removed, erased) := lru.erase key
  let (ghostRemoved, clean) := erased.eraseGhost key
  (removed || ghostRemoved, clean)

def checkGhost (key : Key) : Bool × ArcLru Key Value :=
  lru.eraseGhost key

def increaseCapacity : ArcLru Key Value :=
  { lru with capacity := lru.capacity + 1 }

/-- The loop of `decrease_capacity`, for at most `fuel` rounds. -/
def shrink : ℕ → ArcLru Key Value → ArcLru Key Value
  | 0, lru => lru
  | fuel + 1, lru => if lru.main.size > lru.capacity then shrink fuel lru.evictLeastRecent else lru

/-- `decrease_capacity`; each round of its loop evicts a resident, so there are no
more rounds than residents. -/
def decreaseCapacity : Bool × ArcLru Key Value :=
  if lru.capacity = 0 then (false, lru)
  else (true, shrink lru.main.size { lru with capacity := lru.capacity - 1 })

def view : View Key Value where
  capacity := lru.capacity
  ghostCapacity := lru.ghostCapacity
  value key := (lru.main.find key).map Node.value
  ghost key := key ∈ lru.ghost

/-- The indexes agree with the lists, no resident is a ghost, and the ghosts keep
to their budget. -/
structure Linked (lru : ArcLru Key Value) : Prop where
  main : lru.main.Consistent
  ghost : lru.ghost.Consistent
  disjoint : ∀ key ∈ lru.main, key ∉ lru.ghost
  ghosts_le : lru.ghost.size ≤ lru.ghostCapacity

/-- Between two operations the residents keep to the capacity as well. -/
structure WellFormed (lru : ArcLru Key Value) : Prop extends Linked lru where
  residents_le : lru.main.size ≤ lru.capacity

variable {lru : ArcLru Key Value} {key y : Key} {v : Value}

lemma view_value_eq_none : lru.view.value key = none ↔ key ∉ lru.main := by
  simp [view, find_eq_none]

lemma knows_iff : lru.view.Knows key ↔ key ∈ lru.main ∨ key ∈ lru.ghost := by
  simp [View.Knows, view_value_eq_none]
  rfl

omit [DecidableEq Key] in
lemma new_wellFormed (cap trans ghostCap : ℕ) :
    (new cap trans ghostCap : ArcLru Key Value).WellFormed where
  main := .empty
  ghost := .empty
  disjoint _ hmem := absurd hmem notMem_empty
  ghosts_le := Nat.zero_le _
  residents_le := Nat.zero_le _

/-! ## Ghosts -/

section

variable (h : lru.Linked)
include h

lemma eraseGhost_eq (key : Key) : lru.eraseGhost key =
      (decide (key ∈ lru.ghost), { lru with ghost := lru.ghost.remove key }) := by
  unfold eraseGhost
  split_ifs with hghost
  · simp [hghost]
  · simp [hghost, h.ghost.remove_of_notMem hghost]

lemma Linked.eraseGhost (key : Key) : (lru.eraseGhost key).2.Linked := by
  rw [eraseGhost_eq h]
  exact
    { main := h.main
      ghost := h.ghost.remove key
      disjoint := fun y hmem hghost =>
        h.disjoint y hmem (mem_remove.mp hghost).2
      ghosts_le := le_trans size_remove_le h.ghosts_le }

lemma forgets_eraseGhost (hnew : key ∉ lru.main) :
    View.Forgets key lru.view (lru.eraseGhost key).2.view where
  toShrinks := by
    rw [eraseGhost_eq h]
    exact ⟨⟨rfl, id,
      fun hknows => hknows.imp_right fun hghost => (mem_remove.mp hghost).2⟩, rfl⟩
  forgotten := by
    rw [eraseGhost_eq h, knows_iff]
    simp [hnew]

lemma recordGhost_spec (hnew : key ∉ lru.ghost) :
    ∃ ghost, lru.recordGhost key = { lru with ghost := ghost } ∧
      LinkedMap.Records lru.ghostCapacity key lru.ghost ghost := by
  have hrecords := h.ghost.records .front h.ghosts_le hnew ()
  have hnew' : key ∉ lru.ghost.makeRoom .front lru.ghostCapacity :=
    fun hin => hnew ((h.ghost.makeRoom .front h.ghosts_le).2.2 key hin)
  refine ⟨_, ?_, hrecords⟩
  unfold recordGhost addToGhost removeOldestGhost makeRoom at *
  split_ifs at * <;> simp_all

/-! ## Evictions -/

lemma evictLeastRecent_spec (hsome : lru.main.size ≠ 0) : ∃ victim ghost, victim ∈ lru.main ∧
      lru.evictLeastRecent = { lru with main := lru.main.remove victim, ghost := ghost } ∧
      LinkedMap.Records lru.ghostCapacity victim lru.ghost ghost := by
  cases holdest : lru.main.oldest? .front with
  | none => exact absurd (h.main.oldest?_eq_none holdest) hsome
  | some victim =>
    have hmem := h.main.mem_of_oldest? holdest
    obtain ⟨ghost, heq, hrecords⟩ := recordGhost_spec h (h.disjoint victim hmem)
    exact ⟨victim, ghost, hmem, by simp only [evictLeastRecent, holdest, heq], hrecords⟩

lemma Linked.evictLeastRecent (hsome : lru.main.size ≠ 0) : lru.evictLeastRecent.Linked := by
  obtain ⟨victim, ghost, -, heq, hrecords⟩ := evictLeastRecent_spec h hsome
  rw [heq]
  refine ⟨h.main.remove victim, hrecords.consistent, fun y hmem hin => ?_, hrecords.size_le⟩
  obtain ⟨hne, hmain⟩ := mem_remove.mp hmem
  exact (hrecords.mem_of y hin).elim hne (h.disjoint y hmain)

lemma shrinks_evictLeastRecent (hsome : lru.main.size ≠ 0) :
    lru.view.Shrinks lru.evictLeastRecent.view := by
  obtain ⟨victim, ghost, hvictim, heq, hrecords⟩ := evictLeastRecent_spec h hsome
  rw [heq]
  refine ⟨⟨rfl, fun {key v} hvalue => ?_, fun {key} hknows => ?_⟩, rfl⟩
  · simp only [view, find_remove] at hvalue ⊢
    split_ifs at hvalue
    · cases hvalue
    · exact hvalue
  · rw [knows_iff] at hknows ⊢
    rcases hknows with hmain | hghost
    · exact .inl (mem_remove.mp hmain).2
    · rcases hrecords.mem_of key hghost with rfl | hin
      · exact .inl hvictim
      · exact .inr hin

lemma evictLeastRecent_size (hsome : lru.main.size ≠ 0) :
    lru.evictLeastRecent.main.size + 1 = lru.main.size := by
  obtain ⟨victim, ghost, hvictim, heq, -⟩ := evictLeastRecent_spec h hsome
  rw [heq]
  exact size_remove hvictim

end

/-- The loop of `decrease_capacity` ends with the residents within the capacity. -/
lemma shrink_spec (fuel : ℕ) (h : lru.Linked) (hfuel : lru.main.size ≤ fuel) :
    (shrink fuel lru).WellFormed ∧ lru.view.Shrinks (shrink fuel lru).view := by
  induction fuel generalizing lru with
  | zero => exact ⟨⟨h, by rw [shrink]; omega⟩, .refl _⟩
  | succ fuel ih =>
    unfold shrink
    split_ifs with hover
    · have hsome : lru.main.size ≠ 0 := by omega
      have hsize := evictLeastRecent_size h hsome
      obtain ⟨hwell, hshrinks⟩ := ih (h.evictLeastRecent hsome) (by omega)
      exact ⟨hwell, (shrinks_evictLeastRecent h hsome).trans hshrinks⟩
    · exact ⟨⟨h, by omega⟩, .refl _⟩

/-! ## The operations -/

section

variable (h : lru.WellFormed)
include h

lemma WellFormed.eraseGhost (key : Key) : (lru.eraseGhost key).2.WellFormed := by
  refine ⟨h.toLinked.eraseGhost key, ?_⟩
  rw [eraseGhost_eq h.toLinked]
  exact h.residents_le

lemma addNewNode_spec (hcap : lru.capacity ≠ 0) (hnew : ¬ lru.view.Knows key) (v : Value) :
    (lru.addNewNode key v).WellFormed ∧ View.Stores key v lru.view (lru.addNewNode key v).view := by
  have hle := h.residents_le
  -- making room is an eviction or nothing, and leaves room for one resident
  obtain ⟨roomy, hroomy, hlinked, hshrinks, hroom⟩ :
      ∃ roomy, (if lru.main.size ≥ lru.capacity then lru.evictLeastRecent else lru) = roomy ∧
        roomy.Linked ∧ lru.view.Shrinks roomy.view ∧ roomy.main.size < lru.capacity := by
    split_ifs with hfull
    · have hsome : lru.main.size ≠ 0 := by omega
      have hsize := evictLeastRecent_size h.toLinked hsome
      exact ⟨_, rfl, h.evictLeastRecent hsome, shrinks_evictLeastRecent h.toLinked hsome, by omega⟩
    · exact ⟨_, rfl, h.toLinked, .refl _, by omega⟩
  have hunknown : key ∉ roomy.main ∧ key ∉ roomy.ghost := by
    simpa [knows_iff, not_or] using fun hknows => hnew (hshrinks.knows_of hknows)
  have hcapacity : roomy.capacity = lru.capacity := hshrinks.capacity_eq
  simp only [addNewNode, hroomy]
  refine ⟨⟨⟨hlinked.main.push .front hunknown.1 _, hlinked.ghost, ?_, hlinked.ghosts_le⟩, ?_⟩,
    .of_shrinks hshrinks ⟨rfl, rfl, ?_, ?_, ?_⟩⟩
  · intro y hmem
    rcases (mem_push _ _).mp hmem with rfl | hmain
    · exact hunknown.2
    · exact hlinked.disjoint y hmain
  · rw [size_push _ hunknown.1]
    dsimp only
    omega
  · simp [view, find_push, Node.new]
  · intro y old hne hvalue
    simpa [view, find_push, hne] using hvalue
  · intro y hknows
    simpa [knows_iff, or_assoc] using hknows

lemma updateExistingNode_spec (hmem : key ∈ lru.main) (v : Value) :
    (lru.updateExistingNode key v).WellFormed ∧
      View.Stores key v lru.view (lru.updateExistingNode key v).view := by
  refine ⟨⟨⟨(h.main.modify key _).moveToFront key, h.ghost, ?_, h.ghosts_le⟩, ?_⟩,
    ⟨rfl, rfl, ?_, ?_, ?_⟩⟩
  · intro y hother
    exact h.disjoint y (by simpa [updateExistingNode] using hother)
  · simpa [updateExistingNode] using h.residents_le
  · obtain ⟨node, hnode⟩ := mem_iff_find.mp hmem
    simp [view, updateExistingNode, find_modify, hnode, Node.setValue]
  · intro y old hne hvalue
    simpa [view, updateExistingNode, find_modify, hne] using hvalue
  · intro y hknows
    exact .inr (by simpa [knows_iff, updateExistingNode] using hknows)

lemma put_spec (hcap : lru.capacity ≠ 0) (key : Key) (v : Value) :
    (lru.put key v).1 ∧ (lru.put key v).2.WellFormed ∧
      View.Stores key v lru.view (lru.put key v).2.view := by
  unfold put
  rw [if_neg hcap]
  cases hfind : lru.main.find key with
  | some node =>
    exact ⟨rfl, updateExistingNode_spec h (mem_iff_find.mpr ⟨node, hfind⟩) v⟩
  | none =>
    have hmain : key ∉ lru.main := find_eq_none.mp hfind
    have hforgets := forgets_eraseGhost h.toLinked hmain
    have hcapacity : (lru.eraseGhost key).2.capacity ≠ 0 :=
      fun hzero => hcap (hforgets.capacity_eq.symm.trans hzero)
    obtain ⟨hadded, hstores⟩ :=
      addNewNode_spec (h.eraseGhost key) hcapacity hforgets.forgotten v
    exact ⟨rfl, hadded, .of_shrinks hforgets.toShrinks hstores⟩

lemma get_spec (key : Key) :
    (lru.get key).1.map Prod.fst = lru.view.value key ∧ (lru.get key).2.WellFormed ∧
      (lru.get key).2.view = lru.view := by
  unfold get
  cases hfind : lru.main.find key with
  | none => exact ⟨by simp [view, hfind], h, rfl⟩
  | some node =>
    refine ⟨by simp [view, hfind, Node.incrementAccessCount],
      ⟨⟨(h.main.moveToFront key).modify key _, h.ghost, ?_, h.ghosts_le⟩, ?_⟩, ?_⟩
    · intro y hother
      exact h.disjoint y (by simpa using hother)
    · simpa using h.residents_le
    · have hvalue : (fun y => (((lru.main.moveToFront key).modify key
          Node.incrementAccessCount).find y).map Node.value) = lru.view.value := by
        funext y
        simp only [find_modify, find_moveToFront, view]
        split_ifs with hkey
        · simp [hkey, hfind, Node.incrementAccessCount]
        · rfl
      simp only [view] at hvalue ⊢
      rw [hvalue]

omit h in
lemma contain_iff : lru.contain key = true ↔ lru.view.value key ≠ none := by
  rw [ne_eq, view_value_eq_none, not_not]
  exact decide_eq_true_iff

lemma erase_spec (key : Key) :
    (lru.erase key).2.WellFormed ∧ lru.view.Shrinks (lru.erase key).2.view ∧
      (lru.erase key).2.view.value key = none ∧ (lru.erase key).2.view.ghost = lru.view.ghost := by
  have heq : lru.erase key =
      (decide (key ∈ lru.main), { lru with main := lru.main.remove key }) := by
    unfold erase
    split_ifs with hmem
    · simp [hmem]
    · simp [hmem, h.main.remove_of_notMem hmem]
  rw [heq]
  refine ⟨⟨⟨h.main.remove key, h.ghost, ?_, h.ghosts_le⟩, ?_⟩,
    ⟨⟨rfl, fun {y v} hvalue => ?_, fun {y} hknows => ?_⟩, rfl⟩, ?_, rfl⟩
  · intro y hother
    exact h.disjoint y (mem_remove.mp hother).2
  · exact le_trans size_remove_le h.residents_le
  · simp only [view, find_remove] at hvalue ⊢
    split_ifs at hvalue
    · cases hvalue
    · exact hvalue
  · rw [knows_iff] at hknows ⊢
    exact hknows.imp_left fun hmain => (mem_remove.mp hmain).2
  · simp [view, find_remove]

lemma invalidate_spec (key : Key) :
    (lru.invalidate key).2.WellFormed ∧ View.Forgets key lru.view (lru.invalidate key).2.view := by
  obtain ⟨hwell, hshrinks, hnone, -⟩ := erase_spec h key
  have hforgets := forgets_eraseGhost hwell.toLinked (view_value_eq_none.mp hnone)
  exact ⟨hwell.eraseGhost key, hshrinks.trans hforgets.toShrinks, hforgets.forgotten⟩

lemma checkGhost_spec (hnew : lru.view.value key = none) :
    ((lru.checkGhost key).1 = true ↔ lru.view.Knows key) ∧ (lru.checkGhost key).2.WellFormed ∧
      View.Forgets key lru.view (lru.checkGhost key).2.view := by
  have hmain : key ∉ lru.main := view_value_eq_none.mp hnew
  refine ⟨?_, h.eraseGhost key, forgets_eraseGhost h.toLinked hmain⟩
  rw [checkGhost, eraseGhost_eq h.toLinked, knows_iff]
  simp [hmain]

omit [DecidableEq Key] in
lemma increaseCapacity_wellFormed : lru.increaseCapacity.WellFormed :=
  ⟨{ h with }, Nat.le_succ_of_le h.residents_le⟩

lemma decreaseCapacity_spec : ((lru.decreaseCapacity).1 = true ↔ lru.capacity ≠ 0) ∧
      (lru.decreaseCapacity).2.WellFormed ∧ (lru.decreaseCapacity).2.capacity = lru.capacity - 1 ∧
      lru.view.Fades (lru.decreaseCapacity).2.view := by
  unfold decreaseCapacity
  split_ifs with hzero
  · exact ⟨by simp [hzero], h, by simp [hzero], rfl, id, id⟩
  · have hlinked : ({ lru with capacity := lru.capacity - 1 } : ArcLru Key Value).Linked :=
      { h with }
    obtain ⟨hwell, hshrinks⟩ := shrink_spec lru.main.size hlinked (le_refl _)
    exact ⟨by simp [hzero], hwell, hshrinks.capacity_eq, hshrinks.ghostCapacity_eq,
      hshrinks.value_of, hshrinks.knows_of⟩

end

end ArcLru

end Tlss.Cache
