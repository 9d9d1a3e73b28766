import Tlss.Cache.ArcLfu
import Tlss.Cache.ArcLru
import Tlss.Library.Run

/-!
# The adaptive cache

`ArcCache` takes new keys into the recency partition and promotes keys that are
read often enough into the frequency partition. A key that comes back while one
of the partitions remembers it as a ghost moves one unit of capacity towards that
partition.

`WellFormed` collects what holds between two calls. A key is known to one
partition only, and there it is a resident or a ghost, so the four key sets are
disjoint. What the cache shows (`view`) changes by `View.Stores`, `View.Shrinks`
and `View.Forgets`, the relations the partitions themselves satisfy.
-/

namespace Tlss.Cache

open Library List

structure ArcCache (Key Value : Type*) where
  capacity : ℕ
  transformThreshold : ℕ
  lruCapacity : ℕ
  lru : ArcLru Key Value
  lfu : ArcLfu Key Value

inductive GhostHit where
  | none
  | lru
  | lfu
deriving DecidableEq, Repr

namespace ArcCache

variable {Key Value : Type*} [DecidableEq Key]

def new (cap trans : ℕ) : ArcCache Key Value where
  capacity := cap
  transformThreshold := trans
  lruCapacity := cap - cap / 2
  lru := .new (cap - cap / 2) trans cap
  lfu := .new (cap / 2) trans cap

variable (cache : ArcCache Key Value)

def checkGhostCaches (key : Key) : GhostHit × ArcCache Key Value :=
  let (lruHit, lru) := cache.lru.checkGhost key
  let cache := { cache with lru := lru }
  if lruHit then
    let (decreased, lfu) := cache.lfu.decreaseCapacity
    let cache := { cache with lfu := lfu }
    (.lru,
      if decreased then
        { cache with lru := cache.lru.increaseCapacity, lruCapacity := cache.lruCapacity + 1 }
      else cache)
  else
    let (lfuHit, lfu) := cache.lfu.checkGhost key
    let cache := { cache with lfu := lfu }
    if lfuHit then
      if cache.lruCapacity > 1 then
        let (decreased, lru) := cache.lru.decreaseCapacity
        let cache := { cache with lru := lru }
        (.lfu,
          if decreased then
            { cache with lfu := cache.lfu.increaseCapacity, lruCapacity := cache.lruCapacity - 1 }
          else cache)
      else (.lfu, cache)
    else (.none, cache)

/-- `put`, once neither partition has the key as a resident. -/
def insert (key : Key) (value : Value) : ArcCache Key Value :=
  let (hit, cache) := cache.checkGhostCaches key
  let (stored, lfu) := if hit = .lfu then cache.lfu.put key value else (false, cache.lfu)
  let cache := { cache with lfu := lfu }
  if stored then cache else { cache with lru := (cache.lru.put key value).2 }

def put (cache : ArcCache Key Value) (key : Key) (value : Value) : ArcCache Key Value :=
  if cache.capacity = 0 then cache
  else if cache.lru.contain key then { cache with lru := (cache.lru.put key value).2 }
  else if cache.lfu.contain key then { cache with lfu := (cache.lfu.put key value).2 }
  else cache.insert key value

def get (cache : ArcCache Key Value) (key : Key) : Option Value × ArcCache Key Value :=
  match cache.lru.get key with
  | (some (value, shouldTransform), lru) =>
    let cache := { cache with lru := lru }
    let (stored, lfu) := if shouldTransform then cache.lfu.put key value else (false, cache.lfu)
    let cache := { cache with lfu := lfu }
    (some value, if stored then { cache with lru := (cache.lru.erase key).2 } else cache)
  | (none, lru) =>
    let (found, lfu) := cache.lfu.get key
    (found, { cache with lru := lru, lfu := lfu })

def erase (key : Key) : Bool × ArcCache Key Value :=
  let (lruRemoved, lru) := cache.lru.invalidate key
  let (lfuRemoved, lfu) := cache.lfu.invalidate key
  (lruRemoved || lfuRemoved, { cache with lru := lru, lfu := lfu })

def view (cache : ArcCache Key Value) : View Key Value :=
  .join cache.capacity cache.lru.view cache.lfu.view

/-- Two sound partitions that share the capacity and no key. -/
structure WellFormed (cache : ArcCache Key Value) : Prop where
  lru : cache.lru.WellFormed
  lfu : cache.lfu.WellFormed
  separate : cache.lru.view.Separate cache.lfu.view
  total : cache.lru.capacity + cache.lfu.capacity = cache.capacity
  lruCapacity_eq : cache.lruCapacity = cache.lru.capacity
  lru_positive : cache.capacity ≠ 0 → cache.lru.capacity ≠ 0
  lru_budget : cache.lru.ghostCapacity = cache.capacity
  lfu_budget : cache.lfu.ghostCapacity = cache.capacity

variable {cache : ArcCache Key Value} {key y : Key} {v : Value}

lemma new_wellFormed (cap trans : ℕ) : (new cap trans : ArcCache Key Value).WellFormed where
  lru := ArcLru.new_wellFormed _ _ _
  lfu := ArcLfu.new_wellFormed _ _ _
  separate := by
    intro key hknows
    rw [ArcLru.knows_iff] at hknows
    exact absurd hknows (by simp [new, ArcLru.new])
  total := by
    simp only [new, ArcLru.new, ArcLfu.new]
    omega
  lruCapacity_eq := rfl
  lru_positive hcap := by
    simp only [new, ArcLru.new] at hcap ⊢
    omega
  lru_budget := rfl
  lfu_budget := rfl

section

variable (h : cache.WellFormed)
include h

variable {lru : ArcLru Key Value} {lfu : ArcLfu Key Value}

/-- Partitions that have only lost something, or exchanged capacity, make a well
formed cache again. -/
lemma WellFormed.fade {lruCapacity : ℕ} (hlru : lru.WellFormed) (hlfu : lfu.WellFormed)
    (hlru_fades : cache.lru.view.Fades lru.view) (hlfu_fades : cache.lfu.view.Fades lfu.view)
    (htotal : lru.capacity + lfu.capacity = cache.capacity) (heq : lruCapacity = lru.capacity)
    (hpositive : cache.capacity ≠ 0 → lru.capacity ≠ 0) :
    { cache with lru := lru, lfu := lfu, lruCapacity := lruCapacity }.WellFormed ∧
      cache.view.Shrinks { cache with lru := lru, lfu := lfu, lruCapacity := lruCapacity }.view :=
  ⟨{ lru := hlru
     lfu := hlfu
     separate := h.separate.of_fades hlru_fades hlfu_fades
     total := htotal
     lruCapacity_eq := heq
     lru_positive := hpositive
     lru_budget := hlru_fades.ghostCapacity_eq.trans h.lru_budget
     lfu_budget := hlfu_fades.ghostCapacity_eq.trans h.lfu_budget },
    h.separate.join_shrinks hlru_fades hlfu_fades⟩

lemma WellFormed.shrink
    (hlru : lru.WellFormed) (hlfu : lfu.WellFormed) (hlru_shrinks : cache.lru.view.Shrinks lru.view)
    (hlfu_shrinks : cache.lfu.view.Shrinks lfu.view) :
    { cache with lru := lru, lfu := lfu }.WellFormed ∧
      cache.view.Shrinks { cache with lru := lru, lfu := lfu }.view := by
  have hlru_eq : lru.capacity = cache.lru.capacity := hlru_shrinks.capacity_eq
  have hlfu_eq : lfu.capacity = cache.lfu.capacity := hlfu_shrinks.capacity_eq
  refine h.fade hlru hlfu hlru_shrinks.toFades hlfu_shrinks.toFades ?_ ?_ ?_
  · rw [hlru_eq, hlfu_eq, h.total]
  · rw [hlru_eq, h.lruCapacity_eq]
  · rw [hlru_eq]
    exact h.lru_positive

lemma WellFormed.storeLru
    (hlru : lru.WellFormed) (hstores : View.Stores key v cache.lru.view lru.view)
    (hunknown : ¬ cache.lfu.view.Knows key) : { cache with lru := lru }.WellFormed ∧
      View.Stores key v cache.view { cache with lru := lru }.view := by
  have heq : lru.capacity = cache.lru.capacity := hstores.capacity_eq
  refine ⟨?_, h.separate.join_stores_left hstores⟩
  exact
    { h with
      lru := hlru
      separate := h.separate.of_stores_left hstores hunknown
      total := by rw [heq, h.total]
      lruCapacity_eq := by rw [heq, h.lruCapacity_eq]
      lru_positive := by rw [heq]; exact h.lru_positive
      lru_budget := hstores.ghostCapacity_eq.trans h.lru_budget }

lemma WellFormed.storeLfu
    (hlfu : lfu.WellFormed) (hstores : View.Stores key v cache.lfu.view lfu.view)
    (hunknown : ¬ cache.lru.view.Knows key) : { cache with lfu := lfu }.WellFormed ∧
      View.Stores key v cache.view { cache with lfu := lfu }.view := by
  have heq : lfu.capacity = cache.lfu.capacity := hstores.capacity_eq
  refine ⟨?_, h.separate.join_stores_right hstores hunknown⟩
  exact
    { h with
      lfu := hlfu
      separate := h.separate.of_stores_right hstores hunknown
      total := by rw [heq, h.total]
      lfu_budget := hstores.ghostCapacity_eq.trans h.lfu_budget }

/-! ## The operations -/

omit h in
lemma forgets_of_shrinks {later : ArcCache Key Value}
    (hres : later.WellFormed ∧ cache.view.Shrinks later.view)
    (hlru : ¬ later.lru.view.Knows key) (hlfu : ¬ later.lfu.view.Knows key) :
    later.WellFormed ∧ View.Forgets key cache.view later.view := by
  refine ⟨hres.1, hres.2, ?_⟩
  rw [view, View.knows_join]
  exact fun hknows => hknows.elim hlru hlfu

/-- `check_ghost_caches`: neither partition knows the key any more, and capacity has
moved by at most one. -/
lemma checkGhostCaches_spec (hlru : cache.lru.view.value key = none)
    (hlfu : cache.lfu.view.value key = none) : (cache.checkGhostCaches key).2.WellFormed ∧
      View.Forgets key cache.view (cache.checkGhostCaches key).2.view := by
  have htotal := h.total
  have hcapacity := h.lruCapacity_eq
  have hpositive := h.lru_positive
  obtain ⟨hlru_hit, hlru_well, hlru_forgets⟩ := ArcLru.checkGhost_spec h.lru hlru
  rcases hlru_check : cache.lru.checkGhost key with ⟨lruHit, lru⟩
  rw [hlru_check] at hlru_hit hlru_well hlru_forgets
  have hlru_eq : lru.capacity = cache.lru.capacity := hlru_forgets.capacity_eq
  cases lruHit with
  | true =>
    -- the recency partition gains what the other one can spare
    have hunknown : ¬ cache.lfu.view.Knows key := h.separate key (hlru_hit.mp rfl)
    obtain ⟨hdecreased, hlfu_well, hlfu_eq, hlfu_fades⟩ := ArcLfu.decreaseCapacity_spec h.lfu
    rcases hdecrease : cache.lfu.decreaseCapacity with ⟨decreased, lfu⟩
    rw [hdecrease] at hdecreased hlfu_well hlfu_eq hlfu_fades
    dsimp only at hdecreased hlfu_well hlfu_eq hlfu_fades hlru_well hlru_forgets
    have hlfu_unknown : ¬ lfu.view.Knows key := fun hknows =>
      hunknown (hlfu_fades.knows_of hknows)
    simp only [checkGhostCaches, hlru_check, hdecrease, if_true]
    cases decreased with
    | true =>
      have hpart := hdecreased.mp rfl
      exact forgets_of_shrinks
        (h.fade (ArcLru.increaseCapacity_wellFormed hlru_well) hlfu_well { hlru_forgets with }
          hlfu_fades (by simp only [ArcLru.increaseCapacity]; omega)
          (by simp only [ArcLru.increaseCapacity]; omega)
          (by simp [ArcLru.increaseCapacity]))
        hlru_forgets.forgotten hlfu_unknown
    | false =>
      have hempty : cache.lfu.capacity = 0 := by simpa using hdecreased
      exact forgets_of_shrinks
        (h.fade hlru_well hlfu_well hlru_forgets.toFades hlfu_fades (by omega) (by omega)
          (by rw [hlru_eq]; exact hpositive))
        hlru_forgets.forgotten hlfu_unknown
  | false =>
    obtain ⟨-, hlfu_well, hlfu_forgets⟩ := ArcLfu.checkGhost_spec h.lfu hlfu
    rcases hlfu_check : cache.lfu.checkGhost key with ⟨lfuHit, lfu⟩
    rw [hlfu_check] at hlfu_well hlfu_forgets
    have hlfu_eq : lfu.capacity = cache.lfu.capacity := hlfu_forgets.capacity_eq
    dsimp only at hlfu_well hlfu_forgets hlru_well hlru_forgets
    have hplain := forgets_of_shrinks
      (h.shrink hlru_well hlfu_well hlru_forgets.toShrinks hlfu_forgets.toShrinks)
      hlru_forgets.forgotten hlfu_forgets.forgotten
    simp only [checkGhostCaches, hlru_check, hlfu_check, Bool.false_eq_true, if_false]
    obtain ⟨hdecreased, hdec_well, hdec_eq, hdec_fades⟩ := ArcLru.decreaseCapacity_spec hlru_well
    split_ifs with hhit hspare hspent
    · -- the frequency partition gains what the other one can spare
      exact forgets_of_shrinks
        (h.fade hdec_well (ArcLfu.increaseCapacity_wellFormed hlfu_well)
          (hlru_forgets.toFades.trans hdec_fades)
          { hlfu_forgets with }
          (by simp only [ArcLfu.increaseCapacity]; omega) (by omega) (by omega))
        (fun hknows => hlru_forgets.forgotten (hdec_fades.knows_of hknows))
        hlfu_forgets.forgotten
    · exact absurd (hdecreased.mpr (by omega)) hspent
    · exact hplain
    · exact hplain

lemma insert_spec (hcap : cache.capacity ≠ 0) (hlru : cache.lru.view.value key = none)
    (hlfu : cache.lfu.view.value key = none) (v : Value) : (cache.insert key v).WellFormed ∧
      View.Stores key v cache.view (cache.insert key v).view := by
  obtain ⟨hwell, hforgets⟩ := checkGhostCaches_spec h hlru hlfu
  rcases hcheck : cache.checkGhostCaches key with ⟨hit, checked⟩
  rw [hcheck] at hwell hforgets
  have hunknown : ¬ checked.lru.view.Knows key ∧ ¬ checked.lfu.view.Knows key := by
    have hforgotten := hforgets.forgotten
    rw [view, View.knows_join, not_or] at hforgotten
    exact hforgotten
  have hcap' : checked.capacity ≠ 0 := fun hzero => hcap (hforgets.capacity_eq.symm.trans hzero)
  obtain ⟨-, hlru_well, hlru_stores⟩ :=
    ArcLru.put_spec hwell.lru (hwell.lru_positive hcap') key v
  have hreceived := hwell.storeLru hlru_well hlru_stores hunknown.2
  simp only [insert, hcheck]
  by_cases hback : hit = .lfu ∧ checked.lfu.capacity ≠ 0
  · obtain ⟨hstored, hlfu_well, hlfu_stores⟩ := ArcLfu.put_spec hwell.lfu hback.2 key v
    obtain ⟨hres, hstores⟩ := hwell.storeLfu hlfu_well hlfu_stores hunknown.1
    simp only [hback.1, if_true, hstored]
    exact ⟨hres, .of_shrinks hforgets.toShrinks hstores⟩
  · have hrefused : (if hit = .lfu then checked.lfu.put key v else (false, checked.lfu)) =
        (false, checked.lfu) := by
      split_ifs with hhit
      · exact ArcLfu.put_of_capacity_eq_zero (not_not.mp fun hne => hback ⟨hhit, hne⟩) key v
      · rfl
    simp only [hrefused, Bool.false_eq_true, if_false]
    exact ⟨hreceived.1, .of_shrinks hforgets.toShrinks hreceived.2⟩

lemma put_spec (hcap : cache.capacity ≠ 0) (key : Key) (v : Value) :
    (cache.put key v).WellFormed ∧ View.Stores key v cache.view (cache.put key v).view := by
  unfold put
  rw [if_neg hcap]
  split_ifs with hlru hlfu
  · have hresident := ArcLru.contain_iff.mp hlru
    obtain ⟨-, hwell, hstores⟩ := ArcLru.put_spec h.lru (h.lru_positive hcap) key v
    exact h.storeLru hwell hstores (h.separate key (.inl hresident))
  · have hresident := ArcLfu.contain_iff.mp hlfu
    have hlfu_cap : cache.lfu.capacity ≠ 0 := by
      intro hzero
      have hsize := h.lfu.residents_le
      have hmem : key ∈ cache.lfu.mainCache := of_decide_eq_true hlfu
      have hpositive := length_pos_of_mem (AList.mem_keys.mp hmem)
      unfold ArcLfu.size at hsize
      omega
    obtain ⟨-, hwell, hstores⟩ := ArcLfu.put_spec h.lfu hlfu_cap key v
    exact h.storeLfu hwell hstores fun hknows => h.separate key hknows (.inl hresident)
  · exact insert_spec h hcap (not_not.mp (mt ArcLru.contain_iff.mpr hlru))
      (not_not.mp (mt ArcLfu.contain_iff.mpr hlfu)) v

lemma get_spec (key : Key) :
    (cache.get key).1 = cache.view.value key ∧ (cache.get key).2.WellFormed ∧
      (cache.get key).2.view.value key = cache.view.value key ∧
      cache.view.Shrinks (cache.get key).2.view := by
  obtain ⟨hfound, hlru_well, hlru_view⟩ := ArcLru.get_spec h.lru key
  rcases hlru_get : cache.lru.get key with ⟨found, lru⟩
  rw [hlru_get] at hfound hlru_well hlru_view
  have hlru_shrinks : cache.lru.view.Shrinks lru.view := hlru_view ▸ .refl _
  cases found with
  | none =>
    have hnone : cache.lru.view.value key = none := hfound.symm
    obtain ⟨hres, hlfu_well, hkept, hlfu_shrinks⟩ := ArcLfu.get_spec h.lfu key
    obtain ⟨hwell, hshrinks⟩ := h.shrink hlru_well hlfu_well hlru_shrinks hlfu_shrinks
    simp only [get, hlru_get]
    refine ⟨?_, hwell, ?_, hshrinks⟩
    · simp [view, View.join, hnone, hres]
    · simp [view, View.join, hlru_view, hnone, hkept]
  | some result =>
    obtain ⟨v, shouldTransform⟩ := result
    have hvalue : cache.lru.view.value key = some v := hfound.symm
    have hshown : cache.view.value key = some v := by simp [view, View.join, hvalue]
    obtain ⟨hwell, hshrinks⟩ := h.shrink hlru_well h.lfu hlru_shrinks (.refl _)
    simp only [get, hlru_get]
    by_cases hpromoted : shouldTransform = true ∧ cache.lfu.capacity ≠ 0
    · -- the key leaves the recency partition, and the other one takes it
      obtain ⟨hstored, hlfu_well, hlfu_stores⟩ :=
        ArcLfu.put_spec h.lfu hpromoted.2 key v
      obtain ⟨herased, herase_shrinks, hgone, hghost⟩ := ArcLru.erase_spec hlru_well key
      obtain ⟨hwell', hshrinks'⟩ := h.shrink herased h.lfu
        (hlru_shrinks.trans herase_shrinks) (.refl _)
      have hunknown : ¬ (lru.erase key).2.view.Knows key := by
        rw [View.Knows, hgone, hghost]
        rintro (hne | hmem)
        · exact hne rfl
        · rw [hlru_view] at hmem
          have hresident : key ∈ cache.lru.main := by
            by_contra hout
            rw [ArcLru.view_value_eq_none.mpr hout] at hvalue
            cases hvalue
          exact h.lru.disjoint key hresident hmem
      obtain ⟨hres, hstores⟩ := hwell'.storeLfu hlfu_well hlfu_stores hunknown
      have hstores' := View.Stores.of_shrinks hshrinks' hstores
      simp only [hpromoted.1, if_true, hstored]
      exact ⟨hshown.symm, hres, hstores'.value_self.trans hshown.symm, hstores'.shrinks hshown⟩
    · have hrefused : (if shouldTransform = true then cache.lfu.put key v
          else (false, cache.lfu)) = (false, cache.lfu) := by
        split_ifs with htransform
        · exact ArcLfu.put_of_capacity_eq_zero
            (not_not.mp fun hne => hpromoted ⟨htransform, hne⟩) key v
        · rfl
      simp only [hrefused, Bool.false_eq_true, if_false]
      exact ⟨hshown.symm, hwell, by simp [view, View.join, hlru_view], hshrinks⟩

/-- `erase` takes the key out of both partitions, as a resident and as a ghost. -/
lemma erase_spec (key : Key) :
    (cache.erase key).2.WellFormed ∧ View.Forgets key cache.view (cache.erase key).2.view := by
  obtain ⟨hlru_well, hlru_forgets⟩ := ArcLru.invalidate_spec h.lru key
  obtain ⟨hlfu_well, hlfu_forgets⟩ := ArcLfu.invalidate_spec h.lfu key
  exact forgets_of_shrinks
    (h.shrink hlru_well hlfu_well hlru_forgets.toShrinks hlfu_forgets.toShrinks)
    hlru_forgets.forgotten hlfu_forgets.forgotten

/-! ## Runs -/

inductive Operation (Key Value : Type*) where
  | put (key : Key) (value : Value)
  | get (key : Key)
  | erase (key : Key)
deriving DecidableEq, Repr

def step (cache : ArcCache Key Value) : Operation Key Value → ArcCache Key Value
  | .put key value => cache.put key value
  | .get key => (cache.get key).2
  | .erase key => (cache.erase key).2

/-- What a call makes of the value of a key in a map that loses nothing. -/
def Operation.after (operation : Operation Key Value) (key : Key) (current : Option Value) :
    Option Value :=
  match operation with
  | .put other value => if other = key then some value else current
  | .get _ => current
  | .erase other => if other = key then none else current

omit h in
lemma put_of_capacity_eq_zero (hzero : cache.capacity = 0) (key : Key) (v : Value) :
    cache.put key v = cache := if_pos hzero

lemma step_wellFormed (op : Operation Key Value) :
    (cache.step op).WellFormed ∧ (cache.step op).capacity = cache.capacity := by
  cases op with
  | put key v =>
    by_cases hzero : cache.capacity = 0
    · rw [step, put_of_capacity_eq_zero hzero]
      exact ⟨h, rfl⟩
    · exact (put_spec h hzero key v).imp_right View.Stores.capacity_eq
  | get key => exact ⟨(get_spec h key).2.1, (get_spec h key).2.2.2.capacity_eq⟩
  | erase key => exact (erase_spec h key).imp_right fun hforgets => hforgets.capacity_eq

/-- A cache with capacity shows nothing that a map that loses nothing would not show. -/
lemma step_value (hcap : cache.capacity ≠ 0) (op : Operation Key Value)
    (hvalue : (cache.step op).view.value key = some v) :
    op.after key (cache.view.value key) = some v := by
  cases op with
  | put y stored =>
    have hstores := (put_spec h hcap y stored).2
    simp only [Operation.after]
    split_ifs with hkey
    · subst hkey
      exact hstores.value_self.symm.trans hvalue
    · exact hstores.value_other (Ne.symm hkey) hvalue
  | get y => exact (get_spec h y).2.2.2.value_of hvalue
  | erase y =>
    have hforgets := (erase_spec h y).2
    simp only [Operation.after]
    split_ifs with hkey
    · subst hkey
      exact absurd (View.knows_of_value hvalue) hforgets.forgotten
    · exact hforgets.value_of hvalue

omit h in
lemma run_wellFormed (cap trans : ℕ) (operations : List (Operation Key Value)) :
    (run step (new cap trans) operations).WellFormed ∧
      (run step (new cap trans) operations).capacity = cap := by
  have hstep : ∀ (cache : ArcCache Key Value) op,
      cache.WellFormed ∧ cache.capacity = cap →
        (cache.step op).WellFormed ∧ (cache.step op).capacity = cap := by
    rintro cache op ⟨hwell, hcap⟩
    exact (step_wellFormed hwell op).imp_right fun heq => heq.trans hcap
  exact run_invariant hstep ⟨new_wellFormed cap trans, rfl⟩ operations

/-- The keys of the four collections: the residents and the ghosts of the recency
partition, and those of the frequency partition. -/
def keySets (cache : ArcCache Key Value) : List (List Key) :=
  [cache.lru.main.index.keys, cache.lru.ghost.index.keys, cache.lfu.mainCache.keys,
    cache.lfu.ghost.index.keys]

/-- All lists are within their capacities. -/
structure WithinQuotas (cache : ArcCache Key Value) (cap : ℕ) : Prop where
  total : cache.lru.capacity + cache.lfu.capacity = cap
  lruCapacity_eq : cache.lruCapacity = cache.lru.capacity
  entry : 1 ≤ cap → 1 ≤ cache.lruCapacity
  lru_main : cache.lru.main.index.keys.length ≤ cache.lru.capacity
  lfu_main : cache.lfu.mainCache.keys.length ≤ cache.lfu.capacity
  residents : cache.lru.main.index.keys.length + cache.lfu.mainCache.keys.length ≤ cap
  lru_ghost : cache.lru.ghost.index.keys.length ≤ cap ∧ cache.lru.ghost.order.length ≤ cap
  lfu_ghost : cache.lfu.ghost.index.keys.length ≤ cap ∧ cache.lfu.ghost.order.length ≤ cap

lemma WellFormed.keySets_disjoint : cache.keySets.Pairwise List.Disjoint := by
  have hseparate : ∀ {key}, key ∈ cache.lru.main ∨ key ∈ cache.lru.ghost →
      key ∈ cache.lfu.mainCache ∨ key ∈ cache.lfu.ghost → False := by
    intro key hlru hlfu
    exact h.separate key (ArcLru.knows_iff.mpr hlru) (ArcLfu.knows_iff.mpr hlfu)
  simp only [keySets, pairwise_cons, mem_cons, not_mem_nil, or_false,
    forall_eq_or_imp, forall_eq, IsEmpty.forall_iff, implies_true, List.Pairwise.nil, and_true]
  refine ⟨⟨?_, ?_, ?_⟩, ⟨?_, ?_⟩, ?_⟩
  · exact fun key hmain hghost => h.lru.disjoint key hmain hghost
  · exact fun key hlru hlfu => hseparate (.inl hlru) (.inl hlfu)
  · exact fun key hlru hlfu => hseparate (.inl hlru) (.inr hlfu)
  · exact fun key hlru hlfu => hseparate (.inr hlru) (.inl hlfu)
  · exact fun key hlru hlfu => hseparate (.inr hlru) (.inr hlfu)
  · exact fun key hmain hghost => h.lfu.disjoint key hmain hghost

lemma WellFormed.withinQuotas {cap : ℕ} (hcap : cache.capacity = cap) : cache.WithinQuotas cap := by
  subst hcap
  have hlru : cache.lru.main.index.keys.length ≤ cache.lru.capacity := h.lru.residents_le
  have hlfu : cache.lfu.mainCache.keys.length ≤ cache.lfu.capacity := h.lfu.residents_le
  have htotal := h.total
  have hlru_ghosts := h.lru.ghosts_le
  have hlfu_ghosts := h.lfu.ghosts_le
  rw [h.lru_budget] at hlru_ghosts
  rw [h.lfu_budget] at hlfu_ghosts
  have hpositive := h.lru_positive
  have hcapacity := h.lruCapacity_eq
  exact
    { total := htotal
      lruCapacity_eq := hcapacity
      entry := by omega
      lru_main := hlru
      lfu_main := hlfu
      residents := by omega
      lru_ghost := ⟨hlru_ghosts, by rwa [h.lru.ghost.length_order]⟩
      lfu_ghost := ⟨hlfu_ghosts, by rwa [h.lfu.ghost.length_order]⟩ }

end

/-- After any calls no key is in two of the four collections, and the partitions keep
to quotas that add up to the capacity of the cache. -/
theorem arcCache_structure (cap trans : ℕ) (operations : List (Operation Key Value)) :
    (run step (new cap trans) operations).keySets.Pairwise List.Disjoint ∧
      (run step (new cap trans) operations).WithinQuotas cap := by
  obtain ⟨hwell, hcap⟩ := run_wellFormed cap trans operations
  exact ⟨hwell.keySets_disjoint, hwell.withinQuotas hcap⟩

end ArcCache

end Tlss.Cache
