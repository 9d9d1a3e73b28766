import Mathlib.Data.List.AList

/-!
# Maps whose entries stand in a linked list

A hash map whose nodes are linked in a list, so that an entry is found by its key
and the oldest and newest entries by the ends of the list. The map (`index`) and
the list (`order`) are changed by separate statements; `Consistent` says that they
hold the same keys, and every operation keeps it.
-/

namespace Tlss.Library

open List AList

/-- The entries by key, and the keys in the order of the list. -/
structure LinkedMap (α β : Type*) where
  index : AList fun _ : α => β
  order : List α

namespace LinkedMap

variable {α β : Type*} [DecidableEq α] {map : LinkedMap α β} {key y : α}

def empty : LinkedMap α β := ⟨∅, []⟩

def size (map : LinkedMap α β) : ℕ := map.index.keys.length

def find (map : LinkedMap α β) (key : α) : Option β := map.index.lookup key

instance : Membership α (LinkedMap α β) := ⟨fun map key => key ∈ map.index⟩

instance (key : α) (map : LinkedMap α β) : Decidable (key ∈ map) :=
  inferInstanceAs (Decidable (key ∈ map.index))

def modify (map : LinkedMap α β) (key : α) (change : β → β) : LinkedMap α β :=
  match map.find key with
  | none => map
  | some entry => { map with index := map.index.insert key (change entry) }

/-- Take the node out of the list and put it back in front. -/
def moveToFront (map : LinkedMap α β) (key : α) : LinkedMap α β :=
  { map with order := if key ∈ map.order then key :: map.order.erase key else map.order }

inductive End where
  | front
  | back
deriving DecidableEq, Repr

variable (side : End)

def push (map : LinkedMap α β) (key : α) (entry : β) : LinkedMap α β :=
  match side with
  | .front => ⟨map.index.insert key entry, key :: map.order⟩
  | .back => ⟨map.index.insert key entry, map.order ++ [key]⟩

def oldest? (map : LinkedMap α β) : Option α :=
  match side with
  | .front => map.order.getLast?
  | .back => map.order.head?

def remove (map : LinkedMap α β) (key : α) : LinkedMap α β :=
  ⟨map.index.erase key, map.order.erase key⟩

def removeOldest (map : LinkedMap α β) : LinkedMap α β :=
  match map.oldest? side with
  | none => map
  | some key => map.remove key

/-! ## What is found after an operation -/

omit [DecidableEq α] in
lemma mem_def : key ∈ map ↔ key ∈ map.index := Iff.rfl

lemma mem_iff_find : key ∈ map ↔ ∃ e, map.find key = some e := by
  rw [mem_def, ← lookup_isSome, Option.isSome_iff_exists]
  rfl

lemma find_eq_none : map.find key = none ↔ key ∉ map := AList.lookup_eq_none

omit [DecidableEq α] in
@[simp] lemma notMem_empty : key ∉ (empty : LinkedMap α β) := AList.notMem_empty key

lemma find_modify (change : β → β) : (map.modify key change).find y =
      if y = key then (map.find key).map change else map.find y := by
  unfold modify
  cases hfind : map.find key with
  | none =>
    split_ifs with hkey
    · simp [hfind, hkey]
    · rfl
  | some e =>
    split_ifs with hkey
    · subst hkey
      exact lookup_insert _
    · exact lookup_insert_ne hkey

@[simp] lemma mem_modify (change : β → β) : y ∈ map.modify key change ↔ y ∈ map := by
  rw [← not_iff_not, ← find_eq_none, ← find_eq_none, find_modify]
  split_ifs with hkey <;> simp [hkey]

@[simp] lemma find_moveToFront : (map.moveToFront key).find y = map.find y := rfl

@[simp] lemma mem_moveToFront : y ∈ map.moveToFront key ↔ y ∈ map := Iff.rfl

lemma index_push (e : β) : (map.push side key e).index = map.index.insert key e := by
  cases side <;> rfl

lemma find_push (e : β) :
    (map.push side key e).find y = if y = key then some e else map.find y := by
  rw [find, index_push]
  split_ifs with hkey
  · subst hkey
    exact lookup_insert _
  · exact lookup_insert_ne hkey

@[simp] lemma mem_push (e : β) : y ∈ map.push side key e ↔ y = key ∨ y ∈ map := by
  rw [mem_def, index_push]
  exact mem_insert _

lemma find_remove : (map.remove key).find y = if y = key then none else map.find y := by
  split_ifs with hkey
  · subst hkey
    exact lookup_erase _ _
  · exact lookup_erase_ne hkey

@[simp] lemma mem_remove : y ∈ map.remove key ↔ y ≠ key ∧ y ∈ map := AList.mem_erase

/-! ## Sizes -/

@[simp] lemma size_modify (change : β → β) : (map.modify key change).size = map.size := by
  unfold modify
  cases hfind : map.find key with
  | none => rfl
  | some e =>
    have hmem : key ∈ map.index.keys := mem_iff_find.mpr ⟨e, hfind⟩
    have hpositive := length_pos_of_mem hmem
    simp only [size, keys_insert, length_cons, length_erase_of_mem hmem]
    omega

@[simp] lemma size_moveToFront : (map.moveToFront key).size = map.size := rfl

lemma size_push (hnew : key ∉ map) (e : β) : (map.push side key e).size = map.size + 1 := by
  simp [size, index_push, keys_insert, erase_of_not_mem hnew]

lemma size_remove (hmem : key ∈ map) : (map.remove key).size + 1 = map.size := by
  have hpositive := length_pos_of_mem (show key ∈ map.index.keys from hmem)
  simp only [size, remove, keys_erase, length_erase_of_mem (show key ∈ map.index.keys from hmem)]
  omega

lemma size_remove_le : (map.remove key).size ≤ map.size := by
  simpa only [size, remove, keys_erase] using length_erase_le

/-! ## The map and the list hold the same keys -/

/-- The order lists the keys, each once. -/
structure Consistent (map : LinkedMap α β) : Prop where
  nodup : map.order.Nodup
  mem_order : ∀ key, key ∈ map.order ↔ key ∈ map

section

variable (h : map.Consistent)
include h

namespace Consistent

omit [DecidableEq α] in
omit h in
lemma empty : (empty : LinkedMap α β).Consistent :=
  ⟨nodup_nil, fun key => by simp [LinkedMap.empty, mem_def]⟩

lemma modify (key : α) (change : β → β) : (map.modify key change).Consistent := by
  have horder : (map.modify key change).order = map.order := by
    unfold LinkedMap.modify
    split <;> rfl
  exact ⟨horder ▸ h.nodup, fun y => by rw [horder, h.mem_order, mem_modify]⟩

lemma moveToFront (key : α) : (map.moveToFront key).Consistent := by
  have hperm : (map.moveToFront key).order.Perm map.order := by
    simp only [LinkedMap.moveToFront]
    split_ifs with hmem
    · exact (perm_cons_erase hmem).symm
    · exact .refl _
  exact ⟨hperm.nodup_iff.mpr h.nodup, fun y => by
    rw [hperm.mem_iff, h.mem_order, mem_moveToFront]⟩

lemma push (hnew : key ∉ map) (e : β) : (map.push side key e).Consistent := by
  have hperm : (map.push side key e).order.Perm (key :: map.order) := by
    cases side with
    | front => exact .refl _
    | back => exact perm_append_singleton key map.order
  refine ⟨hperm.nodup_iff.mpr (nodup_cons.mpr ⟨?_, h.nodup⟩), fun y => ?_⟩
  · exact fun hmem => hnew ((h.mem_order key).mp hmem)
  · rw [hperm.mem_iff, mem_cons, h.mem_order, mem_push]

lemma remove (key : α) : (map.remove key).Consistent where
  nodup := h.nodup.erase key
  mem_order y := by
    rw [mem_remove, ← h.mem_order y]
    exact h.nodup.mem_erase_iff

lemma remove_of_notMem (hnew : key ∉ map) : map.remove key = map := by
  have horder : key ∉ map.order := fun hmem => hnew ((h.mem_order key).mp hmem)
  have hindex : map.index.erase key = map.index := ext (kerase_of_notMem_keys hnew)
  rw [LinkedMap.remove, hindex, erase_of_not_mem horder]

omit [DecidableEq α] in
lemma length_order : map.order.length = map.size :=
  ((perm_ext_iff_of_nodup h.nodup map.index.keys_nodup).mpr h.mem_order).length_eq

omit [DecidableEq α] in
lemma oldest?_eq_none {side : End} (hnone : map.oldest? side = none) : map.size = 0 := by
  have horder : map.order = [] := by
    cases side with
    | front => exact getLast?_eq_none_iff.mp hnone
    | back => exact head?_eq_none_iff.mp hnone
  rw [← h.length_order, horder]
  rfl

omit [DecidableEq α] in
lemma mem_of_oldest? {side : End} (holdest : map.oldest? side = some key) : key ∈ map := by
  rw [← h.mem_order key]
  cases side with
  | front => exact mem_of_getLast? holdest
  | back => exact mem_of_mem_head? holdest

lemma removeOldest :
    (map.removeOldest side).Consistent ∧ (map.removeOldest side).size = map.size - 1 ∧
      ∀ y ∈ map.removeOldest side, y ∈ map := by
  unfold LinkedMap.removeOldest
  cases holdest : map.oldest? side with
  | none => exact ⟨h, by simp [h.oldest?_eq_none holdest], fun _ hmem => hmem⟩
  | some key =>
    have hsize := size_remove (h.mem_of_oldest? holdest)
    exact ⟨h.remove key, by dsimp only; omega, fun y hmem => (mem_remove.mp hmem).2⟩

end Consistent

/-! ## Histories of bounded length -/

/-- Make room for one more key in a history of at most `limit` keys. -/
def makeRoom (limit : ℕ) (map : LinkedMap α β) : LinkedMap α β :=
  if map.size ≥ limit then map.removeOldest side else map

/-- `after` is the history `before` with a new key, within the limit. -/
structure Records (limit : ℕ) (key : α) (before after : LinkedMap α β) : Prop where
  consistent : after.Consistent
  size_le : after.size ≤ limit
  mem_of : ∀ other ∈ after, other = key ∨ other ∈ before

lemma Consistent.makeRoom {limit : ℕ} (hle : map.size ≤ limit) :
    (map.makeRoom side limit).Consistent ∧ (map.makeRoom side limit).size ≤ limit - 1 ∧
      ∀ y ∈ map.makeRoom side limit, y ∈ map := by
  unfold LinkedMap.makeRoom
  split_ifs with hfull
  · obtain ⟨hconsistent, hsize, hmem⟩ := h.removeOldest side
    exact ⟨hconsistent, by omega, hmem⟩
  · exact ⟨h, by omega, fun _ hmem => hmem⟩

lemma Consistent.records {limit : ℕ} (hle : map.size ≤ limit) (hnew : key ∉ map) (e : β) :
    Records limit key map (if limit = 0 then map.makeRoom side limit
        else (map.makeRoom side limit).push side key e) := by
  obtain ⟨hconsistent, hsize, hmem⟩ := h.makeRoom side hle
  have hnew' : key ∉ map.makeRoom side limit := fun hin => hnew (hmem key hin)
  split_ifs with hzero
  · exact ⟨hconsistent, by omega, fun y hin => .inr (hmem y hin)⟩
  · refine ⟨hconsistent.push side hnew' e, ?_, fun y hin => ?_⟩
    · rw [size_push side hnew']
      omega
    · exact ((mem_push side e).mp hin).imp_right (hmem y)

end

end LinkedMap

end Tlss.Library
