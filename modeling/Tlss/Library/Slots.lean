import Mathlib.Algebra.BigOperators.Group.List.Basic
import Mathlib.Algebra.GroupWithZero.Nat

/-!
# Lists of slots

Several processes of one kind are a list of their states, and a step of one of them
changes or removes the element at its position. What the processes have or count
together is a sum or a concatenation over the list, and it changes by what the one
element has before and after the step.
-/

namespace Tlss.Library

open List

variable {α β : Type*} {slots : List α} {i : ℕ} {old : α}

section

variable (hold : slots[i]? = some old)
include hold

lemma slots_perm_cons : slots.Perm (old :: slots.eraseIdx i) := by
  obtain ⟨hlt, heq⟩ := List.getElem?_eq_some_iff.mp hold
  exact heq ▸ (getElem_cons_eraseIdx_perm hlt).symm

lemma slots_set_perm_cons (new : α) : (slots.set i new).Perm (new :: slots.eraseIdx i) := by
  obtain ⟨hlt, -⟩ := List.getElem?_eq_some_iff.mp hold
  exact set_perm_cons_eraseIdx hlt new

/-! ## Sums -/

lemma sum_map_eraseIdx (f : α → ℕ) :
    ((slots.eraseIdx i).map f).sum + f old = (slots.map f).sum := by
  rw [((slots_perm_cons hold).map f).sum_eq, map_cons, sum_cons, add_comm]

lemma sum_map_set (new : α) (f : α → ℕ) :
    ((slots.set i new).map f).sum + f old = (slots.map f).sum + f new := by
  rw [((slots_set_perm_cons hold new).map f).sum_eq, map_cons, sum_cons, ← sum_map_eraseIdx hold f]
  omega

omit hold in
lemma exists_of_sum_map_pos {f : α → ℕ} (hpos : 0 < (slots.map f).sum) :
    ∃ slot ∈ slots, 0 < f slot := by
  by_contra hnone
  refine Nat.lt_irrefl 0 (Nat.lt_of_lt_of_eq hpos (sum_eq_zero fun number hmem => ?_))
  obtain ⟨slot, hslot, rfl⟩ := mem_map.mp hmem
  exact Nat.eq_zero_of_not_pos fun hslotPos => hnone ⟨slot, hslot, hslotPos⟩

omit hold in
lemma sum_map_ite_eq_count [DecidableEq β] (slots : List α) (f : α → β) (b : β) :
    (slots.map fun a => if f a = b then 1 else 0).sum = (slots.map f).count b := by
  induction slots with
  | nil => rfl
  | cons a slots ih =>
    simp only [map_cons, sum_cons, count_cons, beq_iff_eq, ih, add_comm]

/-! ## Concatenations -/

section

variable [BEq β]

lemma count_flatMap_eraseIdx (f : α → List β) (b : β) :
    ((slots.eraseIdx i).flatMap f).count b + (f old).count b = (slots.flatMap f).count b := by
  rw [((slots_perm_cons hold).flatMap_right f).count_eq, flatMap_cons, count_append, add_comm]

lemma count_flatMap_slots_set (new : α) (f : α → List β) (b : β) :
    ((slots.set i new).flatMap f).count b + (f old).count b =
      (slots.flatMap f).count b + (f new).count b := by
  rw [((slots_set_perm_cons hold new).flatMap_right f).count_eq, flatMap_cons,
    count_append, ← count_flatMap_eraseIdx hold f b]
  omega

end

end

end Tlss.Library
