import Mathlib.Data.List.Induction

/-!
# Writes under keys

A list of writes is applied in turn to a state; each write has a key, and changes
what is seen under that key alone. Then what is seen under a key at the end is
the last write to it, `lastWrite`. If the writes come in the order of some
relation, the last write is the greatest in it.
-/

namespace Tlss.Library

open List

variable {σ α κ β : Type*} [DecidableEq κ] {key : α → κ} {k : κ} {writes : List α} {last : α}

def lastWrite (key : α → κ) (k : κ) (writes : List α) : Option α :=
  (writes.filter fun write => key write = k).getLast?

@[simp] lemma lastWrite_nil : lastWrite key k [] = none := rfl

lemma lastWrite_append_singleton (writes : List α) (write : α) :
    lastWrite key k (writes ++ [write]) =
      if key write = k then some write else lastWrite key k writes := by
  unfold lastWrite
  split_ifs with hkey <;> simp [hkey]

lemma lastWrite_eq_none_iff : lastWrite key k writes = none ↔ ∀ write ∈ writes, key write ≠ k := by
  simp [lastWrite]

lemma mem_of_lastWrite (hlast : lastWrite key k writes = some last) :
    last ∈ writes ∧ key last = k := by
  simpa using mem_of_getLast? hlast

lemma related_lastWrite {r : α → α → Prop}
    (hsorted : writes.Pairwise r) (hlast : lastWrite key k writes = some last) :
    ∀ write ∈ writes, key write = k → write = last ∨ r write last := by
  intro write hmem hkey
  obtain ⟨earlier, hsplit⟩ := getLast?_eq_some_iff.mp hlast
  have hfiltered : write ∈ earlier ++ [last] := hsplit ▸ mem_filter.mpr ⟨hmem, by simpa⟩
  have hpairs : (earlier ++ [last]).Pairwise r := hsplit ▸ hsorted.filter _
  rcases mem_append.mp hfiltered with hearlier | hsame
  · exact .inr ((pairwise_append.mp hpairs).2.2 write hearlier last (by simp))
  · exact .inl (mem_singleton.mp hsame)

lemma view_foldl {apply : σ → α → σ} {view : σ → κ → Option β} {value : α → β}
    (hself : ∀ state write, view (apply state write) (key write) = some (value write))
    (hother : ∀ state write k, k ≠ key write → view (apply state write) k = view state k)
    (start : σ) (writes : List α) :
    view (writes.foldl apply start) k = ((lastWrite key k writes).map value).or (view start k) := by
  induction writes using reverseRecOn with
  | nil => simp
  | append_singleton writes write ih =>
    rw [foldl_append, lastWrite_append_singleton]
    simp only [foldl_cons, foldl_nil]
    split_ifs with hkey
    · rw [← hkey, hself]
      rfl
    · rw [hother _ _ _ (Ne.symm hkey), ih]

end Tlss.Library
