import Mathlib.Data.Nat.ModEq

/-!
# Ring buffers

A fixed number of slots and the place of the next write. When everything that was ever pushed
is counted, item `j` stands in slot `j % slots.length` until it is overwritten, which item
`j + slots.length` does. So once the ring is full, the place of the next write holds the
oldest item.
-/

namespace Tlss.Library

open List

structure RingBuffer (α : Type*) where
  slots : List α
  head : ℕ
deriving DecidableEq

namespace RingBuffer

variable {α : Type*} {ring : RingBuffer α} {history : List α}

def push (ring : RingBuffer α) (item : α) : RingBuffer α :=
  ⟨ring.slots.set ring.head item, (ring.head + 1) % ring.slots.length⟩

/-- The ring holds the last items of the history. -/
structure Holds (ring : RingBuffer α) (history : List α) : Prop where
  nonempty : 0 < ring.slots.length
  head : ring.head = history.length % ring.slots.length
  recent : ∀ j item, history[j]? = some item → history.length ≤ j + ring.slots.length →
    ring.slots[j % ring.slots.length]? = some item

lemma holds_nil (hnonempty : 0 < ring.slots.length) (hhead : ring.head = 0) : ring.Holds [] :=
  ⟨hnonempty, hhead.trans (Nat.zero_mod _).symm, fun _ _ h => by simp at h⟩

lemma mod_ne_mod {j n size : ℕ} (hlt : j < n) (hnear : n < j + size) : j % size ≠ n % size := by
  intro heq
  have hdvd : size ∣ n - j := (Nat.modEq_iff_dvd' hlt.le).mp heq
  have hle := Nat.le_of_dvd (by omega) hdvd
  omega

lemma Holds.push (h : ring.Holds history) (item : α) :
    (ring.push item).Holds (history ++ [item]) := by
  have hlength : (ring.push item).slots.length = ring.slots.length := length_set
  have hnonempty := h.nonempty
  refine ⟨by rwa [hlength], ?_, ?_⟩
  · rw [hlength, length_append, length_singleton, Nat.add_mod, ← h.head]
    simp [RingBuffer.push, Nat.add_mod]
  · intro j found hfound hnear
    rw [hlength] at hnear ⊢
    rw [length_append, length_singleton] at hnear
    change (ring.slots.set ring.head item)[j % ring.slots.length]? = some found
    have hbound : j % ring.slots.length < ring.slots.length := Nat.mod_lt _ h.nonempty
    rcases Nat.lt_trichotomy j history.length with hlt | rfl | hgt
    · rw [getElem?_append_left hlt] at hfound
      have hne : ring.head ≠ j % ring.slots.length := by
        rw [h.head]
        exact (mod_ne_mod hlt (by omega)).symm
      rw [getElem?_set_ne hne]
      exact h.recent j found hfound (by omega)
    · rw [getElem?_concat_length] at hfound
      rw [h.head, getElem?_set_self hbound, hfound]
    · rw [getElem?_eq_none (by simp; omega)] at hfound
      cases hfound

/-- A full ring is about to overwrite its oldest item. -/
lemma Holds.oldest (h : ring.Holds history) (hfull : ring.slots.length ≤ history.length)
    {item : α} (hitem : history[history.length - ring.slots.length]? = some item) :
    ring.slots[ring.head]? = some item := by
  rw [h.head, Nat.mod_eq_sub_mod hfull]
  exact h.recent _ item hitem (by omega)

end RingBuffer

end Tlss.Library
