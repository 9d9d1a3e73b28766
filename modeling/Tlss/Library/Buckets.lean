import Mathlib.Data.List.AList

/-!
# Buckets in order

An ordered map from a number to a list of keys, as it is used to group keys by a
number they carry. A bucket that becomes empty is taken out of the map, so the
first index of the map is the least one that a key carries.
-/

namespace Tlss.Library

open AList

structure Buckets (α : Type*) where
  map : AList fun _ : ℕ => List α

namespace Buckets

variable {α : Type*} [DecidableEq α] {buckets : Buckets α} {i j : ℕ} {key : α}

def empty : Buckets α := ⟨∅⟩

def bucket (buckets : Buckets α) (index : ℕ) : List α := (buckets.map.lookup index).getD []

/-- `map[index]`, which makes an empty bucket if there is none. -/
def touch (buckets : Buckets α) (index : ℕ) : Buckets α :=
  ⟨buckets.map.insert index (buckets.bucket index)⟩

def append (buckets : Buckets α) (index : ℕ) (key : α) : Buckets α :=
  ⟨buckets.map.insert index (buckets.bucket index ++ [key])⟩

def remove (buckets : Buckets α) (index : ℕ) (key : α) : Buckets α :=
  let rest := (buckets.bucket index).erase key
  if rest = [] then ⟨buckets.map.erase index⟩ else ⟨buckets.map.insert index rest⟩

def first? (buckets : Buckets α) : Option ℕ := buckets.map.keys.min?

def Compact (buckets : Buckets α) : Prop :=
  ∀ index, index ∈ buckets.map ↔ buckets.bucket index ≠ []

omit [DecidableEq α] in
@[simp] lemma bucket_empty : (empty : Buckets α).bucket i = [] := rfl

omit [DecidableEq α] in
lemma bucket_append : (buckets.append i key).bucket j =
      if j = i then buckets.bucket i ++ [key] else buckets.bucket j := by
  unfold append
  split_ifs with hi
  · subst hi
    simp [bucket]
  · simp [bucket, lookup_insert_ne hi]

lemma bucket_remove : (buckets.remove i key).bucket j =
      if j = i then (buckets.bucket i).erase key else buckets.bucket j := by
  unfold remove
  dsimp only
  split_ifs with hrest hi hi
  · subst hi
    simp [bucket] at hrest ⊢
    exact hrest
  · simp [bucket, lookup_erase_ne hi]
  · subst hi
    simp [bucket]
  · simp [bucket, lookup_insert_ne hi]

omit [DecidableEq α] in
lemma compact_empty : (empty : Buckets α).Compact := fun i =>
  ⟨fun hmem => absurd hmem (AList.notMem_empty i), fun hne => absurd rfl hne⟩

omit [DecidableEq α] in
lemma Compact.append (h : buckets.Compact) (i : ℕ) (key : α) : (buckets.append i key).Compact := by
  intro j
  rw [bucket_append]
  split_ifs with hi
  · simp [Buckets.append, hi]
  · simp [Buckets.append, hi, h j]

lemma Compact.remove (h : buckets.Compact) (i : ℕ) (key : α) : (buckets.remove i key).Compact := by
  intro j
  rw [bucket_remove]
  unfold Buckets.remove
  dsimp only
  split_ifs with hrest hi hi
  · simp [hi, hrest]
  · simp [hi, h j]
  · simp [hi, hrest]
  · simp [hi, h j]

omit [DecidableEq α] in
lemma Compact.first? (h : buckets.Compact) (hfirst : buckets.first? = some i) :
    buckets.bucket i ≠ [] ∧ ∀ j, buckets.bucket j ≠ [] → i ≤ j := by
  obtain ⟨hmem, hle⟩ := List.min?_eq_some_iff.mp hfirst
  exact ⟨(h i).mp hmem, fun j hne => hle j ((h j).mpr hne)⟩

omit [DecidableEq α] in
lemma Compact.first?_eq_none (h : buckets.Compact) (hfirst : buckets.first? = none)
    (i : ℕ) : buckets.bucket i = [] := by
  by_contra hne
  have hmem : i ∈ buckets.map.keys := (h i).mpr hne
  rw [List.min?_eq_none_iff.mp hfirst] at hmem
  cases hmem

end Buckets

end Tlss.Library
