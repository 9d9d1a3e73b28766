import Mathlib.Data.List.Basic
import Mathlib.Data.List.Find

/-!
# A part of a list under other names

Someone who owns some items of a list, and knows them by other names, sees
`(list.filter keep).map shape`. A search for owned items finds the same in the list and in
the view, if the test on the view agrees with the one on the list.

A search that has found something still finds it when an item is added behind.
-/

namespace Tlss.Library

open List

variable {α β γ : Type*} {list : List α} {keep : α → Bool} {shape : α → β}

section Tests

variable {test : α → Bool} {seen : β → Bool} (hkeep : ∀ item ∈ list, test item → keep item)
  (hseen : ∀ item ∈ list, keep item → seen (shape item) = test item)
include hkeep hseen

lemma filter_view : ((list.filter keep).map shape).filter seen = (list.filter test).map shape := by
  rw [filter_map, filter_filter]
  refine congrArg _ (filter_congr fun item hitem => ?_)
  rw [Bool.eq_iff_iff, Bool.and_eq_true]
  constructor
  · rintro ⟨htest, hkept⟩
    exact (hseen item hitem hkept).symm.trans htest
  · intro htest
    have hkept := hkeep item hitem htest
    exact ⟨(hseen item hitem hkept).trans htest, hkept⟩

lemma find?_view : ((list.filter keep).map shape).find? seen = (list.find? test).map shape := by
  rw [← head?_filter, filter_view hkeep hseen, head?_map, head?_filter]

lemma any_view : ((list.filter keep).map shape).any seen = list.any test := by
  rw [← isSome_find?, find?_view hkeep hseen, Option.isSome_map, isSome_find?]

end Tests

lemma findSome?_view {find : α → Option γ} {seen : β → Option γ}
    (hkeep : ∀ item ∈ list, keep item = false → find item = none)
    (hseen : ∀ item ∈ list, keep item → seen (shape item) = find item) :
    ((list.filter keep).map shape).findSome? seen = list.findSome? find := by
  rw [← head?_filterMap, ← head?_filterMap, filterMap_map, filterMap_filter]
  refine congrArg _ (filterMap_congr fun item hitem => ?_)
  cases hkept : keep item with
  | true => exact hseen item hitem hkept
  | false => exact (hkeep item hitem hkept).symm

/-! ## Items added behind -/

lemma find?_append_of_some {test test' : α → Bool} {found last : α}
    (hfind : list.find? test = some found) (hsame : ∀ item ∈ list, test' item = test item) :
    (list ++ [last]).find? test' = some found := by
  rw [find?_append, find?_congr hsame, hfind]
  rfl

lemma findSome?_append_of_some {find find' : α → Option β} {found : β} {last : α}
    (hfind : list.findSome? find = some found) (hsame : ∀ item ∈ list, find' item = find item) :
    (list ++ [last]).findSome? find' = some found := by
  rw [findSome?_append, ← head?_filterMap, filterMap_congr hsame, head?_filterMap, hfind]
  rfl

end Tlss.Library
