import Mathlib.Data.List.Basic

/-!
# What a partition of the cache shows

`ArcCache` keeps its data in two partitions, one ordered by recency (`ArcLru`) and
one by frequency (`ArcLfu`). Each partition has residents, which have values, and
ghosts, which are the keys of entries it has evicted. All that `ArcCache` relies
on is how an operation of a partition changes these two; the relations below say it.
-/

namespace Tlss.Cache

open Option

/-- `ArcNode`, without its key and its links. -/
structure Node (Value : Type*) where
  value : Value
  accessCount : ℕ
deriving DecidableEq, Repr

namespace Node

variable {Value : Type*}

def new (value : Value) : Node Value := ⟨value, 1⟩

def setValue (value : Value) (node : Node Value) : Node Value := { node with value := value }

def incrementAccessCount (node : Node Value) : Node Value :=
  { node with accessCount := node.accessCount + 1 }

end Node

/-- The limits of a partition, its residents with their values, and its ghosts. -/
structure View (Key Value : Type*) where
  capacity : ℕ
  ghostCapacity : ℕ
  value : Key → Option Value
  ghost : Key → Prop

namespace View

variable {Key Value : Type*} {pre middle after left left' right right' : View Key Value}
  {key y : Key} {v : Value} {cap : ℕ}

def Knows (view : View Key Value) (key : Key) : Prop :=
  view.value key ≠ none ∨ view.ghost key

lemma knows_of_value (hvalue : pre.value key = some v) : pre.Knows key :=
  .inl (by simp [hvalue])

/-- Residents were evicted and ghosts dropped; the capacity may have changed. -/
structure Fades (before after : View Key Value) : Prop where
  ghostCapacity_eq : after.ghostCapacity = before.ghostCapacity
  value_of : ∀ {key value}, after.value key = some value → before.value key = some value
  knows_of : ∀ {key}, after.Knows key → before.Knows key

/-- Residents were evicted and ghosts dropped; nothing else happened. -/
structure Shrinks (before after : View Key Value) : Prop extends Fades before after where
  capacity_eq : after.capacity = before.capacity

/-- The key has the value; nothing else changed but by evictions. -/
structure Stores (key : Key) (value : Value) (before after : View Key Value) : Prop where
  capacity_eq : after.capacity = before.capacity
  ghostCapacity_eq : after.ghostCapacity = before.ghostCapacity
  value_self : after.value key = some value
  value_other : ∀ {other old}, other ≠ key → after.value other = some old →
    before.value other = some old
  knows_of : ∀ {other}, after.Knows other → other = key ∨ before.Knows other

/-- The key was taken out; nothing else changed but by evictions. -/
structure Forgets (key : Key) (before after : View Key Value) : Prop
    extends Shrinks before after where
  forgotten : ¬ after.Knows key

lemma Fades.trans (hfirst : pre.Fades middle) (hsec : middle.Fades after) : pre.Fades after where
  ghostCapacity_eq := hsec.ghostCapacity_eq.trans hfirst.ghostCapacity_eq
  value_of hvalue := hfirst.value_of (hsec.value_of hvalue)
  knows_of hknows := hfirst.knows_of (hsec.knows_of hknows)

lemma Shrinks.refl (view : View Key Value) : view.Shrinks view := ⟨⟨rfl, id, id⟩, rfl⟩

lemma Shrinks.trans (hfirst : pre.Shrinks middle) (hsec : middle.Shrinks after) :
    pre.Shrinks after :=
  ⟨hfirst.toFades.trans hsec.toFades, hsec.capacity_eq.trans hfirst.capacity_eq⟩

lemma Stores.of_shrinks (hfirst : pre.Shrinks middle)
    (hsec : Stores key v middle after) : Stores key v pre after where
  capacity_eq := hsec.capacity_eq.trans hfirst.capacity_eq
  ghostCapacity_eq := hsec.ghostCapacity_eq.trans hfirst.ghostCapacity_eq
  value_self := hsec.value_self
  value_other hne hvalue := hfirst.value_of (hsec.value_other hne hvalue)
  knows_of hknows := (hsec.knows_of hknows).imp_right hfirst.knows_of

lemma Stores.shrinks (h : Stores key v pre after)
    (hvalue : pre.value key = some v) : pre.Shrinks after where
  ghostCapacity_eq := h.ghostCapacity_eq
  capacity_eq := h.capacity_eq
  value_of {y old} hother := by
    by_cases hkey : y = key
    · subst hkey
      exact hvalue.trans (h.value_self.symm.trans hother)
    · exact h.value_other hkey hother
  knows_of hknows := by
    rcases h.knows_of hknows with rfl | hbefore
    · exact knows_of_value hvalue
    · exact hbefore

/-! ## Two partitions as one -/

def Separate (left right : View Key Value) : Prop :=
  ∀ key, left.Knows key → ¬ right.Knows key

def join (capacity : ℕ) (left right : View Key Value) : View Key Value where
  capacity := capacity
  ghostCapacity := capacity
  value key := (left.value key).or (right.value key)
  ghost key := left.ghost key ∨ right.ghost key

lemma knows_join : (join cap left right).Knows key ↔ left.Knows key ∨ right.Knows key := by
  simp only [Knows, join, ne_eq, or_eq_none_iff]
  tauto

section

variable (h : left.Separate right)
include h

lemma Separate.of_fades (hleft : left.Fades left')
    (hright : right.Fades right') : left'.Separate right' :=
  fun key hknows hknows' => h key (hleft.knows_of hknows) (hright.knows_of hknows')

lemma Separate.of_stores_left (hleft : Stores key v left left')
    (hunknown : ¬ right.Knows key) : left'.Separate right := by
  intro y hknows hright
  rcases hleft.knows_of hknows with rfl | hbefore
  · exact hunknown hright
  · exact h y hbefore hright

lemma Separate.of_stores_right (hright : Stores key v right right')
    (hunknown : ¬ left.Knows key) : left.Separate right' := by
  intro y hleft hknows
  rcases hright.knows_of hknows with rfl | hbefore
  · exact hunknown hleft
  · exact h y hleft hbefore

lemma Separate.join_value : (join cap left right).value key = some v ↔
      left.value key = some v ∨ right.value key = some v := by
  rw [join, or_eq_some_iff]
  refine or_congr_right (and_iff_right_of_imp fun hright => ?_)
  by_contra hleft
  exact h key (.inl hleft) (knows_of_value hright)

omit h in
lemma value_of_join (hvalue : (join cap left right).value key = some v) :
    left.value key = some v ∨ right.value key = some v :=
  (or_eq_some_iff.mp hvalue).imp_right And.right

lemma Separate.join_shrinks (hleft : left.Fades left') (hright : right.Fades right') :
    (join cap left right).Shrinks (join cap left' right') where
  capacity_eq := rfl
  ghostCapacity_eq := rfl
  value_of hvalue := h.join_value.mpr ((value_of_join hvalue).imp hleft.value_of hright.value_of)
  knows_of hknows := by
    rw [knows_join] at hknows ⊢
    exact hknows.imp hleft.knows_of hright.knows_of

lemma Separate.join_stores_left (hleft : Stores key v left left') :
    Stores key v (join cap left right) (join cap left' right) where
  capacity_eq := rfl
  ghostCapacity_eq := rfl
  value_self := by simp [join, hleft.value_self]
  value_other hne hvalue :=
    h.join_value.mpr ((value_of_join hvalue).imp_left (hleft.value_other hne))
  knows_of hknows := by
    rw [knows_join] at hknows ⊢
    exact hknows.elim (fun hl => (hleft.knows_of hl).imp_right .inl) fun hr => .inr (.inr hr)

lemma Separate.join_stores_right
    (hright : Stores key v right right') (hunknown : ¬ left.Knows key) :
    Stores key v (join cap left right) (join cap left right') where
  capacity_eq := rfl
  ghostCapacity_eq := rfl
  value_self := by
    have hnone : left.value key = none := by
      by_contra hsome
      exact hunknown (.inl hsome)
    simp [join, hnone, hright.value_self]
  value_other hne hvalue :=
    h.join_value.mpr ((value_of_join hvalue).imp_right (hright.value_other hne))
  knows_of hknows := by
    rw [knows_join] at hknows ⊢
    exact hknows.elim (fun hl => .inr (.inl hl)) fun hr => (hright.knows_of hr).imp_right .inr

end

end View

end Tlss.Cache
