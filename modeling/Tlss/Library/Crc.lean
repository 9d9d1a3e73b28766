import Mathlib.Tactic.Ring

/-!
# Cyclic redundancy checks

The reflected form of a cyclic redundancy check: a register of `w` bits takes in blocks
of `k` bits, each by an exclusive or into its low end and `k` shifts. A shift is linear
(`shift_xor`), and if the polynomial has its highest coefficient it loses nothing
(`shift_injective`).

Blocks that fit into the register together are taken in as one word,
`update_eq_iterate`: shifting a block that has not reached the low end yet only moves
it down. So two messages that differ in a window of at most `w` bits leave different
registers behind the window, and what follows keeps them different
(`update_burst_injective`).
-/

namespace Tlss.Library.Crc

open List Function

variable {w k : ℕ} {poly register : BitVec w}

def shift (poly register : BitVec w) : BitVec w :=
  if register.getLsbD 0 then register >>> 1 ^^^ poly else register >>> 1

def absorb (poly : BitVec w) (k : ℕ) (register block : BitVec w) : BitVec w :=
  (shift poly)^[k] (register ^^^ block)

def update (poly : BitVec w) (k : ℕ) (register : BitVec w) (blocks : List (BitVec w)) : BitVec w :=
  blocks.foldl (absorb poly k) register

lemma update_append (k : ℕ) (register : BitVec w) (left right : List (BitVec w)) :
    update poly k register (left ++ right) = update poly k (update poly k register left) right :=
  foldl_append

/-! ## Linearity -/

lemma shift_xor (left right : BitVec w) :
    shift poly (left ^^^ right) = shift poly left ^^^ shift poly right := by
  unfold shift
  simp only [BitVec.getLsbD_xor, BitVec.ushiftRight_xor_distrib]
  cases left.getLsbD 0 <;> cases right.getLsbD 0
  · rfl
  · exact BitVec.xor_assoc _ _ _
  · simp only [Bool.xor_false, if_true, Bool.false_eq_true, if_false]
    rw [BitVec.xor_assoc, BitVec.xor_assoc, BitVec.xor_comm poly]
  · -- both low bits are set: the polynomial cancels
    simp only [bne_self_eq_false, Bool.false_eq_true, if_false, if_true]
    rw [BitVec.xor_assoc, BitVec.xor_comm (right >>> 1), ← BitVec.xor_assoc poly,
      BitVec.xor_self, BitVec.zero_xor]

lemma iterate_shift_xor (k : ℕ) (left right : BitVec w) :
    (shift poly)^[k] (left ^^^ right) = (shift poly)^[k] left ^^^ (shift poly)^[k] right := by
  induction k generalizing left right with
  | zero => rfl
  | succ k ih => rw [iterate_succ_apply, shift_xor, ih]; rfl

lemma eq_of_xor_eq_zero {left right : BitVec w} (hzero : left ^^^ right = 0#w) : left = right := by
  calc left = left ^^^ right ^^^ right := by rw [BitVec.xor_assoc, BitVec.xor_self, BitVec.xor_zero]
    _ = right := by rw [hzero, BitVec.zero_xor]

/-! ## Injectivity -/

lemma eq_zero_of_shift (hpoly : poly.msb)
    (hshift : shift poly register = 0#w) : register = 0#w := by
  unfold shift at hshift
  cases hlow : register.getLsbD 0 with
  | true =>
    -- the highest coefficient of the polynomial stays
    rw [hlow, if_pos rfl] at hshift
    have htop := congrArg BitVec.msb hshift
    rw [BitVec.msb_xor, hpoly] at htop
    simp [BitVec.msb_ushiftRight] at htop
  | false =>
    rw [hlow, if_neg Bool.false_ne_true] at hshift
    apply BitVec.eq_of_getLsbD_eq
    intro i hi
    cases i with
    | zero => simpa using hlow
    | succ i =>
      have hbit := congrArg (fun bits => bits.getLsbD i) hshift
      simpa [BitVec.getLsbD_ushiftRight, add_comm 1 i] using hbit

lemma shift_injective (hpoly : poly.msb) : Function.Injective (shift poly) := by
  intro left right heq
  apply eq_of_xor_eq_zero
  apply eq_zero_of_shift hpoly
  rw [shift_xor, heq, BitVec.xor_self]

lemma absorb_injective (hpoly : poly.msb) (k : ℕ) (block : BitVec w) :
    Function.Injective fun register => absorb poly k register block := by
  intro left right heq
  have hxor : left ^^^ block = right ^^^ block := (shift_injective hpoly).iterate k heq
  exact (BitVec.xor_left_inj block).mp hxor

lemma update_injective (hpoly : poly.msb) (k : ℕ) (blocks : List (BitVec w)) :
    Function.Injective fun register => update poly k register blocks := by
  induction blocks with
  | nil => exact injective_id
  | cons block blocks ih => exact ih.comp (absorb_injective hpoly k block)

/-! ## Several blocks as one word -/

/-- The word that blocks of `k` bits form, the first one at the low end. -/
def word (k : ℕ) : List (BitVec w) → BitVec w
  | [] => 0#w
  | block :: blocks => block ^^^ word k blocks <<< k

lemma iterate_shift_shiftLeft {bits : BitVec w} (hfits : bits.toNat * 2 ^ k < 2 ^ w) :
    (shift poly)^[k] (bits <<< k) = bits := by
  induction k with
  | zero => simp
  | succ k ih =>
    have hsmall : bits.toNat * 2 ^ k < 2 ^ w := by
      refine lt_of_le_of_lt ?_ hfits
      exact Nat.mul_le_mul_left _ (Nat.pow_le_pow_right (by omega) (Nat.le_succ k))
    have hone : shift poly (bits <<< (k + 1)) = bits <<< k := by
      have hlow : (bits <<< (k + 1)).getLsbD 0 = false := by simp
      rw [shift, hlow, if_neg Bool.false_ne_true]
      apply BitVec.eq_of_toNat_eq
      rw [BitVec.toNat_ushiftRight, BitVec.toNat_shiftLeft, BitVec.toNat_shiftLeft,
        Nat.shiftLeft_eq, Nat.shiftLeft_eq, Nat.mod_eq_of_lt hfits, Nat.mod_eq_of_lt hsmall,
        Nat.shiftRight_eq_div_pow, pow_succ, ← Nat.mul_assoc, pow_one,
        Nat.mul_div_cancel _ two_pos]
    rw [iterate_succ_apply, hone, ih hsmall]

section

variable {k : ℕ} {blocks : List (BitVec w)}

lemma toNat_xor_shiftLeft {block rest : BitVec w} (hblock : block.toNat < 2 ^ k)
    (hrest : rest.toNat * 2 ^ k < 2 ^ w) :
    (block ^^^ rest <<< k).toNat = rest.toNat * 2 ^ k + block.toNat := by
  rw [BitVec.toNat_xor, BitVec.toNat_shiftLeft, Nat.shiftLeft_eq, Nat.mod_eq_of_lt hrest,
    Nat.xor_comm]
  apply Nat.eq_of_testBit_eq
  intro i
  rw [mul_comm, Nat.testBit_xor, Nat.testBit_two_pow_mul_add _ hblock, Nat.testBit_two_pow_mul]
  by_cases hi : i < k
  · simp [hi, not_le.mpr hi]
  · have hhigh : block.toNat.testBit i = false :=
      Nat.testBit_lt_two_pow (lt_of_lt_of_le hblock (Nat.pow_le_pow_right (by omega) (by omega)))
    simp [hi, hhigh, not_lt.mp hi]

lemma toNat_word_lt (hblocks : ∀ block ∈ blocks, block.toNat < 2 ^ k)
    (hfits : k * blocks.length ≤ w) : (word k blocks).toNat < 2 ^ (k * blocks.length) := by
  induction blocks with
  | nil => simp [word]
  | cons block blocks ih =>
    rw [length_cons, Nat.mul_succ] at hfits ⊢
    rw [forall_mem_cons] at hblocks
    have hrest := ih hblocks.2 (by omega)
    have hscaled : (word k blocks).toNat * 2 ^ k + 2 ^ k ≤ 2 ^ (k * blocks.length + k) := by
      rw [pow_add, ← Nat.succ_mul]
      exact Nat.mul_le_mul_right _ hrest
    have hpow : 2 ^ (k * blocks.length + k) ≤ 2 ^ w := Nat.pow_le_pow_right (by omega) hfits
    rw [word, toNat_xor_shiftLeft hblocks.1 (by omega)]
    omega

lemma toNat_word_mul_lt {block : BitVec w} (hblocks : ∀ block ∈ blocks, block.toNat < 2 ^ k)
    (hfits : k * (block :: blocks).length ≤ w) : (word k blocks).toNat * 2 ^ k < 2 ^ w := by
  rw [length_cons, Nat.mul_succ] at hfits
  calc (word k blocks).toNat * 2 ^ k
      < 2 ^ (k * blocks.length) * 2 ^ k :=
        Nat.mul_lt_mul_of_pos_right (toNat_word_lt hblocks (by omega)) (Nat.two_pow_pos k)
    _ = 2 ^ (k * blocks.length + k) := (pow_add _ _ _).symm
    _ ≤ 2 ^ w := Nat.pow_le_pow_right (by omega) hfits

lemma update_eq_iterate (hblocks : ∀ block ∈ blocks, block.toNat < 2 ^ k)
    (hfits : k * blocks.length ≤ w) (register : BitVec w) : update poly k register blocks =
      (shift poly)^[k * blocks.length] (register ^^^ word k blocks) := by
  induction blocks generalizing register with
  | nil => simp [update, word]
  | cons block blocks ih =>
    have hroom := toNat_word_mul_lt (forall_mem_cons.mp hblocks).2 hfits
    rw [forall_mem_cons] at hblocks
    rw [length_cons, Nat.mul_succ] at hfits ⊢
    calc update poly k register (block :: blocks)
        = (shift poly)^[k * blocks.length] (absorb poly k register block ^^^ word k blocks) :=
          ih hblocks.2 (by omega) _
      _ = (shift poly)^[k * blocks.length]
            ((shift poly)^[k] (register ^^^ word k (block :: blocks))) := by
          rw [word, ← BitVec.xor_assoc, iterate_shift_xor k, iterate_shift_shiftLeft hroom]
          rfl
      _ = (shift poly)^[k * blocks.length + k] (register ^^^ word k (block :: blocks)) :=
          (iterate_add_apply _ _ _ _).symm

lemma word_injective {others : List (BitVec w)} (hlen : blocks.length = others.length)
    (hblocks : ∀ block ∈ blocks, block.toNat < 2 ^ k)
    (hothers : ∀ block ∈ others, block.toNat < 2 ^ k) (hfits : k * blocks.length ≤ w)
    (heq : word k blocks = word k others) : blocks = others := by
  induction blocks generalizing others with
  | nil => exact (length_eq_zero_iff.mp hlen.symm).symm
  | cons block blocks ih =>
    cases others with
    | nil => simp at hlen
    | cons y others =>
      have hroom := toNat_word_mul_lt (forall_mem_cons.mp hblocks).2 hfits
      have hroom' := toNat_word_mul_lt (forall_mem_cons.mp hothers).2 (hlen ▸ hfits)
      rw [forall_mem_cons] at hblocks hothers
      rw [length_cons, length_cons, Nat.add_right_cancel_iff] at hlen
      rw [length_cons, Nat.mul_succ] at hfits
      have hnat := congrArg BitVec.toNat heq
      rw [word, word, toNat_xor_shiftLeft hblocks.1 hroom,
        toNat_xor_shiftLeft hothers.1 hroom'] at hnat
      have hhead : block.toNat = y.toNat := by
        have hmod := congrArg (· % 2 ^ k) hnat
        simpa [Nat.mul_add_mod_self_right, Nat.mod_eq_of_lt hblocks.1,
          Nat.mod_eq_of_lt hothers.1] using hmod
      have htail : (word k blocks).toNat = (word k others).toNat := by
        rw [hhead, Nat.add_right_cancel_iff] at hnat
        exact Nat.eq_of_mul_eq_mul_right (Nat.two_pow_pos k) hnat
      rw [BitVec.eq_of_toNat_eq hhead,
        ih hlen hblocks.2 hothers.2 (by omega) (BitVec.eq_of_toNat_eq htail)]

end

/-! ## Bursts -/

/-- Two messages that differ only in a window no longer than the register are told
apart, whatever stands before and behind the window. -/
lemma update_burst_injective (hpoly : poly.msb)
    {front window y back : List (BitVec w)} (hlen : window.length = y.length)
    (hwindow : ∀ block ∈ window, block.toNat < 2 ^ k)
    (hother : ∀ block ∈ y, block.toNat < 2 ^ k) (hfits : k * window.length ≤ w)
    (heq : update poly k register (front ++ (window ++ back)) =
      update poly k register (front ++ (y ++ back))) : window = y := by
  simp only [update_append] at heq
  have hbehind := update_injective hpoly k back heq
  rw [update_eq_iterate hwindow hfits, update_eq_iterate hother (hlen ▸ hfits), hlen] at hbehind
  have hxor := (shift_injective hpoly).iterate _ hbehind
  exact word_injective hlen hwindow hother hfits ((BitVec.xor_right_inj _).mp hxor)

end Tlss.Library.Crc
