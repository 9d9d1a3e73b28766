import Mathlib.Data.Nat.Bitwise
import Mathlib.Tactic.Ring

/-!
# Big-endian integers in byte strings

`putBE n value` writes the low `n` bytes of `value`, most significant first:
byte `i` is `value >> 8 * (n - 1 - i)`, truncated to eight bits. `getBE` reads
a byte string back by shifting an accumulator eight bits at a time. The two are
inverse to each other on values that fit, `getBE_putBE` and `putBE_getBE`.
-/

namespace Tlss.Library

open List

abbrev Bytes := List UInt8

/-- The low `n` bytes of `value`, most significant first. -/
def putBE : ℕ → ℕ → Bytes
  | 0, _ => []
  | n + 1, value => UInt8.ofNat (value >>> (8 * n)) :: putBE n value

/-- The number a byte string spells, most significant byte first. -/
def getBE (bytes : Bytes) : ℕ :=
  bytes.foldl (fun acc byte => acc <<< 8 ||| byte.toNat) 0

@[simp] lemma length_putBE (n v : ℕ) : (putBE n v).length = n := by
  induction n with
  | zero => rfl
  | succ n ih => simp [putBE, ih]

/-- One step of the reading loop is `acc * 256 + byte`: the shifted accumulator
has no bit in common with the byte. -/
lemma shiftLeft_or_byte (acc : ℕ) (byte : UInt8) :
    acc <<< 8 ||| byte.toNat = acc * 256 + byte.toNat := by
  rw [← Nat.shiftLeft_add_eq_or_of_lt (show byte.toNat < 2 ^ 8 from byte.toNat_lt),
    Nat.shiftLeft_eq]

lemma getBE_foldl (bs : Bytes) (acc : ℕ) :
    bs.foldl (fun acc byte => acc <<< 8 ||| byte.toNat) acc = acc * 256 ^ bs.length + getBE bs := by
  induction bs generalizing acc with
  | nil => simp [getBE]
  | cons byte bs ih =>
    simp only [getBE, foldl_cons, length_cons, shiftLeft_or_byte] at ih ⊢
    rw [ih (acc * 256 + byte.toNat), ih (0 * 256 + byte.toNat), pow_succ]
    ring

@[simp] lemma getBE_nil : getBE [] = 0 := rfl

lemma getBE_cons (byte : UInt8) (bs : Bytes) :
    getBE (byte :: bs) = byte.toNat * 256 ^ bs.length + getBE bs := by
  rw [getBE, foldl_cons, getBE_foldl, shiftLeft_or_byte]
  ring

lemma getBE_lt (bs : Bytes) : getBE bs < 256 ^ bs.length := by
  induction bs with
  | nil => simp
  | cons byte bs ih =>
    rw [getBE_cons, length_cons, pow_succ]
    have hbyte : byte.toNat < 256 := byte.toNat_lt
    calc byte.toNat * 256 ^ bs.length + getBE bs
        < byte.toNat * 256 ^ bs.length + 256 ^ bs.length := by omega
      _ = (byte.toNat + 1) * 256 ^ bs.length := by ring
      _ ≤ 256 * 256 ^ bs.length := Nat.mul_le_mul_right _ hbyte
      _ = 256 ^ bs.length * 256 := by ring

/-- Reading back what was written gives the value modulo the field's width. -/
lemma getBE_putBE_mod (n v : ℕ) : getBE (putBE n v) = v % 256 ^ n := by
  induction n with
  | zero => simp [putBE, Nat.mod_one]
  | succ n ih =>
    have hpow : (2 : ℕ) ^ (8 * n) = 256 ^ n := by rw [pow_mul]; norm_num
    have hbyte : (UInt8.ofNat (v >>> (8 * n))).toNat = v / 256 ^ n % 256 := by
      rw [UInt8.toNat_ofNat', Nat.shiftRight_eq_div_pow, hpow]
    rw [putBE, getBE_cons, ih, length_putBE, hbyte, pow_succ, Nat.mod_mul, mul_comm, add_comm]

/-- A value that fits in `n` bytes survives being written and read back. -/
lemma getBE_putBE {n v : ℕ} (hfits : v < 256 ^ n) : getBE (putBE n v) = v := by
  rw [getBE_putBE_mod, Nat.mod_eq_of_lt hfits]

lemma putBE_mod (n v : ℕ) (m : ℕ) (hle : n ≤ m) : putBE n (v % 256 ^ m) = putBE n v := by
  induction n with
  | zero => rfl
  | succ n ih =>
    simp only [putBE]
    rw [ih (by omega)]
    congr 1
    apply UInt8.toNat_inj.mp
    have hpow : (2 : ℕ) ^ (8 * n) = 256 ^ n := by rw [pow_mul]; norm_num
    have hsplit : 256 ^ m = 256 ^ n * 256 ^ (m - n) := by
      rw [← pow_add]; congr 1; omega
    have hdvd : 256 ∣ 256 ^ (m - n) := dvd_pow_self 256 (by omega)
    rw [UInt8.toNat_ofNat', UInt8.toNat_ofNat', Nat.shiftRight_eq_div_pow,
      Nat.shiftRight_eq_div_pow, hpow, hsplit, Nat.mod_mul_right_div_self]
    exact Nat.mod_mod_of_dvd _ hdvd

lemma putBE_getBE (bs : Bytes) : putBE bs.length (getBE bs) = bs := by
  induction bs with
  | nil => rfl
  | cons byte bs ih =>
    have hpow : (2 : ℕ) ^ (8 * bs.length) = 256 ^ bs.length := by
      rw [pow_mul]; norm_num
    have hpos : 0 < 256 ^ bs.length := Nat.pow_pos (by norm_num)
    have hhead : (getBE (byte :: bs)) >>> (8 * bs.length) = byte.toNat := by
      rw [Nat.shiftRight_eq_div_pow, hpow, getBE_cons, mul_comm,
        Nat.mul_add_div hpos, Nat.div_eq_of_lt (getBE_lt bs), add_zero]
    have htail : getBE (byte :: bs) % 256 ^ bs.length = getBE bs := by
      rw [getBE_cons, mul_comm, Nat.mul_add_mod, Nat.mod_eq_of_lt (getBE_lt bs)]
    rw [length_cons, putBE, hhead, UInt8.ofNat_toNat,
      ← putBE_mod bs.length _ bs.length le_rfl, htail, ih]

/-! ## Fields at fixed offsets -/

def slice (bytes : Bytes) (offset width : ℕ) : Bytes :=
  (bytes.drop offset).take width

variable {bs : Bytes} {off width : ℕ}

lemma length_slice (hfits : off + width ≤ bs.length) : (slice bs off width).length = width := by
  simp only [slice, length_take, length_drop]
  omega

lemma slice_append_of_length_le {left right : Bytes} (hle : left.length ≤ off) :
    slice (left ++ right) off width = slice right (off - left.length) width := by
  rw [slice, slice, drop_append, drop_eq_nil_of_le hle, nil_append]

/-- A field that ends inside the first part is a field of the first. -/
lemma slice_append_of_le_length {left right : Bytes} (hle : off + width ≤ left.length) :
    slice (left ++ right) off width = slice left off width := by
  rw [slice, slice, drop_append_of_le_length (by omega),
    take_append_of_le_length (by rw [length_drop]; omega)]

lemma slice_zero_of_length (hlen : bs.length = width) : slice bs 0 width = bs := by
  rw [slice, drop_zero, ← hlen, take_length]

lemma slice_one {data : Bytes} (hlt : off < data.length) :
    slice data off 1 = [data.getD off 0] := by
  rw [slice, drop_eq_getElem_cons hlt, getD_eq_getElem _ _ hlt]
  rfl

lemma slice_append_drop (bs : Bytes) (off width : ℕ) :
    slice bs off width ++ bs.drop (off + width) = bs.drop off := by
  rw [slice, ← drop_drop, take_append_drop]

def putU16 (value : UInt16) : Bytes := putBE 2 value.toNat

def putU32 (value : UInt32) : Bytes := putBE 4 value.toNat

def putU64 (value : UInt64) : Bytes := putBE 8 value.toNat

def getU16 (bytes : Bytes) (offset : ℕ) : UInt16 := UInt16.ofNat (getBE (slice bytes offset 2))

def getU32 (bytes : Bytes) (offset : ℕ) : UInt32 := UInt32.ofNat (getBE (slice bytes offset 4))

def getU64 (bytes : Bytes) (offset : ℕ) : UInt64 := UInt64.ofNat (getBE (slice bytes offset 8))

@[simp] lemma length_putU16 (v : UInt16) : (putU16 v).length = 2 := length_putBE _ _

@[simp] lemma length_putU32 (v : UInt32) : (putU32 v).length = 4 := length_putBE _ _

@[simp] lemma length_putU64 (v : UInt64) : (putU64 v).length = 8 := length_putBE _ _

lemma getU16_of_slice {v : UInt16} (hslice : slice bs off 2 = putU16 v) : getU16 bs off = v := by
  rw [getU16, hslice, putU16, getBE_putBE v.toNat_lt, UInt16.ofNat_toNat]

lemma getU32_of_slice {v : UInt32} (hslice : slice bs off 4 = putU32 v) : getU32 bs off = v := by
  rw [getU32, hslice, putU32, getBE_putBE v.toNat_lt, UInt32.ofNat_toNat]

lemma getU64_of_slice {v : UInt64} (hslice : slice bs off 8 = putU64 v) : getU64 bs off = v := by
  rw [getU64, hslice, putU64, getBE_putBE v.toNat_lt, UInt64.ofNat_toNat]

lemma putU16_getU16 (hfits : off + 2 ≤ bs.length) : putU16 (getU16 bs off) = slice bs off 2 := by
  have hlen := length_slice hfits
  have hlt := getBE_lt (slice bs off 2)
  rw [hlen] at hlt
  rw [putU16, getU16, UInt16.toNat_ofNat_of_lt' hlt]
  simpa only [hlen] using putBE_getBE (slice bs off 2)

lemma putU32_getU32 (hfits : off + 4 ≤ bs.length) : putU32 (getU32 bs off) = slice bs off 4 := by
  have hlen := length_slice hfits
  have hlt := getBE_lt (slice bs off 4)
  rw [hlen] at hlt
  rw [putU32, getU32, UInt32.toNat_ofNat_of_lt' hlt]
  simpa only [hlen] using putBE_getBE (slice bs off 4)

lemma putU64_getU64 (hfits : off + 8 ≤ bs.length) : putU64 (getU64 bs off) = slice bs off 8 := by
  have hlen := length_slice hfits
  have hlt := getBE_lt (slice bs off 8)
  rw [hlen] at hlt
  rw [putU64, getU64, UInt64.toNat_ofNat_of_lt' hlt]
  simpa only [hlen] using putBE_getBE (slice bs off 8)

end Tlss.Library
