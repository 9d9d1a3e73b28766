import Tlss.Library.BigEndian
import Mathlib.Data.Nat.Digits.Defs

/-!
# Decimal numbers and length-prefixed fields

`decimal` spells a number in ASCII digits, most significant first and without
leading zeros; `decimalValue` reads it back. No digit is a colon, so a field with its
length and a colon in front can be split off again whatever follows it.
-/

namespace Tlss.Library

open List

def digitByte (digit : ℕ) : UInt8 := UInt8.ofNat (48 + digit)

def decimal (number : ℕ) : Bytes :=
  if number = 0 then [48] else ((Nat.digits 10 number).map digitByte).reverse

def decimalValue (digits : Bytes) : ℕ :=
  digits.foldl (fun value byte => 10 * value + (byte.toNat - 48)) 0

def isDigit (byte : UInt8) : Bool := 48 ≤ byte.toNat && byte.toNat ≤ 57

lemma toNat_digitByte {digit : ℕ} (hdigit : digit < 10) : (digitByte digit).toNat = 48 + digit := by
  rw [digitByte, UInt8.toNat_ofNat']
  exact Nat.mod_eq_of_lt (by omega)

lemma isDigit_of_mem_decimal {n : ℕ} {byte : UInt8} (hmem : byte ∈ decimal n) : isDigit byte := by
  unfold decimal at hmem
  split_ifs at hmem
  · rw [mem_singleton.mp hmem]
    rfl
  · obtain ⟨digit, hdigit, rfl⟩ := mem_map.mp (mem_reverse.mp hmem)
    have hlt : digit < 10 := Nat.digits_lt_base (by decide) hdigit
    simp only [isDigit, toNat_digitByte hlt, Bool.and_eq_true, decide_eq_true_eq]
    omega

lemma decimalValue_concat (digits : Bytes) (byte : UInt8) :
    decimalValue (digits ++ [byte]) = 10 * decimalValue digits + (byte.toNat - 48) := by
  simp [decimalValue]

lemma decimalValue_reverse_map {digits : List ℕ} (hdigits : ∀ digit ∈ digits, digit < 10) :
    decimalValue (digits.map digitByte).reverse = Nat.ofDigits 10 digits := by
  induction digits with
  | nil => rfl
  | cons digit digits ih =>
    have hdigit : digit < 10 := hdigits digit (by simp)
    rw [map_cons, reverse_cons, decimalValue_concat,
      ih fun other hother => hdigits other (mem_cons_of_mem _ hother),
      toNat_digitByte hdigit, Nat.ofDigits_cons]
    omega

@[simp] lemma decimalValue_decimal (n : ℕ) : decimalValue (decimal n) = n := by
  unfold decimal
  split_ifs with hzero
  · rw [hzero]
    rfl
  · rw [decimalValue_reverse_map fun digit => Nat.digits_lt_base (by decide)]
    exact Nat.ofDigits_digits 10 n

def lengthPrefixed (field : Bytes) : Bytes := decimal field.length ++ 58 :: field

lemma append_cons_inj {α : Type*} {p : α → Bool} {early early' late late' : List α} {x y : α}
    (hearly : ∀ a ∈ early, p a) (hearly' : ∀ a ∈ early', p a) (hx : ¬ p x) (hy : ¬ p y)
    (heq : early ++ x :: late = early' ++ y :: late') : early = early' ∧ x = y ∧ late = late' := by
  induction early generalizing early' with
  | nil =>
    cases early' with
    | nil => exact ⟨rfl, cons.inj heq⟩
    | cons a early' =>
      obtain ⟨rfl, -⟩ := cons.inj heq
      exact absurd (hearly' x (by simp)) hx
  | cons a early ih =>
    cases early' with
    | nil =>
      obtain ⟨rfl, -⟩ := cons.inj heq
      exact absurd (hearly a (by simp)) hy
    | cons b early' =>
      obtain ⟨rfl, htail⟩ := cons.inj heq
      obtain ⟨rfl, hrest⟩ := ih (fun c hc => hearly c (mem_cons_of_mem _ hc))
        (fun c hc => hearly' c (mem_cons_of_mem _ hc)) htail
      exact ⟨rfl, hrest⟩

lemma lengthPrefixed_append_inj {field field' rest rest' : Bytes}
    (heq : lengthPrefixed field ++ rest = lengthPrefixed field' ++ rest') :
    field = field' ∧ rest = rest' := by
  simp only [lengthPrefixed, append_assoc, cons_append] at heq
  obtain ⟨hdigits, -, htail⟩ := append_cons_inj (fun _ => isDigit_of_mem_decimal)
    (fun _ => isDigit_of_mem_decimal) (by decide) (by decide) heq
  have hlength : field.length = field'.length := by
    simpa using congrArg decimalValue hdigits
  exact append_inj htail hlength

end Tlss.Library
