import Tlss.Library.Crc
import Tlss.Monitor.AlarmProtocol

/-!
# Damaged alarm frames

The checksum of an alarm frame is a cyclic redundancy check with a register of 32 bits,
over the header up to the checksum and the payload behind it. If damage within four
neighbouring bytes of this sequence passes the checks of the header, the length field still
announces the length the frame has, so the checksum is computed over the same positions
and tells the two apart.
-/

namespace Tlss.Monitor

open Library List

def checksummed (data : Bytes) : Bytes :=
  slice data 0 44 ++ data.drop alarmHeaderSize

/-! ## The checksum as a cyclic redundancy check -/

def crcBlock (byte : UInt8) : BitVec 32 := byte.toUInt32.toBitVec

lemma crcBlock_injective : Function.Injective crcBlock := by
  intro left right heq
  have hnat := congrArg BitVec.toNat heq
  rw [crcBlock, crcBlock, UInt32.toNat_toBitVec, UInt32.toNat_toBitVec, UInt8.toNat_toUInt32,
    UInt8.toNat_toUInt32] at hnat
  exact UInt8.toNat_inj.mp hnat

lemma toBitVec_crc32Shift (crc : UInt32) :
    (crc32Shift crc).toBitVec = Crc.shift crc32Polynomial.toBitVec crc.toBitVec := by
  have hbit : (crc &&& 1).toBitVec =
      BitVec.setWidth 32 (BitVec.ofBool (crc.toBitVec.getLsbD 0)) := by
    rw [UInt32.toBitVec_and]
    exact BitVec.and_one_eq_setWidth_ofBool_getLsbD
  rw [crc32Shift, Crc.shift, UInt32.toBitVec_xor, UInt32.toBitVec_and, UInt32.toBitVec_sub, hbit]
  cases crc.toBitVec.getLsbD 0
  · simp
  · rfl

lemma toBitVec_iterate_crc32Shift (n : ℕ) (crc : UInt32) :
    (crc32Shift^[n] crc).toBitVec = (Crc.shift crc32Polynomial.toBitVec)^[n] crc.toBitVec := by
  induction n generalizing crc with
  | zero => rfl
  | succ n ih => rw [Function.iterate_succ_apply, ih, toBitVec_crc32Shift]; rfl

lemma toBitVec_crc32Update (crc : UInt32) (d : Bytes) : (crc32Update crc d).toBitVec =
      Crc.update crc32Polynomial.toBitVec 8 crc.toBitVec (d.map crcBlock) := by
  induction d generalizing crc with
  | nil => rfl
  | cons byte d ih =>
    have hbyte : (crc32Shift^[8] (crc ^^^ byte.toUInt32)).toBitVec =
        Crc.absorb crc32Polynomial.toBitVec 8 crc.toBitVec (crcBlock byte) :=
      toBitVec_iterate_crc32Shift 8 _
    rw [crc32Update, foldl_cons, ← crc32Update, ih, hbyte]
    rfl

lemma calculateFrameCrc_eq (d : Bytes) : calculateFrameCrc d (d.length - alarmHeaderSize) =
      crc32Update crc32Initial (checksummed d) ^^^ crc32Initial := by
  have hpayload : slice d alarmHeaderSize (d.length - alarmHeaderSize) =
      d.drop alarmHeaderSize := by
    rw [slice, ← length_drop, take_length]
  rw [calculateFrameCrc, hpayload, checksummed, crc32Update, crc32Update, ← foldl_append]
  rfl

/-! ## Bursts -/

variable {left right : Bytes}

/-- Two byte strings of one length that agree outside of `width` neighbouring positions
have the same front and the same back. -/
lemma split_of_agree {start width : ℕ} (hlength : left.length = right.length)
    (hagree : ∀ i, i < start ∨ start + width ≤ i → left[i]? = right[i]?) :
    ∃ front window other back, left = front ++ (window ++ back) ∧
      right = front ++ (other ++ back) ∧ window.length = other.length ∧ window.length ≤ width := by
  have hfront : left.take start = right.take start := by
    apply ext_getElem?
    intro i
    by_cases hi : i < start
    · rw [getElem?_take_of_lt hi, getElem?_take_of_lt hi, hagree i (.inl hi)]
    · rw [getElem?_take_eq_none (Nat.not_lt.mp hi), getElem?_take_eq_none (Nat.not_lt.mp hi)]
  have hback : left.drop (start + width) = right.drop (start + width) := by
    apply ext_getElem?
    intro i
    rw [getElem?_drop, getElem?_drop, hagree _ (.inr (Nat.le_add_right _ i))]
  refine ⟨left.take start, slice left start width, slice right start width,
    left.drop (start + width), ?_, ?_, ?_, length_take_le _ _⟩
  · rw [slice_append_drop, take_append_drop]
  · rw [hfront, hback, slice_append_drop, take_append_drop]
  · simp [slice, hlength]

/-- The checksum tells apart what differs within four neighbouring bytes. -/
lemma eq_of_crc32Update_eq {crc : UInt32} {start : ℕ} (hlength : left.length = right.length)
    (hagree : ∀ i, i < start ∨ start + 4 ≤ i → left[i]? = right[i]?)
    (hcrc : crc32Update crc left = crc32Update crc right) : left = right := by
  obtain ⟨front, window, other, back, rfl, rfl, hsame, hshort⟩ := split_of_agree hlength hagree
  have hblocks : ∀ bytes : Bytes, ∀ block ∈ bytes.map crcBlock, block.toNat < 2 ^ 8 := by
    intro bytes block hmem
    obtain ⟨byte, -, rfl⟩ := mem_map.mp hmem
    rw [crcBlock, UInt32.toNat_toBitVec, UInt8.toNat_toUInt32]
    exact byte.toNat_lt
  have hregister := congrArg UInt32.toBitVec hcrc
  simp only [toBitVec_crc32Update, map_append] at hregister
  have hwindow : window.map crcBlock = other.map crcBlock := by
    refine Crc.update_burst_injective (by decide) (by simpa using hsame) (hblocks window)
      (hblocks other) ?_ hregister
    rw [length_map]
    omega
  rw [(map_inj_right fun _ _ heq => crcBlock_injective heq).mp hwindow]

lemma eq_of_checksummed (hlength : left.length = right.length)
    (hheader : alarmHeaderSize ≤ left.length) (hcovered : checksummed left = checksummed right)
    (hstored : slice left 44 4 = slice right 44 4) : left = right := by
  unfold alarmHeaderSize at hheader
  have hsplit : ∀ d : Bytes, d = slice d 0 44 ++ (slice d 44 4 ++ d.drop 48) := by
    intro d
    rw [slice_append_drop d 44 4, slice_append_drop d 0 44, drop_zero]
  have hfront : (slice left 0 44).length = (slice right 0 44).length := by
    rw [length_slice (by omega), length_slice (by omega)]
  obtain ⟨hleft, hright⟩ := append_inj hcovered hfront
  rw [hsplit left, hsplit right, hleft, hstored]
  exact congrArg _ (congrArg _ hright)

/-- An accepted frame that is damaged within four neighbouring bytes of what the checksum
covers, with its stored checksum and its length unchanged, is rejected. -/
theorem decodeAlarmFrame_rejects_burst (data damaged : Bytes) (frame : AlarmFrame) (start : ℕ)
    (haccepted : decodeAlarmFrame data = .ok frame) (hdamaged : damaged ≠ data)
    (hlength : damaged.length = data.length) (hstored : slice damaged 44 4 = slice data 44 4)
    (hagree : ∀ i, i < start ∨ start + 4 ≤ i → (checksummed damaged)[i]? = (checksummed data)[i]?) :
    ∃ status, decodeAlarmFrame damaged = .error status := by
  cases hdecode : decodeAlarmFrame damaged with
  | error status => exact ⟨status, rfl⟩
  | ok other =>
    obtain ⟨hann, hcrc, -⟩ := (decodeAlarmFrame_eq_ok_iff data frame).mp haccepted
    obtain ⟨-, hcrc', -⟩ := (decodeAlarmFrame_eq_ok_iff damaged other).mp hdecode
    -- both checksums are the stored one, and both run over the same positions
    have hsame : getU32 damaged 44 = getU32 data 44 := by rw [getU32, getU32, hstored]
    rw [hcrc, hcrc', calculateFrameCrc_eq, calculateFrameCrc_eq, UInt32.xor_left_inj] at hsame
    have hcovered : checksummed damaged = checksummed data := by
      refine eq_of_crc32Update_eq ?_ hagree hsame
      simp [checksummed, slice, hlength]
    exact absurd (eq_of_checksummed hlength (hlength.symm ▸ hann.header) hcovered hstored) hdamaged

def heartbeat : Bytes := alarmWire ⟨.ping, 7, default, 9, []⟩

def damagedHeartbeat : Bytes := heartbeat.take 20 ++ [1, 2, 3, 4] ++ heartbeat.drop 24

theorem decodeAlarmFrame_rejects_burst_heartbeat :
    ∃ status, decodeAlarmFrame damagedHeartbeat = .error status := by
  refine decodeAlarmFrame_rejects_burst heartbeat damagedHeartbeat ⟨.ping, 7, default, 9, []⟩ 20
    (decodeAlarmFrame_encode (by decide)) (by decide +kernel) (by decide +kernel)
    (by decide +kernel) fun i hi => ?_
  have hcovered : ∀ i < 44, i < 20 ∨ 24 ≤ i →
      (checksummed damagedHeartbeat)[i]? = (checksummed heartbeat)[i]? := by decide +kernel
  have hlength : (checksummed heartbeat).length = 44 := by decide +kernel
  have hlength' : (checksummed damagedHeartbeat).length = 44 := by decide +kernel
  by_cases hlt : i < 44
  · exact hcovered i hlt hi
  · rw [getElem?_eq_none (by omega), getElem?_eq_none (by omega)]

end Tlss.Monitor
