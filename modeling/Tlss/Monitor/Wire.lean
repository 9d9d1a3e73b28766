import Mathlib.Tactic.NormNum
import Tlss.Monitor.Data

/-!
# Monitor wire, version 2

`encode_v2` and `decode_v2` of `monitor_wire.cpp`: a 40-byte header, the
description, the value. The change time travels as seconds and nanoseconds,
split so that the nanoseconds are never negative.
-/

namespace Tlss.Monitor

open Library

/-- `WireStatus`, without `SUCCESS`. -/
inductive WireError where
  | emptyInput
  | wrongVersion
  | invalidType
  | invalidFlags
  | shortHeader
  | invalidHeaderLength
  | invalidTotalLength
  | invalidFieldLength
  | invalidTimestamp
  | stringTooLong
  | datagramTooLarge
deriving DecidableEq, Repr

inductive WireVersion where
  | v1
  | v2
deriving DecidableEq, Repr

def WireVersion.raw : WireVersion → UInt8
  | .v1 => 1
  | .v2 => 2

inductive WireValueType where
  | numeric
  | string
deriving DecidableEq, Repr

def WireValueType.raw : WireValueType → UInt8
  | .numeric => 0
  | .string => 1

def WireValueType.ofRaw (raw : UInt8) : Option WireValueType :=
  if raw = WireValueType.numeric.raw then some .numeric
  else if raw = WireValueType.string.raw then some .string
  else none

structure DecodedRecord where
  version : WireVersion
  data : MonitorData
  changedAt : Option MonitorTimestamp
deriving DecidableEq, Repr

def v2HeaderSize : ℕ := 40

def v2MaxDatagramSize : ℕ := 1200

def v2CurrentFlags : UInt16 := 0

def v2NumericPayloadSize : ℕ := 8

def nanosecondsPerSecond : ℤ := 1000000000

/-! ## Time stamps -/

structure TimestampParts where
  seconds : ℤ
  nanoseconds : UInt32
deriving DecidableEq, Repr

variable (timestamp : MonitorTimestamp)

/-- `split_timestamp`. The quotient and the remainder of C++ round towards zero. -/
def splitTimestamp : TimestampParts :=
  let seconds := timestamp.count.tdiv nanosecondsPerSecond
  let nanoseconds := timestamp.count.tmod nanosecondsPerSecond
  if nanoseconds < 0 then
    ⟨seconds - 1, UInt32.ofNat (nanoseconds + nanosecondsPerSecond).toNat⟩
  else ⟨seconds, UInt32.ofNat nanoseconds.toNat⟩

def TimestampParts.less (lhs rhs : TimestampParts) : Bool :=
  lhs.seconds < rhs.seconds || (lhs.seconds == rhs.seconds && lhs.nanoseconds < rhs.nanoseconds)

def isValidNanoseconds (nanoseconds : UInt32) : Bool := nanoseconds < 1000000000

/-- The `int64_t` with the low 64 bits of a number. -/
def MonitorTimestamp.ofInt64 (count : ℤ) : MonitorTimestamp :=
  ⟨count.bmod (2 ^ 64),
    by have := Int.le_bmod (x := count) (m := 2 ^ 64) (by decide); omega,
    by have := Int.bmod_lt (x := count) (m := 2 ^ 64) (by decide); omega⟩

def MonitorTimestamp.min : MonitorTimestamp := ⟨-2 ^ 63, by norm_num, by norm_num⟩

def MonitorTimestamp.max : MonitorTimestamp := ⟨2 ^ 63 - 1, by norm_num, by norm_num⟩

def joinTimestamp (seconds : ℤ) (nanoseconds : UInt32) : Option MonitorTimestamp :=
  if !isValidNanoseconds nanoseconds then none
  else
    let input : TimestampParts := ⟨seconds, nanoseconds⟩
    let minimum := splitTimestamp .min
    let maximum := splitTimestamp .max
    if input.less minimum || maximum.less input then none
    else if seconds = minimum.seconds then
      -- the product alone would be out of range here
      let delta := nanoseconds - minimum.nanoseconds
      some (.ofInt64 (-2 ^ 63 + delta.toNat))
    else some (.ofInt64 (seconds * nanosecondsPerSecond + nanoseconds.toNat))

/-- Splitting rounds down: the quotient and the remainder are the ones of `/` and `%`. -/
lemma splitTimestamp_eq :
    (splitTimestamp timestamp).seconds = timestamp.count / nanosecondsPerSecond ∧
      ((splitTimestamp timestamp).nanoseconds.toNat : ℤ) =
        timestamp.count % nanosecondsPerSecond := by
  have hsum := Int.mul_tdiv_add_tmod timestamp.count 1000000000
  have hlt := Int.tmod_lt_of_pos timestamp.count (show (0 : ℤ) < 1000000000 by decide)
  have hgt := Int.lt_tmod_of_pos timestamp.count (show (0 : ℤ) < 1000000000 by decide)
  unfold splitTimestamp nanosecondsPerSecond
  dsimp only
  split_ifs with hneg
  · refine ⟨by dsimp only; omega, ?_⟩
    rw [UInt32.toNat_ofNat_of_lt' (show _ < 4294967296 by omega), Int.toNat_of_nonneg (by omega)]
    omega
  · refine ⟨by dsimp only; omega, ?_⟩
    rw [UInt32.toNat_ofNat_of_lt' (show _ < 4294967296 by omega), Int.toNat_of_nonneg (by omega)]
    omega

lemma isValidNanoseconds_splitTimestamp :
    isValidNanoseconds (splitTimestamp timestamp).nanoseconds := by
  have hmod := (splitTimestamp_eq timestamp).2
  unfold nanosecondsPerSecond at hmod
  have hlt : (splitTimestamp timestamp).nanoseconds.toNat < 1000000000 := by omega
  simpa [isValidNanoseconds, UInt32.lt_iff_toNat_lt] using hlt

lemma ofInt64_count : MonitorTimestamp.ofInt64 timestamp.count = timestamp := by
  apply MonitorTimestamp.ext_count
  have hlower := timestamp.lower
  have hupper := timestamp.upper
  exact Int.bmod_eq_of_le (by omega) (by omega)

lemma splitTimestamp_min : splitTimestamp .min = ⟨-9223372037, 145224192⟩ := by decide

lemma splitTimestamp_max : splitTimestamp .max = ⟨9223372036, 854775807⟩ := by decide

lemma joinTimestamp_splitTimestamp :
    joinTimestamp (splitTimestamp timestamp).seconds (splitTimestamp timestamp).nanoseconds =
      some timestamp := by
  obtain ⟨hseconds, hnanoseconds⟩ := splitTimestamp_eq timestamp
  have hvalid := isValidNanoseconds_splitTimestamp timestamp
  have hlower := timestamp.lower
  have hupper := timestamp.upper
  generalize splitTimestamp timestamp = parts at hseconds hnanoseconds hvalid ⊢
  obtain ⟨seconds, nanoseconds⟩ := parts
  unfold nanosecondsPerSecond at hseconds hnanoseconds
  dsimp only at hseconds hnanoseconds hvalid ⊢
  have hmin : TimestampParts.less ⟨seconds, nanoseconds⟩ ⟨-9223372037, 145224192⟩ = false := by
    simp only [TimestampParts.less, UInt32.lt_iff_toNat_lt, UInt32.reduceToNat,
      Bool.or_eq_false_iff, Bool.and_eq_false_iff, decide_eq_false_iff_not, beq_eq_false_iff_ne]
    omega
  have hmax : TimestampParts.less ⟨9223372036, 854775807⟩ ⟨seconds, nanoseconds⟩ = false := by
    simp only [TimestampParts.less, UInt32.lt_iff_toNat_lt, UInt32.reduceToNat,
      Bool.or_eq_false_iff, Bool.and_eq_false_iff, decide_eq_false_iff_not, beq_eq_false_iff_ne]
    omega
  simp only [joinTimestamp, hvalid, splitTimestamp_min, splitTimestamp_max, hmin, hmax,
    Bool.not_true, Bool.or_false, Bool.false_eq_true, if_false]
  split_ifs with hfirst
  · -- the first second of the range
    have hle : (145224192 : UInt32) ≤ nanoseconds := by
      simp only [UInt32.le_iff_toNat_le, UInt32.reduceToNat]
      omega
    have hdelta : -2 ^ 63 + ((nanoseconds - 145224192).toNat : ℤ) = timestamp.count := by
      simp only [UInt32.toNat_sub_of_le _ _ hle, UInt32.reduceToNat]
      omega
    rw [hdelta, ofInt64_count]
  · have htotal : seconds * nanosecondsPerSecond + (nanoseconds.toNat : ℤ) = timestamp.count := by
      unfold nanosecondsPerSecond
      omega
    rw [htotal, ofInt64_count]

/-! ## Signed fields -/

def putI64TwosComplement (value : ℤ) : Bytes :=
  putU64 (UInt64.ofNat (value % 2 ^ 64).toNat)

def getI64TwosComplement (data : Bytes) (offset : ℕ) : ℤ :=
  let bits := getU64 data offset
  let signBit : UInt64 := 0x8000000000000000
  if bits &&& signBit = 0 then bits.toNat
  else
    let magnitude := ~~~bits + 1
    if magnitude = signBit then -2 ^ 63 else -(magnitude.toNat : ℤ)

lemma and_signBit_eq_zero_iff (bits : UInt64) :
    bits &&& 0x8000000000000000 = 0 ↔ bits.toNat < 2 ^ 63 := by
  have hlt : bits.toNat < 2 ^ 64 := bits.toNat_lt
  have hsign : (0x8000000000000000 : UInt64).toNat = 2 ^ 63 := rfl
  have hzero : (0 : UInt64).toNat = 0 := rfl
  rw [← UInt64.toNat_inj, UInt64.toNat_and, hsign, hzero, Nat.and_two_pow,
    Nat.testBit_eq_decide_div_mod_eq]
  by_cases hodd : bits.toNat / 2 ^ 63 % 2 = 1 <;> simp only [hodd, decide_true, decide_false,
    Bool.toNat_true, Bool.toNat_false] <;> omega

lemma getI64TwosComplement_spec (d : Bytes) (off : ℕ) :
    (-2 ^ 63 ≤ getI64TwosComplement d off ∧ getI64TwosComplement d off < 2 ^ 63) ∧
      getI64TwosComplement d off % 2 ^ 64 = (getU64 d off).toNat := by
  unfold getI64TwosComplement
  generalize getU64 d off = bits
  have hlt : bits.toNat < 2 ^ 64 := bits.toNat_lt
  have hmagnitude : (~~~bits + 1).toNat = (2 ^ 64 - bits.toNat) % 2 ^ 64 := by
    rw [UInt64.toNat_add, UInt64.toNat_not]
    simp only [UInt64.reduceToNat, UInt64.size]
    omega
  have hsign : (0x8000000000000000 : UInt64).toNat = 2 ^ 63 := rfl
  simp only [and_signBit_eq_zero_iff]
  simp only [← UInt64.toNat_inj, hmagnitude, hsign]
  split_ifs <;> omega

/-- A signed number that fits in 64 bits survives being written and read. -/
lemma getI64TwosComplement_of_slice {d : Bytes} {off : ℕ} {v : ℤ}
    (hlower : -2 ^ 63 ≤ v) (hupper : v < 2 ^ 63)
    (hslice : slice d off 8 = putI64TwosComplement v) : getI64TwosComplement d off = v := by
  have hspec := getI64TwosComplement_spec d off
  rw [getU64_of_slice hslice,
    UInt64.toNat_ofNat_of_lt' (show _ < 18446744073709551616 by omega)] at hspec
  omega

/-! ## Datagrams -/

structure V2Header where
  type : WireValueType
  flags : UInt16
  totalLength : UInt16
  headerLength : UInt16
  key : MonitorKey
  seconds : ℤ
  nanoseconds : UInt32
  descriptionLength : UInt16
  valueLength : UInt16
deriving DecidableEq, Repr

def v2HeaderBytes (record : StoredRecord) (type : WireValueType) (totalLength valueLength : ℕ) :
    Bytes :=
  let timestamp := splitTimestamp record.changedAt
  [WireVersion.v2.raw] ++ ([type.raw] ++ (putU16 v2CurrentFlags ++
    (putU16 (UInt16.ofNat totalLength) ++ (putU16 (UInt16.ofNat v2HeaderSize) ++
      (putU32 record.data.key.mid ++ (putU32 record.data.key.level ++
        (putU32 record.data.key.fid ++ (putU32 record.data.key.eid ++
          (putI64TwosComplement timestamp.seconds ++ (putU32 timestamp.nanoseconds ++
            (putU16 (UInt16.ofNat record.data.description.length) ++
              putU16 (UInt16.ofNat valueLength))))))))))))

def writeV2Header (datagramSize : ℕ) (record : StoredRecord) (type : WireValueType)
    (valueLength : ℕ) : Except WireError Bytes :=
  let descriptionLength := record.data.description.length
  let totalLength := v2HeaderSize + descriptionLength + valueLength
  if descriptionLength > 65535 || valueLength > 65535 then .error .invalidFieldLength
  else if totalLength > v2MaxDatagramSize then .error .datagramTooLarge
  else if datagramSize ≠ totalLength then .error .invalidTotalLength
  else if !isValidNanoseconds (splitTimestamp record.changedAt).nanoseconds then
    .error .invalidTimestamp
  else .ok (v2HeaderBytes record type totalLength valueLength)

def MonitorValue.wire : MonitorValue → WireValueType × Bytes
  | .numeric number => (.numeric, putU32 number.value ++ putU32 number.state)
  | .string text => (.string, text)

def encodeV2 (record : StoredRecord) : Except WireError Bytes :=
  let (type, value) := record.data.value.wire
  let descriptionLength := record.data.description.length
  if descriptionLength > v2MaxDatagramSize - v2HeaderSize then .error .datagramTooLarge
  else if value.length > v2MaxDatagramSize - v2HeaderSize - descriptionLength then
    .error .datagramTooLarge
  else
    let totalLength := v2HeaderSize + descriptionLength + value.length
    match writeV2Header totalLength record type value.length with
    | .error status => .error status
    | .ok header => .ok (header ++ (record.data.description ++ value))

def readV2Header (data : Bytes) : Except WireError V2Header :=
  if data.length = 0 then .error .emptyInput
  else if data.getD 0 0 ≠ WireVersion.v2.raw then .error .wrongVersion
  else if data.length < v2HeaderSize then .error .shortHeader
  else if data.length > v2MaxDatagramSize then .error .datagramTooLarge
  else
    match WireValueType.ofRaw (data.getD 1 0) with
    | none => .error .invalidType
    | some type =>
      let flags := getU16 data 2
      let totalLength := getU16 data 4
      let headerLength := getU16 data 6
      let nanoseconds := getU32 data 32
      let descriptionLength := getU16 data 36
      let valueLength := getU16 data 38
      if flags ≠ v2CurrentFlags then .error .invalidFlags
      else if headerLength.toNat ≠ v2HeaderSize then .error .invalidHeaderLength
      else if totalLength.toNat > v2MaxDatagramSize then .error .datagramTooLarge
      else if totalLength.toNat < v2HeaderSize || totalLength.toNat ≠ data.length then
        .error .invalidTotalLength
      else if !isValidNanoseconds nanoseconds then .error .invalidTimestamp
      else if descriptionLength.toNat + valueLength.toNat ≠ data.length - v2HeaderSize then
        .error .invalidFieldLength
      else
        .ok ⟨type, flags, totalLength, headerLength,
          ⟨getU32 data 8, getU32 data 12, getU32 data 16, getU32 data 20⟩,
          getI64TwosComplement data 24, nanoseconds, descriptionLength, valueLength⟩

def decodeV2 (data : Bytes) : Except WireError DecodedRecord :=
  match readV2Header data with
  | .error status => .error status
  | .ok header =>
    if header.type = .numeric ∧ header.valueLength.toNat ≠ v2NumericPayloadSize then
      .error .invalidFieldLength
    else
      match joinTimestamp header.seconds header.nanoseconds with
      | none => .error .invalidTimestamp
      | some timestamp =>
        let description := slice data v2HeaderSize header.descriptionLength.toNat
        let payload := v2HeaderSize + header.descriptionLength.toNat
        let value :=
          match header.type with
          | .numeric => MonitorValue.numeric ⟨getU32 data payload, getU32 data (payload + 4)⟩
          | .string => MonitorValue.string (slice data payload header.valueLength.toNat)
        .ok ⟨.v2, ⟨header.key, description, value⟩, some timestamp⟩

/-! ## Round trip -/

def v2Wire (record : StoredRecord) : Bytes :=
  v2HeaderBytes record record.data.value.wire.1
    (v2HeaderSize + record.data.description.length + record.data.value.wire.2.length)
    record.data.value.wire.2.length ++ (record.data.description ++ record.data.value.wire.2)

variable {r : StoredRecord} {bytes : Bytes}

lemma encodeV2_eq_ok (hencode : encodeV2 r = .ok bytes) :
    v2HeaderSize + r.data.description.length + r.data.value.wire.2.length ≤
        v2MaxDatagramSize ∧ bytes = v2Wire r := by
  unfold encodeV2 at hencode
  dsimp only at hencode
  split_ifs at hencode with hdescription hvalue
  have hfits : v2HeaderSize + r.data.description.length +
      r.data.value.wire.2.length ≤ v2MaxDatagramSize := by
    unfold v2HeaderSize v2MaxDatagramSize at *
    omega
  refine ⟨hfits, ?_⟩
  split at hencode
  · simp at hencode
  · rename_i header hheader
    unfold writeV2Header at hheader
    dsimp only at hheader
    split_ifs at hheader
    rw [← Except.ok.inj hencode, ← Except.ok.inj hheader]
    rfl

@[simp] lemma length_putI64TwosComplement (v : ℤ) :
    (putI64TwosComplement v).length = 8 := length_putU64 _

@[simp] lemma length_v2HeaderBytes (r : StoredRecord) (type : WireValueType)
    (totalLength valueLength : ℕ) : (v2HeaderBytes r type totalLength valueLength).length = 40 := by
  simp [v2HeaderBytes]

lemma slice_v2Wire (r : StoredRecord) : slice (v2Wire r) 0 1 = [WireVersion.v2.raw] ∧
      slice (v2Wire r) 1 1 = [r.data.value.wire.1.raw] ∧
      slice (v2Wire r) 2 2 = putU16 v2CurrentFlags ∧
      slice (v2Wire r) 4 2 = putU16 (UInt16.ofNat (v2HeaderSize +
        r.data.description.length + r.data.value.wire.2.length)) ∧
      slice (v2Wire r) 6 2 = putU16 (UInt16.ofNat v2HeaderSize) ∧
      slice (v2Wire r) 8 4 = putU32 r.data.key.mid ∧
      slice (v2Wire r) 12 4 = putU32 r.data.key.level ∧
      slice (v2Wire r) 16 4 = putU32 r.data.key.fid ∧
      slice (v2Wire r) 20 4 = putU32 r.data.key.eid ∧
      slice (v2Wire r) 24 8 = putI64TwosComplement (splitTimestamp r.changedAt).seconds ∧
      slice (v2Wire r) 32 4 = putU32 (splitTimestamp r.changedAt).nanoseconds ∧
      slice (v2Wire r) 36 2 = putU16 (UInt16.ofNat r.data.description.length) ∧
      slice (v2Wire r) 38 2 = putU16 (UInt16.ofNat r.data.value.wire.2.length) := by
  simp (disch := simp) only [v2Wire, v2HeaderBytes, List.append_assoc, slice_append_of_length_le,
    slice_append_of_le_length, slice_zero_of_length, List.length_singleton, length_putU16,
    length_putU32, length_putI64TwosComplement, Nat.reduceSub, and_self]

lemma ofRaw_raw (type : WireValueType) : WireValueType.ofRaw type.raw = some type := by
  cases type <;> rfl

lemma readV2Header_v2Wire
    (hfits : v2HeaderSize + r.data.description.length + r.data.value.wire.2.length ≤
      v2MaxDatagramSize) : readV2Header (v2Wire r) = .ok ⟨r.data.value.wire.1, v2CurrentFlags,
        UInt16.ofNat (v2HeaderSize + r.data.description.length + r.data.value.wire.2.length),
        UInt16.ofNat v2HeaderSize, r.data.key, (splitTimestamp r.changedAt).seconds,
        (splitTimestamp r.changedAt).nanoseconds, UInt16.ofNat r.data.description.length,
        UInt16.ofNat r.data.value.wire.2.length⟩ := by
  have hheaderSize : v2HeaderSize = 40 := rfl
  have hmaxSize : v2MaxDatagramSize = 1200 := rfl
  have hlength : (v2Wire r).length = v2HeaderSize + r.data.description.length +
      r.data.value.wire.2.length := by
    simp [v2Wire, v2HeaderSize, add_assoc]
  have hsmall : ∀ n : ℕ, n ≤ 1200 → (UInt16.ofNat n).toNat = n :=
    fun n hn => UInt16.toNat_ofNat_of_lt' (show n < 65536 by omega)
  obtain ⟨hversion, htype, hflags, htotal, hheader, hmid, hlevel, hfid, heid, hseconds,
    hnanoseconds, hdescription, hvalue⟩ := slice_v2Wire r
  rw [slice_one (by omega), List.cons.injEq] at hversion htype
  have hbounds := (splitTimestamp_eq r.changedAt).1
  have hlower := r.changedAt.lower
  have hupper := r.changedAt.upper
  unfold nanosecondsPerSecond at hbounds
  have hsecs := getI64TwosComplement_of_slice (by omega) (by omega) hseconds
  have htotalNat := hsmall
    (v2HeaderSize + r.data.description.length + r.data.value.wire.2.length) hfits
  have hheaderNat := hsmall v2HeaderSize (by decide)
  have hdescriptionNat := hsmall r.data.description.length (by omega)
  have hvalueNat := hsmall r.data.value.wire.2.length (by omega)
  have hempty : ¬ v2HeaderSize + r.data.description.length +
      r.data.value.wire.2.length = 0 := by omega
  simp only [readV2Header, hempty, if_false, hversion.1, htype.1, ofRaw_raw,
    getU16_of_slice hflags, getU16_of_slice htotal, getU16_of_slice hheader,
    getU32_of_slice hnanoseconds, getU16_of_slice hdescription, getU16_of_slice hvalue,
    getU32_of_slice hmid, getU32_of_slice hlevel, getU32_of_slice hfid, getU32_of_slice heid, hsecs,
    isValidNanoseconds_splitTimestamp, ne_eq, not_true_eq_false, Bool.not_true,
    Bool.false_eq_true, hlength, htotalNat, hheaderNat, hdescriptionNat, hvalueNat]
  have hlong : ¬ v2HeaderSize + r.data.description.length +
      r.data.value.wire.2.length > v2MaxDatagramSize := not_lt.mpr hfits
  have hbody : r.data.description.length + r.data.value.wire.2.length =
      v2HeaderSize + r.data.description.length + r.data.value.wire.2.length -
        v2HeaderSize := by omega
  have hlow : ¬ v2HeaderSize + r.data.description.length +
      r.data.value.wire.2.length < v2HeaderSize := by omega
  simp only [hlong, hlow, ← hbody, decide_false, Bool.or_self, not_true_eq_false, if_false,
    Bool.false_eq_true]

lemma decodeV2_encodeV2 (hencode : encodeV2 r = .ok bytes) :
    decodeV2 bytes = .ok ⟨.v2, r.data, some r.changedAt⟩ := by
  obtain ⟨hfits, rfl⟩ := encodeV2_eq_ok hencode
  have hheader := readV2Header_v2Wire hfits
  unfold v2HeaderSize v2MaxDatagramSize at hfits
  have hsmall : ∀ n : ℕ, n ≤ 1200 → (UInt16.ofNat n).toNat = n :=
    fun n hn => UInt16.toNat_ofNat_of_lt' (show n < 65536 by omega)
  have hdescription : slice (v2Wire r) v2HeaderSize r.data.description.length =
      r.data.description := by
    unfold v2HeaderSize
    rw [v2Wire, slice_append_of_length_le (by simp), length_v2HeaderBytes,
      slice_append_of_le_length (by simp), slice_zero_of_length rfl]
  have hpayload : ∀ off width, slice (v2Wire r)
      (v2HeaderSize + r.data.description.length + off) width =
        slice r.data.value.wire.2 off width := by
    intro off width
    unfold v2HeaderSize
    rw [v2Wire, slice_append_of_length_le (by rw [length_v2HeaderBytes]; omega),
      length_v2HeaderBytes, slice_append_of_length_le (by omega)]
    congr 1
    omega
  unfold decodeV2
  rw [hheader]
  dsimp only
  rw [joinTimestamp_splitTimestamp, hsmall _ (by omega), hsmall _ (by omega), hdescription]
  obtain ⟨⟨key, description, v⟩, changedAt⟩ := r
  cases v with
  | numeric number =>
    have hvalue := hpayload 0 4
    have hstate := hpayload 4 4
    simp only [MonitorValue.wire, add_zero] at hvalue hstate hpayload ⊢
    rw [slice_append_of_le_length (by simp), slice_zero_of_length (by simp)] at hvalue
    rw [slice_append_of_length_le (by simp), length_putU32, Nat.sub_self,
      slice_zero_of_length (by simp)] at hstate
    simp only [getU32_of_slice hvalue, getU32_of_slice hstate, v2NumericPayloadSize]
    simp
  | string text =>
    have htext := hpayload 0 text.length
    simp only [MonitorValue.wire, add_zero] at htext ⊢
    rw [slice_zero_of_length rfl] at htext
    simp [htext]

end Tlss.Monitor
