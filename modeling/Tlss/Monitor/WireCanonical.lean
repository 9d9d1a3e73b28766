import Tlss.Monitor.Wire
import Mathlib.Data.List.TakeWhile

/-!
# Accepted datagrams are canonical

`decode_v2` accepts nothing that `encode_v2` would not have written. Every byte of the
header is a field that is decoded, or it is compared with the only value the encoder
writes: the lengths are redundant, and each of them is checked against the length of the
datagram. The time stamp has one representation, because the nanoseconds are below a
second (`splitTimestamp_of_join`).

`decode`, which looks at the first byte only, hands such a datagram to `decode_v2`.

Version 1 is lenient. Its terminator may be missing and a tail is ignored, so decoding and
encoding again only leads to a datagram that stands for the same record.
-/

namespace Tlss.Monitor

open Library List Option

/-! ## Version 1 and the common entry -/

def v1HeaderSize : ℕ := 18

def v1NumericDatagramSize : ℕ := 26

def v1MaxDatagramSize : ℕ := 82

def v1MaxStringContentSize : ℕ := v1MaxDatagramSize - v1HeaderSize - 1

def readV1Key (data : Bytes) : MonitorKey :=
  ⟨getU32 data 2, getU32 data 14, getU32 data 6, getU32 data 10⟩

def decodeV1 (data : Bytes) : Except WireError DecodedRecord :=
  if data.length = 0 then .error .emptyInput
  else if data.getD 0 0 ≠ WireVersion.v1.raw then .error .wrongVersion
  else if data.length < v1HeaderSize then .error .shortHeader
  else if data.length > v1MaxDatagramSize then .error .datagramTooLarge
  else
    match WireValueType.ofRaw (data.getD 1 0) with
    | none => .error .invalidType
    | some .numeric =>
      if data.length < v1NumericDatagramSize then .error .invalidFieldLength
      else
        -- bytes behind the state are ignored
        .ok ⟨.v1, ⟨readV1Key data, [], .numeric ⟨getU32 data 18, getU32 data 22⟩⟩, none⟩
    | some .string =>
      -- up to the first NUL, or everything if there is none
      let content := (data.drop v1HeaderSize).takeWhile (· ≠ 0)
      if content.length > v1MaxStringContentSize then .error .stringTooLong
      else .ok ⟨.v1, ⟨readV1Key data, [], .string content⟩, none⟩

def decode (data : Bytes) : Except WireError DecodedRecord :=
  if data.length = 0 then .error .emptyInput
  else if data.getD 0 0 = WireVersion.v1.raw then decodeV1 data
  else if data.getD 0 0 = WireVersion.v2.raw then decodeV2 data
  else .error .wrongVersion

/-! ## Time stamps -/

lemma count_ofInt64 {count : ℤ} (hlower : -2 ^ 63 ≤ count) (hupper : count < 2 ^ 63) :
    (MonitorTimestamp.ofInt64 count).count = count :=
  Int.bmod_eq_of_le (by omega) (by omega)

lemma joinTimestamp_eq_some {seconds : ℤ} {nanoseconds : UInt32} {t : MonitorTimestamp}
    (hjoin : joinTimestamp seconds nanoseconds = some t) : nanoseconds.toNat < 1000000000 ∧
      t.count = seconds * nanosecondsPerSecond + nanoseconds.toNat := by
  unfold joinTimestamp at hjoin
  simp only [splitTimestamp_min, splitTimestamp_max] at hjoin
  split_ifs at hjoin with hinvalid hrange hfirst
  all_goals
    have hnanoseconds : nanoseconds.toNat < 1000000000 := by
      simpa [isValidNanoseconds, UInt32.lt_iff_toNat_lt] using hinvalid
    refine ⟨hnanoseconds, ?_⟩
    simp only [TimestampParts.less, UInt32.lt_iff_toNat_lt, UInt32.reduceToNat, Bool.or_eq_true,
      Bool.and_eq_true, decide_eq_true_eq, beq_iff_eq] at hrange
    rw [← some.inj hjoin, nanosecondsPerSecond]
  · -- the first second of the range
    have hle : (145224192 : UInt32) ≤ nanoseconds := by
      simp only [UInt32.le_iff_toNat_le, UInt32.reduceToNat]
      omega
    have hdelta : (nanoseconds - 145224192).toNat = nanoseconds.toNat - 145224192 := by
      simp only [UInt32.toNat_sub_of_le _ _ hle, UInt32.reduceToNat]
    have hcount : -2 ^ 63 + ((nanoseconds.toNat - 145224192 : ℕ) : ℤ) =
        seconds * 1000000000 + nanoseconds.toNat := by omega
    rw [hdelta, hcount]
    exact count_ofInt64 (by omega) (by omega)
  · exact count_ofInt64 (by omega) (by omega)

lemma splitTimestamp_of_join {seconds : ℤ} {nanoseconds : UInt32} {t : MonitorTimestamp}
    (hjoin : joinTimestamp seconds nanoseconds = some t) :
    splitTimestamp t = ⟨seconds, nanoseconds⟩ := by
  obtain ⟨hlt, hcount⟩ := joinTimestamp_eq_some hjoin
  obtain ⟨hseconds, hnanoseconds⟩ := splitTimestamp_eq t
  rw [hcount] at hseconds hnanoseconds
  unfold nanosecondsPerSecond at hseconds hnanoseconds
  have hparts : (splitTimestamp t).seconds = seconds ∧
      (splitTimestamp t).nanoseconds.toNat = nanoseconds.toNat := by omega
  rw [← hparts.1, ← UInt32.toNat_inj.mp hparts.2]

/-- A signed 64-bit result; `none` is an overflow. -/
def int64? (value : ℤ) : Option ℤ :=
  if -2 ^ 63 ≤ value ∧ value < 2 ^ 63 then some value else none

lemma int64?_eq {value : ℤ} (hlower : -2 ^ 63 ≤ value) (hupper : value < 2 ^ 63) :
    int64? value = some value :=
  if_pos ⟨hlower, hupper⟩

/-- `split_timestamp` with every signed operation checked. -/
def splitTimestamp? (timestamp : MonitorTimestamp) : Option TimestampParts := do
  let seconds ← int64? (timestamp.count.tdiv nanosecondsPerSecond)
  let nanoseconds ← int64? (timestamp.count.tmod nanosecondsPerSecond)
  if nanoseconds < 0 then
    let seconds ← int64? (seconds - 1)
    let nanoseconds ← int64? (nanoseconds + nanosecondsPerSecond)
    return ⟨seconds, UInt32.ofNat nanoseconds.toNat⟩
  else return ⟨seconds, UInt32.ofNat nanoseconds.toNat⟩

/-- `join_timestamp` with every signed operation checked. -/
def joinTimestamp? (seconds : ℤ) (nanoseconds : UInt32) : Option (Option ℤ) := do
  if !isValidNanoseconds nanoseconds then return none
  let input : TimestampParts := ⟨seconds, nanoseconds⟩
  let minimum ← splitTimestamp? .min
  let maximum ← splitTimestamp? .max
  if input.less minimum || maximum.less input then return none
  if seconds = minimum.seconds then
    let delta := nanoseconds - minimum.nanoseconds
    return some (← int64? (-2 ^ 63 + delta.toNat))
  else
    let total ← int64? (seconds * nanosecondsPerSecond)
    return some (← int64? (total + nanoseconds.toNat))

lemma splitTimestamp?_eq (t : MonitorTimestamp) : splitTimestamp? t = some (splitTimestamp t) := by
  have hlower := t.lower
  have hupper := t.upper
  have hsum := Int.mul_tdiv_add_tmod t.count 1000000000
  have hlt := Int.tmod_lt_of_pos t.count (show (0 : ℤ) < 1000000000 by decide)
  have hgt := Int.lt_tmod_of_pos t.count (show (0 : ℤ) < 1000000000 by decide)
  unfold splitTimestamp? splitTimestamp nanosecondsPerSecond
  rw [int64?_eq (by omega) (by omega), int64?_eq (by omega) (by omega)]
  simp only [bind_eq_bind, bind_some]
  split_ifs with hneg
  · rw [int64?_eq (by omega) (by omega), int64?_eq (by omega) (by omega)]
    rfl
  · rfl

/-- No signed operation of `join_timestamp` leaves the 64-bit range. It returns the one time stamp
that splits into its arguments, if there is one, and splitting keeps the order. -/
theorem joinTimestamp_exact (seconds : Int64) (nanoseconds : UInt32) :
    joinTimestamp? seconds.toInt nanoseconds =
      some ((joinTimestamp seconds.toInt nanoseconds).map MonitorTimestamp.count) ∧
    (∀ timestamp, joinTimestamp seconds.toInt nanoseconds = some timestamp ↔
      splitTimestamp timestamp = ⟨seconds.toInt, nanoseconds⟩) ∧
    ∀ earlier later : MonitorTimestamp, earlier.count < later.count →
      (splitTimestamp earlier).less (splitTimestamp later) = true := by
  refine ⟨?_, fun timestamp => ⟨splitTimestamp_of_join, fun heq => ?_⟩, ?_⟩
  · have hlower := seconds.le_toInt
    have hupper := seconds.toInt_lt
    unfold joinTimestamp? joinTimestamp
    simp only [splitTimestamp?_eq, splitTimestamp_min, splitTimestamp_max, nanosecondsPerSecond,
      bind_eq_bind, bind_some]
    split_ifs with hinvalid hrange hfirst
    · rfl
    · rfl
    all_goals
      have hnanoseconds : nanoseconds.toNat < 1000000000 := by
        simpa [isValidNanoseconds, UInt32.lt_iff_toNat_lt] using hinvalid
      simp only [TimestampParts.less, UInt32.lt_iff_toNat_lt, UInt32.reduceToNat, Bool.or_eq_true,
        Bool.and_eq_true, decide_eq_true_eq, beq_iff_eq] at hrange
    · have hdelta := (nanoseconds - 145224192).toNat_lt
      rw [int64?_eq (by omega) (by omega), map_some, count_ofInt64 (by omega) (by omega)]
      rfl
    · rw [int64?_eq (by omega) (by omega), bind_some, int64?_eq (by omega) (by omega), map_some,
        count_ofInt64 (by omega) (by omega)]
      rfl
  · have hjoin := joinTimestamp_splitTimestamp timestamp
    rwa [heq] at hjoin
  · intro earlier later hlt
    obtain ⟨hseconds, hnanoseconds⟩ := splitTimestamp_eq earlier
    obtain ⟨hseconds', hnanoseconds'⟩ := splitTimestamp_eq later
    unfold nanosecondsPerSecond at hseconds hnanoseconds hseconds' hnanoseconds'
    simp only [TimestampParts.less, UInt32.lt_iff_toNat_lt, Bool.or_eq_true, Bool.and_eq_true,
      decide_eq_true_eq, beq_iff_eq]
    omega

variable {data : Bytes} {header : V2Header} {decoded : DecodedRecord} {record : StoredRecord}

lemma putI64TwosComplement_getI64 {offset : ℕ} (hfits : offset + 8 ≤ data.length) :
    putI64TwosComplement (getI64TwosComplement data offset) = slice data offset 8 := by
  rw [putI64TwosComplement, (getI64TwosComplement_spec data offset).2, Int.toNat_natCast,
    UInt64.ofNat_toNat, putU64_getU64 hfits]

/-! ## What the decoder accepts -/

lemma raw_of_ofRaw {raw : UInt8} {type : WireValueType}
    (htype : WireValueType.ofRaw raw = some type) : type.raw = raw := by
  unfold WireValueType.ofRaw at htype
  split_ifs at htype with hnumeric hstring
  · rw [← some.inj htype, hnumeric]
  · rw [← some.inj htype, hstring]

/-- What `decode_v2` asks of the header. -/
structure AcceptsHeader (data : Bytes) (header : V2Header) : Prop where
  long : v2HeaderSize ≤ data.length
  short : data.length ≤ v2MaxDatagramSize
  version : data.getD 0 0 = WireVersion.v2.raw
  type : data.getD 1 0 = header.type.raw
  flags : getU16 data 2 = v2CurrentFlags
  total : (getU16 data 4).toNat = data.length
  headerLength : (getU16 data 6).toNat = v2HeaderSize
  key : header.key = ⟨getU32 data 8, getU32 data 12, getU32 data 16, getU32 data 20⟩
  seconds : header.seconds = getI64TwosComplement data 24
  nanoseconds : header.nanoseconds = getU32 data 32
  description : header.descriptionLength = getU16 data 36
  value : header.valueLength = getU16 data 38
  fields : header.descriptionLength.toNat + header.valueLength.toNat = data.length - v2HeaderSize

lemma ite_error_eq_ok {ε α : Type*} {p : Prop} [Decidable p] {status : ε} {value : α}
    {otherwise : Except ε α} :
    (if p then .error status else otherwise) = .ok value ↔ ¬ p ∧ otherwise = .ok value := by
  split_ifs <;> simp [*]

lemma acceptsHeader_of_read
    (hread : readV2Header data = .ok header) : AcceptsHeader data header := by
  rw [readV2Header, ite_error_eq_ok, ite_error_eq_ok, ite_error_eq_ok, ite_error_eq_ok] at hread
  obtain ⟨-, hversion, hshort, hlong, hread⟩ := hread
  split at hread
  · cases hread
  · rename_i type htype
    simp only [ite_error_eq_ok, not_not, Bool.or_eq_true, decide_eq_true_eq, not_or] at hread
    obtain ⟨hflags, hheader, -, hlen, -, hfields, hread⟩ := hread
    rw [← Except.ok.inj hread]
    exact ⟨not_lt.mp hshort, not_lt.mp hlong, not_not.mp hversion,
      (raw_of_ofRaw htype).symm, hflags, hlen.2, hheader, rfl, rfl, rfl, rfl, rfl, hfields⟩

/-- The value `decode_v2` reads behind the description. -/
def decodedValue (data : Bytes) (header : V2Header) : MonitorValue :=
  match header.type with
  | .numeric => .numeric ⟨getU32 data (v2HeaderSize + header.descriptionLength.toNat),
      getU32 data (v2HeaderSize + header.descriptionLength.toNat + 4)⟩
  | .string => .string (slice data (v2HeaderSize + header.descriptionLength.toNat)
      header.valueLength.toNat)

lemma decodeV2_eq_ok (hdecode : decodeV2 data = .ok decoded) :
    ∃ header t, AcceptsHeader data header ∧
      (header.type = .numeric → header.valueLength.toNat = v2NumericPayloadSize) ∧
      joinTimestamp header.seconds header.nanoseconds = some t ∧
      decoded = ⟨.v2, ⟨header.key, slice data v2HeaderSize header.descriptionLength.toNat,
        decodedValue data header⟩, some t⟩ := by
  unfold decodeV2 at hdecode
  split at hdecode
  · simp at hdecode
  · rename_i header hread
    split_ifs at hdecode with hnumeric
    split at hdecode
    · simp at hdecode
    · rename_i t hjoin
      refine ⟨header, t, acceptsHeader_of_read hread, ?_, hjoin, ?_⟩
      · intro htype
        by_contra hother
        exact hnumeric ⟨htype, hother⟩
      · obtain rfl := Except.ok.inj hdecode
        rfl

lemma wire_decodedValue (hacc : AcceptsHeader data header)
    (hnumeric : header.type = .numeric → header.valueLength.toNat = v2NumericPayloadSize) :
    (decodedValue data header).wire =
      (header.type, data.drop (v2HeaderSize + header.descriptionLength.toNat)) := by
  unfold decodedValue
  have hfields := hacc.fields
  generalize hstart : v2HeaderSize + header.descriptionLength.toNat = start at *
  cases htype : header.type with
  | numeric =>
    have hvalue : header.valueLength.toNat = 8 := hnumeric htype
    have hdrop : slice data start 4 ++ slice data (start + 4) 4 = data.drop start := by
      rw [← slice_append_drop data start 4, ← slice_append_drop data (start + 4) 4,
        drop_eq_nil_of_le (show data.length ≤ start + 4 + 4 by omega), append_nil]
    simp only [MonitorValue.wire]
    rw [putU32_getU32 (by omega), putU32_getU32 (by omega), hdrop]
  | string =>
    have htake : slice data start header.valueLength.toNat = data.drop start := by
      rw [slice, take_of_length_le]
      rw [length_drop]
      omega
    simp only [MonitorValue.wire, htake]

lemma v2Fields_eq (data : Bytes) :
    slice data 0 1 ++ (slice data 1 1 ++ (slice data 2 2 ++ (slice data 4 2 ++ (slice data 6 2 ++
      (slice data 8 4 ++ (slice data 12 4 ++ (slice data 16 4 ++ (slice data 20 4 ++
        (slice data 24 8 ++ (slice data 32 4 ++ (slice data 36 2 ++ (slice data 38 2 ++
          data.drop 40)))))))))))) = data := by
  simp only [slice_append_drop data 38 2, slice_append_drop data 36 2, slice_append_drop data 32 4,
    slice_append_drop data 24 8, slice_append_drop data 20 4, slice_append_drop data 16 4,
    slice_append_drop data 12 4, slice_append_drop data 8 4, slice_append_drop data 6 2,
    slice_append_drop data 4 2, slice_append_drop data 2 2, slice_append_drop data 1 1,
    slice_append_drop data 0 1, drop_zero]

lemma v2HeaderBytes_of_accepted
    (hacc : AcceptsHeader data header) (hkey : record.data.key = header.key)
    (hlen : record.data.description.length = header.descriptionLength.toNat)
    (hsplit : splitTimestamp record.changedAt = ⟨header.seconds, header.nanoseconds⟩) :
    v2HeaderBytes record header.type data.length header.valueLength.toNat ++ data.drop 40 =
      data := by
  have hlong : 40 ≤ data.length := hacc.long
  conv_rhs => rw [← v2Fields_eq data]
  simp only [v2HeaderBytes, append_assoc, hkey, hlen, hsplit, hacc.key,
    hacc.seconds, hacc.nanoseconds, hacc.description, hacc.value,
    ← hacc.headerLength, ← hacc.total, ← hacc.version, ← hacc.type,
    ← hacc.flags, UInt16.ofNat_toNat]
  rw [putI64TwosComplement_getI64 (by omega)]
  simp only [putU16_getU16 (show 2 + 2 ≤ data.length by omega),
    putU16_getU16 (show 4 + 2 ≤ data.length by omega),
    putU16_getU16 (show 6 + 2 ≤ data.length by omega),
    putU16_getU16 (show 36 + 2 ≤ data.length by omega),
    putU16_getU16 (show 38 + 2 ≤ data.length by omega),
    putU32_getU32 (show 8 + 4 ≤ data.length by omega),
    putU32_getU32 (show 12 + 4 ≤ data.length by omega),
    putU32_getU32 (show 16 + 4 ≤ data.length by omega),
    putU32_getU32 (show 20 + 4 ≤ data.length by omega),
    putU32_getU32 (show 32 + 4 ≤ data.length by omega),
    slice_one (show 0 < data.length by omega), slice_one (show 1 < data.length by omega)]

/-! ## The codec as a bijection -/

lemma encodeV2_of_fits
    (hfits : v2HeaderSize + record.data.description.length + record.data.value.wire.2.length ≤
      v2MaxDatagramSize) : encodeV2 record = .ok (v2Wire record) := by
  have hmax : v2MaxDatagramSize = 1200 := rfl
  have hdescription : ¬ record.data.description.length > v2MaxDatagramSize - v2HeaderSize := by
    omega
  have hvalue : ¬ record.data.value.wire.2.length >
      v2MaxDatagramSize - v2HeaderSize - record.data.description.length := by omega
  have hfields : (decide (record.data.description.length > 65535) ||
      decide (record.data.value.wire.2.length > 65535)) = false := by
    simp only [Bool.or_eq_false_iff, decide_eq_false_iff_not]
    omega
  unfold encodeV2 writeV2Header
  simp only [hdescription, hvalue, hfields, not_lt.mpr hfits, if_false, Bool.false_eq_true,
    ne_eq, not_true_eq_false, isValidNanoseconds_splitTimestamp, Bool.not_true]
  rfl

lemma encodeV2_of_decodeV2 (hdecode : decodeV2 data = .ok decoded) :
    ∃ t, decoded = ⟨.v2, decoded.data, some t⟩ ∧ encodeV2 ⟨decoded.data, t⟩ = .ok data := by
  obtain ⟨header, t, hacc, hnumeric, hjoin, rfl⟩ := decodeV2_eq_ok hdecode
  refine ⟨t, rfl, ?_⟩
  have hwire := wire_decodedValue hacc hnumeric
  have hlong := hacc.long
  have hfields := hacc.fields
  have hdescription : (slice data v2HeaderSize header.descriptionLength.toNat).length =
      header.descriptionLength.toNat := length_slice (by omega)
  have hvalue : (data.drop (v2HeaderSize + header.descriptionLength.toNat)).length =
      header.valueLength.toNat := by
    rw [length_drop]
    omega
  have htotal : v2HeaderSize + header.descriptionLength.toNat + header.valueLength.toNat =
      data.length := by omega
  rw [encodeV2_of_fits]
  · simp only [v2Wire, hwire, hdescription, hvalue, htotal, slice_append_drop]
    exact congrArg _ (v2HeaderBytes_of_accepted hacc rfl hdescription
      (splitTimestamp_of_join hjoin))
  · simp only [hwire, hdescription, hvalue, htotal]
    exact hacc.short

lemma decode_v2Wire (record : StoredRecord) :
    decode (v2Wire record) = decodeV2 (v2Wire record) := by
  have hlen : 0 < (v2Wire record).length := by
    rw [v2Wire, length_append, length_v2HeaderBytes]
    omega
  have hversion := (slice_v2Wire record).1
  rw [slice_one hlen, cons.injEq] at hversion
  rw [decode, if_neg hlen.ne', hversion.1, if_neg (by decide), if_pos rfl]

/-- `encode_v2` succeeds exactly on the records that fit in a datagram; `decode` and
`decode_v2` give back what was encoded; and an accepted datagram is what `encode_v2`
writes for the record it decodes to. -/
theorem v2_codec_bijective : (∀ record : StoredRecord, (∃ bytes, encodeV2 record = .ok bytes) ↔
      40 + record.data.description.length + record.data.value.wire.2.length ≤ 1200) ∧
    (∀ record bytes, encodeV2 record = .ok bytes →
      decode bytes = .ok ⟨.v2, record.data, some record.changedAt⟩ ∧
        decodeV2 bytes = .ok ⟨.v2, record.data, some record.changedAt⟩) ∧
    (∀ bytes decoded, decodeV2 bytes = .ok decoded →
      ∃ timestamp, decoded = ⟨.v2, decoded.data, some timestamp⟩ ∧
        encodeV2 ⟨decoded.data, timestamp⟩ = .ok bytes) := by
  refine ⟨fun record => ⟨fun ⟨bytes, hencode⟩ => (encodeV2_eq_ok hencode).1,
    fun hfits => ⟨v2Wire record, encodeV2_of_fits hfits⟩⟩, fun record bytes hencode => ?_,
    fun bytes decoded hdecode => encodeV2_of_decodeV2 hdecode⟩
  have hdecode := decodeV2_encodeV2 hencode
  obtain ⟨-, rfl⟩ := encodeV2_eq_ok hencode
  exact ⟨(decode_v2Wire record).trans hdecode, hdecode⟩

/-! ## The codec of version 1 -/

def v1Header (type : WireValueType) (key : MonitorKey) : Bytes :=
  [WireVersion.v1.raw] ++ ([type.raw] ++ (putU32 key.mid ++ (putU32 key.fid ++
    (putU32 key.eid ++ putU32 key.level))))

def encodeV1 (record : StoredRecord) : Except WireError Bytes :=
  match record.data.value with
  | .numeric number =>
    .ok (v1Header .numeric record.data.key ++ (putU32 number.value ++ putU32 number.state))
  | .string text =>
    -- what follows a NUL is not sent
    let content := text.takeWhile (· ≠ 0)
    if content.length > v1MaxStringContentSize then .error .stringTooLong
    else .ok (v1Header .string record.data.key ++ (content ++ [0]))

/-- What version 1 carries of a value. -/
def MonitorValue.beforeNul : MonitorValue → MonitorValue
  | .numeric number => .numeric number
  | .string text => .string (text.takeWhile (· ≠ 0))

def MonitorValue.FitsV1 : MonitorValue → Prop
  | .numeric _ => True
  | .string text => (text.takeWhile (· ≠ 0)).length ≤ v1MaxStringContentSize

def MonitorValue.sizeV1 : MonitorValue → ℕ
  | .numeric _ => v1NumericDatagramSize
  | .string text => v1HeaderSize + text.length + 1

lemma readV1Key_v1Header (type : WireValueType) (key : MonitorKey) (payload : Bytes) :
    readV1Key (v1Header type key ++ payload) = key := by
  have hslices : slice (v1Header type key ++ payload) 2 4 = putU32 key.mid ∧
      slice (v1Header type key ++ payload) 6 4 = putU32 key.fid ∧
      slice (v1Header type key ++ payload) 10 4 = putU32 key.eid ∧
      slice (v1Header type key ++ payload) 14 4 = putU32 key.level := by
    simp (disch := simp) only [v1Header, append_assoc, slice_append_of_length_le,
      slice_append_of_le_length, slice_zero_of_length, length_singleton, length_putU32,
      Nat.reduceSub, and_self]
  obtain ⟨hmid, hfid, heid, hlevel⟩ := hslices
  rw [readV1Key, getU32_of_slice hmid, getU32_of_slice hfid, getU32_of_slice heid,
    getU32_of_slice hlevel]

lemma takeWhile_append_nul (text : Bytes) :
    (text.takeWhile (· ≠ 0) ++ [0]).takeWhile (· ≠ 0) = text.takeWhile (· ≠ 0) := by
  rw [takeWhile_append_of_pos fun _ => mem_takeWhile_imp]
  simp

/-- A value that fits is sent, and comes back up to its first NUL. -/
lemma encodeV1_of_fits (record : StoredRecord) (hfits : record.data.value.FitsV1) :
    ∃ wire, encodeV1 record = .ok wire ∧ wire.length = record.data.value.beforeNul.sizeV1 ∧
      decodeV1 wire = .ok ⟨.v1, ⟨record.data.key, [], record.data.value.beforeNul⟩, none⟩ := by
  have hheader (type : WireValueType) : (v1Header type record.data.key).length = 18 := by
    simp [v1Header]
  have hkey := fun type => readV1Key_v1Header type record.data.key
  unfold encodeV1
  cases hvalue : record.data.value with
  | numeric n =>
    set payload := putU32 n.value ++ putU32 n.state with hpayload
    have hlen : (v1Header .numeric record.data.key ++ payload).length = 26 := by
      simp [hheader, hpayload]
    have hvalues : getU32 (v1Header .numeric record.data.key ++ payload) 18 = n.value ∧
        getU32 (v1Header .numeric record.data.key ++ payload) 22 = n.state := by
      constructor
      all_goals
        apply getU32_of_slice
        simp (disch := simp [hheader]) only [hpayload, slice_append_of_length_le, hheader,
          slice_append_of_le_length, slice_zero_of_length, length_putU32, Nat.reduceSub]
    refine ⟨_, rfl, hlen, ?_⟩
    unfold decodeV1
    rw [hlen, hkey, hvalues.1, hvalues.2]
    rfl
  | string text =>
    rw [hvalue] at hfits
    set content := text.takeWhile (· ≠ 0) with hcontent
    have hle : content.length ≤ 63 := hfits
    have hlen : (v1Header .string record.data.key ++ (content ++ [0])).length =
        18 + content.length + 1 := by
      simp [hheader, add_assoc]
    have hpayload : (v1Header .string record.data.key ++ (content ++ [0])).drop 18 =
        content ++ [0] := by
      rw [← hheader .string, drop_left]
    have hversion : (v1Header .string record.data.key ++ (content ++ [0])).getD 0 0 =
        WireVersion.v1.raw := rfl
    dsimp only
    rw [if_neg (not_lt.mpr hfits)]
    refine ⟨_, rfl, hlen, ?_⟩
    unfold decodeV1
    rw [hlen, hkey, v1HeaderSize, hpayload, hcontent, takeWhile_append_nul, ← hcontent,
      if_neg (by omega), if_neg (not_not.mpr hversion), if_neg (by omega),
      if_neg (by rw [v1MaxDatagramSize]; omega)]
    exact if_neg (not_lt.mpr hfits)

lemma decodeV1_eq_ok {datagram : Bytes} {decoded : DecodedRecord}
    (hdecode : decodeV1 datagram = .ok decoded) :
    datagram.getD 0 0 = WireVersion.v1.raw ∧ datagram ≠ [] ∧
      decoded = ⟨.v1, ⟨decoded.data.key, [], decoded.data.value⟩, none⟩ ∧
      decoded.data.value.FitsV1 ∧ decoded.data.value.beforeNul = decoded.data.value ∧
      decoded.data.value.sizeV1 ≤ datagram.length + 1 := by
  unfold decodeV1 at hdecode
  rcases htype : WireValueType.ofRaw (datagram.getD 1 0) with _ | _ | _ <;>
    rw [htype] at hdecode <;> dsimp only at hdecode
  · split_ifs at hdecode
  all_goals
    split_ifs at hdecode with hempty hversion hshort hlong hlast
    obtain rfl := Except.ok.inj hdecode
    refine ⟨not_not.mp hversion, fun hnil => hempty (by rw [hnil]; rfl), rfl, ?_, ?_, ?_⟩
  · trivial
  · rfl
  · exact Nat.le_succ_of_le (not_lt.mp hlast)
  · dsimp only [MonitorValue.FitsV1]
    rw [takeWhile_idem]
    exact not_lt.mp hlast
  · dsimp only [MonitorValue.beforeNul]
    rw [takeWhile_idem]
  · have hle := (takeWhile_sublist (p := (· ≠ 0)) (l := datagram.drop v1HeaderSize)).length_le
    rw [length_drop] at hle
    dsimp only [MonitorValue.sizeV1]
    omega

/-- Version 1 is a retraction. A record is encoded if it is numeric or what its string holds in
front of the first NUL is at most 63 bytes, and that much of it is decoded again. What is decoded
from a datagram can be encoded, in at most one byte more, and is decoded from that again. No
datagram is of both versions. -/
theorem v1_codec_retracts : (∀ record : StoredRecord,
      ((∃ wire, encodeV1 record = .ok wire) ↔ record.data.value.FitsV1) ∧
      ∀ wire, encodeV1 record = .ok wire →
        decode wire = .ok ⟨.v1, ⟨record.data.key, [], record.data.value.beforeNul⟩, none⟩) ∧
    (∀ datagram decoded, decodeV1 datagram = .ok decoded → ∀ changedAt,
      ∃ wire, encodeV1 ⟨decoded.data, changedAt⟩ = .ok wire ∧
        wire.length ≤ datagram.length + 1 ∧ decodeV1 wire = .ok decoded) ∧
    ∀ datagram decoded, decodeV1 datagram = .ok decoded →
      ∀ other, decodeV2 datagram ≠ .ok other := by
  refine ⟨fun record => ?_, fun datagram decoded hdecode changedAt => ?_,
    fun datagram decoded hdecode other hother => ?_⟩
  · have hsent : ∀ wire, encodeV1 record = .ok wire → record.data.value.FitsV1 := by
      intro wire hencode
      unfold encodeV1 at hencode
      cases hvalue : record.data.value with
      | numeric number => trivial
      | string text =>
        rw [hvalue] at hencode
        dsimp only at hencode
        split_ifs at hencode with hlong
        exact Nat.not_lt.mp hlong
    refine ⟨⟨fun ⟨wire, hencode⟩ => hsent wire hencode, fun hfits => ?_⟩, fun wire hencode => ?_⟩
    · obtain ⟨wire, hencode, -⟩ := encodeV1_of_fits record hfits
      exact ⟨wire, hencode⟩
    · obtain ⟨wire', hencode', -, hdecode⟩ := encodeV1_of_fits record (hsent wire hencode)
      obtain rfl : wire = wire' := Except.ok.inj (hencode.symm.trans hencode')
      obtain ⟨hversion, hsome, -⟩ := decodeV1_eq_ok hdecode
      rw [decode, if_neg (by simpa using hsome), if_pos hversion, hdecode]
  · obtain ⟨-, -, heq, hfits, hnul, hsize⟩ := decodeV1_eq_ok hdecode
    obtain ⟨wire, hencode, hlength, hwire⟩ := encodeV1_of_fits ⟨decoded.data, changedAt⟩ hfits
    refine ⟨wire, hencode, ?_, ?_⟩
    · rw [hlength, hnul]
      exact hsize
    · rw [hwire, hnul, ← heq]
  · obtain ⟨hversion, -⟩ := decodeV1_eq_ok hdecode
    obtain ⟨header, stamp, haccepts, -⟩ := decodeV2_eq_ok hother
    exact absurd (hversion.symm.trans haccepts.version) (by decide)

end Tlss.Monitor
