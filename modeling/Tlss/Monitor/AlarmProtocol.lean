import Tlss.Library.BigEndian

/-!
# The alarm envelope

`alarm_protocol.cpp`: a 48-byte header (magic, version, type, flags, payload
length, source id, message id, timestamp, checksum) and a payload. An encoder
writes the fields one behind the other, so the encoding is the concatenation of
its fields; a decoder reads them at their offsets.

The checks come in the order of the source, since the first one that fails is
the status the caller sees. Running out of memory is not modelled, so there is no
`ALLOCATION_FAILED` here.
-/

namespace Tlss.Monitor

open Library List

/-! ## Frames -/

/-- `AlarmFrameType`: an enumeration over a byte. Any byte can be cast to it,
which is why the encoder checks it. -/
structure AlarmFrameType where
  raw : UInt8
deriving DecidableEq, Repr

namespace AlarmFrameType

def alarm : AlarmFrameType := ⟨1⟩

def ack : AlarmFrameType := ⟨2⟩

def ping : AlarmFrameType := ⟨3⟩

def pong : AlarmFrameType := ⟨4⟩

def isValid (type : AlarmFrameType) : Bool :=
  type == alarm || type == ack || type == ping || type == pong

def requiresPayload (type : AlarmFrameType) : Bool := type == alarm

def isControl (type : AlarmFrameType) : Bool := type == ack || type == ping || type == pong

end AlarmFrameType

def alarmMessageIdSize : ℕ := 16

/-- `AlarmMessageId`: sixteen bytes. -/
structure AlarmMessageId where
  bytes : Bytes
  length_eq : bytes.length = alarmMessageIdSize
deriving DecidableEq, Repr

lemma AlarmMessageId.ext_bytes {left right : AlarmMessageId} (hbytes : left.bytes = right.bytes) :
    left = right := by
  cases left
  cases right
  simpa using hbytes

instance : Inhabited AlarmMessageId := ⟨⟨replicate 16 0, rfl⟩⟩

structure AlarmFrame where
  type : AlarmFrameType
  sourceId : UInt64
  messageId : AlarmMessageId
  timestampMs : UInt64
  payload : Bytes
deriving DecidableEq, Repr

/-- `AlarmProtocolStatus`, without `SUCCESS`, which is the other half of the
`Except`, and without the status of the payload decoder, which is not set here. -/
inductive AlarmProtocolError where
  | emptyInput
  | shortHeader
  | wrongMagic
  | wrongVersion
  | invalidType
  | invalidFlags
  | invalidPayloadLength
  | payloadTooLarge
  | invalidTotalLength
  | crcMismatch
deriving DecidableEq, Repr

/-! ## Layout -/

def alarmMagic : Bytes := [0x53, 0x4d, 0x41, 0x31]

def alarmProtocolVersion : UInt8 := 1

def alarmCurrentFlags : UInt16 := 0

def alarmMaxPayloadSize : ℕ := 4096

def alarmHeaderSize : ℕ := 48

def alarmMaxFrameSize : ℕ := alarmHeaderSize + alarmMaxPayloadSize

/-! ## Checksum -/

def crc32Initial : UInt32 := 0xffffffff

def crc32Polynomial : UInt32 := 0xedb88320

/-- One of the eight shifts per byte. The mask is all ones exactly if the low
bit is set. -/
def crc32Shift (crc : UInt32) : UInt32 :=
  let mask := 0 - (crc &&& 1)
  (crc >>> 1) ^^^ (crc32Polynomial &&& mask)

def crc32Update (crc : UInt32) (data : Bytes) : UInt32 :=
  data.foldl (fun crc byte => Nat.iterate crc32Shift 8 (crc ^^^ byte.toUInt32)) crc

/-- `calculate_frame_crc`: over the header up to the checksum and over the
payload, but not over the checksum itself. -/
def calculateFrameCrc (data : Bytes) (payloadSize : ℕ) : UInt32 :=
  let crc := crc32Update crc32Initial (slice data 0 44)
  let crc := crc32Update crc (slice data alarmHeaderSize payloadSize)
  crc ^^^ crc32Initial

/-! ## Encoder and decoder -/

def validateFrameDescription (type : AlarmFrameType) (payloadSize : ℕ) :
    Except AlarmProtocolError Unit :=
  if !type.isValid then .error .invalidType
  else if payloadSize > alarmMaxPayloadSize then .error .payloadTooLarge
  else if type.requiresPayload && payloadSize == 0 then .error .invalidPayloadLength
  else if type.isControl && payloadSize != 0 then .error .invalidPayloadLength
  else .ok ()

def headerFields (frame : AlarmFrame) : Bytes :=
  alarmMagic ++ ([alarmProtocolVersion] ++ ([frame.type.raw] ++ (putU16 alarmCurrentFlags ++
    (putU32 (UInt32.ofNat frame.payload.length) ++ (putU64 frame.sourceId ++
      (frame.messageId.bytes ++ putU64 frame.timestampMs))))))

def encodeAlarmFrame (frame : AlarmFrame) : Except AlarmProtocolError Bytes :=
  match validateFrameDescription frame.type frame.payload.length with
  | .error status => .error status
  | .ok () =>
    -- the vector is zeroed, so the checksum is computed with zeros in its place
    let bytes := headerFields frame ++ (putU32 0 ++ frame.payload)
    let crc := calculateFrameCrc bytes frame.payload.length
    .ok (headerFields frame ++ (putU32 crc ++ frame.payload))

def isValidRawType (rawType : UInt8) : Bool :=
  rawType ≥ AlarmFrameType.alarm.raw && rawType ≤ AlarmFrameType.pong.raw

/-- `alarm_frame_size`: the length of the frame a prefix announces. -/
def alarmFrameSize (data : Bytes) : Except AlarmProtocolError ℕ :=
  if data.length = 0 then .error .emptyInput
  else if data.length < alarmHeaderSize then .error .shortHeader
  else if slice data 0 4 ≠ alarmMagic then .error .wrongMagic
  else if data.getD 4 0 ≠ alarmProtocolVersion then .error .wrongVersion
  else if !isValidRawType (data.getD 5 0) then .error .invalidType
  else if getU16 data 6 ≠ alarmCurrentFlags then .error .invalidFlags
  else
    let payloadLength := (getU32 data 8).toNat
    match validateFrameDescription ⟨data.getD 5 0⟩ payloadLength with
    | .error status => .error status
    | .ok () => .ok (alarmHeaderSize + payloadLength)

def readMessageId (data : Bytes) : AlarmMessageId :=
  if hfits : 20 + alarmMessageIdSize ≤ data.length then
    ⟨slice data 20 alarmMessageIdSize, length_slice hfits⟩
  else default

def decodeAlarmFrame (data : Bytes) : Except AlarmProtocolError AlarmFrame :=
  match alarmFrameSize data with
  | .error status => .error status
  | .ok frameSize =>
    if data.length ≠ frameSize then .error .invalidTotalLength
    else
      let payloadSize := data.length - alarmHeaderSize
      if getU32 data 44 ≠ calculateFrameCrc data payloadSize then .error .crcMismatch
      else
        .ok ⟨⟨data.getD 5 0⟩, getU64 data 12, readMessageId data, getU64 data 36,
          data.drop alarmHeaderSize⟩

/-! ## Descriptions -/

def AlarmFrame.Valid (frame : AlarmFrame) : Prop :=
  validateFrameDescription frame.type frame.payload.length = .ok ()

instance (frame : AlarmFrame) : Decidable frame.Valid :=
  inferInstanceAs (Decidable (_ = _))

variable {type : AlarmFrameType} {frame : AlarmFrame} {d : Bytes} {payloadSize frameSize : ℕ}

lemma payloadSize_le_of_validate (hvalid : validateFrameDescription type payloadSize = .ok ()) :
    payloadSize ≤ alarmMaxPayloadSize := by
  unfold validateFrameDescription at hvalid
  split_ifs at hvalid
  omega

lemma isValid_of_validate
    (hvalid : validateFrameDescription type payloadSize = .ok ()) : type.isValid := by
  unfold validateFrameDescription at hvalid
  split_ifs at hvalid with htype
  simpa using htype

lemma isValidRawType_of_isValid (hvalid : type.isValid) : isValidRawType type.raw := by
  obtain ⟨raw⟩ := type
  simp only [AlarmFrameType.isValid, AlarmFrameType.alarm, AlarmFrameType.ack,
    AlarmFrameType.ping, AlarmFrameType.pong, Bool.or_eq_true, beq_iff_eq,
    AlarmFrameType.mk.injEq] at hvalid
  rcases hvalid with ((rfl | rfl) | rfl) | rfl <;> decide

lemma valid_control (hcontrol : type.isControl)
    (sourceId : UInt64) (messageId : AlarmMessageId) (timestampMs : UInt64) :
    (AlarmFrame.mk type sourceId messageId timestampMs []).Valid := by
  simp only [AlarmFrameType.isControl, Bool.or_eq_true, beq_iff_eq] at hcontrol
  rcases hcontrol with (rfl | rfl) | rfl <;> rfl

/-! ## What an encoding looks like -/

def alarmWire (frame : AlarmFrame) : Bytes :=
  headerFields frame ++
    (putU32 (calculateFrameCrc (headerFields frame ++ (putU32 0 ++ frame.payload))
      frame.payload.length) ++ frame.payload)

lemma encodeAlarmFrame_of_valid (hvalid : frame.Valid) :
    encodeAlarmFrame frame = .ok (alarmWire frame) := by
  unfold encodeAlarmFrame
  rw [show validateFrameDescription frame.type frame.payload.length = .ok () from hvalid]
  rfl

lemma encodeAlarmFrame_eq_ok {bytes : Bytes}
    (hencode : encodeAlarmFrame frame = .ok bytes) : frame.Valid ∧ bytes = alarmWire frame := by
  have hvalid : frame.Valid := by
    unfold encodeAlarmFrame at hencode
    unfold AlarmFrame.Valid
    cases h : validateFrameDescription frame.type frame.payload.length with
    | error status => simp [h] at hencode
    | ok => rfl
  rw [encodeAlarmFrame_of_valid hvalid] at hencode
  exact ⟨hvalid, (Except.ok.inj hencode).symm⟩

@[simp] lemma length_headerFields (frame : AlarmFrame) : (headerFields frame).length = 44 := by
  simp [headerFields, alarmMagic, frame.messageId.length_eq, alarmMessageIdSize]

@[simp] lemma length_alarmWire (frame : AlarmFrame) :
    (alarmWire frame).length = alarmHeaderSize + frame.payload.length := by
  simp only [alarmWire, length_append, length_headerFields, length_putU32, alarmHeaderSize]
  omega

lemma calculateFrameCrc_append {front crc : Bytes} (payload : Bytes) (hfront : front.length = 44)
    (hcrc : crc.length = 4) : calculateFrameCrc (front ++ (crc ++ payload)) payload.length =
      crc32Update (crc32Update crc32Initial front) payload ^^^ crc32Initial := by
  have hhead : slice (front ++ (crc ++ payload)) 0 44 = front := by
    rw [slice_append_of_le_length (by omega), slice_zero_of_length hfront]
  have htail : slice (front ++ (crc ++ payload)) alarmHeaderSize payload.length = payload := by
    unfold alarmHeaderSize
    rw [slice_append_of_length_le (by omega), slice_append_of_length_le (by omega), hfront, hcrc,
      slice_zero_of_length rfl]
  simp only [calculateFrameCrc, hhead, htail]

lemma slice_alarmWire (frame : AlarmFrame) : slice (alarmWire frame) 0 4 = alarmMagic ∧
      slice (alarmWire frame) 4 1 = [alarmProtocolVersion] ∧
      slice (alarmWire frame) 5 1 = [frame.type.raw] ∧
      slice (alarmWire frame) 6 2 = putU16 alarmCurrentFlags ∧
      slice (alarmWire frame) 8 4 = putU32 (UInt32.ofNat frame.payload.length) ∧
      slice (alarmWire frame) 12 8 = putU64 frame.sourceId ∧
      slice (alarmWire frame) 20 16 = frame.messageId.bytes ∧
      slice (alarmWire frame) 36 8 = putU64 frame.timestampMs := by
  have hmagic : alarmMagic.length = 4 := rfl
  have hid : frame.messageId.bytes.length = 16 := frame.messageId.length_eq
  -- walk over the fields in front of the one that is read
  simp (disch := simp [hmagic, hid]) only [alarmWire, headerFields, append_assoc,
    slice_append_of_length_le, slice_append_of_le_length, slice_zero_of_length, hmagic, hid,
    length_singleton, length_putU16, length_putU32, length_putU64, Nat.reduceSub, and_self]

/-! ## What a decoder accepts -/

/-- The header announces a frame of `frameSize` bytes. -/
structure Announces (data : Bytes) (frameSize : ℕ) : Prop where
  header : alarmHeaderSize ≤ data.length
  magic : slice data 0 4 = alarmMagic
  version : data.getD 4 0 = alarmProtocolVersion
  rawType : isValidRawType (data.getD 5 0) = true
  flags : getU16 data 6 = alarmCurrentFlags
  description : validateFrameDescription ⟨data.getD 5 0⟩ (getU32 data 8).toNat = .ok ()
  size : frameSize = alarmHeaderSize + (getU32 data 8).toNat

lemma alarmFrameSize_eq_ok_iff (d : Bytes) (frameSize : ℕ) :
    alarmFrameSize d = .ok frameSize ↔ Announces d frameSize := by
  constructor
  · intro hsize
    unfold alarmFrameSize at hsize
    split_ifs at hsize with hempty hshort hmagic hversion htype hflags
    dsimp only at hsize
    split at hsize
    · simp at hsize
    · rename_i hdescription
      exact ⟨by omega, not_not.mp hmagic, not_not.mp hversion, by simpa using htype,
        not_not.mp hflags, hdescription, (Except.ok.inj hsize).symm⟩
  · rintro ⟨hheader, hmagic, hversion, htype, hflags, hdescription, rfl⟩
    have hlen : d.length ≠ 0 := by
      unfold alarmHeaderSize at hheader
      omega
    simp only [alarmFrameSize, hlen, Nat.not_lt.mpr hheader, hmagic, hversion, htype, hflags,
      hdescription, ne_eq, not_true_eq_false, Bool.not_true, Bool.false_eq_true, if_false]

lemma Announces.le_size (hann : Announces d frameSize) : alarmHeaderSize ≤ frameSize := by
  rw [hann.size]
  exact Nat.le_add_right _ _

lemma Announces.size_le (hann : Announces d frameSize) : frameSize ≤ alarmMaxFrameSize := by
  rw [hann.size, alarmMaxFrameSize]
  exact Nat.add_le_add_left (payloadSize_le_of_validate hann.description) _

lemma alarmFrameSize_append (more : Bytes) (hheader : alarmHeaderSize ≤ d.length) :
    alarmFrameSize (d ++ more) = alarmFrameSize d := by
  unfold alarmHeaderSize at hheader
  have hgetD : ∀ i, i < 48 → (d ++ more).getD i 0 = d.getD i 0 := by
    intro i hi
    have hlt : i < d.length := by omega
    simp only [getD_eq_getElem?_getD, getElem?_append_left hlt]
  have hslice : ∀ offset width, offset + width ≤ 48 →
      slice (d ++ more) offset width = slice d offset width :=
    fun offset width hle => slice_append_of_le_length (by omega)
  have hflags : getU16 (d ++ more) 6 = getU16 d 6 := by
    rw [getU16, getU16, hslice 6 2 (by omega)]
  have hpayload : getU32 (d ++ more) 8 = getU32 d 8 := by
    rw [getU32, getU32, hslice 8 4 (by omega)]
  have hempty : ¬ (d ++ more).length = 0 := by rw [length_append]; omega
  have hempty' : ¬ d.length = 0 := by omega
  have hshort : ¬ (d ++ more).length < 48 := by rw [length_append]; omega
  have hshort' : ¬ d.length < 48 := by omega
  simp only [alarmFrameSize, alarmHeaderSize, hempty, hempty', hshort, hshort', if_false,
    hgetD 4 (by omega), hgetD 5 (by omega), hslice 0 4 (by omega), hflags, hpayload]

lemma decodeAlarmFrame_eq_ok_iff (d : Bytes) (frame : AlarmFrame) :
    decodeAlarmFrame d = .ok frame ↔ Announces d d.length ∧
        getU32 d 44 = calculateFrameCrc d (d.length - alarmHeaderSize) ∧
        frame = ⟨⟨d.getD 5 0⟩, getU64 d 12, readMessageId d, getU64 d 36,
          d.drop alarmHeaderSize⟩ := by
  unfold decodeAlarmFrame
  constructor
  · intro hdecode
    split at hdecode
    · simp at hdecode
    · rename_i frameSize hsize
      dsimp only at hdecode
      split_ifs at hdecode with hlen hcrc
      rw [not_not] at hlen hcrc
      rw [alarmFrameSize_eq_ok_iff, ← hlen] at hsize
      exact ⟨hsize, hcrc, (Except.ok.inj hdecode).symm⟩
  · rintro ⟨hann, hcrc, rfl⟩
    rw [(alarmFrameSize_eq_ok_iff d d.length).mpr hann]
    simp [hcrc]

/-! ## Round trips -/

lemma announces_alarmWire (hvalid : frame.Valid) :
    Announces (alarmWire frame) (alarmWire frame).length := by
  obtain ⟨hmagic, hversion, htype, hflags, hlen, -, -, -⟩ := slice_alarmWire frame
  have hle : alarmHeaderSize ≤ (alarmWire frame).length := by simp
  have hbound : 5 < (alarmWire frame).length := by
    unfold alarmHeaderSize at hle
    omega
  rw [slice_one (by omega), cons.injEq] at hversion htype
  have hsmall := payloadSize_le_of_validate hvalid
  have hpayload : (getU32 (alarmWire frame) 8).toNat = frame.payload.length := by
    rw [getU32_of_slice hlen, UInt32.toNat_ofNat_of_lt']
    exact lt_of_le_of_lt hsmall (by decide)
  refine ⟨hle, hmagic, hversion.1, ?_, getU16_of_slice hflags, ?_, ?_⟩
  · rw [htype.1]
    exact isValidRawType_of_isValid (isValid_of_validate hvalid)
  · rw [htype.1, hpayload]
    exact hvalid
  · rw [hpayload, length_alarmWire]

lemma decodeAlarmFrame_encode (hvalid : frame.Valid) :
    decodeAlarmFrame (alarmWire frame) = .ok frame := by
  obtain ⟨-, -, htype, -, -, hsource, hid, htimestamp⟩ := slice_alarmWire frame
  have hlen := length_alarmWire frame
  have hann := announces_alarmWire hvalid
  unfold alarmHeaderSize at hlen
  rw [slice_one (by omega), cons.injEq] at htype
  have hcrc : slice (alarmWire frame) 44 4 =
      putU32 (calculateFrameCrc (headerFields frame ++ (putU32 0 ++ frame.payload))
        frame.payload.length) := by
    rw [alarmWire, slice_append_of_length_le (by simp), length_headerFields,
      slice_append_of_le_length (by simp), slice_zero_of_length (by simp)]
  have hpayload : (alarmWire frame).drop alarmHeaderSize = frame.payload := by
    rw [alarmWire, ← append_assoc]
    exact drop_left' (by simp [alarmHeaderSize])
  rw [decodeAlarmFrame_eq_ok_iff]
  refine ⟨hann, ?_, ?_⟩
  · have hsize : (alarmWire frame).length - alarmHeaderSize = frame.payload.length := by
      unfold alarmHeaderSize
      omega
    rw [getU32_of_slice hcrc, hsize, alarmWire,
      calculateFrameCrc_append _ (length_headerFields frame) (length_putU32 _),
      calculateFrameCrc_append _ (length_headerFields frame) (length_putU32 _)]
  · have hmessage : readMessageId (alarmWire frame) = frame.messageId := by
      have hfits : 20 + alarmMessageIdSize ≤ (alarmWire frame).length := by
        unfold alarmMessageIdSize
        omega
      unfold readMessageId
      rw [dif_pos hfits]
      exact AlarmMessageId.ext_bytes hid
    rw [htype.1, getU64_of_slice hsource, hmessage, getU64_of_slice htimestamp, hpayload]

lemma fields_eq (d : Bytes) :
    slice d 0 4 ++ (slice d 4 1 ++ (slice d 5 1 ++ (slice d 6 2 ++ (slice d 8 4 ++
      (slice d 12 8 ++ (slice d 20 16 ++ (slice d 36 8 ++ (slice d 44 4 ++
        d.drop 48)))))))) = d := by
  simp only [slice_append_drop d 44 4, slice_append_drop d 36 8, slice_append_drop d 20 16,
    slice_append_drop d 12 8, slice_append_drop d 8 4, slice_append_drop d 6 2,
    slice_append_drop d 5 1, slice_append_drop d 4 1, slice_append_drop d 0 4,
    drop_zero]

lemma encodeAlarmFrame_decode
    (hdecode : decodeAlarmFrame d = .ok frame) : frame.Valid ∧ alarmWire frame = d := by
  obtain ⟨hann, hcrc, rfl⟩ := (decodeAlarmFrame_eq_ok_iff d frame).mp hdecode
  have hsize : d.length = 48 + (getU32 d 8).toNat := hann.size
  have hpayload : (d.drop alarmHeaderSize).length = (getU32 d 8).toNat := by
    rw [length_drop, alarmHeaderSize]
    omega
  have hid : (readMessageId d).bytes = slice d 20 16 := by
    unfold readMessageId
    rw [dif_pos (show 20 + alarmMessageIdSize ≤ d.length by unfold alarmMessageIdSize; omega)]
    rfl
  have hvalid : (AlarmFrame.mk ⟨d.getD 5 0⟩ (getU64 d 12) (readMessageId d)
      (getU64 d 36) (d.drop alarmHeaderSize)).Valid := by
    unfold AlarmFrame.Valid
    rw [hpayload]
    exact hann.description
  refine ⟨hvalid, ?_⟩
  -- the header fields are those of `d`, and the checksum was just compared
  have hfields : ∀ crc rest : Bytes, headerFields (AlarmFrame.mk ⟨d.getD 5 0⟩ (getU64 d 12)
      (readMessageId d) (getU64 d 36) (d.drop alarmHeaderSize)) ++ (crc ++ rest) =
      slice d 0 4 ++ (slice d 4 1 ++ (slice d 5 1 ++ (slice d 6 2 ++ (slice d 8 4 ++
        (slice d 12 8 ++ (slice d 20 16 ++ (slice d 36 8 ++ (crc ++ rest)))))))) := by
    intro crc rest
    simp only [headerFields, append_assoc, hpayload, hid, UInt32.ofNat_toNat,
      ← hann.version, ← hann.magic, ← hann.flags, putU16_getU16 (show 6 + 2 ≤ d.length by omega),
      putU32_getU32 (show 8 + 4 ≤ d.length by omega),
      putU64_getU64 (show 12 + 8 ≤ d.length by omega),
      putU64_getU64 (show 36 + 8 ≤ d.length by omega),
      slice_one (show 4 < d.length by omega), slice_one (show 5 < d.length by omega)]
  have hdata : headerFields (AlarmFrame.mk ⟨d.getD 5 0⟩ (getU64 d 12) (readMessageId d)
      (getU64 d 36) (d.drop alarmHeaderSize)) ++ (slice d 44 4 ++ d.drop alarmHeaderSize) = d := by
    rw [hfields]
    exact fields_eq d
  have hsame : calculateFrameCrc (headerFields (AlarmFrame.mk ⟨d.getD 5 0⟩ (getU64 d 12)
      (readMessageId d) (getU64 d 36) (d.drop alarmHeaderSize)) ++
        (putU32 0 ++ d.drop alarmHeaderSize)) (d.drop alarmHeaderSize).length =
      getU32 d 44 := by
    rw [hcrc, calculateFrameCrc_append _ (length_headerFields _) (length_putU32 _),
      ← length_drop, ← calculateFrameCrc_append _ (length_headerFields _)
        (length_slice (show 44 + 4 ≤ d.length by omega)), hdata]
  rw [alarmWire, hsame, putU32_getU32 (show 44 + 4 ≤ d.length by omega)]
  exact hdata

/-! ## The codec as a bijection -/

lemma validateFrameDescription_eq_ok_iff (type : AlarmFrameType) (payloadSize : ℕ) :
    validateFrameDescription type payloadSize = .ok () ↔
      (type = .alarm ∨ type = .ack ∨ type = .ping ∨ type = .pong) ∧
        payloadSize ≤ alarmMaxPayloadSize ∧ (payloadSize = 0 ↔ type ≠ .alarm) := by
  constructor
  · intro hvalid
    have hle := payloadSize_le_of_validate hvalid
    have htype := isValid_of_validate hvalid
    simp only [AlarmFrameType.isValid, Bool.or_eq_true, beq_iff_eq, or_assoc] at htype
    refine ⟨htype, hle, ?_⟩
    unfold validateFrameDescription at hvalid
    split_ifs at hvalid with _ _ hempty hcontrol
    -- the last two checks: an alarm has a payload, a control frame has none
    rcases htype with rfl | rfl | rfl | rfl
    · simpa [AlarmFrameType.requiresPayload] using hempty
    all_goals
      have hnone : payloadSize = 0 := by simpa [AlarmFrameType.isControl] using hcontrol
      exact ⟨fun _ => by decide, fun _ => hnone⟩
  · rintro ⟨htype, hle, hempty⟩
    rcases htype with rfl | rfl | rfl | rfl
    · have hne : payloadSize ≠ 0 := fun hzero => hempty.mp hzero rfl
      simp [validateFrameDescription, AlarmFrameType.isValid, AlarmFrameType.isControl,
        AlarmFrameType.requiresPayload, Nat.not_lt.mpr hle, hne, AlarmFrameType.alarm,
        AlarmFrameType.ack, AlarmFrameType.ping, AlarmFrameType.pong]
    all_goals
      have hzero : payloadSize = 0 := hempty.mpr (by decide)
      subst hzero
      decide

/-- The encoder accepts the four types with a payload of at most 4096 bytes that is empty exactly
for control frames; the decoder undoes the encoder, and the encoder undoes the decoder on what is
accepted. -/
theorem alarmFrame_codec_bijective :
    (∀ frame : AlarmFrame, (∃ bytes, encodeAlarmFrame frame = .ok bytes) ↔
      (frame.type = .alarm ∨ frame.type = .ack ∨ frame.type = .ping ∨ frame.type = .pong) ∧
        frame.payload.length ≤ 4096 ∧ (frame.payload = [] ↔ frame.type ≠ .alarm)) ∧
    (∀ frame bytes, encodeAlarmFrame frame = .ok bytes → decodeAlarmFrame bytes = .ok frame) ∧
    (∀ bytes frame, decodeAlarmFrame bytes = .ok frame → encodeAlarmFrame frame = .ok bytes) ∧
    (∀ left right frame, decodeAlarmFrame left = .ok frame → decodeAlarmFrame right = .ok frame →
      left = right) := by
  have hreencode : ∀ bytes frame, decodeAlarmFrame bytes = .ok frame →
      encodeAlarmFrame frame = .ok bytes := by
    intro bytes frame hdecode
    obtain ⟨hvalid, hwire⟩ := encodeAlarmFrame_decode hdecode
    rw [encodeAlarmFrame_of_valid hvalid, hwire]
  refine ⟨fun frame => ?_, fun frame bytes hencode => ?_, hreencode, ?_⟩
  · rw [← length_eq_zero_iff]
    refine Iff.trans ?_ (validateFrameDescription_eq_ok_iff frame.type frame.payload.length)
    exact ⟨fun ⟨bytes, hencode⟩ => (encodeAlarmFrame_eq_ok hencode).1,
      fun hvalid => ⟨alarmWire frame, encodeAlarmFrame_of_valid hvalid⟩⟩
  · obtain ⟨hvalid, rfl⟩ := encodeAlarmFrame_eq_ok hencode
    exact decodeAlarmFrame_encode hvalid
  · intro left right frame hleft hright
    exact Except.ok.inj ((hreencode left frame hleft).symm.trans (hreencode right frame hright))

end Tlss.Monitor
