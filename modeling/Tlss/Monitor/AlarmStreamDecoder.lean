import Tlss.Monitor.AlarmProtocol

/-!
# Alarm frames from a byte stream

`AlarmStreamDecoder::feed` cuts the bytes of a TCP connection into frames. One
turn of its loop either runs out of input, fails, or completes a frame; the
decoder keeps at most one unfinished frame between calls.
-/

namespace Tlss.Monitor

open Library List

def alarmStreamBufferLimit : ℕ := alarmMaxFrameSize

/-- `AlarmStreamStatus`. Neither null pointers nor failing allocations are
modelled. -/
inductive AlarmStreamStatus where
  | success
  | needMoreData
  | protocolError
  | bufferLimitExceeded
  | alreadyFailed
deriving DecidableEq, Repr

structure AlarmStreamFeedResult where
  status : AlarmStreamStatus
  frames : List AlarmFrame
  protocolStatus : Option AlarmProtocolError
deriving DecidableEq, Repr

def AlarmStreamFeedResult.success (result : AlarmStreamFeedResult) : Bool :=
  result.status == .success || result.status == .needMoreData

/-- `AlarmStreamDecoder`. `failureStatus` is present exactly when `_failed` is set. -/
structure AlarmStreamDecoder where
  buffer : Bytes
  expectedFrameSize : Option ℕ
  failureStatus : Option AlarmStreamStatus
  protocolError : Option AlarmProtocolError
deriving DecidableEq, Repr

namespace AlarmStreamDecoder

/-- A decoder as constructed, and after `AlarmStreamDecoder::reset`. -/
def fresh : AlarmStreamDecoder := ⟨[], none, none, none⟩

def failProtocol (status : AlarmProtocolError) (completed : List AlarmFrame) :
    AlarmStreamFeedResult × AlarmStreamDecoder :=
  (⟨.protocolError, completed, some status⟩, ⟨[], none, some .protocolError, some status⟩)

def failStream (status : AlarmStreamStatus) (completed : List AlarmFrame) :
    AlarmStreamFeedResult × AlarmStreamDecoder :=
  (⟨status, completed, none⟩, ⟨[], none, some status, none⟩)

/-- How one turn of the loop of `feed` ends. -/
inductive Turn where
  | wait (buffer : Bytes) (expectedFrameSize : Option ℕ)
  | protocol (status : AlarmProtocolError)
  | stream (status : AlarmStreamStatus)
  | frame (frame : AlarmFrame) (rest : Bytes)
deriving DecidableEq, Repr

def fillFrame (buffer : Bytes) (frameSize : ℕ) (data : Bytes) : Turn :=
  let take := min (frameSize - buffer.length) data.length
  let buffer := buffer ++ data.take take
  let data := data.drop take
  if buffer.length < frameSize then .wait buffer (some frameSize)
  else if buffer.length > alarmStreamBufferLimit then .stream .bufferLimitExceeded
  else
    match decodeAlarmFrame buffer with
    | .error status => .protocol status
    | .ok frame => .frame frame data

/-- One turn of the loop of `feed`: complete the header first if need be. -/
def turn (buffer : Bytes) (expectedFrameSize : Option ℕ) (data : Bytes) : Turn :=
  match expectedFrameSize with
  | some frameSize => fillFrame buffer frameSize data
  | none =>
    let take := min (alarmHeaderSize - buffer.length) data.length
    let buffer := buffer ++ data.take take
    let data := data.drop take
    if buffer.length < alarmHeaderSize then .wait buffer none
    else
      match alarmFrameSize buffer with
      | .error status => .protocol status
      | .ok frameSize =>
        if frameSize > alarmStreamBufferLimit then .stream .bufferLimitExceeded
        else fillFrame buffer frameSize data

/-- The end of `feed` when the input is used up. -/
def settle (buffer : Bytes) (expectedFrameSize : Option ℕ) (completed : List AlarmFrame) :
    AlarmStreamFeedResult × AlarmStreamDecoder :=
  (⟨if buffer.isEmpty then .success else .needMoreData, completed, none⟩,
    ⟨buffer, expectedFrameSize, none, none⟩)

/-- The loop of `feed`. Every turn uses up at least one byte, so the number of
bytes is enough fuel. -/
def feedLoop : ℕ → Bytes → Option ℕ → Bytes → List AlarmFrame →
    AlarmStreamFeedResult × AlarmStreamDecoder
  | 0, buffer, expectedFrameSize, _, completed => settle buffer expectedFrameSize completed
  | fuel + 1, buffer, expectedFrameSize, data, completed =>
    if data.isEmpty then settle buffer expectedFrameSize completed
    else
      match turn buffer expectedFrameSize data with
      | .wait buffer expectedFrameSize => settle buffer expectedFrameSize completed
      | .protocol status => failProtocol status completed
      | .stream status => failStream status completed
      | .frame frame rest => feedLoop fuel [] none rest (completed ++ [frame])

def feed (decoder : AlarmStreamDecoder) (data : Bytes) :
    AlarmStreamFeedResult × AlarmStreamDecoder :=
  match decoder.failureStatus with
  | some _ => (⟨.alreadyFailed, [], decoder.protocolError⟩, decoder)
  | none => feedLoop data.length decoder.buffer decoder.expectedFrameSize data []

/-- `AlarmStreamDecoder::finish`, at the end of the stream. -/
def finish (decoder : AlarmStreamDecoder) : AlarmStreamFeedResult × AlarmStreamDecoder :=
  match decoder.failureStatus with
  | some _ => (⟨.alreadyFailed, [], decoder.protocolError⟩, decoder)
  | none =>
    if decoder.buffer.isEmpty then (⟨.success, [], none⟩, decoder)
    else if decoder.buffer.length < alarmHeaderSize then failProtocol .shortHeader []
    else failProtocol .invalidTotalLength []

end AlarmStreamDecoder

/-! ## Streams of encodings -/

def alarmStream (frames : List AlarmFrame) : Bytes :=
  frames.flatMap alarmWire

@[simp] lemma alarmStream_nil : alarmStream [] = [] := rfl

@[simp] lemma alarmStream_cons (fr : AlarmFrame) (frs : List AlarmFrame) :
    alarmStream (fr :: frs) = alarmWire fr ++ alarmStream frs := by
  simp [alarmStream]

@[simp] lemma alarmStream_append (left right : List AlarmFrame) :
    alarmStream (left ++ right) = alarmStream left ++ alarmStream right := by
  simp [alarmStream]

namespace AlarmStreamDecoder

/-- What the decoder remembers of the size of a frame of which it holds `have`
bytes: nothing before the header is complete. -/
def knownSize (held frameSize : ℕ) : Option ℕ :=
  if held < alarmHeaderSize then none else some frameSize

/-- The buffer is a proper beginning of the first frame that is still to come. -/
structure Expects (decoder : AlarmStreamDecoder) (frames : List AlarmFrame) : Prop where
  running : decoder.failureStatus = none
  quiet : decoder.protocolError = none
  buffered : match frames with
    | [] => decoder.buffer = [] ∧ decoder.expectedFrameSize = none
    | frame :: _ => decoder.buffer <+: alarmWire frame ∧
        decoder.buffer.length < (alarmWire frame).length ∧
        decoder.expectedFrameSize = knownSize decoder.buffer.length (alarmWire frame).length

lemma alarmHeaderSize_le_length (fr : AlarmFrame) : alarmHeaderSize ≤ (alarmWire fr).length := by
  rw [length_alarmWire]
  exact Nat.le_add_right _ _

lemma expects_fresh (frs : List AlarmFrame) : fresh.Expects frs := by
  refine ⟨rfl, rfl, ?_⟩
  cases frs with
  | nil => exact ⟨rfl, rfl⟩
  | cons fr frs =>
    refine ⟨List.nil_prefix, ?_, rfl⟩
    exact lt_of_lt_of_le (by decide : 0 < alarmHeaderSize) (alarmHeaderSize_le_length fr)

variable {frs : List AlarmFrame} {dec : AlarmStreamDecoder} {fr : AlarmFrame}
  {buf d rest : Bytes}

lemma Expects.append (hexpects : dec.Expects frs) (more : List AlarmFrame) :
    dec.Expects (frs ++ more) := by
  refine ⟨hexpects.running, hexpects.quiet, ?_⟩
  cases frs with
  | cons fr frs => exact hexpects.buffered
  | nil =>
    obtain ⟨hbuffer, hsize⟩ := hexpects.buffered
    rw [hbuffer, hsize]
    exact (expects_fresh more).buffered

lemma length_alarmWire_le_limit (hvalid : fr.Valid) :
    (alarmWire fr).length ≤ alarmStreamBufferLimit :=
  (announces_alarmWire hvalid).size_le

lemma fillFrame_of_prefix (hvalid : fr.Valid) (hbuffer : buf.length ≤ (alarmWire fr).length)
    (hinitial : buf ++ d <+: alarmWire fr ++ rest) : fillFrame buf (alarmWire fr).length d =
      if (buf ++ d).length < (alarmWire fr).length then
        .wait (buf ++ d) (some (alarmWire fr).length)
      else .frame fr (d.drop ((alarmWire fr).length - buf.length)) := by
  have hlength : (buf ++ d).length = buf.length + d.length := length_append
  unfold fillFrame
  by_cases hshort : (buf ++ d).length < (alarmWire fr).length
  · -- all of the input goes into the buffer
    have hmin : min ((alarmWire fr).length - buf.length) d.length = d.length :=
      min_eq_right (by omega)
    simp only [hmin, take_length, hshort, if_true]
  · have htake : buf ++ d.take ((alarmWire fr).length - buf.length) =
        alarmWire fr := by
      have hcut : (buf ++ d).take (alarmWire fr).length = alarmWire fr := by
        obtain ⟨more, hmore⟩ := hinitial
        have htaken := congrArg (take (alarmWire fr).length) hmore
        rwa [take_append_of_le_length (by omega), take_left] at htaken
      rwa [take_append, take_of_length_le hbuffer] at hcut
    have hmin : min ((alarmWire fr).length - buf.length) d.length =
        (alarmWire fr).length - buf.length := min_eq_left (by omega)
    simp only [hmin, htake, hshort, lt_irrefl, if_false, decodeAlarmFrame_encode hvalid,
      not_lt.mpr (length_alarmWire_le_limit hvalid)]

lemma alarmFrameSize_of_prefix (hvalid : fr.Valid)
    (hinitial : buf <+: alarmWire fr) (hheader : alarmHeaderSize ≤ buf.length) :
    alarmFrameSize buf = .ok (alarmWire fr).length := by
  obtain ⟨rest, hrest⟩ := hinitial
  rw [← alarmFrameSize_append rest hheader, hrest, alarmFrameSize_eq_ok_iff]
  exact announces_alarmWire hvalid

/-- One turn on a stream of encodings: the frame is completed, or everything is
kept for later. -/
lemma turn_of_prefix (hvalid : fr.Valid) (hbuffer : buf.length < (alarmWire fr).length)
    (hinitial : buf ++ d <+: alarmWire fr ++ rest) :
    turn buf (knownSize buf.length (alarmWire fr).length) d =
      if (buf ++ d).length < (alarmWire fr).length then
        .wait (buf ++ d) (knownSize (buf ++ d).length (alarmWire fr).length)
      else .frame fr (d.drop ((alarmWire fr).length - buf.length)) := by
  have hlength : (buf ++ d).length = buf.length + d.length := length_append
  have hheader := alarmHeaderSize_le_length fr
  unfold turn
  by_cases hknown : buf.length < alarmHeaderSize
  · -- the header comes first
    simp only [knownSize, hknown, if_true]
    by_cases hpart : (buf ++ d).length < alarmHeaderSize
    · have hmin : min (alarmHeaderSize - buf.length) d.length = d.length :=
        min_eq_right (by omega)
      have hshort : (buf ++ d).length < (alarmWire fr).length := by omega
      simp only [hmin, take_length, hpart, hshort, if_true]
    · have hmin : min (alarmHeaderSize - buf.length) d.length =
          alarmHeaderSize - buf.length := min_eq_left (by omega)
      have hsplit : (buf ++ d.take (alarmHeaderSize - buf.length)) ++
          d.drop (alarmHeaderSize - buf.length) = buf ++ d := by
        rw [append_assoc, take_append_drop]
      have hfull : (buf ++ d.take (alarmHeaderSize - buf.length)).length =
          alarmHeaderSize := by
        rw [length_append, length_take]
        omega
      have hfront : buf ++ d.take (alarmHeaderSize - buf.length) <+: alarmWire fr := by
        have hwhole : buf ++ d.take (alarmHeaderSize - buf.length) <+:
            alarmWire fr ++ rest := (prefix_append _ _).trans (hsplit ▸ hinitial)
        exact prefix_of_prefix_length_le hwhole (prefix_append _ _) (by omega)
      have hfill := fillFrame_of_prefix hvalid (by omega) (hsplit.symm ▸ hinitial)
      simp only [hmin, hfull, lt_irrefl, if_false,
        alarmFrameSize_of_prefix hvalid hfront (by omega),
        not_lt.mpr (length_alarmWire_le_limit hvalid)]
      rw [hfill, hsplit, hfull, drop_drop]
      simp only [hpart, if_false]
      congr 3
      omega
  · have hpart : ¬ (buf ++ d).length < alarmHeaderSize := by omega
    simp only [knownSize, hknown, hpart, if_false]
    exact fillFrame_of_prefix hvalid (by omega) hinitial

lemma settle_of_expects
    {expectedFrameSize : Option ℕ} (completed : List AlarmFrame)
    (hexpects : Expects ⟨buf, expectedFrameSize, none, none⟩ frs) :
    ∃ done rest, frs = done ++ rest ∧
      let out := settle buf expectedFrameSize completed
      out.1.frames = completed ++ done ∧ out.1.success ∧
        out.2.Expects rest ∧ buf = alarmStream done ++ out.2.buffer := by
  refine ⟨[], frs, rfl, by simp [settle], ?_, hexpects, by simp [settle]⟩
  unfold settle AlarmStreamFeedResult.success
  cases buf.isEmpty <;> rfl

lemma feedLoop_of_prefix (hvalid : ∀ fr ∈ frs, fr.Valid) {fuel : ℕ}
    (completed : List AlarmFrame) (hexpects : dec.Expects frs) (hfuel : d.length ≤ fuel)
    (hinitial : dec.buffer ++ d <+: alarmStream frs) :
    ∃ done rest, frs = done ++ rest ∧
      let out := feedLoop fuel dec.buffer dec.expectedFrameSize d completed
      out.1.frames = completed ++ done ∧ out.1.success ∧ out.2.Expects rest ∧
        dec.buffer ++ d = alarmStream done ++ out.2.buffer := by
  have hkeep : Expects ⟨dec.buffer, dec.expectedFrameSize, none, none⟩ frs :=
    ⟨rfl, rfl, hexpects.buffered⟩
  induction fuel generalizing frs dec d completed with
  | zero =>
    have hdata : d = [] := eq_nil_of_length_eq_zero (by omega)
    subst hdata
    simpa [feedLoop] using settle_of_expects completed hkeep
  | succ fuel ih =>
    cases d with
    | nil => simpa [feedLoop] using settle_of_expects completed hkeep
    | cons byte d =>
      cases frs with
      | nil =>
        rw [hexpects.buffered.1] at hinitial
        simp at hinitial
      | cons fr frs =>
        obtain ⟨hfront, hlt, hknown⟩ := hexpects.buffered
        have hframe := hvalid fr (by simp)
        rw [alarmStream_cons] at hinitial
        have hturn := turn_of_prefix hframe hlt hinitial
        rw [← hknown] at hturn
        by_cases hshort :
            (dec.buffer ++ byte :: d).length < (alarmWire fr).length
        · -- the frame is still incomplete
          rw [if_pos hshort] at hturn
          have hwait : Expects ⟨dec.buffer ++ byte :: d,
              knownSize (dec.buffer ++ byte :: d).length (alarmWire fr).length,
              none, none⟩ (fr :: frs) := by
            refine ⟨rfl, rfl, ?_, hshort, rfl⟩
            exact prefix_of_prefix_length_le hinitial (prefix_append _ _) hshort.le
          simpa [feedLoop, hturn] using settle_of_expects completed hwait
        · -- the frame is complete, and the loop goes on behind it
          rw [if_neg hshort] at hturn
          have hsplit : dec.buffer ++ byte :: d = alarmWire fr ++
              (byte :: d).drop ((alarmWire fr).length - dec.buffer.length) := by
            obtain ⟨tail, htail⟩ := prefix_of_prefix_length_le
              (prefix_append (alarmWire fr) _) hinitial (not_lt.mp hshort)
            rw [← htail]
            congr 1
            have hdrop := congrArg (drop (alarmWire fr).length) htail
            rwa [drop_left, drop_append, drop_eq_nil_of_le hlt.le,
              nil_append] at hdrop
          have hrest : (byte :: d).drop
              ((alarmWire fr).length - dec.buffer.length) <+: alarmStream frs := by
            rwa [hsplit, prefix_append_right_inj] at hinitial
          have hless : ((byte :: d).drop
              ((alarmWire fr).length - dec.buffer.length)).length ≤ fuel := by
            rw [length_drop]
            omega
          have hfresh : Expects fresh frs := expects_fresh frs
          obtain ⟨done, rest, hframes, hdone, hok, hexp, hbytes⟩ :=
            ih (fun next hnext => hvalid next (by simp [hnext])) (completed ++ [fr])
              hfresh hless hrest hfresh
          refine ⟨fr :: done, rest, by rw [hframes]; rfl, ?_⟩
          simp only [feedLoop, hturn, isEmpty_cons, Bool.false_eq_true, if_false]
          refine ⟨hdone.trans (append_assoc _ _ _), hok, hexp, ?_⟩
          rw [hsplit, alarmStream_cons, append_assoc]
          congr 1

/-- `feed` on a stream of encodings: the frames that have arrived completely are
returned, the beginning of the next one is kept. -/
lemma feed_of_expects (hvalid : ∀ fr ∈ frs, fr.Valid)
    (hexpects : dec.Expects frs) (hinitial : dec.buffer ++ d <+: alarmStream frs) :
    ∃ done rest, frs = done ++ rest ∧ (dec.feed d).1.frames = done ∧ (dec.feed d).1.success ∧
      (dec.feed d).2.Expects rest ∧
      dec.buffer ++ d = alarmStream done ++ (dec.feed d).2.buffer := by
  simpa [feed, hexpects.running] using feedLoop_of_prefix hvalid [] hexpects le_rfl hinitial

end AlarmStreamDecoder

end Tlss.Monitor
