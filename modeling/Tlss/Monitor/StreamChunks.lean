import Tlss.Monitor.AlarmStreamDecoder

/-!
# The stream decoder and the chunks of its input

What a stream of bytes means is said without a decoder: `readFrames` reads a header,
computes the size of the frame, decodes that many bytes, and goes on behind them until
the input is used up or something is rejected.

The decoder sees the stream in chunks. Between two calls it holds the part of the stream
behind the last complete frame and the size its header announces, so it `Follows` the
bytes it was given. One turn of its loop does what one step of `readFrames` does
(`turn_eq`), and a call of `feed` follows the longer stream (`Follows.feed`).
-/

namespace Tlss.Monitor

open Library List Option

/-! ## Reading a stream -/

inductive StreamHead where
  | incomplete
  | rejected (status : AlarmProtocolError)
  | complete (frame : AlarmFrame) (rest : Bytes)

/-- Read a header, compute the size of the frame, decode that many bytes. -/
def streamHead (data : Bytes) : StreamHead :=
  if data.length < alarmHeaderSize then .incomplete
  else
    match alarmFrameSize (data.take alarmHeaderSize) with
    | .error status => .rejected status
    | .ok frameSize =>
      if data.length < frameSize then .incomplete
      else
        match decodeAlarmFrame (data.take frameSize) with
        | .error status => .rejected status
        | .ok frame => .complete frame (data.drop frameSize)

variable {d rest : Bytes} {frameSize size : ℕ} {frame : AlarmFrame}
  {status : AlarmProtocolError}

lemma streamHead_of_header (hheader : ¬ d.length < alarmHeaderSize)
    (hsize : alarmFrameSize (d.take alarmHeaderSize) = .ok frameSize) : streamHead d =
      if d.length < frameSize then .incomplete else match decodeAlarmFrame (d.take frameSize) with
        | .error status => .rejected status
        | .ok frame => .complete frame (d.drop frameSize) := by
  rw [streamHead, if_neg hheader, hsize]

lemma le_of_alarmFrameSize (hsize : alarmFrameSize d = .ok frameSize) :
    alarmHeaderSize ≤ frameSize ∧ frameSize ≤ alarmStreamBufferLimit :=
  have hann := (alarmFrameSize_eq_ok_iff d frameSize).mp hsize
  ⟨hann.le_size, hann.size_le⟩

lemma streamHead_cases (d : Bytes) : (d.length < alarmHeaderSize ∧ streamHead d = .incomplete) ∨
      ¬ d.length < alarmHeaderSize ∧
        ((∃ status, alarmFrameSize (d.take alarmHeaderSize) = .error status ∧
            streamHead d = .rejected status) ∨
          ∃ frameSize, alarmFrameSize (d.take alarmHeaderSize) = .ok frameSize ∧
            ((d.length < frameSize ∧ streamHead d = .incomplete) ∨ ¬ d.length < frameSize ∧
                ((∃ status, decodeAlarmFrame (d.take frameSize) = .error status ∧
                    streamHead d = .rejected status) ∨
                  ∃ frame, decodeAlarmFrame (d.take frameSize) = .ok frame ∧
                    streamHead d = .complete frame (d.drop frameSize)))) := by
  by_cases hheader : d.length < alarmHeaderSize
  · exact .inl ⟨hheader, if_pos hheader⟩
  · refine .inr ⟨hheader, ?_⟩
    cases hsize : alarmFrameSize (d.take alarmHeaderSize) with
    | error status => exact .inl ⟨status, rfl, by rw [streamHead, if_neg hheader, hsize]⟩
    | ok frameSize =>
      refine .inr ⟨frameSize, rfl, ?_⟩
      rw [streamHead_of_header hheader hsize]
      by_cases hshort : d.length < frameSize
      · exact .inl ⟨hshort, if_pos hshort⟩
      · refine .inr ⟨hshort, ?_⟩
        rw [if_neg hshort]
        cases decodeAlarmFrame (d.take frameSize) with
        | error status => exact .inl ⟨status, rfl, rfl⟩
        | ok frame => exact .inr ⟨frame, rfl, rfl⟩

lemma length_le_of_streamHead (hhead : streamHead d = .complete frame rest) :
    rest.length + alarmHeaderSize ≤ d.length := by
  rcases streamHead_cases d with ⟨-, heq⟩ | ⟨hheader, ⟨status, -, heq⟩ |
    ⟨frameSize, hsize, ⟨-, heq⟩ | ⟨hlong, ⟨status, -, heq⟩ | ⟨other, -, heq⟩⟩⟩⟩
  all_goals rw [heq] at hhead
  all_goals cases hhead
  have hlow := (le_of_alarmFrameSize hsize).1
  rw [length_drop]
  omega

lemma length_lt_of_streamHead (hhead : streamHead d = .complete frame rest) :
    rest.length < d.length := by
  have hle := length_le_of_streamHead hhead
  unfold alarmHeaderSize at hle
  omega

/-- What a stream holds: its frames up to the first error, and what is left over. -/
structure StreamOutcome where
  frames : List AlarmFrame
  error : Option AlarmProtocolError
  rest : Bytes

def readFrames (data : Bytes) : StreamOutcome :=
  match hhead : streamHead data with
  | .incomplete => ⟨[], none, data⟩
  | .rejected status => ⟨[], some status, []⟩
  | .complete frame rest =>
    have := length_lt_of_streamHead hhead
    let later := readFrames rest
    ⟨frame :: later.frames, later.error, later.rest⟩
termination_by data.length

def StreamOutcome.finish (outcome : StreamOutcome) : AlarmStreamFeedResult :=
  match outcome.error with
  | some status => ⟨.alreadyFailed, [], some status⟩
  | none =>
    if outcome.rest.isEmpty then ⟨.success, [], none⟩
    else if outcome.rest.length < alarmHeaderSize then ⟨.protocolError, [], some .shortHeader⟩
    else ⟨.protocolError, [], some .invalidTotalLength⟩

def StreamOutcome.after (outcome : StreamOutcome) (frames : List AlarmFrame) : StreamOutcome :=
  { outcome with frames := frames ++ outcome.frames }

lemma readFrames_of_incomplete (hhead : streamHead d = .incomplete) :
    readFrames d = ⟨[], none, d⟩ := by
  unfold readFrames
  split <;> simp_all

lemma readFrames_of_rejected
    (hhead : streamHead d = .rejected status) : readFrames d = ⟨[], some status, []⟩ := by
  unfold readFrames
  split <;> simp_all

lemma readFrames_of_complete (hhead : streamHead d = .complete frame rest) :
    readFrames d = (readFrames rest).after [frame] := by
  rw [readFrames]
  split <;> simp_all [StreamOutcome.after]

/-! ## Longer streams -/

lemma take_append_of_not_lt (more : Bytes)
    (hlong : ¬ d.length < size) : (d ++ more).take size = d.take size :=
  take_append_of_le_length (not_lt.mp hlong)

def StreamHead.extend (more : Bytes) : StreamHead → StreamHead
  | .complete frame rest => .complete frame (rest ++ more)
  | head => head

lemma streamHead_append (more : Bytes) (hheld : streamHead d ≠ .incomplete) :
    streamHead (d ++ more) = (streamHead d).extend more := by
  have hlonger : ∀ size, ¬ d.length < size → ¬ (d ++ more).length < size := by
    intro size hlong
    rw [length_append]
    omega
  rcases streamHead_cases d with ⟨-, heq⟩ | ⟨hheader, ⟨status, hsize, heq⟩ |
    ⟨frameSize, hsize, ⟨-, heq⟩ | ⟨hlong, ⟨status, hdecode, heq⟩ | ⟨frame, hdecode, heq⟩⟩⟩⟩
  · exact absurd heq hheld
  · rw [heq, streamHead, if_neg (hlonger _ hheader), take_append_of_not_lt more hheader, hsize]
    rfl
  · exact absurd heq hheld
  all_goals
    rw [← take_append_of_not_lt more hheader] at hsize
    rw [heq, streamHead_of_header (hlonger _ hheader) hsize, if_neg (hlonger _ hlong),
      take_append_of_not_lt more hlong, hdecode]
  · rfl
  · rw [drop_append_of_le_length (not_lt.mp hlong)]
    rfl

lemma length_lt_of_complete {more : Bytes} (hwaits : streamHead d = .incomplete)
    (hhead : streamHead (d ++ more) = .complete frame rest) : rest.length < more.length := by
  rcases streamHead_cases (d ++ more) with ⟨-, heq⟩ | ⟨hheader, ⟨status, -, heq⟩ |
    ⟨frameSize, hsize, ⟨-, heq⟩ | ⟨hlong, ⟨status, -, heq⟩ | ⟨other, hdecode, heq⟩⟩⟩⟩
  all_goals rw [heq] at hhead
  all_goals cases hhead
  have hlow := (le_of_alarmFrameSize hsize).1
  have hmissing : d.length < frameSize := by
    by_contra hwhole
    have hheld : ¬ d.length < alarmHeaderSize := by omega
    rw [take_append_of_not_lt more hheld] at hsize
    rw [take_append_of_not_lt more hwhole] at hdecode
    rw [streamHead_of_header hheld hsize, if_neg hwhole, hdecode] at hwaits
    cases hwaits
  rw [length_append] at hlong
  rw [length_drop, length_append]
  omega

/-- Reading a longer stream goes on where the shorter one ended, unless that was an
error. -/
lemma readFrames_append (d more : Bytes) : readFrames (d ++ more) = match (readFrames d).error with
      | some _ => readFrames d
      | none => (readFrames ((readFrames d).rest ++ more)).after (readFrames d).frames := by
  induction hlength : d.length using Nat.strong_induction_on generalizing d with
  | _ n ih =>
    cases hhead : streamHead d with
    | incomplete =>
      rw [readFrames_of_incomplete hhead]
      rfl
    | rejected status =>
      have hextend := @streamHead_append d more (by simp [hhead])
      rw [hhead] at hextend
      rw [readFrames_of_rejected hhead, readFrames_of_rejected hextend]
    | complete frame rest =>
      have hrest := ih rest.length (hlength ▸ length_lt_of_streamHead hhead) rest rfl
      have hextend := @streamHead_append d more (by simp [hhead])
      rw [hhead] at hextend
      rw [readFrames_of_complete hextend, hrest, readFrames_of_complete hhead]
      cases herror : (readFrames rest).error <;> simp [StreamOutcome.after, herror]

lemma streamHead_rest (d : Bytes) (herror : (readFrames d).error = none) :
    streamHead (readFrames d).rest = .incomplete := by
  induction hlength : d.length using Nat.strong_induction_on generalizing d with
  | _ n ih =>
    cases hhead : streamHead d with
    | incomplete => rwa [readFrames_of_incomplete hhead]
    | rejected status => simp [readFrames_of_rejected hhead] at herror
    | complete frame rest =>
      rw [readFrames_of_complete hhead] at herror ⊢
      exact ih rest.length (hlength ▸ length_lt_of_streamHead hhead) rest herror rfl

/-! ## The decoder -/

namespace AlarmStreamDecoder

def announced (data : Bytes) : Option ℕ :=
  if data.length < alarmHeaderSize then none
  else (alarmFrameSize (data.take alarmHeaderSize)).toOption

/-- The end of `feed`, given what the stream turned out to hold. -/
def conclude (outcome : StreamOutcome) : AlarmStreamFeedResult × AlarmStreamDecoder :=
  match outcome.error with
  | some status => failProtocol status outcome.frames
  | none => settle outcome.rest (announced outcome.rest) outcome.frames

variable {buf : Bytes} {decoder : AlarmStreamDecoder}

lemma append_take_sub (d : Bytes) (hbuffer : buf.length ≤ size) :
    buf ++ d.take (size - buf.length) = (buf ++ d).take size := by
  rw [take_append, take_of_length_le hbuffer]

lemma drop_sub (d : Bytes) (hbuffer : buf.length ≤ size) :
    d.drop (size - buf.length) = (buf ++ d).drop size := by
  rw [drop_append, drop_eq_nil_of_le hbuffer, nil_append]

lemma fillFrame_eq (hbuffer : buf.length ≤ frameSize)
    (hlimit : frameSize ≤ alarmStreamBufferLimit) : fillFrame buf frameSize d =
      if (buf ++ d).length < frameSize then .wait (buf ++ d) (some frameSize) else
        match decodeAlarmFrame ((buf ++ d).take frameSize) with
        | .error status => .protocol status
        | .ok frame => .frame frame ((buf ++ d).drop frameSize) := by
  have hlength : (buf ++ d).length = buf.length + d.length := length_append
  unfold fillFrame
  by_cases hshort : (buf ++ d).length < frameSize
  · have hmin : min (frameSize - buf.length) d.length = d.length :=
      min_eq_right (by omega)
    simp only [hmin, take_length, hshort, if_true]
  · have hmin : min (frameSize - buf.length) d.length = frameSize - buf.length :=
      min_eq_left (by omega)
    have hfull : ((buf ++ d).take frameSize).length = frameSize :=
      length_take_of_le (not_lt.mp hshort)
    cases hdecode : decodeAlarmFrame ((buf ++ d).take frameSize) <;>
      simp only [hmin, append_take_sub d hbuffer, drop_sub d hbuffer, hfull, hshort,
        lt_irrefl, if_false, not_lt.mpr hlimit, hdecode]

def turnOf (stream : Bytes) : StreamHead → Turn
  | .incomplete => .wait stream (announced stream)
  | .rejected status => .protocol status
  | .complete frame rest => .frame frame rest

lemma fillFrame_eq_turnOf
    (hbuffer : buf.length ≤ frameSize) (hheader : ¬ (buf ++ d).length < alarmHeaderSize)
    (hsize : alarmFrameSize ((buf ++ d).take alarmHeaderSize) = .ok frameSize) :
    fillFrame buf frameSize d = turnOf (buf ++ d) (streamHead (buf ++ d)) := by
  have hannounced : announced (buf ++ d) = some frameSize := by
    rw [announced, if_neg hheader, hsize]
    rfl
  rw [fillFrame_eq hbuffer (le_of_alarmFrameSize hsize).2, streamHead_of_header hheader hsize]
  split_ifs
  · rw [turnOf, hannounced]
  · cases decodeAlarmFrame ((buf ++ d).take frameSize) <;> rfl

lemma turn_eq (hwaits : streamHead buf = .incomplete) (d : Bytes) :
    turn buf (announced buf) d = turnOf (buf ++ d) (streamHead (buf ++ d)) := by
  have hlength : (buf ++ d).length = buf.length + d.length := length_append
  rcases streamHead_cases buf with ⟨hpart, -⟩ | ⟨hheader, ⟨status, -, heq⟩ |
    ⟨frameSize, hsize, ⟨hshort, -⟩ | ⟨-, ⟨status, -, heq⟩ | ⟨frame, -, heq⟩⟩⟩⟩
  · -- the header comes first
    have hnone : announced buf = none := if_pos hpart
    rw [hnone, turn]
    by_cases hstill : (buf ++ d).length < alarmHeaderSize
    · have hmin : min (alarmHeaderSize - buf.length) d.length = d.length :=
        min_eq_right (by omega)
      have hlater : announced (buf ++ d) = none := if_pos hstill
      rw [streamHead, if_pos hstill, turnOf, hlater]
      simp only [hmin, take_length, hstill, if_true]
    · have hmin : min (alarmHeaderSize - buf.length) d.length =
          alarmHeaderSize - buf.length := min_eq_left (by omega)
      have hfull : ((buf ++ d).take alarmHeaderSize).length = alarmHeaderSize :=
        length_take_of_le (not_lt.mp hstill)
      simp only [hmin, append_take_sub d hpart.le, drop_sub d hpart.le, hfull, lt_irrefl, if_false]
      cases hsize : alarmFrameSize ((buf ++ d).take alarmHeaderSize) with
      | error status =>
        rw [streamHead, if_neg hstill, hsize]
        rfl
      | ok frameSize =>
        obtain ⟨hlow, hlimit⟩ := le_of_alarmFrameSize hsize
        have hsplit := take_append_drop alarmHeaderSize (buf ++ d)
        have hfill := fillFrame_eq_turnOf (hfull.trans_le hlow) (by rwa [hsplit]) (by rwa [hsplit])
        rw [hsplit] at hfill
        dsimp only
        rw [if_neg (not_lt.mpr hlimit), hfill]
  · rw [heq] at hwaits
    cases hwaits
  · have hannounced : announced buf = some frameSize := by
      rw [announced, if_neg hheader, hsize]
      rfl
    rw [← take_append_of_not_lt d hheader] at hsize
    rw [hannounced, turn]
    exact fillFrame_eq_turnOf hshort.le (by omega) hsize
  · rw [heq] at hwaits
    cases hwaits
  · rw [heq] at hwaits
    cases hwaits

lemma feedLoop_eq {fuel : ℕ} (hwaits : streamHead buf = .incomplete)
    (hfuel : d.length ≤ fuel) (completed : List AlarmFrame) :
    feedLoop fuel buf (announced buf) d completed =
      conclude ((readFrames (buf ++ d)).after completed) := by
  have hsettled : settle buf (announced buf) completed =
      conclude ((readFrames (buf ++ [])).after completed) := by
    rw [append_nil, readFrames_of_incomplete hwaits]
    simp [conclude, StreamOutcome.after]
  induction fuel generalizing buf d completed with
  | zero =>
    obtain rfl := length_eq_zero_iff.mp (Nat.le_zero.mp hfuel)
    exact hsettled
  | succ fuel ih =>
    cases d with
    | nil => exact hsettled
    | cons byte d =>
      rw [feedLoop, isEmpty_cons, if_neg Bool.false_ne_true, turn_eq hwaits]
      cases hhead : streamHead (buf ++ byte :: d) with
      | incomplete =>
        rw [readFrames_of_incomplete hhead]
        simp [turnOf, conclude, StreamOutcome.after]
      | rejected status =>
        rw [readFrames_of_rejected hhead]
        simp [turnOf, conclude, StreamOutcome.after]
      | complete frame rest =>
        have hrest : rest.length ≤ fuel := by
          have hless := length_lt_of_complete hwaits hhead
          omega
        have hempty : streamHead [] = .incomplete := rfl
        have hstart : announced [] = none := rfl
        have hlater := ih hempty hrest (completed ++ [frame]) (by
          rw [append_nil, readFrames_of_incomplete hempty]
          simp [conclude, StreamOutcome.after])
        rw [hstart, nil_append] at hlater
        rw [readFrames_of_complete hhead]
        simp only [turnOf, hlater, StreamOutcome.after, append_assoc]

lemma feed_eq (hrunning : decoder.failureStatus = none)
    (hwaits : streamHead decoder.buffer = .incomplete)
    (hsize : decoder.expectedFrameSize = announced decoder.buffer) (chunk : Bytes) :
    decoder.feed chunk = conclude (readFrames (decoder.buffer ++ chunk)) := by
  rw [feed, hrunning, hsize]
  exact feedLoop_eq hwaits le_rfl []

def Follows (decoder : AlarmStreamDecoder) (data : Bytes) : Prop :=
  decoder = (conclude (readFrames data)).2

lemma follows_fresh : fresh.Follows [] := by
  rw [Follows, readFrames_of_incomplete rfl]
  rfl

/-- A call of `feed` returns the frames the longer stream holds in addition. -/
lemma Follows.feed (h : decoder.Follows d) (chunk : Bytes) :
    (decoder.feed chunk).2.Follows (d ++ chunk) ∧ (readFrames (d ++ chunk)).frames =
        (readFrames d).frames ++ (decoder.feed chunk).1.frames := by
  unfold Follows at h ⊢
  rw [readFrames_append]
  cases herror : (readFrames d).error with
  | some status =>
    -- the decoder has failed and ignores its input
    have hfailed : decoder = ⟨[], none, some .protocolError, some status⟩ := by
      rw [h, conclude, herror]
      rfl
    rw [conclude, herror, hfailed]
    exact ⟨rfl, (append_nil _).symm⟩
  | none =>
    have hwaiting : decoder =
        ⟨(readFrames d).rest, announced (readFrames d).rest, none, none⟩ := by
      rw [h, conclude, herror]
      rfl
    have hfeed : decoder.feed chunk =
        conclude (readFrames ((readFrames d).rest ++ chunk)) := by
      rw [hwaiting]
      exact feed_eq rfl (streamHead_rest d herror) rfl chunk
    rw [hfeed]
    simp only [conclude, StreamOutcome.after]
    cases (readFrames ((readFrames d).rest ++ chunk)).error <;> exact ⟨rfl, rfl⟩

def feedAll (decoder : AlarmStreamDecoder) : List Bytes → List AlarmFrame × AlarmStreamDecoder
  | [] => ([], decoder)
  | chunk :: chunks =>
    let (result, fed) := decoder.feed chunk
    let (frames, final) := fed.feedAll chunks
    (result.frames ++ frames, final)

lemma Follows.feedAll (h : decoder.Follows d) (chunks : List Bytes) :
    (decoder.feedAll chunks).2.Follows (d ++ chunks.flatten) ∧
      (readFrames (d ++ chunks.flatten)).frames =
        (readFrames d).frames ++ (decoder.feedAll chunks).1 := by
  induction chunks generalizing decoder d with
  | nil =>
    rw [flatten_nil, append_nil]
    exact ⟨h, (append_nil _).symm⟩
  | cons chunk chunks ih =>
    obtain ⟨hfed, hframes⟩ := h.feed chunk
    obtain ⟨hfinal, hlater⟩ := ih hfed
    rw [flatten_cons, ← append_assoc]
    refine ⟨hfinal, ?_⟩
    rw [hlater, hframes, append_assoc]
    rfl

lemma Follows.finish (h : decoder.Follows d) :
    decoder.failureStatus.isSome = (readFrames d).error.isSome ∧
      decoder.protocolError = (readFrames d).error ∧ decoder.finish.1 = (readFrames d).finish := by
  rw [h, conclude]
  cases herror : (readFrames d).error with
  | some status =>
    refine ⟨rfl, rfl, ?_⟩
    rw [StreamOutcome.finish, herror]
    rfl
  | none =>
    refine ⟨rfl, rfl, ?_⟩
    simp only [AlarmStreamDecoder.finish, StreamOutcome.finish, herror, settle, failProtocol]
    by_cases hempty : (readFrames d).rest.isEmpty = true
    · simp [hempty]
    · by_cases hpart : (readFrames d).rest.length < alarmHeaderSize <;> simp [hempty, hpart]

/-- However a stream is cut into chunks, a fresh decoder returns its frames, fails exactly if
something in it is rejected, with the first error, and `finish` tells whether something is left
over. -/
theorem feed_chunking_invariant (chunks : List Bytes) :
    (fresh.feedAll chunks).1 = (readFrames chunks.flatten).frames ∧
    (fresh.feedAll chunks).2.failureStatus.isSome = (readFrames chunks.flatten).error.isSome ∧
    (fresh.feedAll chunks).2.protocolError = (readFrames chunks.flatten).error ∧
    (fresh.feedAll chunks).2.finish.1 = (readFrames chunks.flatten).finish ∧
    (fresh.feedAll chunks).1 = (fresh.feed chunks.flatten).1.frames ∧
    (fresh.feedAll chunks).2 = (fresh.feed chunks.flatten).2 := by
  obtain ⟨hfollows, hframes⟩ := follows_fresh.feedAll chunks
  obtain ⟨hwhole, hwholeFrames⟩ := follows_fresh.feed chunks.flatten
  have hnone : (readFrames []).frames = [] := by rw [readFrames_of_incomplete rfl]
  rw [nil_append, hnone, nil_append] at hframes hwholeFrames
  rw [nil_append] at hfollows hwhole
  obtain ⟨hfailed, herror, hfinish⟩ := hfollows.finish
  refine ⟨hframes.symm, hfailed, herror, hfinish, hframes.symm.trans hwholeFrames, ?_⟩
  exact Eq.trans hfollows (Eq.symm hwhole)

/-! ## Frames per read -/

def maxFramesPerClientRound : ℕ := 8

def clientReadChunk : ℕ := alarmHeaderSize * maxFramesPerClientRound

/-- What `read_client` makes of the bytes of a `recv`. -/
inductive ClientRound where
  | failed (result : AlarmStreamFeedResult)
  | overLimit
  | process (frames : List AlarmFrame)

def readClient (decoder : AlarmStreamDecoder) (received : Bytes) : ClientRound :=
  let result := (decoder.feed received).1
  if !result.success then .failed result
  else if result.frames.length > maxFramesPerClientRound then .overLimit
  else .process result.frames

/-- The states of a decoder; `reset` leads back to `fresh`. -/
inductive Reachable : AlarmStreamDecoder → Prop
  | fresh : Reachable fresh
  | feed {decoder : AlarmStreamDecoder} (h : Reachable decoder) (chunk : Bytes) :
      Reachable (decoder.feed chunk).2
  | finish {decoder : AlarmStreamDecoder} (h : Reachable decoder) : Reachable decoder.finish.2

/-- The decoder has failed, or it holds the beginning of a frame. -/
def Waits (decoder : AlarmStreamDecoder) : Prop :=
  decoder.failureStatus ≠ none ∧ decoder.buffer = [] ∧ decoder.expectedFrameSize = none ∨
    decoder.failureStatus = none ∧ streamHead decoder.buffer = .incomplete ∧
      decoder.expectedFrameSize = announced decoder.buffer

lemma Reachable.waits (h : decoder.Reachable) : decoder.Waits := by
  induction h with
  | fresh => exact .inr ⟨rfl, rfl, rfl⟩
  | @feed decoder _ chunk ih =>
    obtain ⟨hfailed, hrest⟩ | ⟨hrunning, hwaits, hsize⟩ := ih
    · obtain ⟨status, hstatus⟩ := ne_none_iff_exists'.mp hfailed
      rw [AlarmStreamDecoder.feed, hstatus]
      exact .inl ⟨hfailed, hrest⟩
    · rw [feed_eq hrunning hwaits hsize, conclude]
      cases herror : (readFrames (decoder.buffer ++ chunk)).error with
      | some status => exact .inl ⟨some_ne_none _, rfl, rfl⟩
      | none => exact .inr ⟨rfl, streamHead_rest _ herror, rfl⟩
  | @finish decoder _ ih =>
    unfold AlarmStreamDecoder.finish
    split
    · exact ih
    · split_ifs
      · exact ih
      · exact .inl ⟨some_ne_none _, rfl, rfl⟩
      · exact .inl ⟨some_ne_none _, rfl, rfl⟩

lemma length_readFrames_le (d : Bytes) :
    alarmHeaderSize * (readFrames d).frames.length ≤ d.length := by
  induction hlength : d.length using Nat.strong_induction_on generalizing d with
  | _ n ih =>
    cases hhead : streamHead d with
    | incomplete => simp [readFrames_of_incomplete hhead]
    | rejected status => simp [readFrames_of_rejected hhead]
    | complete frame rest =>
      have hrest := ih rest.length (hlength ▸ length_lt_of_streamHead hhead) rest rfl
      have hle := length_le_of_streamHead hhead
      rw [readFrames_of_complete hhead, StreamOutcome.after, length_append, length_singleton,
        Nat.mul_add]
      omega

lemma Waits.length_frames_le (h : decoder.Waits) {chunk : Bytes}
    (hchunk : chunk.length ≤ clientReadChunk) :
    (decoder.feed chunk).1.frames.length ≤ maxFramesPerClientRound := by
  obtain ⟨hfailed, -⟩ | ⟨hrunning, hwaits, hsize⟩ := h
  · obtain ⟨status, hstatus⟩ := ne_none_iff_exists'.mp hfailed
    rw [feed, hstatus]
    exact Nat.zero_le _
  · have hframes : (decoder.feed chunk).1.frames =
        (readFrames (decoder.buffer ++ chunk)).frames := by
      rw [feed_eq hrunning hwaits hsize, conclude]
      cases (readFrames (decoder.buffer ++ chunk)).error <;> rfl
    rw [hframes]
    cases hhead : streamHead (decoder.buffer ++ chunk) with
    | incomplete => simp [readFrames_of_incomplete hhead]
    | rejected status => simp [readFrames_of_rejected hhead]
    | complete frame rest =>
      -- the frame that was begun takes at least one byte of the chunk
      have hless := length_lt_of_complete hwaits hhead
      have hle := length_readFrames_le rest
      rw [readFrames_of_complete hhead, StreamOutcome.after, length_append, length_singleton]
      unfold clientReadChunk maxFramesPerClientRound alarmHeaderSize at *
      omega

/-- No chunk of the collector completes more than eight frames, whatever was read before it, so
`read_client` never gives up a client for this reason. Between two calls the decoder holds less
than one frame, the size of which is bounded. -/
theorem feed_bounded (decoder : AlarmStreamDecoder) (h : decoder.Reachable) :
    (∀ chunk : Bytes, chunk.length ≤ clientReadChunk →
      (decoder.feed chunk).1.frames.length ≤ maxFramesPerClientRound ∧
        decoder.readClient chunk ≠ .overLimit) ∧
      (decoder.expectedFrameSize = none ∧ decoder.buffer.length < alarmHeaderSize ∨
        ∃ size, decoder.expectedFrameSize = some size ∧ decoder.buffer.length < size ∧
          size ≤ alarmHeaderSize + alarmMaxPayloadSize) := by
  refine ⟨fun chunk hchunk => ?_, ?_⟩
  · have hle := h.waits.length_frames_le hchunk
    refine ⟨hle, ?_⟩
    unfold readClient
    dsimp only
    rw [if_neg (Nat.not_lt.mpr hle)]
    split_ifs <;> simp
  · obtain ⟨-, hbuffer, hsize⟩ | ⟨-, hwaits, hsize⟩ := h.waits
    · exact .inl ⟨hsize, by simp [hbuffer, alarmHeaderSize]⟩
    · rcases streamHead_cases decoder.buffer with ⟨hshort, -⟩ | ⟨hheader, ⟨status, -, heq⟩ |
        ⟨size, hok, ⟨hshort, -⟩ | ⟨-, ⟨status, -, heq⟩ | ⟨frame, -, heq⟩⟩⟩⟩
      · exact .inl ⟨hsize.trans (if_pos hshort), hshort⟩
      · cases hwaits.symm.trans heq
      · refine .inr ⟨size, ?_, hshort, (le_of_alarmFrameSize hok).2⟩
        rw [hsize, announced, if_neg hheader, hok]
        rfl
      · cases hwaits.symm.trans heq
      · cases hwaits.symm.trans heq

def sampleBeat : Bytes :=
  alarmWire ⟨.ping, 1, ⟨replicate alarmMessageIdSize 3, length_replicate⟩, 0, []⟩

/-- A heartbeat comes in two chunks, and the second one completes it. -/
theorem feed_bounded_begun :
    let decoder := (fresh.feed (sampleBeat.take 30)).2
    let frames := (decoder.feed (sampleBeat.drop 30)).1.frames
    decoder.buffer.length = 30 ∧ frames.length = 1 ∧ frames.length ≤ maxFramesPerClientRound :=
  ⟨by decide +kernel, by decide +kernel,
    ((feed_bounded _ (.feed .fresh _)).1 (sampleBeat.drop 30) (by decide +kernel)).1⟩

end AlarmStreamDecoder

end Tlss.Monitor
