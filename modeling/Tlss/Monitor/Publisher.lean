import Tlss.Monitor.Collector
import Tlss.Monitor.Reporter

/-!
# The alarm publisher and its outbox

`ReliableAlarmPublisher::enqueue`: the record is encoded as a version 2
datagram, wrapped in an `ALARM` frame under a random message id and stored in
the outbox. If the outbox has a file of that name already, another id is drawn,
four times at most. The random source belongs to the environment, so every
attempt comes with what `getrandom` returned and with the faults of the store.

`pickNext` is the beginning of `run_iteration`: the worker takes the first file
of the outbox, reads and decodes it.
-/

namespace Tlss.Monitor

open Library Option
open CrashProgram (meets_bind meets_peek_bind meets_pure)

/-- `timestamp_milliseconds`: times before the epoch have none. -/
def timestampMilliseconds (timestamp : MonitorTimestamp) : Option UInt64 :=
  if timestamp.count < 0 then none
  else some (UInt64.ofNat (timestamp.count.tdiv 1000000).toNat)

def messageIdAttempts : ℕ := 4

/-- One turn of the loop of `enqueue`: what `secure_random_message_id` gave, and
the faults of the store. -/
structure Attempt where
  draw : Except ℤ AlarmMessageId
  faults : StoreFaults

def mapSpoolResult (result : AlarmSpoolPathResult) : AlarmEnqueueResult :=
  match result.status with
  | .success => ⟨.success, 0⟩
  | .full => ⟨.spoolFull, 0⟩
  | .notReady => ⟨.notReady, result.systemError⟩
  | .duplicate => ⟨.randomFailed, eexist⟩
  | .invalidArgument => ⟨.encodeFailed, 0⟩
  | .invalidFrame => ⟨.encodeFailed, 0⟩
  | .empty => ⟨.ioError, result.systemError⟩
  | .notFound => ⟨.ioError, result.systemError⟩
  | .outsideRoot => ⟨.ioError, result.systemError⟩
  | .corrupt => ⟨.ioError, result.systemError⟩
  | .ioError => ⟨.ioError, result.systemError⟩

def alarmFrameOf (sourceId : UInt64) (timestampMs : UInt64) (payload : Bytes)
    (messageId : AlarmMessageId) : AlarmFrame :=
  ⟨.alarm, sourceId, messageId, timestampMs, payload⟩

/-- The loop of `enqueue` over message ids, with the attempts that are left. -/
def tryMessageIds (frameOf : AlarmMessageId → AlarmFrame) (attempts : ℕ → Attempt) (index : ℕ) :
    ℕ → CrashProgram AlarmSpool AlarmEnqueueResult
  | 0 => pure ⟨.randomFailed, eexist⟩
  | left + 1 =>
    match (attempts index).draw with
    | .error error => pure ⟨.randomFailed, error⟩
    | .ok messageId =>
      match encodeAlarmFrame (frameOf messageId) with
      | .error _ => pure ⟨.encodeFailed, 0⟩
      | .ok bytes => do
          let stored ← AlarmSpool.store (frameOf messageId).sourceId messageId bytes
            (attempts index).faults
          if stored.status = .duplicate then tryMessageIds frameOf attempts (index + 1) left
          else pure (mapSpoolResult stored)

def enqueue (accepting : Bool) (sourceId : UInt64) (record : StoredRecord)
    (attempts : ℕ → Attempt) : CrashProgram AlarmSpool AlarmEnqueueResult :=
  if !accepting then pure ⟨.notReady, 0⟩
  else
    match encodeV2 record with
    | .error _ => pure ⟨.encodeFailed, 0⟩
    | .ok payload =>
      match timestampMilliseconds record.changedAt with
      | none => pure ⟨.encodeFailed, 0⟩
      | some timestampMs =>
        tryMessageIds (alarmFrameOf sourceId timestampMs payload) attempts 0 messageIdAttempts

/-- The frame `enqueue` builds for a record, if it can be built. -/
def frameOfRecord (sourceId : UInt64) (record : StoredRecord) (messageId : AlarmMessageId) :
    Option AlarmFrame :=
  match encodeV2 record with
  | .error _ => none
  | .ok payload =>
    (timestampMilliseconds record.changedAt).map fun timestampMs =>
      alarmFrameOf sourceId timestampMs payload messageId

/-! ## Milliseconds -/

lemma timestampMilliseconds_toNat {t : MonitorTimestamp} {milliseconds : UInt64}
    (hsome : timestampMilliseconds t = some milliseconds) :
    0 ≤ t.count ∧ (milliseconds.toNat : ℤ) = t.count / 1000000 := by
  unfold timestampMilliseconds at hsome
  split_ifs at hsome with hneg
  have hupper := t.upper
  have hdiv : t.count.tdiv 1000000 = t.count / 1000000 :=
    Int.tdiv_eq_ediv_of_nonneg (by omega)
  rw [← some_inj.mp hsome, hdiv, UInt64.toNat_ofNat_of_lt' (show _ < 18446744073709551616 by omega)]
  omega

lemma timestampMilliseconds_mono {early late : MonitorTimestamp} {early' late' : UInt64}
    (hearly : timestampMilliseconds early = some early')
    (hlate : timestampMilliseconds late = some late') (hle : early.count ≤ late.count) :
    early'.toNat ≤ late'.toNat := by
  have h := (timestampMilliseconds_toNat hearly).2
  have h' := (timestampMilliseconds_toNat hlate).2
  omega

/-! ## Frames of records -/

def StoredRecord.decoded (record : StoredRecord) : DecodedRecord :=
  ⟨.v2, record.data, some record.changedAt⟩

lemma length_v2Wire (r : StoredRecord) : (v2Wire r).length =
      v2HeaderSize + r.data.description.length + r.data.value.wire.2.length := by
  simp [v2Wire, Nat.add_assoc, v2HeaderSize]

lemma frameOfRecord_spec {sourceId : UInt64} {r : StoredRecord} {mid : AlarmMessageId}
    {fr : AlarmFrame} (hframe : frameOfRecord sourceId r mid = some fr) :
    fr.Valid ∧ identityOf fr = ⟨sourceId, mid⟩ ∧
      timestampMilliseconds r.changedAt = some fr.timestampMs ∧
      decodeReliablePayload fr = some r.decoded := by
  unfold frameOfRecord at hframe
  cases hencode : encodeV2 r with
  | error status => simp [hencode] at hframe
  | ok payload =>
    simp only [hencode, map_eq_some_iff] at hframe
    obtain ⟨timestampMs, htimestamp, rfl⟩ := hframe
    have hdecode := decodeV2_encodeV2 hencode
    obtain ⟨hfits, rfl⟩ := encodeV2_eq_ok hencode
    have hlength := length_v2Wire r
    unfold v2HeaderSize v2MaxDatagramSize at *
    refine ⟨?_, rfl, htimestamp, ?_⟩
    · have hvalid : AlarmFrameType.alarm.isValid := rfl
      have hcontrol : AlarmFrameType.alarm.isControl = false := rfl
      unfold AlarmFrame.Valid validateFrameDescription alarmFrameOf alarmMaxPayloadSize
      simp only [hvalid, hcontrol, Bool.not_true, Bool.false_and, Bool.false_eq_true, if_false]
      rw [if_neg (by omega), if_neg ?_]
      simp only [Bool.and_eq_true, beq_iff_eq, not_and]
      omega
    · have hne : v2Wire r ≠ [] := fun h => by simp [h] at hlength; omega
      simp [decodeReliablePayload, alarmFrameOf, hdecode, hne, StoredRecord.decoded]

/-! ## What `enqueue` does to the outbox -/

def outboxPath (sourceId : UInt64) (messageId : AlarmMessageId) : Bytes :=
  spoolPath .outbox sourceId messageId

/-- The id the loop of `enqueue` goes on with: the first one drawn under which the
outbox has no file. -/
def chosenMessageId (spool : AlarmSpool) (sourceId : UInt64) (attempts : ℕ → Attempt)
    (index : ℕ) : ℕ → Option AlarmMessageId
  | 0 => none
  | left + 1 =>
    match (attempts index).draw with
    | .error _ => none
    | .ok messageId =>
      if (spool.data.lookup (outboxPath sourceId messageId)).isSome then
        chosenMessageId spool sourceId attempts (index + 1) left
      else some messageId

lemma chosenMessageId_eq_some {sp : AlarmSpool} {sourceId : UInt64} {attempts : ℕ → Attempt}
    {mid : AlarmMessageId} {left : ℕ} : ∀ {i : ℕ},
      chosenMessageId sp sourceId attempts i left = some mid →
      (∃ drawn, (attempts drawn).draw = .ok mid) ∧
        sp.data.lookup (outboxPath sourceId mid) = none := by
  induction left with
  | zero => exact fun h => by simp [chosenMessageId] at h
  | succ left ih =>
    intro i hchosen
    unfold chosenMessageId at hchosen
    cases hdraw : (attempts i).draw with
    | error error => simp [hdraw] at hchosen
    | ok drawn =>
      simp only [hdraw] at hchosen
      split_ifs at hchosen with htaken
      · exact ih hchosen
      · rw [← some_inj.mp hchosen]
        exact ⟨⟨i, hdraw⟩, by simpa using htaken⟩

/-- `later` comes from `first` by work on the file of `frame`, which is the frame
of the record under the id the loop has chosen. -/
structure Enqueues (sourceId : UInt64) (record : StoredRecord) (attempts : ℕ → Attempt)
    (frame : AlarmFrame) (first later : AlarmSpool) : Prop where
  chosen : chosenMessageId first sourceId attempts 0 messageIdAttempts = some frame.messageId
  built : frameOfRecord sourceId record frame.messageId = some frame
  within : AlarmSpool.Within (outboxPath sourceId frame.messageId)
    (fun content => content = alarmWire frame) first later

def EnqueueBounds (sourceId : UInt64) (record : StoredRecord) (attempts : ℕ → Attempt)
    (first later : AlarmSpool) : Prop :=
  first.Aside later ∨ ∃ frame, Enqueues sourceId record attempts frame first later

/-- What `enqueue` has done when it returns: a durable record has its file. -/
structure EnqueueEnd (sourceId : UInt64) (record : StoredRecord) (attempts : ℕ → Attempt)
    (first : AlarmSpool) (result : AlarmEnqueueResult) (later : AlarmSpool) : Prop where
  bounds : EnqueueBounds sourceId record attempts first later
  durable : result.durable = true → ∃ frame, Enqueues sourceId record attempts frame first later ∧
    later.data.Durable (outboxPath sourceId frame.messageId) (alarmWire frame)

variable {sourceId : UInt64} {r : StoredRecord} {attempts : ℕ → Attempt}
  {first later : AlarmSpool}

lemma Enqueues.free {fr : AlarmFrame} (henqueues : Enqueues sourceId r attempts fr first later) :
    first.data.lookup (outboxPath sourceId fr.messageId) = none :=
  (chosenMessageId_eq_some henqueues.chosen).2

lemma EnqueueBounds.kind_eq
    (hbounds : EnqueueBounds sourceId r attempts first later) : later.kind = first.kind := by
  rcases hbounds with haside | ⟨fr, henqueues⟩
  · exact haside.kind
  · exact henqueues.within.kind

lemma EnqueueEnd.aside {result : AlarmEnqueueResult}
    (hdurable : result.durable = false) (haside : first.Aside later) :
    EnqueueEnd sourceId r attempts first result later :=
  ⟨.inl haside, by simp [hdurable]⟩

lemma durable_mapSpoolResult_iff (result : AlarmSpoolPathResult) :
    (mapSpoolResult result).durable = true ↔ result.status = .success := by
  unfold mapSpoolResult AlarmEnqueueResult.durable
  cases result.status <;> simp

lemma tryMessageIds_meets {frameOf : AlarmMessageId → AlarmFrame} (hkind : first.kind = .outbox)
    (hid : ∀ mid, (frameOf mid).messageId = mid)
    (hbuilt : ∀ mid, frameOfRecord sourceId r mid = some (frameOf mid))
    (left : ℕ) : ∀ (i : ℕ) (sp : AlarmSpool),
      chosenMessageId first sourceId attempts 0 messageIdAttempts =
        chosenMessageId first sourceId attempts i left → first.Aside sp →
      (tryMessageIds frameOf attempts i left).Meets sp (EnqueueBounds sourceId r attempts first)
        (EnqueueEnd sourceId r attempts first) := by
  induction left with
  | zero => exact fun i sp _ haside => meets_pure (.aside rfl haside)
  | succ left ih =>
    intro i sp hchosen haside
    unfold tryMessageIds
    cases hdraw : (attempts i).draw with
    | error error => exact meets_pure (.aside rfl haside)
    | ok mid =>
      obtain ⟨hvalid, hidentity, -, -⟩ := frameOfRecord_spec (hbuilt mid)
      have hsource : (frameOf mid).sourceId = sourceId :=
        congrArg AlarmIdentity.sourceId hidentity
      simp only [encodeAlarmFrame_of_valid hvalid, hsource]
      have hstore := AlarmSpool.store_meets sourceId mid (alarmWire (frameOf mid))
        (attempts i).faults sp
      have hpath : spoolPath sp.kind sourceId mid =
          outboxPath sourceId (frameOf mid).messageId := by
        rw [haside.kind, hkind, hid, outboxPath]
      rw [hpath] at hstore
      -- a path that is taken is left alone, a free one becomes the frame's
      have hbounds : ∀ later, AlarmSpool.StoreBounds (outboxPath sourceId (frameOf mid).messageId)
          (AlarmSpool.StoreAllowed sourceId mid (alarmWire (frameOf mid)))
          sp later → EnqueueBounds sourceId r attempts first later ∧
            (first.data.lookup (outboxPath sourceId (frameOf mid).messageId) = none →
              Enqueues sourceId r attempts (frameOf mid) first later) := by
        intro later hlater
        have hwithin := (AlarmSpool.Within.refl _ _ first).aside haside |>.trans
          (hlater.within.mono fun content hallowed => hallowed.1)
        have henqueues : first.data.lookup
            (outboxPath sourceId (frameOf mid).messageId) = none →
            Enqueues sourceId r attempts (frameOf mid) first later :=
          by
          intro hfree
          refine ⟨?_, by rw [hid, hbuilt], hwithin⟩
          rw [hid] at hfree
          rw [hchosen, chosenMessageId, hdraw]
          simp [hid, hfree]
        refine ⟨?_, henqueues⟩
        cases hlookup : first.data.lookup
            (outboxPath sourceId (frameOf mid).messageId) with
        | none => exact .inr ⟨_, henqueues hlookup⟩
        | some content =>
          have hdata := hlater.taken (by simp [haside.data, hlookup])
          exact .inl { hwithin with data := hdata.trans haside.data }
      refine meets_bind (hstore.mono (fun later hlater => (hbounds later hlater).1)
        fun _ _ hpost => hpost) ?_
      intro stored later hend
      obtain ⟨hlater, henqueues⟩ := hbounds later hend.bounds
      split_ifs with hduplicate
      · have hwithin := hend.bounds.within
        have hdata := hend.bounds.taken (hend.duplicate hduplicate).2
        refine ih (i + 1) later ?_ (haside.trans { hwithin with data := hdata })
        have htaken := (hend.duplicate hduplicate).2
        rw [haside.data, hid] at htaken
        rw [hchosen, chosenMessageId, hdraw]
        simp [htaken]
      · refine meets_pure ⟨hlater, fun hdurable => ?_⟩
        obtain ⟨-, hdurable, hfree⟩ :=
          hend.success ((durable_mapSpoolResult_iff stored).mp hdurable)
        exact ⟨frameOf mid, henqueues (haside.data ▸ hfree), hdurable⟩

lemma enqueue_meets (accepting : Bool) (sourceId : UInt64) (r : StoredRecord)
    (attempts : ℕ → Attempt) (first : AlarmSpool) (hkind : first.kind = .outbox) :
    (enqueue accepting sourceId r attempts).Meets first (EnqueueBounds sourceId r attempts first)
      (EnqueueEnd sourceId r attempts first) := by
  unfold enqueue
  split_ifs
  · exact meets_pure (.aside rfl (.refl first))
  · cases hencode : encodeV2 r with
    | error status => exact meets_pure (.aside rfl (.refl first))
    | ok payload =>
      cases htimestamp : timestampMilliseconds r.changedAt with
      | none => exact meets_pure (.aside rfl (.refl first))
      | some timestampMs =>
        have hbuilt : ∀ mid, frameOfRecord sourceId r mid =
            some (alarmFrameOf sourceId timestampMs payload mid) := by
          simp [frameOfRecord, hencode, htimestamp]
        exact tryMessageIds_meets hkind (fun _ => rfl) hbuilt _ 0 first rfl (.refl first)

/-! ## The head of the queue -/

/-- What the worker is going to deliver: a file of the outbox, its bytes and the
frame in them. -/
structure Delivery where
  path : Bytes
  wire : Bytes
  frame : AlarmFrame
deriving DecidableEq, Repr

structure PickFaults where
  scan : ScanFaults
  read : AlarmSpool.ReadFaults
  resolve : Option ℤ
  move : AlarmSpool.MoveFaults
deriving DecidableEq, Repr

def PickFaults.clean : PickFaults := ⟨.clean, .clean, none, .clean⟩

/-- The beginning of `run_iteration`, up to the connection. -/
def pickNext (faults : PickFaults) : CrashProgram AlarmSpool (Option Delivery) := do
  let spool ← .peek id
  let next := spool.next faults.scan
  if next.status ≠ .success then pure none
  else
    let stored ← AlarmSpool.read next.path faults.read
    if stored.status ≠ .success then pure none
    else
      match decodeAlarmFrame stored.bytes with
      | .error _ =>
        let _ ← AlarmSpool.quarantine next.path faults.resolve faults.move
        pure none
      | .ok frame =>
        if frame.type ≠ .alarm then
          let _ ← AlarmSpool.quarantine next.path faults.resolve faults.move
          pure none
        else pure (some ⟨next.path, stored.bytes, frame⟩)

/-- The delivery is a file of the spool, with an alarm in it. -/
structure Delivery.PickedFrom (delivery : Delivery) (spool : AlarmSpool) : Prop where
  visible : spool.data.lookup delivery.path = some delivery.wire
  decodes : decodeAlarmFrame delivery.wire = .ok delivery.frame
  type : delivery.frame.type = .alarm

/-- What the worker finds out about the file it reads. -/
def PickSound (faults : PickFaults) (spool : AlarmSpool) (name content : Bytes) : Prop :=
  name = (spool.next faults.scan).path → isAlarmWire (faults.read.content content) = true

instance (faults : PickFaults) (spool : AlarmSpool) (name content : Bytes) :
    Decidable (PickSound faults spool name content) :=
  inferInstanceAs (Decidable (_ → _))

/-- The file that is first in turn has left the outbox at most, and an intact one has stayed. -/
structure PickBounds (faults : PickFaults) (first later : AlarmSpool) : Prop where
  removes : AlarmSpool.Removes (first.next faults.scan).path first later
  intact : AlarmSpool.Intact first (first.next faults.scan).path faults.read →
    later.data = first.data

lemma PickBounds.refl (faults : PickFaults) (sp : AlarmSpool) : PickBounds faults sp sp :=
  ⟨.refl _ _, fun _ => rfl⟩

lemma PickBounds.kept {faults : PickFaults} {sp later : AlarmSpool} {name content : Bytes}
    (hbounds : PickBounds faults sp later) (hget : sp.data.lookup name = some content)
    (hsound : PickSound faults sp name content) : later.data.lookup name = some content := by
  by_cases hname : name = (sp.next faults.scan).path
  · have hintact : AlarmSpool.Intact sp (sp.next faults.scan).path faults.read := by
      intro other hother
      rw [← hname, hget, some_inj] at hother
      exact hother ▸ hsound hname
    rw [hbounds.intact hintact, hget]
  · rw [hbounds.removes.data.lookup_of_ne hname, hget]

lemma pickNext_meets (faults : PickFaults) (sp : AlarmSpool) : (pickNext faults).Meets sp
      (PickBounds faults sp) fun picked later => PickBounds faults sp later ∧
        ∀ d, picked = some d → d.PickedFrom sp ∧ later.data = sp.data := by
  refine meets_peek_bind ?_
  dsimp only [id_eq]
  split_ifs with hnext
  · exact meets_pure ⟨.refl faults sp, by simp⟩
  refine meets_bind
    ((AlarmSpool.read_meets (sp.next faults.scan).path faults.read sp).mono
      (fun later hlater => ⟨hlater.1, hlater.2⟩) fun _ _ hpost => hpost) ?_
  intro stored later hend
  have hlater : PickBounds faults sp later := ⟨hend.removes, hend.intact⟩
  split_ifs with hfailed
  · exact meets_pure ⟨hlater, by simp⟩
  obtain ⟨-, hdata, hlookup, hwire⟩ := hend.success (not_not.mp hfailed)
  -- what was read is an alarm, so that the two quarantines are never reached
  rw [AlarmSpool.content_eq_of_isAlarmWire hwire, isAlarmWire] at hwire
  cases hdecode : decodeAlarmFrame stored.bytes with
  | error status => simp [hdecode] at hwire
  | ok fr =>
    have htype : fr.type = .alarm := by simpa [hdecode] using hwire
    simp only [htype, ne_eq, not_true_eq_false, if_false]
    refine meets_pure ⟨hlater, ?_⟩
    rintro d ⟨rfl⟩
    exact ⟨⟨hlookup, hdecode, htype⟩, hdata⟩

end Tlss.Monitor
