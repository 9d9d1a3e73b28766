import Tlss.Monitor.AlarmSpoolSpec
import Tlss.Monitor.Engine

/-!
# The alarm collector

`process_alarm` of `reliable_alarm_collector.cpp`. A frame is checked, stored in
the inbox, handed to the engine and only then accepted and acknowledged; a frame
whose identity is already in the inbox is replaced by the copy on disk.

The collector keeps a log of what it has handed to the engine since it was
started; the log is not part of the program.

`processAlarm_meets` is the one description of `process_alarm` that everything
else uses: it lists the ways in which a frame can end, and what a crash in the
middle may leave in the inbox.
-/

namespace Tlss.Monitor

open Library
open CrashProgram (meets_atomic_bind meets_bind meets_peek_bind meets_pure meets_zoom)

/-! ## Frames and identities -/

structure AlarmIdentity where
  sourceId : UInt64
  messageId : AlarmMessageId
deriving DecidableEq, Repr

def identityOf (frame : AlarmFrame) : AlarmIdentity := ⟨frame.sourceId, frame.messageId⟩

def AlarmIdentity.inboxPath (identity : AlarmIdentity) : Bytes :=
  spoolPath .inbox identity.sourceId identity.messageId

lemma inboxPath_injective {left right : AlarmIdentity}
    (hpath : left.inboxPath = right.inboxPath) : left = right := by
  obtain ⟨hsource, hmessage⟩ := spoolPath_injective hpath
  cases left
  cases right
  simp_all

/-- `decode_reliable_payload`: version 2 only, since version 1 has no change time. -/
def decodeReliablePayload (frame : AlarmFrame) : Option DecodedRecord :=
  if frame.type ≠ .alarm ∨ frame.payload = [] then none
  else
    match decodeV2 frame.payload with
    | .error _ => none
    | .ok record => if record.version ≠ .v2 ∨ record.changedAt = none then none else some record

variable {fr : AlarmFrame}

lemma type_of_decodeReliablePayload {r : DecodedRecord}
    (hrel : decodeReliablePayload fr = some r) : fr.type = .alarm := by
  unfold decodeReliablePayload at hrel
  split_ifs at hrel with hother
  exact not_not.mp fun htype => hother (.inl htype)

def recordOf (bytes : Bytes) : Option DecodedRecord :=
  match decodeAlarmFrame bytes with
  | .error _ => none
  | .ok frame => decodeReliablePayload frame

/-- A control frame and its encoding, as `queue_control` puts it in the send queue. -/
structure QueuedControl where
  frame : AlarmFrame
  bytes : Bytes
deriving DecidableEq, Repr

/-- `queue_control`: the answer to a request carries its identity and time. -/
def queueControl (type : AlarmFrameType) (request : AlarmFrame) : Option QueuedControl :=
  let response : AlarmFrame := ⟨type, request.sourceId, request.messageId, request.timestampMs, []⟩
  match encodeAlarmFrame response with
  | .error _ => none
  | .ok bytes => some ⟨response, bytes⟩

lemma queueControl_of_isControl {type : AlarmFrameType} (hcontrol : type.isControl)
    (req : AlarmFrame) : queueControl type req =
      some ⟨⟨type, req.sourceId, req.messageId, req.timestampMs, []⟩,
        alarmWire ⟨type, req.sourceId, req.messageId, req.timestampMs, []⟩⟩ := by
  unfold queueControl
  simp only [encodeAlarmFrame_of_valid (valid_control hcontrol _ _ _)]

def acknowledged (answer : Option QueuedControl) : List AlarmIdentity :=
  match answer with
  | some control => if control.frame.type = .ack then [identityOf control.frame] else []
  | none => []

lemma eq_of_mem_acknowledged_ack {identity : AlarmIdentity}
    (hmem : identity ∈ acknowledged (queueControl .ack fr)) : identity = identityOf fr := by
  rw [queueControl_of_isControl rfl] at hmem
  simpa [acknowledged, identityOf] using hmem

lemma acknowledged_pong (fr : AlarmFrame) : acknowledged (queueControl .pong fr) = [] := by
  rw [queueControl_of_isControl rfl]
  rfl

/-! ## The collector -/

structure Ingested where
  identity : AlarmIdentity
  record : DecodedRecord
  status : UpdateStatus
deriving DecidableEq, Repr

/-- A collector: the engine, the inbox, the identities accepted since the start,
whether it is serving, and the log of what the engine was given. -/
structure Collector where
  engine : Engine
  spool : AlarmSpool
  accepted : List AlarmIdentity
  active : Bool
  ingested : List Ingested

namespace Collector

def onSpool {α : Type} (program : CrashProgram AlarmSpool α) : CrashProgram Collector α :=
  .zoom Collector.spool (fun spool collector => { collector with spool := spool }) program

/-- `ingest_decoded_record` on the engine of the collector. Reliable records
carry their time, so the clock is not needed. -/
def ingest (identity : AlarmIdentity) (record : DecodedRecord) :
    CrashProgram Collector UpdateStatus :=
  .atomic fun collector =>
    let (result, engine) := ingestDecodedRecord collector.engine record true default
    (result.status,
      { collector with
        engine := engine
        ingested := collector.ingested ++ [⟨identity, record, result.status⟩] })

def accept (identity : AlarmIdentity) : CrashProgram Collector Unit :=
  .atomic fun collector =>
    ((), { collector with accepted := collector.accepted.insert identity })

structure ProcessFaults where
  store : StoreFaults
  read : AlarmSpool.ReadFaults
  resolve : Option ℤ
  move : AlarmSpool.MoveFaults
deriving DecidableEq, Repr

def ProcessFaults.clean : ProcessFaults := ⟨.clean, .clean, none, .clean⟩

def loadPersistedRecord (path : Bytes) (faults : ProcessFaults) :
    CrashProgram AlarmSpool (Option DecodedRecord) := do
  let stored ← AlarmSpool.read path faults.read
  if stored.status ≠ .success then pure none
  else
    match decodeAlarmFrame stored.bytes with
    | .error _ => pure none
    | .ok frame =>
      match decodeReliablePayload frame with
      | some record => pure (some record)
      | none =>
        let _ ← AlarmSpool.quarantine stored.path faults.resolve faults.move
        pure none

/-- The end of `process_alarm`: hand the record to the engine, accept, acknowledge. -/
def applyRecord (frame : AlarmFrame) (record : DecodedRecord) :
    CrashProgram Collector (Option QueuedControl) := do
  let status ← ingest (identityOf frame) record
  if ingestSucceeded status then
    accept (identityOf frame)
    pure (queueControl .ack frame)
  else
    -- the file is stored but the engine has not taken it: no acknowledgement, so
    -- that the publisher comes back
    pure none

/-- `process_alarm`. Returns what is queued for the client; `none` closes it. -/
def processAlarm (frame : AlarmFrame) (faults : ProcessFaults) :
    CrashProgram Collector (Option QueuedControl) := do
  match decodeReliablePayload frame with
  | none => pure none
  | some incoming =>
    let collector ← .peek id
    if identityOf frame ∈ collector.accepted then pure (queueControl .ack frame)
    else
      match encodeAlarmFrame frame with
      | .error _ => pure none
      | .ok bytes =>
        let stored ←
          onSpool (AlarmSpool.store frame.sourceId frame.messageId bytes faults.store)
        match stored.status with
        | .success => applyRecord frame incoming
        | .duplicate =>
          match ← onSpool (loadPersistedRecord stored.path faults) with
          | none => pure none
          | some record => applyRecord frame record
        | _ => pure none

def processFrame (frame : AlarmFrame) (faults : ProcessFaults) :
    CrashProgram Collector (Option QueuedControl) :=
  if frame.type = .alarm then processAlarm frame faults
  else if frame.type = .ping then pure (queueControl .pong frame)
  else pure none

/-! ## What a frame can do -/

/-- A file that belongs under the path of an identity: a frame of that identity
with a reliable record in it. -/
def Acceptable (identity : AlarmIdentity) (content : Bytes) : Prop :=
  AlarmSpool.Storable identity.sourceId identity.messageId content ∧
    (recordOf content).isSome = true

def Sound (faults : AlarmSpool.ReadFaults) (content : Bytes) : Prop :=
  isAlarmWire (faults.content content) = true ∧ (recordOf content).isSome = true

instance (faults : AlarmSpool.ReadFaults) (content : Bytes) : Decidable (Sound faults content) :=
  inferInstanceAs (Decidable (_ ∧ _))

/-- What `load_persisted_record` finds out about the file of the frame. -/
def ReadSound (frame : AlarmFrame) (faults : ProcessFaults) (name content : Bytes) : Prop :=
  name = (identityOf frame).inboxPath → Sound faults.read content

instance (frame : AlarmFrame) (faults : ProcessFaults) (name content : Bytes) :
    Decidable (ReadSound frame faults name content) :=
  inferInstanceAs (Decidable (_ → _))

/-- `path` has lost its file at most, and a sound file has stayed. -/
structure LoadBounds (path : Bytes) (faults : ProcessFaults) (first later : AlarmSpool) : Prop where
  removes : AlarmSpool.Removes path first later
  kept : ∀ content, first.data.lookup path = some content → Sound faults.read content →
    later.data = first.data

lemma loadPersistedRecord_meets (path : Bytes) (faults : ProcessFaults) (sp : AlarmSpool) :
    (loadPersistedRecord path faults).Meets sp (LoadBounds path faults sp)
      fun loaded late => LoadBounds path faults sp late ∧
        ∀ r, loaded = some r → ∃ body, sp.data.lookup path = some body ∧
          recordOf body = some r ∧ late.data = sp.data := by
  have hintact : ∀ body, sp.data.lookup path = some body → Sound faults.read body →
      AlarmSpool.Intact sp path faults.read := by
    intro body hget hs other hother
    rw [hget, Option.some_inj] at hother
    exact hother ▸ hs.1
  have hread := AlarmSpool.read_meets path faults.read sp
  refine meets_bind (hread.mono ?_ fun _ _ hpost => hpost) ?_
  · exact fun late hlat =>
      ⟨hlat.1, fun body hget hs => hlat.2 (hintact body hget hs)⟩
  intro stored late hpost
  have hbounds : LoadBounds path faults sp late :=
    ⟨hpost.removes, fun body hget hs => hpost.intact (hintact body hget hs)⟩
  split_ifs with hfailed
  · exact meets_pure ⟨hbounds, by simp⟩
  obtain ⟨hpath, hdata, hget, -⟩ := hpost.success (not_not.mp hfailed)
  cases hdecode : decodeAlarmFrame stored.bytes with
  | error status => exact meets_pure ⟨hbounds, by simp⟩
  | ok fr =>
    have hrecord : recordOf stored.bytes = decodeReliablePayload fr := by
      simp [recordOf, hdecode]
    dsimp only
    cases hrel : decodeReliablePayload fr with
    | some r =>
      refine meets_pure ⟨hbounds, ?_⟩
      rintro found ⟨rfl⟩
      exact ⟨stored.bytes, hget, hrecord.trans hrel, hdata⟩
    | none =>
      -- the file is put away; it was not sound
      have haway : ∀ latest, AlarmSpool.Removes path late latest →
          LoadBounds path faults sp latest := by
        refine fun latest hlatest => ⟨hpost.removes.trans hlatest, ?_⟩
        intro body hcontent hs
        rw [hget, Option.some_inj] at hcontent
        simp [← hcontent, Sound, hrecord, hrel] at hs
      rw [hpath]
      refine meets_bind
        ((AlarmSpool.quarantine_meets path faults.resolve faults.move late).mono
          haway fun _ latest hlatest => haway latest hlatest) ?_
      exact fun _ latest hlatest => meets_pure ⟨hlatest, by simp⟩

/-- What the processing of a frame may have done to the inbox at any moment: the
path of its identity alone may have changed, where only the frame itself may
have been put; a file that was there can only have been taken away, and a sound
one has stayed. -/
structure InboxBounds (frame : AlarmFrame) (faults : ProcessFaults) (first later : AlarmSpool) :
    Prop where
  within : AlarmSpool.Within (identityOf frame).inboxPath
    (fun content => content = alarmWire frame ∧ Acceptable (identityOf frame) content) first later
  taken : (first.data.lookup (identityOf frame).inboxPath).isSome = true →
    AlarmSpool.Removes (identityOf frame).inboxPath first later
  kept : ∀ content, first.data.lookup (identityOf frame).inboxPath = some content →
    Sound faults.read content → later.data = first.data

lemma InboxBounds.kept_of_readSound {first late : AlarmSpool} {faults : ProcessFaults}
    (hbounds : InboxBounds fr faults first late) {name body : Bytes}
    (hget : first.data.lookup name = some body) (hsound : ReadSound fr faults name body) :
    late.data.lookup name = some body := by
  by_cases hname : name = (identityOf fr).inboxPath
  · rw [hbounds.kept body (hname ▸ hget) (hsound hname), hget]
  · rw [hbounds.within.data.lookup_of_ne hname, hget]

lemma InboxBounds.refl (fr : AlarmFrame) (faults : ProcessFaults) (sp : AlarmSpool) :
    InboxBounds fr faults sp sp :=
  ⟨.refl _ _ _, fun _ => .refl _ _, fun _ _ _ => rfl⟩

def applied (collector : Collector) (spool : AlarmSpool) (identity : AlarmIdentity)
    (record : DecodedRecord) : Collector :=
  let (result, engine) := ingestDecodedRecord collector.engine record true default
  { collector with
    engine := engine
    spool := spool
    ingested := collector.ingested ++ [⟨identity, record, result.status⟩]
    accepted :=
      if ingestSucceeded result.status then collector.accepted.insert identity
      else collector.accepted }

lemma mem_accepted_applied {collector : Collector} {sp : AlarmSpool} {r : DecodedRecord}
    {given ident : AlarmIdentity} : ident ∈ (collector.applied sp given r).accepted ↔
      ident ∈ collector.accepted ∨ ident = given ∧
        ingestSucceeded (ingestDecodedRecord collector.engine r true default).1.status := by
  simp only [applied]
  split_ifs with hok <;> simp [hok, or_comm]

/-- Where the record came from that the engine was given: the frame was stored
under a free path, or the path held this file before. -/
def Provides (frame : AlarmFrame) (first later : AlarmSpool) (content : Bytes) : Prop :=
  (first.data.lookup (identityOf frame).inboxPath = none ∧ content = alarmWire frame ∧
      later.data.Durable (identityOf frame).inboxPath content) ∨
    (first.data.lookup (identityOf frame).inboxPath = some content ∧ later.data = first.data)

lemma Provides.lookup {first late : AlarmSpool} {body : Bytes}
    (hprovides : Provides fr first late body) :
    late.data.lookup (identityOf fr).inboxPath = some body := by
  rcases hprovides with ⟨-, -, hdurable⟩ | ⟨hget, hdata⟩
  · exact hdurable.lookup
  · rw [hdata, hget]

inductive ProcessEnd (frame : AlarmFrame) (faults : ProcessFaults) (first : Collector) :
    Option QueuedControl → Collector → Prop
  /-- The frame is no reliable alarm, could not be stored, or its file not be read. -/
  | refused {spool : AlarmSpool} (hbounds : InboxBounds frame faults first.spool spool)
      (hknown : identityOf frame ∈ first.accepted → spool = first.spool) :
      ProcessEnd frame faults first none { first with spool := spool }
  | known (haccepted : identityOf frame ∈ first.accepted) :
      ProcessEnd frame faults first (queueControl .ack frame) first
  | applied {spool : AlarmSpool} {content : Bytes} {record : DecodedRecord}
      (hnew : identityOf frame ∉ first.accepted)
      (hbounds : InboxBounds frame faults first.spool spool)
      (hcontent : Provides frame first.spool spool content)
      (hrecord : recordOf content = some record) :
      ProcessEnd frame faults first
        (if ingestSucceeded (ingestDecodedRecord first.engine record true default).1.status
          then queueControl .ack frame else none)
        (first.applied spool (identityOf frame) record)

/-- What holds wherever the process may die. -/
structure Moment (frame : AlarmFrame) (faults : ProcessFaults) (first state : Collector) :
    Prop where
  bounds : InboxBounds frame faults first.spool state.spool
  known : identityOf frame ∈ first.accepted → state.spool = first.spool
  ingested : state.ingested = first.ingested ∨ ∃ content record status,
    Provides frame first.spool state.spool content ∧ recordOf content = some record ∧
      state.ingested = first.ingested ++ [⟨identityOf frame, record, status⟩]

lemma applyRecord_meets (fr : AlarmFrame) (r : DecodedRecord) (first : Collector)
    (sp : AlarmSpool) : (applyRecord fr r).Meets { first with spool := sp }
      (fun s => s.spool = sp ∧
        ∃ status, s.ingested = first.ingested ++ [⟨identityOf fr, r, status⟩])
      fun answer late =>
        answer = (if ingestSucceeded (ingestDecodedRecord first.engine r true default).1.status
          then queueControl .ack fr else none) ∧
        late = first.applied sp (identityOf fr) r := by
  refine meets_atomic_bind ⟨rfl, _, rfl⟩ ?_
  split_ifs with hok
  · refine meets_atomic_bind ⟨rfl, _, rfl⟩ ?_
    exact meets_pure ⟨rfl, by simp [applied, hok]⟩
  · exact meets_pure ⟨rfl, by simp [applied, hok]⟩

lemma onSpool_meets {α : Type} {program : CrashProgram AlarmSpool α} {first : Collector}
    {crash : AlarmSpool → Prop} {post : α → AlarmSpool → Prop}
    (hmeets : program.Meets first.spool crash post) : (onSpool program).Meets first
      (fun s => ∃ sp, crash sp ∧ s = { first with spool := sp })
      fun value s => ∃ sp, post value sp ∧ s = { first with spool := sp } :=
  meets_zoom hmeets

lemma recordOf_alarmWire (hvalid : fr.Valid) :
    recordOf (alarmWire fr) = decodeReliablePayload fr := by
  simp [recordOf, decodeAlarmFrame_encode hvalid]

lemma processAlarm_meets (fr : AlarmFrame) (faults : ProcessFaults) (first : Collector)
    (hkind : first.spool.kind = .inbox) : (processAlarm fr faults).Meets first
      (Moment fr faults first) (ProcessEnd fr faults first) := by
  have hrefused : (pure none : CrashProgram Collector (Option QueuedControl)).Meets first
      (Moment fr faults first) (ProcessEnd fr faults first) :=
    meets_pure (.refused (.refl fr faults first.spool) fun _ => rfl)
  unfold processAlarm
  cases hrel : decodeReliablePayload fr with
  | none => exact hrefused
  | some incoming =>
    refine meets_peek_bind ?_
    split_ifs with haccepted
    · exact meets_pure (.known haccepted)
    cases hencode : encodeAlarmFrame fr with
    | error status => exact hrefused
    | ok bytes =>
      obtain ⟨hvalid, rfl⟩ := encodeAlarmFrame_eq_ok hencode
      have hrecord : recordOf (alarmWire fr) = some incoming :=
        (recordOf_alarmWire hvalid).trans hrel
      have hpath : spoolPath first.spool.kind fr.sourceId fr.messageId =
          (identityOf fr).inboxPath := by rw [hkind]; rfl
      have hbounds : ∀ sp, AlarmSpool.StoreBounds (identityOf fr).inboxPath
          (AlarmSpool.StoreAllowed fr.sourceId fr.messageId (alarmWire fr))
          first.spool sp → InboxBounds fr faults first.spool sp := by
        refine fun sp hstore => ⟨hstore.within.mono ?_, fun htaken => ?_, ?_⟩
        · rintro body ⟨rfl, hstorable⟩
          exact ⟨rfl, hstorable, by simp [hrecord]⟩
        · exact hstore.within.of_data_eq (hstore.taken htaken)
        · exact fun body hget _ => hstore.taken (by simp [hget])
      have hstored := AlarmSpool.store_meets fr.sourceId fr.messageId (alarmWire fr)
        faults.store first.spool
      rw [hpath] at hstored
      refine meets_bind ((onSpool_meets hstored).mono
        (by rintro s ⟨sp, hstate, rfl⟩
            exact ⟨hbounds _ hstate, fun h => absurd h haccepted, .inl rfl⟩)
        fun _ _ hpost => hpost) ?_
      rintro stored s ⟨sp, hend, rfl⟩
      have hspool := hbounds sp hend.bounds
      have happly : ∀ late body r, InboxBounds fr faults first.spool late →
          Provides fr first.spool late body → recordOf body = some r →
          (applyRecord fr r).Meets { first with spool := late }
            (Moment fr faults first) (ProcessEnd fr faults first) := by
        intro late body r hlat hcontent hfound
        refine (applyRecord_meets fr r first late).mono ?_ ?_
        · rintro s ⟨rfl, status, hingested⟩
          exact ⟨hlat, fun h => absurd h haccepted,
            .inr ⟨body, r, status, hcontent, hfound, hingested⟩⟩
        · rintro answer s ⟨rfl, rfl⟩
          exact .applied haccepted hlat hcontent hfound
      split
      · next hsuccess =>
          obtain ⟨-, hdurable, hfree⟩ := hend.success hsuccess
          exact happly sp _ _ hspool (.inl ⟨hfree, rfl, hdurable⟩) hrecord
      · next hduplicate =>
          obtain ⟨hstoredPath, htaken⟩ := hend.duplicate hduplicate
          have hsame := hend.bounds.taken htaken
          have hload : ∀ late, LoadBounds (identityOf fr).inboxPath faults sp late →
              InboxBounds fr faults first.spool late := by
            intro late hlat
            refine ⟨hspool.within.trans (hlat.removes.mono (by simp)),
              fun hvisible => (hspool.taken hvisible).trans hlat.removes, ?_⟩
            intro body hget hs
            rw [hlat.kept body (by rw [hsame, hget]) hs, hsame]
          rw [hstoredPath]
          refine meets_bind ((onSpool_meets
            (loadPersistedRecord_meets (identityOf fr).inboxPath faults sp)).mono
            (by rintro s ⟨part, hstate, rfl⟩
                exact ⟨hload _ hstate, fun h => absurd h haccepted, .inl rfl⟩)
            fun _ _ hpost => hpost) ?_
          rintro loaded s ⟨late, ⟨hlat, hfound⟩, rfl⟩
          cases loaded with
          | none => exact meets_pure (.refused (hload late hlat) fun h => absurd h haccepted)
          | some r =>
            obtain ⟨body, hget, hcontent, hdata⟩ := hfound r rfl
            refine happly late body r (hload late hlat) (.inr ?_) hcontent
            exact ⟨by rw [← hsame, hget], hdata.trans hsame⟩
      · exact meets_pure (.refused hspool fun h => absurd h haccepted)

lemma processFrame_of_alarm (htype : fr.type = .alarm)
    (faults : ProcessFaults) : processFrame fr faults = processAlarm fr faults :=
  if_pos htype

lemma exec_processFrame_of_ne (htype : fr.type ≠ .alarm)
    (faults : ProcessFaults) (collector : Collector) : (processFrame fr faults).exec collector =
      ⟨[], collector, if fr.type = .ping then queueControl .pong fr else none⟩ := by
  unfold processFrame
  rw [if_neg htype]
  split_ifs <;> rfl

lemma processFrame_meets (fr : AlarmFrame) (faults : ProcessFaults) (first : Collector)
    (hkind : first.spool.kind = .inbox) :
    (processFrame fr faults).Meets first (Moment fr faults first) fun answer late =>
      ProcessEnd fr faults first answer late ∨ answer = queueControl .pong fr ∧ late = first := by
  unfold processFrame
  split_ifs
  · exact (processAlarm_meets fr faults first hkind).mono (fun _ h => h) fun _ _ h => .inl h
  · exact meets_pure (.inr ⟨rfl, rfl⟩)
  · exact meets_pure (.inl (.refused (.refl fr faults first.spool) fun _ => rfl))

end Collector

end Tlss.Monitor
