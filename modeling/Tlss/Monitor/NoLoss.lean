import Tlss.Monitor.RemoveAfterAck

/-!
# No alarm is lost

An alarm that `enqueue` has stored stays in the outbox until the collector has it.
The argument rests on what an ACK stands for: the file of the identity is in the
inbox, and it survives a power failure.

This is not so for a file that was renamed into place but whose directory was
never synced, because the collector died in between: a restarted collector accepts
what it finds. `Reliable` excludes this, and message ids that are drawn twice;
`Conserved` is the invariant that holds then. A file that one of the spools has
found corrupt and moved away does not count as lost.
-/

namespace Tlss.Monitor

open Library Collector List Option

namespace AlarmNetwork

/-! ## What has to hold for a step -/

variable (net : AlarmNetwork)

/-- The message id of the frame that is going to be stored was not used before. -/
def DrawsFresh (record : StoredRecord) (attempts : ℕ → Attempt) : Prop :=
  ∀ frame ∈ net.enqueueFrame record attempts, ∀ other ∈ net.written,
    other.messageId ≠ frame.messageId

def InboxSynced (name : Bytes) : Prop :=
  (net.collector.spool.data.lookup name).isSome = true → net.collector.spool.data.Synced name

/-- Message ids are not drawn twice, and the collector never looks at a file of its
inbox that is there without having been synced. -/
def Reliable : NetworkEvent → Prop
  | .publisher (.enqueue record attempts) => net.DrawsFresh record attempts
  | .publisher (.dieEnqueuing record attempts _) => net.DrawsFresh record attempts
  | .collector (.process connection _) =>
    ∀ frame ∈ (net.connections connection).queue.head?, net.InboxSynced (identityOf frame).inboxPath
  | .environment (.startCollector _) =>
    ∀ name ∈ net.collector.spool.data.files.map Prod.fst, net.InboxSynced name
  | _ => True

/-! ## The invariant -/

/-- The alarm is in the inbox for good, unless its file was found corrupt there. -/
def Safe (frame : AlarmFrame) : Prop :=
  (identityOf frame).inboxPath ∈ net.corruptInbox ∨
    net.collector.spool.data.Durable (identityOf frame).inboxPath (alarmWire frame)

def Acknowledgeable (identity : AlarmIdentity) : Prop :=
  ∃ frame ∈ net.written, identityOf frame = identity ∧ net.Safe frame

def Request (frame : AlarmFrame) : Prop :=
  frame ∈ net.written ∨ frame.type = .ping

def Reply (frame : AlarmFrame) : Prop :=
  frame.type = .ack → net.Acknowledgeable (identityOf frame)

/-- The alarm is in the outbox or in the inbox for good, or was found corrupt. -/
def Held (frame : AlarmFrame) : Prop :=
  outboxPath frame.sourceId frame.messageId ∈ net.corruptOutbox ∨
    net.outbox.data.Durable (outboxPath frame.sourceId frame.messageId) (alarmWire frame) ∨
    net.Safe frame

/-- The publisher goes on in this state of its worker, with the streams as they are. -/
structure Serves (worker : Worker) (socket : Option ℕ) : Prop where
  streams : Coherent net.Request net.Reply worker socket net.connections
  acked : ∀ connection delivery, worker = .acked connection delivery → net.Safe delivery.frame

/-- The spool holds no more than `earlier` does and the alarms that were stored. -/
def Receives (earlier later : AlarmSpool) : Prop :=
  ∀ name content, later.data.MayHold name (some content) →
    earlier.data.MayHold name (some content) ∨
      ∃ frame ∈ net.written, name = (identityOf frame).inboxPath ∧ content = alarmWire frame

/-- Every alarm that was stored is safe in one of the spools. -/
structure Conserved (net : AlarmNetwork) : Prop where
  tracked : net.Tracked
  unique : ∀ left ∈ net.written, ∀ right ∈ net.written,
    left.messageId = right.messageId → left = right
  inboxKind : net.collector.spool.kind = .inbox
  inboxFiles : ∀ name content, net.collector.spool.data.MayHold name (some content) →
    ∃ frame ∈ net.written, name = (identityOf frame).inboxPath ∧ content = alarmWire frame
  accepted : ∀ identity ∈ net.collector.accepted, net.Acknowledgeable identity
  acked : ∀ connection delivery, net.worker = .acked connection delivery → net.Safe delivery.frame
  held : ∀ frame ∈ net.succeeded, frame ∈ net.written ∧ net.Held frame
  streams : Coherent net.Request net.Reply net.worker net.socket net.connections

variable {net : AlarmNetwork}

lemma initial_conserved (sourceId : UInt64) (maxOutboxBytes : ℕ) (engine : Engine) :
    (initial sourceId maxOutboxBytes engine).Conserved where
  tracked := initial_tracked sourceId maxOutboxBytes engine
  unique := by simp [initial]
  inboxKind := rfl
  inboxFiles := by
    intro name body hmay
    simp [initial, AlarmSpool.fresh, DurableDirectory.MayHold, DurableDirectory.lookup,
      DurableDirectory.empty] at hmay
  accepted := by simp [initial]
  acked := by simp [initial]
  held := by simp [initial]
  streams := by
    refine ⟨fun n _ => ?_, ?_, ?_, ?_⟩
    · simpa [initial, owed] using (Connection.carries_fresh).abandon
    · simp [initial, Connection.fresh]
    · simp [initial]
    · simp [initial, Worker.connection]

section

variable (hinv : net.Conserved)
include hinv

lemma Conserved.eq_of_identity {left right : AlarmFrame}
    (hleft : left ∈ net.written) (hright : right ∈ net.written)
    (hid : identityOf left = identityOf right) : left = right :=
  hinv.unique left hleft right hright (congrArg AlarmIdentity.messageId hid)

variable {frame : AlarmFrame} {late : AlarmNetwork} {n : ℕ} {faults : ProcessFaults}
  {attempts : ℕ → Attempt} {r : StoredRecord} {lost : List Bytes} {collector : Collector}
  {outbox spool earlier : AlarmSpool} {response : Option QueuedControl} {body : Bytes}

lemma Conserved.safe_of_acknowledgeable
    (hwritten : frame ∈ net.written) (hack : net.Acknowledgeable (identityOf frame)) :
    net.Safe frame := by
  obtain ⟨y, hother, hid, hsafe⟩ := hack
  exact hinv.eq_of_identity hother hwritten hid ▸ hsafe

/-! ## Streams -/

lemma Conserved.onStreams (htrk : late.Tracked) (hsame : late = { net with
      worker := late.worker
      socket := late.socket
      connections := late.connections
      nextConnection := late.nextConnection
      log := late.log })
    (hstreams : Coherent net.Request net.Reply late.worker late.socket late.connections)
    (hacked : ∀ c d, late.worker = .acked c d → net.Safe d.frame) : late.Conserved := by
  rw [hsame] at htrk ⊢
  exact { hinv with tracked := htrk, streams := hstreams, acked := hacked }

lemma Conserved.closeSocket : net.closeSocket.Conserved :=
  hinv.onStreams hinv.tracked.closeSocket rfl hinv.streams.closeSocket
    (by simp [AlarmNetwork.closeSocket])

lemma Conserved.connectWorker (succeeds : Bool) : (net.connectWorker succeeds).Conserved := by
  have htrk := hinv.tracked.connectWorker succeeds
  have hstreams := hinv.streams
  unfold AlarmNetwork.connectWorker at htrk ⊢
  cases hwk : net.worker with
  | picked d =>
    have hdelivers := hinv.tracked.delivers d (by rw [hwk]; rfl)
    have hvalid := (hinv.tracked.frames _ hdelivers.written).1
    have hreq : net.Request d.frame := .inl hdelivers.written
    rw [hwk] at hstreams
    cases hsocket : net.socket with
    | some n =>
      simp only [hwk, hsocket] at hstreams htrk
      have hbegin := hstreams.begin (.alarm d) rfl rfl hvalid hreq
      rw [← hdelivers.wire] at hbegin
      exact hinv.onStreams htrk rfl hbegin (by simp)
    | none =>
      simp only [hwk, hsocket] at hstreams htrk
      split_ifs at htrk ⊢
      · have hbegin := (hstreams.connect net.nextConnection).begin (.alarm d) rfl rfl hvalid hreq
        rw [← hdelivers.wire] at hbegin
        exact hinv.onStreams htrk rfl hbegin (by simp)
      · exact hinv.onStreams htrk rfl
          (hstreams.onWorker rfl rfl (by simp [Worker.connection])) (by simp)
  | _ => exact hinv

lemma Conserved.beginHeartbeat (scan : ScanFaults) (draw : Except ℤ AlarmMessageId)
    (now : MonitorTimestamp) : (net.beginHeartbeat scan draw now).Conserved := by
  unfold AlarmNetwork.beginHeartbeat
  split
  · next n hwk hsocket =>
      have hstreams := hinv.streams
      rw [hwk, hsocket] at hstreams
      split_ifs
      · split
        · next messageId timestampMs _ =>
            dsimp only
            split
            · exact hinv.closeSocket
            · next wire hencode =>
                obtain ⟨hvalid, rfl⟩ := encodeAlarmFrame_eq_ok hencode
                refine hinv.onStreams (hinv.tracked.onWorker _ (by simp [deliveryOf, alarmOf])
                  trivial) rfl ?_ (by simp)
                rw [hsocket]
                exact hstreams.begin _ rfl rfl hvalid (.inr rfl)
        · exact hinv.closeSocket
      · exact hinv
  · exact hinv

lemma Conserved.sendBytes (size : ℕ) : (net.sendBytes size).Conserved := by
  have htrk := hinv.tracked.sendBytes size
  have hstreams := hinv.streams
  unfold AlarmNetwork.sendBytes at htrk ⊢
  cases hwk : net.worker with
  | sending n exchange rest =>
    rw [hwk] at hstreams
    simp only [hwk] at htrk
    dsimp only
    split_ifs at htrk ⊢ with hdone
    · refine hinv.onStreams htrk rfl ?_ (by simp)
      exact hstreams.send size (by simp [Worker.rest, hdone]) rfl rfl
    · exact hinv.onStreams htrk rfl (hstreams.send size rfl rfl rfl) (by simp)
  | _ => exact hinv

lemma Conserved.receiveBytes (size : ℕ) : (net.receiveBytes size).Conserved := by
  have htrk := hinv.tracked.receiveBytes size
  have hstreams := hinv.streams
  unfold AlarmNetwork.receiveBytes at htrk ⊢
  cases hwk : net.worker with
  | waiting n exchange received =>
    rw [hwk] at hstreams
    have hsocket := hstreams.held n rfl
    simp only [hwk] at htrk
    dsimp only
    rcases hstreams.receive size rfl rfl with
      ⟨hincomplete, hlat⟩ | ⟨answer, hcomplete, hreply, hlat⟩
    · rw [hincomplete] at htrk ⊢
      exact hinv.onStreams htrk rfl hlat (by simp)
    · rw [hcomplete] at htrk ⊢
      dsimp only [answered] at htrk ⊢
      split_ifs at htrk ⊢ with hanswered
      · cases exchange with
        | alarm d =>
          have hdelivers := hinv.tracked.delivers d (by rw [hwk]; rfl)
          simp only [Exchange.answeredBy, Exchange.answerType, Exchange.frame,
            Bool.and_eq_true, beq_iff_eq] at hanswered
          refine hinv.onStreams htrk rfl (hlat.onWorker rfl rfl ?_) ?_
          · exact fun y hother => some_inj.mp hother ▸ hsocket
          · intro c y hother
            obtain ⟨-, rfl⟩ := Worker.acked.inj hother
            refine hinv.safe_of_acknowledgeable hdelivers.written ?_
            have hack := hreply hanswered.1.1
            rwa [identityOf, hanswered.1.2, hanswered.2] at hack
        | heartbeat ping wire => exact hinv.onStreams htrk rfl hlat (by simp)
      · exact hinv.onStreams htrk rfl hlat.closeSocket (by simp [AlarmNetwork.closeSocket])
  | _ => exact hinv

lemma Conserved.onConnection {change : Connection → Connection}
    (hbroken : (change (net.connections n)).broken = false → (net.connections n).broken = false)
    (hopen : (change (net.connections n)).client ≠ .closed → (net.connections n).client ≠ .closed)
    (hcar : ∀ owed, (net.connections n).Carries owed net.Request →
      (change (net.connections n)).Carries
        (if (change (net.connections n)).broken then none else owed) net.Request)
    (hqueue : ∀ frame ∈ (change (net.connections n)).queue, net.Request frame)
    (hans : ∀ heard frames, (net.connections n).Answers heard net.Reply frames →
      ∃ frames', (change (net.connections n)).Answers heard net.Reply frames') :
    (net.onConnection n change).Conserved :=
  hinv.onStreams (hinv.tracked.onConnection n change) rfl
    (hinv.streams.onConnection hbroken hopen hcar hqueue hans) hinv.acked

lemma Conserved.accept (hwaiting : (net.connections n).client = .waiting) :
    (net.onConnection n fun c => { c with client := .serving }).Conserved := by
  have hopen : (net.connections n).client ≠ .closed := by simp [hwaiting]
  refine hinv.onConnection id (fun _ => hopen) (fun _ hcar => hcar.relax _)
    (hinv.streams.queued n) ?_
  intro heard frames hans
  exact ⟨frames, hans.control, hans.short, hans.initial, fun _ => hans.whole hopen⟩

lemma Conserved.read (size : ℕ) (hserving : (net.connections n).client = .serving) :
    (net.onConnection n (·.read size)).Conserved := by
  have hopen : (net.connections n).client ≠ .closed := by simp [hserving]
  have hread := (hinv.streams.requests n hopen).read size
  refine hinv.onConnection ?_ (fun _ => hopen) (fun _ hcar => (hcar.read size).1.relax _)
    (fun frame hmem => ?_) fun heard frames hans => ⟨frames, hans.read size⟩
  · simp [Connection.broken_read]
  · exact (hread.2 frame hmem).elim (hinv.streams.queued n frame) id

lemma Conserved.sever (n forward backward : ℕ) :
    (net.onConnection n (·.sever forward backward)).Conserved :=
  hinv.onConnection (by simp [Connection.sever]) id (fun _ hcar => (hcar.sever forward backward))
    (hinv.streams.queued n)
    fun heard frames hans => ⟨frames, hans.sever forward backward⟩

/-! ## Spools -/

def Keeps (lost : List Bytes) (earlier later : AlarmSpool) : Prop :=
  ∀ name content, earlier.data.Durable name content → name ∈ lost ∨ later.data.Durable name content

omit hinv in
/-- A step that brings nothing new under a name that had a file keeps all but the
files it has taken away. -/
lemma keeps_corruptFiles {sound : Bytes → Bytes → Prop}
    [∀ name content, Decidable (sound name content)] {late : AlarmSpool}
    (hkept : ∀ name content, earlier.data.lookup name = some content → sound name content →
      late.data.lookup name = some content)
    (hvisible : ∀ name, (earlier.data.lookup name).isSome → (late.data.lookup name).isSome →
      ∀ found, late.data.MayHold name found → earlier.data.MayHold name found) :
    Keeps (AlarmSpool.corruptFiles sound earlier late) earlier late := by
  intro name body hdur
  have hget := hdur.lookup
  refine (AlarmSpool.mem_corruptFiles_or hget fun hsound => by
    simp [hkept name body hget hsound]).imp_right fun hthere found hmay => hdur found ?_
  exact hvisible name (by simp [hget]) (isSome_iff_ne_none.mpr hthere) found hmay

omit hinv in
lemma keeps_of_pickBounds {faults : PickFaults} {late : AlarmSpool}
    (hbounds : PickBounds faults earlier late) :
    Keeps (AlarmSpool.corruptFiles (PickSound faults earlier) earlier late) earlier late := by
  refine keeps_corruptFiles (fun _ _ => hbounds.kept) fun name _ hlat found hmay => ?_
  by_cases hname : name = (earlier.next faults.scan).path
  · subst hname
    obtain ⟨body, hcontent⟩ := isSome_iff_exists.mp hlat
    exact (hbounds.removes.data.of_lookup_eq_some hcontent).2 found hmay
  · exact hbounds.removes.data.mayHold_of_ne hname hmay

omit hinv in
lemma keeps_of_inboxBounds {late : AlarmSpool} (hbounds : InboxBounds frame faults earlier late) :
    Keeps (AlarmSpool.corruptFiles (ReadSound frame faults) earlier late) earlier late := by
  refine keeps_corruptFiles (fun _ _ => hbounds.kept_of_readSound)
    fun name hearlier hlat found hmay => ?_
  by_cases hname : name = (identityOf frame).inboxPath
  · rw [hname] at hearlier hlat hmay ⊢
    obtain ⟨body, hcontent⟩ := isSome_iff_exists.mp hlat
    exact ((hbounds.taken hearlier).data.of_lookup_eq_some hcontent).2 found hmay
  · exact hbounds.within.data.mayHold_of_ne hname hmay

omit hinv in
lemma keeps_of_cleared {faults : Bytes → RecoverFaults} {late : AlarmSpool}
    (hcleared : Cleared faults earlier late) :
    Keeps (AlarmSpool.corruptFiles (RecoverSound faults) earlier late) earlier late := by
  refine keeps_corruptFiles hcleared.kept fun name _ hlat found hmay => ?_
  obtain ⟨body, hcontent⟩ := isSome_iff_exists.mp hlat
  exact (hcleared.visible name body hcontent).2 found hmay

omit hinv in
lemma keeps_powerLoss (spool : AlarmSpool) (loss : PowerLoss) :
    Keeps [] spool (spool.powerLoss loss) :=
  fun _ _ hdur => .inr (hdur.powerLoss loss.data)

omit hinv in
lemma keeps_of_data_eq {late : AlarmSpool} (hdata : late.data = earlier.data) :
    Keeps [] earlier late :=
  fun _ _ hdur => .inr (hdata ▸ hdur)

/-! ## The outbox -/

def KeepsStored (net : AlarmNetwork) (lost : List Bytes) (outbox : AlarmSpool) : Prop :=
  ∀ frame ∈ net.written,
    net.outbox.data.Durable (outboxPath frame.sourceId frame.messageId) (alarmWire frame) →
      outboxPath frame.sourceId frame.messageId ∈ lost ∨
        outbox.data.Durable (outboxPath frame.sourceId frame.messageId) (alarmWire frame) ∨
        net.Safe frame

omit hinv in
lemma Keeps.stored {lost : List Bytes}
    (hkeeps : Keeps lost net.outbox outbox) : net.KeepsStored lost outbox :=
  fun _ _ hdur => (hkeeps _ _ hdur).imp_right .inl

lemma Conserved.onOutbox (lost : List Bytes) (htrk : late.Tracked) (hsame : late = { net with
      outbox := late.outbox
      running := late.running
      worker := late.worker
      socket := late.socket
      written := late.written
      succeeded := late.succeeded
      corruptOutbox := net.corruptOutbox ++ lost
      log := late.log })
    (hwritten : ∀ frame ∈ net.written, frame ∈ late.written)
    (hunique : ∀ left ∈ late.written, ∀ right ∈ late.written,
      left.messageId = right.messageId → left = right)
    (hkept : net.KeepsStored lost late.outbox)
    (hsucceeded : ∀ frame ∈ late.succeeded, frame ∈ net.succeeded ∨ frame ∈ late.written ∧
      late.outbox.data.Durable (outboxPath frame.sourceId frame.messageId) (alarmWire frame))
    (hserves : net.Serves late.worker late.socket) : late.Conserved := by
  have hack : ∀ ident, net.Acknowledgeable ident →
      ∃ frame ∈ late.written, identityOf frame = ident ∧ net.Safe frame := by
    rintro ident ⟨frame, hmem, hfacts⟩
    exact ⟨frame, hwritten frame hmem, hfacts⟩
  rw [hsame] at htrk ⊢
  exact {
    tracked := htrk
    unique := hunique
    inboxKind := hinv.inboxKind
    inboxFiles := fun name body hmay =>
      (hinv.inboxFiles name body hmay).imp fun frame hframe =>
        ⟨hwritten frame hframe.1, hframe.2⟩
    accepted := fun ident hmem => hack ident (hinv.accepted ident hmem)
    acked := hserves.acked
    held := by
      intro frame hmem
      rcases hsucceeded frame hmem with hold | ⟨hnew, hdur⟩
      · obtain ⟨hframe, hheld⟩ := hinv.held frame hold
        refine ⟨hwritten frame hframe, ?_⟩
        rcases hheld with hcorrupt | hdur | hsafe
        · exact .inl (mem_append_left _ hcorrupt)
        · rcases hkept frame hframe hdur with hlost | hdur | hsafe
          · exact .inl (mem_append_right _ hlost)
          · exact .inr (.inl hdur)
          · exact .inr (.inr hsafe)
        · exact .inr (.inr hsafe)
      · exact ⟨hnew, .inr (.inl hdur)⟩
    streams := hserves.streams.mono
      (fun frame hreq => hreq.imp_left (hwritten frame))
      fun frame hreply htype => hack _ (hreply htype) }

lemma Conserved.serves : net.Serves net.worker net.socket := ⟨hinv.streams, hinv.acked⟩

lemma Conserved.serves_closed : net.Serves .idle none :=
  ⟨hinv.streams.closeSocket, nofun⟩

lemma Conserved.afterOutbox (lost : List Bytes) (htrk : late.Tracked) (hsame : late = { net with
      outbox := late.outbox
      running := late.running
      worker := late.worker
      socket := late.socket
      corruptOutbox := net.corruptOutbox ++ lost
      log := late.log })
    (hkept : net.KeepsStored lost late.outbox)
    (hserves : net.Serves late.worker late.socket) : late.Conserved := by
  have hwritten : late.written = net.written := by rw [hsame]
  have hsucceeded : late.succeeded = net.succeeded := by rw [hsame]
  refine hinv.onOutbox lost htrk ?_ ?_ ?_ hkept ?_ hserves
  · rw [hwritten, hsucceeded]
    exact hsame
  · exact fun frame hmem => hwritten ▸ hmem
  · rw [hwritten]
    exact hinv.unique
  · exact fun frame hmem => .inl (hsucceeded ▸ hmem)

lemma Conserved.unique_append (hfresh : net.DrawsFresh r attempts) :
    ∀ left ∈ net.written ++ (net.enqueueFrame r attempts).toList,
      ∀ right ∈ net.written ++ (net.enqueueFrame r attempts).toList,
        left.messageId = right.messageId → left = right := by
  intro left hleft right hright hmessage
  rcases mem_append.mp hleft with hleft | hleft <;>
    rcases mem_append.mp hright with hright | hright
  · exact hinv.unique left hleft right hright hmessage
  · exact absurd hmessage (hfresh right (mem_toList.mp hright) left hleft)
  · exact absurd hmessage.symm (hfresh left (mem_toList.mp hleft) right hright)
  · exact some_inj.mp ((mem_toList.mp hleft).symm.trans (mem_toList.mp hright))

omit hinv in
lemma keeps_of_enqueueBounds (hbounds : EnqueueBounds net.sourceId r attempts net.outbox outbox) :
    Keeps [] net.outbox outbox := by
  intro name body hdur
  rcases hbounds with haside | ⟨frame, henqueues⟩
  · exact .inr (haside.data ▸ hdur)
  · refine .inr (henqueues.within.data.durable_of_ne ?_ hdur)
    intro hname
    have hget := hdur.lookup
    rw [hname, henqueues.free] at hget
    exact absurd hget (by simp)

lemma Conserved.enqueued (hfresh : net.DrawsFresh r attempts) (htrk : late.Tracked)
    (hsame : late = { net with
      outbox := late.outbox
      running := late.running
      worker := late.worker
      socket := late.socket
      written := net.written ++ (net.enqueueFrame r attempts).toList
      succeeded := late.succeeded })
    (hbounds : EnqueueBounds net.sourceId r attempts net.outbox late.outbox)
    (hsucceeded : ∀ frame ∈ late.succeeded, frame ∈ net.succeeded ∨
      net.enqueueFrame r attempts = some frame ∧
        late.outbox.data.Durable (outboxPath frame.sourceId frame.messageId) (alarmWire frame))
    (hserves : net.Serves late.worker late.socket) : late.Conserved := by
  have hwritten : late.written = net.written ++ (net.enqueueFrame r attempts).toList := by
    rw [hsame]
  have hlog : late.log = net.log := by rw [hsame]
  refine hinv.onOutbox [] htrk ?_ ?_ ?_ (keeps_of_enqueueBounds hbounds).stored ?_ hserves
  · rw [append_nil, hwritten, hlog]
    exact hsame
  · intro frame hmem
    rw [hwritten]
    exact mem_append_left _ hmem
  · rw [hwritten]
    exact hinv.unique_append hfresh
  · intro frame hmem
    refine (hsucceeded frame hmem).imp_right fun ⟨hframe, hdur⟩ => ⟨?_, hdur⟩
    rw [hwritten, hframe]
    simp

lemma Conserved.remove {c : ℕ} {d : Delivery}
    (hwk : net.worker = .acked c d) (htrk : late.Tracked) (hsame : late = { net with
      outbox := late.outbox
      running := late.running
      worker := .idle
      socket := late.socket
      log := late.log })
    (hrem : AlarmSpool.Removes d.path net.outbox late.outbox)
    (hstreams : Coherent net.Request net.Reply .idle late.socket net.connections) :
    late.Conserved := by
  have hdelivers := hinv.tracked.delivers d (by rw [hwk]; rfl)
  have hsafe := hinv.acked c d hwk
  have hidle : late.worker = .idle := by rw [hsame]
  refine hinv.afterOutbox [] htrk ?_ ?_ ⟨hidle ▸ hstreams, by simp [hidle]⟩
  · rw [append_nil, hidle]
    exact hsame
  · intro frame hmem hdur
    by_cases hpath : outboxPath frame.sourceId frame.messageId = d.path
    · rw [hdelivers.path] at hpath
      obtain rfl := hinv.unique frame hmem _ hdelivers.written (spoolPath_injective hpath).2
      exact .inr (.inr hsafe)
    · exact .inr (.inl (hrem.data.durable_of_ne hpath hdur))

lemma Conserved.publisherStep (e : PublisherEvent)
    (hrel : net.Reliable (.publisher e)) : (net.publisherStep e).Conserved := by
  have htrk := hinv.tracked.publisherStep e
  cases e with
  | enqueue r attempts =>
    have hend := (enqueue_meets true net.sourceId r attempts net.outbox hinv.tracked.kind).2
    refine hinv.enqueued hrel htrk rfl hend.bounds ?_ hinv.serves
    intro frame hmem
    simp only [AlarmNetwork.publisherStep] at hmem
    split_ifs at hmem with hdur
    · rcases mem_append.mp hmem with hmem | hmem
      · exact .inl hmem
      · obtain ⟨stored, henqueues, hfile⟩ := hend.durable hdur
        have hstored := enqueueFrame_of_enqueues henqueues
        rw [hstored, toList_some, mem_singleton] at hmem
        rw [hmem]
        refine .inr ⟨hstored, ?_⟩
        rw [(enqueueFrame_spec hstored).1.2.2]
        exact hfile
    · exact .inl hmem
  | dieEnqueuing r attempts moment =>
    have hbounds := (enqueue_meets true net.sourceId r attempts net.outbox
      hinv.tracked.kind).getD_visited (.inl (.refl _)) moment
    exact hinv.enqueued hrel htrk rfl hbounds (fun _ hmem => .inl hmem) hinv.serves_closed
  | pick faults =>
    simp only [AlarmNetwork.publisherStep] at htrk ⊢
    split_ifs at htrk ⊢ with hidle
    · have hbounds := (pickNext_meets faults net.outbox).2.1
      have hstreams := hinv.streams
      rw [hidle] at hstreams
      refine hinv.afterOutbox _ htrk rfl (keeps_of_pickBounds hbounds).stored ⟨?_, ?_⟩
      · cases ((pickNext faults).exec net.outbox).value with
        | none => exact hstreams
        | some d => exact hstreams.onWorker rfl rfl (by simp [Worker.connection])
      · cases ((pickNext faults).exec net.outbox).value <;> simp
    · exact hinv
  | diePicking faults moment =>
    simp only [AlarmNetwork.publisherStep] at htrk ⊢
    split_ifs at htrk ⊢ with hidle
    · have hbounds := (pickNext_meets faults net.outbox).getD_visited (.refl _ _) moment
      exact hinv.afterOutbox _ htrk rfl (keeps_of_pickBounds hbounds).stored hinv.serves_closed
    · exact hinv
  | connect succeeds => exact hinv.connectWorker succeeds
  | heartbeat scan draw now => exact hinv.beginHeartbeat scan draw now
  | send size => exact hinv.sendBytes size
  | receive size => exact hinv.receiveBytes size
  | giveUp =>
    simp only [AlarmNetwork.publisherStep, giveUpExchange]
    split
    · exact hinv.closeSocket
    · exact hinv.closeSocket
    · exact hinv
  | remove faults =>
    simp only [AlarmNetwork.publisherStep] at htrk ⊢
    cases hwk : net.worker with
    | acked c d =>
      simp only [hwk] at htrk
      have hstreams := hinv.streams
      rw [hwk] at hstreams
      exact hinv.remove hwk htrk rfl (AlarmSpool.remove_meets d.path faults net.outbox).2.1
        (hstreams.onWorker rfl rfl (by simp [Worker.connection]))
    | _ => exact hinv
  | dieRemoving faults moment =>
    simp only [AlarmNetwork.publisherStep] at htrk ⊢
    cases hwk : net.worker with
    | acked c d =>
      simp only [hwk] at htrk
      have hmeets := AlarmSpool.remove_meets d.path faults net.outbox
      have hrem := hmeets.getD_visited (.refl _ _) moment
      exact hinv.remove hwk htrk rfl hrem hinv.streams.closeSocket
    | _ => exact hinv

/-! ## The inbox -/

omit hinv in
lemma Safe.of_keeps
    (hsafe : net.Safe frame) (hcorrupt : late.corruptInbox = net.corruptInbox ++ lost)
    (hkeeps : Keeps lost net.collector.spool late.collector.spool) : late.Safe frame := by
  unfold Safe at hsafe ⊢
  rw [hcorrupt, mem_append]
  rcases hsafe with hlost | hdur
  · exact .inl (.inl hlost)
  · exact (hkeeps _ _ hdur).imp_left .inr

omit hinv in
lemma Acknowledgeable.of_keeps {ident : AlarmIdentity} (hack : net.Acknowledgeable ident)
    (hwritten : late.written = net.written)
    (hcorrupt : late.corruptInbox = net.corruptInbox ++ lost)
    (hkeeps : Keeps lost net.collector.spool late.collector.spool) :
    late.Acknowledgeable ident := by
  obtain ⟨frame, hmem, hid, hsafe⟩ := hack
  exact ⟨frame, hwritten ▸ hmem, hid, hsafe.of_keeps hcorrupt hkeeps⟩

lemma Conserved.onInbox (lost : List Bytes) (hsame : late = { net with
      collector := late.collector
      connections := late.connections
      corruptInbox := net.corruptInbox ++ lost })
    (hkind : late.collector.spool.kind = net.collector.spool.kind)
    (hfiles : net.Receives net.collector.spool late.collector.spool)
    (hkeeps : Keeps lost net.collector.spool late.collector.spool)
    (hacc : ∀ ident ∈ late.collector.accepted,
      ident ∈ net.collector.accepted ∨ late.Acknowledgeable ident)
    (hstreams : Coherent net.Request late.Reply net.worker net.socket late.connections) :
    late.Conserved := by
  have hwritten : late.written = net.written := by rw [hsame]
  have hcorrupt : late.corruptInbox = net.corruptInbox ++ lost := by rw [hsame]
  have hsafe : ∀ frame, net.Safe frame → late.Safe frame :=
    fun _ hsafe => hsafe.of_keeps hcorrupt hkeeps
  have hack : ∀ ident ∈ late.collector.accepted, late.Acknowledgeable ident := by
    intro ident hmem
    exact (hacc ident hmem).elim
      (fun hold => (hinv.accepted ident hold).of_keeps hwritten hcorrupt hkeeps) id
  have hheld : ∀ frame ∈ net.succeeded, frame ∈ net.written ∧ late.Held frame := by
    intro frame hmem
    obtain ⟨hframe, hheld⟩ := hinv.held frame hmem
    refine ⟨hframe, ?_⟩
    rw [Held, hsame]
    rw [hsame] at hsafe
    exact hheld.imp_right (.imp_right (hsafe frame))
  rw [hsame] at hack hsafe hheld hstreams ⊢
  exact {
    tracked := { hinv.tracked with }
    unique := hinv.unique
    inboxKind := hkind.trans hinv.inboxKind
    inboxFiles := fun name body hmay =>
      (hfiles name body hmay).elim (hinv.inboxFiles name body) id
    accepted := hack
    acked := fun c d hwk => hsafe _ (hinv.acked c d hwk)
    held := hheld
    streams := hstreams }

lemma Conserved.streams_of_keeps (hwritten : late.written = net.written)
    (hcorrupt : late.corruptInbox = net.corruptInbox ++ lost)
    (hkeeps : Keeps lost net.collector.spool late.collector.spool) :
    Coherent net.Request late.Reply net.worker net.socket net.connections :=
  hinv.streams.mono (fun _ hreq => hreq) fun _ hreply htype =>
    (hreply htype).of_keeps hwritten hcorrupt hkeeps

lemma Conserved.collectorGone (lost : List Bytes) (hsame : late = { net with
      collector := late.collector
      connections := fun c => (net.connections c).close
      corruptInbox := net.corruptInbox ++ lost })
    (hacc : late.collector.accepted = [])
    (hkind : late.collector.spool.kind = net.collector.spool.kind)
    (hfiles : net.Receives net.collector.spool late.collector.spool)
    (hkeeps : Keeps lost net.collector.spool late.collector.spool) : late.Conserved := by
  have hwritten : late.written = net.written := by rw [hsame]
  have hcorrupt : late.corruptInbox = net.corruptInbox ++ lost := by rw [hsame]
  have hconnections : late.connections = fun c => (net.connections c).close := by
    rw [hsame]
  refine hinv.onInbox lost ?_ hkind hfiles hkeeps (by simp [hacc]) ?_
  · rw [hconnections]
    exact hsame
  · rw [hconnections]
    exact (hinv.streams_of_keeps hwritten hcorrupt hkeeps).closeAll

/-! ### Processing a frame -/

lemma Conserved.written_of_alarm
    (hmem : frame ∈ (net.connections n).queue) (htype : frame.type = .alarm) :
    frame ∈ net.written :=
  (hinv.streams.queued n frame hmem).resolve_right fun hping =>
    absurd (htype.symm.trans hping) (by decide)

omit hinv in
lemma receives_of_inboxBounds (hframe : frame ∈ net.written)
    (hbounds : InboxBounds frame faults net.collector.spool spool) :
    net.Receives net.collector.spool spool := by
  intro name body hmay
  exact (hbounds.within.data.mayHold_some hmay).imp_right fun hnew =>
    ⟨frame, hframe, hnew.1, hnew.2.1⟩

lemma Conserved.content_eq (hframe : frame ∈ net.written)
    (hget : net.collector.spool.data.lookup (identityOf frame).inboxPath = some body) :
    body = alarmWire frame := by
  obtain ⟨y, hother, hpath, hcontent⟩ := hinv.inboxFiles _ body (.inl hget)
  rw [hcontent, hinv.eq_of_identity hframe hother (inboxPath_injective hpath)]

lemma Conserved.durable_of_provides (hframe : frame ∈ net.written)
    (hsynced : net.InboxSynced (identityOf frame).inboxPath)
    (hprovides : Provides frame net.collector.spool spool body) :
    spool.data.Durable (identityOf frame).inboxPath (alarmWire frame) := by
  rcases hprovides with ⟨-, rfl, hdur⟩ | ⟨hget, hdata⟩
  · exact hdur
  · rw [hdata, ← hinv.content_eq hframe hget]
    exact (hsynced (by simp [hget])).durable hget

lemma Conserved.processEnd (hframe : frame ∈ net.written)
    (hsynced : net.InboxSynced (identityOf frame).inboxPath)
    (hend : ProcessEnd frame faults net.collector response collector) :
    InboxBounds frame faults net.collector.spool collector.spool ∧
      (∀ ident ∈ collector.accepted, ident ∈ net.collector.accepted ∨ ident = identityOf frame ∧
          collector.spool.data.Durable (identityOf frame).inboxPath (alarmWire frame)) ∧
      (response = none ∨ response = queueControl .ack frame ∧
        (identityOf frame ∈ net.collector.accepted ∨
          collector.spool.data.Durable (identityOf frame).inboxPath (alarmWire frame))) := by
  cases hend with
  | refused hbounds _ => exact ⟨hbounds, fun _ hmem => .inl hmem, .inl rfl⟩
  | known hacc =>
    exact ⟨.refl frame faults _, fun _ hmem => .inl hmem, .inr ⟨rfl, .inl hacc⟩⟩
  | applied hnew hbounds hprovides hrecord =>
    have hdur := hinv.durable_of_provides hframe hsynced hprovides
    refine ⟨hbounds, fun ident hmem => ?_, ?_⟩
    · exact (mem_accepted_applied.mp hmem).imp_right fun hnew => ⟨hnew.1, hdur⟩
    · split_ifs
      · exact .inr ⟨rfl, .inr hdur⟩
      · exact .inl rfl

omit hinv in
lemma reply_of_queueControl (type : AlarmFrameType) (hcontrol : type.isControl)
    (hack : type = .ack → late.Acknowledgeable (identityOf frame)) :
    ∀ control, queueControl type frame = some control →
      control.bytes = alarmWire control.frame ∧ Connection.IsControl control.frame ∧
        late.Reply control.frame := by
  intro control hqueued
  rw [queueControl_of_isControl hcontrol, some_inj] at hqueued
  subst hqueued
  exact ⟨rfl, ⟨hcontrol, rfl⟩, hack⟩

lemma Conserved.processed (hopen : (net.connections n).client ≠ .closed)
    (hlat : late = { { net with corruptInbox := net.corruptInbox ++ lost }.onConnection n
      (·.answer response) with collector := collector })
    (hkind : collector.spool.kind = net.collector.spool.kind)
    (hfiles : net.Receives net.collector.spool collector.spool)
    (hkeeps : Keeps lost net.collector.spool collector.spool)
    (hacc : ∀ ident ∈ collector.accepted,
      ident ∈ net.collector.accepted ∨ late.Acknowledgeable ident)
    (hresponse : ∀ control, response = some control →
      control.bytes = alarmWire control.frame ∧ Connection.IsControl control.frame ∧
        late.Reply control.frame) : late.Conserved := by
  have hwritten : late.written = net.written := by rw [hlat]; rfl
  have hcorrupt : late.corruptInbox = net.corruptInbox ++ lost := by rw [hlat]; rfl
  have hcollector : late.collector = collector := by rw [hlat]
  have hstreams := hinv.streams_of_keeps hwritten hcorrupt (hcollector ▸ hkeeps)
  have hanswered := hstreams.answer hopen hresponse
  subst hlat
  exact hinv.onInbox lost rfl hkind hfiles hkeeps hacc hanswered

lemma Conserved.process (faults : ProcessFaults) (hserving : (net.connections n).client = .serving)
    (hsynced : ∀ frame ∈ (net.connections n).queue.head?,
      net.InboxSynced (identityOf frame).inboxPath) : (net.processQueued n faults).Conserved := by
  have hopen : (net.connections n).client ≠ .closed := by simp [hserving]
  unfold processQueued
  split
  · exact hinv
  · next frame rest hqueue =>
      have hmem : frame ∈ (net.connections n).queue := by simp [hqueue]
      by_cases htype : frame.type = .alarm
      · have hframe := hinv.written_of_alarm hmem htype
        rw [processFrame_of_alarm htype]
        obtain ⟨hbounds, hacc, hresponse⟩ := hinv.processEnd hframe
          (hsynced frame (by simp [hqueue]))
          (processAlarm_meets frame faults net.collector hinv.inboxKind).2
        refine hinv.processed hopen rfl hbounds.within.kind (receives_of_inboxBounds hframe hbounds)
          (keeps_of_inboxBounds hbounds) (fun ident hmem => ?_) ?_
        · refine (hacc ident hmem).imp_right fun hnew => ?_
          exact ⟨frame, hframe, hnew.1.symm, .inr hnew.2⟩
        · rcases hresponse with hnone | ⟨hack, hjustified⟩
          · simp [hnone]
          · rw [hack]
            refine reply_of_queueControl .ack rfl fun _ => ?_
            rcases hjustified with hold | hdur
            · exact (hinv.accepted _ hold).of_keeps rfl rfl (keeps_of_inboxBounds hbounds)
            · exact ⟨frame, hframe, rfl, .inr hdur⟩
      · rw [exec_processFrame_of_ne htype]
        refine hinv.processed hopen rfl rfl (fun _ _ hmay => .inl hmay)
          (keeps_of_inboxBounds (.refl frame faults _)) (fun _ hmem => .inl hmem) ?_
        split_ifs
        · exact reply_of_queueControl .pong rfl fun hack => absurd hack (by decide)
        · simp

lemma Conserved.collectorStep (e : ServingEvent)
    (hrel : net.Reliable (.collector e)) : (net.collectorStep e).Conserved := by
  cases e with simp only [AlarmNetwork.collectorStep]
  | accept n =>
    split_ifs with hwaiting
    · exact hinv.accept hwaiting.2
    · exact hinv
  | read n size =>
    split_ifs with hserving
    · exact hinv.read size hserving.1
    · exact hinv
  | process n faults =>
    split_ifs with hserving
    · exact hinv.process faults hserving hrel
    · exact hinv
  | dieProcessing n faults moment =>
    simp only [dieProcessingQueued]
    split_ifs
    · split
      · exact hinv
      · next frame rest hqueue =>
          have hmem : frame ∈ (net.connections n).queue := by simp [hqueue]
          by_cases htype : frame.type = .alarm
          · have hmoment := (processAlarm_meets frame faults net.collector
              hinv.inboxKind).getD_visited ⟨.refl frame faults _, fun _ => rfl, .inl rfl⟩ moment
            rw [processFrame_of_alarm htype]
            exact hinv.collectorGone _ rfl rfl hmoment.bounds.within.kind
              (receives_of_inboxBounds (hinv.written_of_alarm hmem htype) hmoment.bounds)
              (keeps_of_inboxBounds hmoment.bounds)
          · rw [exec_processFrame_of_ne htype]
            exact hinv.collectorGone _ rfl rfl rfl (fun _ _ hmay => .inl hmay)
              (keeps_of_inboxBounds (.refl frame faults _))
    · exact hinv
  | write n size =>
    split_ifs with hserving
    · have hopen : (net.connections n).client ≠ .closed := by simp [hserving]
      exact hinv.onConnection id (fun _ => hopen) (fun _ hcar => Connection.Carries.relax hcar _)
        (hinv.streams.queued n) fun heard frames hans => ⟨frames, hans.write hopen size⟩
    · exact hinv
  | closeClient n =>
    split_ifs
    · exact hinv.onConnection id (fun hclosed => absurd rfl hclosed)
        (fun _ hcar => Connection.Carries.relax hcar _) (by simp [Connection.close])
        fun heard frames hans => ⟨frames, hans.close⟩
    · exact hinv

/-! ### Starting the collector -/

lemma Conserved.acknowledgeable_of_starting
    (hsynced : ∀ name ∈ net.collector.spool.data.files.map Prod.fst, net.InboxSynced name)
    {ch : StartChoices} (hstarting : Starting ch net.collector collector)
    (hlat : late = { net.noteInbox (RecoverSound ch.recover) collector.spool with
      collector := collector }) :
    ∀ ident ∈ collector.accepted, late.Acknowledgeable ident := by
  intro ident hmem
  obtain ⟨entry, hentry, rfl, -⟩ := hstarting.accepted ident hmem
  obtain ⟨item, ⟨body, hlater, hdecode, -⟩, hid, -⟩ := hstarting.entries entry hentry
  have hget := (hstarting.cleared.visible _ _ hlater).1
  obtain ⟨frame, hframe, hpath, rfl⟩ := hinv.inboxFiles item.path body (.inl hget)
  rw [decodeAlarmFrame_encode (hinv.tracked.frames frame hframe).1] at hdecode
  have hitem : item.frame = frame := (Except.ok.inj hdecode).symm
  have hvisible : item.path ∈ net.collector.spool.data.files.map Prod.fst :=
    mem_map_of_mem (DurableDirectory.lookup_eq_some_iff.mp hget)
  have hdur := (hsynced _ hvisible (by simp [hget])).durable hget
  have hack : net.Acknowledgeable entry.identity := by
    refine ⟨frame, hframe, by rw [hid, hitem], .inr ?_⟩
    rw [← hpath]
    exact hdur
  subst hlat
  exact hack.of_keeps rfl rfl (keeps_of_cleared hstarting.cleared)

lemma Conserved.startCollector (ch : StartChoices)
    (hsynced : ∀ name ∈ net.collector.spool.data.files.map Prod.fst, net.InboxSynced name) :
    { net.noteInbox (RecoverSound ch.recover)
        ((initializeCollector ch).exec net.collector).final.spool with
      collector := ((initializeCollector ch).exec net.collector).final }.Conserved := by
  have hstarting := (initializeCollector_meets ch net.collector).2
  have hkeeps := keeps_of_cleared hstarting.cleared
  refine hinv.onInbox _ rfl hstarting.cleared.kind
    (fun name body hmay => .inl (hstarting.cleared.mayHold name body hmay)) hkeeps ?_
    (hinv.streams_of_keeps rfl rfl hkeeps)
  exact fun ident hmem =>
    .inr (hinv.acknowledgeable_of_starting hsynced hstarting rfl ident hmem)

lemma Conserved.publisherGone
    (htrk : (net.publisherGone outbox).Tracked) (hkeeps : Keeps [] net.outbox outbox) :
    (net.publisherGone outbox).Conserved :=
  hinv.afterOutbox [] htrk (by rw [append_nil]; rfl) hkeeps.stored hinv.serves_closed

lemma Conserved.environmentStep (e : EnvironmentEvent)
    (hrel : net.Reliable (.environment e)) : (net.environmentStep e).Conserved := by
  have htrk := hinv.tracked.environmentStep e
  cases e with
  | stopPublisher => exact hinv.publisherGone htrk (keeps_of_data_eq rfl)
  | publisherPowerLoss loss => exact hinv.publisherGone htrk (keeps_powerLoss _ loss)
  | startPublisher pid setup clear =>
    simp only [AlarmNetwork.environmentStep] at htrk ⊢
    split_ifs at htrk ⊢
    · exact hinv
    · have hdata := (AlarmSpool.initializeSpool_meets pid setup clear net.outbox).2.data
      exact hinv.afterOutbox [] htrk (by rw [append_nil])
        (keeps_of_data_eq hdata).stored hinv.serves
  | dieStartingPublisher pid setup clear moment =>
    simp only [AlarmNetwork.environmentStep] at htrk ⊢
    split_ifs at htrk ⊢
    · exact hinv
    · have hdata := ((AlarmSpool.initializeSpool_meets pid setup clear
        net.outbox).getD_visited ⟨rfl, rfl, rfl⟩ moment).data
      exact hinv.publisherGone htrk (keeps_of_data_eq hdata)
  | sever n forward backward => exact hinv.sever n forward backward
  | stopCollector =>
    exact hinv.collectorGone [] (by rw [append_nil]; rfl) rfl rfl
      (fun _ _ hmay => .inl hmay) (keeps_of_data_eq rfl)
  | collectorPowerLoss loss =>
    exact hinv.collectorGone [] (by rw [append_nil]; rfl) rfl rfl
      (fun _ _ hmay => .inl hmay.of_powerLoss) (keeps_powerLoss _ loss)
  | changeEngine engine =>
    exact hinv.onInbox [] (by rw [append_nil]; rfl) rfl (fun _ _ hmay => .inl hmay)
      (keeps_of_data_eq rfl) (fun _ hmem => .inl hmem) hinv.streams
  | startCollector ch =>
    simp only [AlarmNetwork.environmentStep]
    split_ifs
    · exact hinv
    · exact hinv.startCollector ch hrel
  | dieStartingCollector ch moment =>
    simp only [AlarmNetwork.environmentStep]
    split_ifs
    · exact hinv
    · have hmeets := (initializeCollector_meets ch net.collector).mono
        (fun state hstarting => hstarting.cleared) fun _ _ hstarting => hstarting
      have hcleared := hmeets.getD_visited (Cleared.of_data_eq rfl rfl) moment
      exact hinv.collectorGone _ rfl rfl hcleared.kind
        (fun name body hmay => .inl (hcleared.mayHold name body hmay))
        (keeps_of_cleared hcleared)

lemma Conserved.step (e : NetworkEvent) (hrel : net.Reliable e) : (net.step e).Conserved := by
  cases e with
  | publisher e =>
    simp only [AlarmNetwork.step]
    split_ifs
    · exact hinv.publisherStep e hrel
    · exact hinv
  | collector e =>
    simp only [AlarmNetwork.step]
    split_ifs
    · exact hinv.collectorStep e hrel
    · exact hinv
  | environment e => exact hinv.environmentStep e hrel

end

/-- A file of the outbox is removed only after the ACK with its ids was read from the connection its
bytes were sent on: it leaves the outbox only so, or because the worker has found it corrupt, or in
a power failure. If message ids are not drawn twice and the collector looks at synced files only,
no alarm that `enqueue` has stored is lost unless it was found corrupt. -/
theorem no_alarm_lost (sourceId : UInt64) (maxOutboxBytes : ℕ) (engine : Engine)
    (events : List NetworkEvent) :
    let net := run step (initial sourceId maxOutboxBytes engine) events
    RemovedAfterAck net.log ∧
    (∀ event name content, net.outbox.data.lookup name = some content →
      (∃ loss, event = .environment (.publisherPowerLoss loss)) ∨
        net.Accounted (net.step event) name content) ∧
    (StepsMeet step Reliable (initial sourceId maxOutboxBytes engine) events →
      ∀ frame ∈ net.succeeded, outboxPath frame.sourceId frame.messageId ∉ net.corruptOutbox →
        (identityOf frame).inboxPath ∉ net.corruptInbox →
        net.outbox.data.lookup (outboxPath frame.sourceId frame.messageId) =
            some (alarmWire frame) ∨
          net.collector.spool.data.lookup (identityOf frame).inboxPath =
            some (alarmWire frame)) := by
  intro net
  have htracked : net.Tracked := run_invariant (fun _ event h => h.step event)
    (initial_tracked sourceId maxOutboxBytes engine) events
  refine ⟨htracked.removed, fun event _ _ hget => htracked.accounted hget event, ?_⟩
  intro hreliable frame hmem houtbox hinbox
  have hinv : net.Conserved := run_invariant_of_meets
    (fun _ event hinv hreliable => hinv.step event hreliable)
    (initial_conserved sourceId maxOutboxBytes engine) hreliable
  rcases (hinv.held frame hmem).2 with hcorrupt | hdurable | hcorrupt | hdurable
  · exact absurd hcorrupt houtbox
  · exact .inl hdurable.lookup
  · exact absurd hcorrupt hinbox
  · exact .inr hdurable.lookup

instance (net : AlarmNetwork) (name : Bytes) : Decidable (net.InboxSynced name) :=
  inferInstanceAs (Decidable (_ → _))

instance (net : AlarmNetwork) (event : NetworkEvent) : Decidable (net.Reliable event) := by
  cases event with
  | publisher event | collector event | environment event =>
    cases event
    all_goals
      dsimp only [Reliable, DrawsFresh]
      infer_instance

def sampleEngine : Engine := ⟨.running, some .empty⟩

def sampleStart : StartChoices := ⟨1, none, .clean, none, [], fun _ => .clean, none⟩

def sampleStored (messageId : AlarmMessageId) : List NetworkEvent :=
  [.environment (.startPublisher 1 none .clean), .environment (.startCollector sampleStart),
    .publisher (.enqueue default fun _ => ⟨.ok messageId, .clean⟩)]

/-- The worker sends the first alarm on a new connection, and the collector reads it. -/
def sampleSent (connection : ℕ) : List NetworkEvent :=
  [.publisher (.pick .clean), .publisher (.connect true), .publisher (.send 4096),
    .collector (.accept connection), .collector (.read connection 4096)]

/-- The collector processes and acknowledges it, and the worker removes the file. -/
def sampleAcked (connection : ℕ) : List NetworkEvent :=
  [.collector (.process connection .clean), .collector (.write connection 48),
    .publisher (.receive 48), .publisher (.remove .clean)]

def sampleMessageId : AlarmMessageId :=
  ⟨replicate alarmMessageIdSize 7, length_replicate⟩

/-- The power of the collector fails, and the entry of the alarm was not on disk. -/
def samplePowerLoss : NetworkEvent :=
  .environment (.collectorPowerLoss
    ⟨[((AlarmIdentity.mk 1 sampleMessageId).inboxPath, none)], [], []⟩)

/-- The collector dies after the rename and before the sync, is started again and
acknowledges the alarm that is sent once more. -/
def unsyncedRun : List NetworkEvent :=
  sampleStored sampleMessageId ++ sampleSent 0 ++
    [.collector (.dieProcessing 0 .clean 2), .publisher .giveUp,
      .environment (.startCollector sampleStart)] ++
    sampleSent 1 ++ sampleAcked 1 ++ [samplePowerLoss]

/-- The alarm was stored and was not found corrupt, the publisher has removed its file,
and the file of the collector is gone. -/
theorem unsynced_alarm_lost :
    let net := run step (initial 1 0 sampleEngine) unsyncedRun
    ∃ frame ∈ net.succeeded,
      outboxPath frame.sourceId frame.messageId ∉ net.corruptOutbox ∧
        (identityOf frame).inboxPath ∉ net.corruptInbox ∧
        net.outbox.data.lookup (outboxPath frame.sourceId frame.messageId) = none ∧
        net.collector.spool.data.lookup (identityOf frame).inboxPath = none := by
  decide +kernel

/-- The collector processes the alarm without dying, and loses its power afterwards. -/
def syncedRun : List NetworkEvent :=
  sampleStored sampleMessageId ++ sampleSent 0 ++ sampleAcked 0 ++ [samplePowerLoss]

def sampleFrame : AlarmFrame := alarmFrameOf 1 0 (v2Wire default) sampleMessageId

theorem no_alarm_lost_syncedRun :
    let net := run step (initial 1 0 sampleEngine) syncedRun
    net.outbox.data.lookup (outboxPath sampleFrame.sourceId sampleFrame.messageId) =
        some (alarmWire sampleFrame) ∨
      net.collector.spool.data.lookup (identityOf sampleFrame).inboxPath =
        some (alarmWire sampleFrame) :=
  (no_alarm_lost 1 0 sampleEngine syncedRun).2.2 (by decide +kernel) sampleFrame
    (by decide +kernel) (by decide +kernel) (by decide +kernel)

end AlarmNetwork

end Tlss.Monitor
