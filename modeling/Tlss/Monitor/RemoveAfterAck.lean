import Tlss.Monitor.NetworkStreams

/-!
# Removal only after acknowledgement

In every run, whatever fails: when the worker removes a file of the outbox, the
bytes of the file have been sent on a connection, and the ACK with the source id
and the message id of its frame was read from the same connection after that.

`Tracked` says what holds in between: every file of the outbox is a frame that
`enqueue` has written, the alarm in the worker's hands is such a file, and the log
shows how far its exchange has come.
-/

namespace Tlss.Monitor

open Library Collector List Option

namespace AlarmNetwork

/-! ## Removal after acknowledgement -/

/-- The log shows that these bytes were sent on the connection and that the ACK of
the frame was read from it later. -/
def AckedOn (log : List WorkerAction) (connection : ℕ) (wire : Bytes) (frame : AlarmFrame) : Prop :=
  ∃ before between after ack,
    log = before ++ .sent connection wire :: (between ++ .received connection ack :: after) ∧
      ack.type = .ack ∧ ack.sourceId = frame.sourceId ∧ ack.messageId = frame.messageId

/-- Whenever a file was removed, its bytes had been sent and acknowledged on one
connection. -/
def RemovedAfterAck (log : List WorkerAction) : Prop :=
  ∀ before path wire, before ++ [.removed path wire] <+: log →
    ∃ frame connection, decodeAlarmFrame wire = .ok frame ∧
      path = outboxPath frame.sourceId frame.messageId ∧ AckedOn before connection wire frame

variable {log : List WorkerAction} {c : ℕ} {fr : AlarmFrame} {net : AlarmNetwork}

lemma RemovedAfterAck.append (hremoved : RemovedAfterAck log)
    {action : WorkerAction} (hother : ∀ path wire, action ≠ .removed path wire) :
    RemovedAfterAck (log ++ [action]) := by
  intro pre path wire hbefore
  rcases prefix_concat_iff.mp hbefore with hall | hold
  · have hlast := append_inj_right' hall rfl
    exact absurd (singleton_inj.mp hlast).symm (hother path wire)
  · exact hremoved pre path wire hold

lemma RemovedAfterAck.removed (hremoved : RemovedAfterAck log) {path wire : Bytes}
    (hdecode : decodeAlarmFrame wire = .ok fr) (hpath : path = outboxPath fr.sourceId fr.messageId)
    (hacked : AckedOn log c wire fr) : RemovedAfterAck (log ++ [.removed path wire]) := by
  intro pre path' wire' hbefore
  rcases prefix_concat_iff.mp hbefore with hall | hold
  · obtain ⟨rfl, hlast⟩ := append_inj' hall rfl
    obtain ⟨rfl, rfl⟩ := WorkerAction.removed.inj (singleton_inj.mp hlast)
    exact ⟨fr, c, hdecode, hpath, hacked⟩
  · exact hremoved pre path' wire' hold

def alarmOf : Exchange → Option Delivery
  | .alarm delivery => some delivery
  | .heartbeat _ _ => none

def deliveryOf : Worker → Option Delivery
  | .idle => none
  | .picked delivery => some delivery
  | .sending _ exchange _ => alarmOf exchange
  | .waiting _ exchange _ => alarmOf exchange
  | .acked _ delivery => some delivery

def LoggedFor (log : List WorkerAction) : Worker → Prop
  | .waiting connection exchange _ => .sent connection exchange.wire ∈ log
  | .acked connection delivery => AckedOn log connection delivery.wire delivery.frame
  | _ => True

/-- The worker's alarm is one that `enqueue` has written, and still in its own file. -/
structure Delivers (written : List AlarmFrame) (outbox : AlarmSpool) (delivery : Delivery) :
    Prop where
  written : delivery.frame ∈ written
  visible : outbox.data.lookup delivery.path = some delivery.wire
  wire : delivery.wire = alarmWire delivery.frame
  path : delivery.path = outboxPath delivery.frame.sourceId delivery.frame.messageId

/-- Where the files of the outbox come from and what the worker holds. -/
structure Tracked (net : AlarmNetwork) : Prop where
  kind : net.outbox.kind = .outbox
  frames : ∀ frame ∈ net.written,
    frame.Valid ∧ frame.type = .alarm ∧ frame.sourceId = net.sourceId
  files : ∀ name content, net.outbox.data.MayHold name (some content) →
    ∃ frame ∈ net.written, name = outboxPath frame.sourceId frame.messageId ∧
      content = alarmWire frame
  delivers : ∀ delivery, deliveryOf net.worker = some delivery →
    Delivers net.written net.outbox delivery
  logged : LoggedFor net.log net.worker
  removed : RemovedAfterAck net.log

lemma initial_tracked (sourceId : UInt64) (maxOutboxBytes : ℕ) (engine : Engine) :
    (initial sourceId maxOutboxBytes engine).Tracked where
  kind := rfl
  frames := by simp [initial]
  files := by
    intro name body hmay
    simp [initial, AlarmSpool.fresh, DurableDirectory.MayHold, DurableDirectory.lookup,
      DurableDirectory.empty] at hmay
  delivers := by simp [initial, deliveryOf]
  logged := trivial
  removed := by
    intro pre path wire hbefore
    simp [initial] at hbefore

section

variable (htrk : net.Tracked)
include htrk

variable {outbox : AlarmSpool} {attempts : ℕ → Attempt} {r : StoredRecord}
  {d : Delivery}

lemma Tracked.onOutbox (hkind : outbox.kind = net.outbox.kind)
    (hfiles : ∀ name body, outbox.data.MayHold name (some body) →
      net.outbox.data.MayHold name (some body)) :
    { net with outbox := outbox, worker := .idle }.Tracked :=
  { htrk with
    kind := hkind.trans htrk.kind
    files := fun name body hmay => htrk.files name body (hfiles name body hmay)
    delivers := by simp [deliveryOf]
    logged := trivial }

lemma Tracked.onWorker (wk : Worker)
    (hdelivers : ∀ d, deliveryOf wk = some d → Delivers net.written net.outbox d)
    (hlogged : LoggedFor net.log wk) : { net with worker := wk }.Tracked :=
  { htrk with
    delivers := hdelivers
    logged := hlogged }

lemma Tracked.idle : { net with worker := .idle }.Tracked :=
  htrk.onWorker .idle (by simp [deliveryOf]) trivial

lemma Tracked.closeSocket : net.closeSocket.Tracked :=
  { htrk.idle with }

lemma Tracked.publisherGone (hkind : outbox.kind = net.outbox.kind)
    (hfiles : ∀ name body, outbox.data.MayHold name (some body) →
      net.outbox.data.MayHold name (some body)) : (net.publisherGone outbox).Tracked :=
  { htrk.onOutbox hkind hfiles with }

/-! ### Storing -/

omit htrk in
lemma enqueueFrame_of_enqueues (henqueues : Enqueues net.sourceId r attempts fr net.outbox outbox) :
    net.enqueueFrame r attempts = some fr := by
  rw [enqueueFrame, henqueues.chosen, bind_some, henqueues.built]

omit htrk in
lemma enqueueFrame_spec (hframe : net.enqueueFrame r attempts = some fr) :
    (fr.Valid ∧ fr.type = .alarm ∧ fr.sourceId = net.sourceId) ∧
      net.outbox.data.lookup (outboxPath fr.sourceId fr.messageId) = none := by
  obtain ⟨messageId, hchosen, hbuilt⟩ := bind_eq_some_iff.mp hframe
  obtain ⟨hvalid, hidentity, -, hreliable⟩ := frameOfRecord_spec hbuilt
  have hsource : fr.sourceId = net.sourceId := congrArg AlarmIdentity.sourceId hidentity
  have hmessage : fr.messageId = messageId := congrArg AlarmIdentity.messageId hidentity
  refine ⟨⟨hvalid, type_of_decodeReliablePayload hreliable, hsource⟩, ?_⟩
  rw [hsource, hmessage]
  exact (chosenMessageId_eq_some hchosen).2

omit htrk in
lemma lookup_of_enqueueBounds (hbounds : EnqueueBounds net.sourceId r attempts net.outbox outbox)
    {name body : Bytes} (hget : net.outbox.data.lookup name = some body) :
    outbox.data.lookup name = some body := by
  rcases hbounds with haside | ⟨fr, henqueues⟩
  · rw [haside.data, hget]
  · have hname : name ≠ outboxPath net.sourceId fr.messageId := by
      intro hname
      rw [hname, henqueues.free] at hget
      exact absurd hget (by simp)
    rw [henqueues.within.data.lookup_of_ne hname, hget]

lemma Tracked.enqueued (hbounds : EnqueueBounds net.sourceId r attempts net.outbox outbox) :
    { net with
      outbox := outbox
      written := net.written ++ (net.enqueueFrame r attempts).toList }.Tracked where
  kind := hbounds.kind_eq.trans htrk.kind
  frames := by
    intro fr hmem
    rcases mem_append.mp hmem with hmem | hmem
    · exact htrk.frames fr hmem
    · exact (enqueueFrame_spec (mem_toList.mp hmem)).1
  files := by
    have hold : ∀ name body, net.outbox.data.MayHold name (some body) →
        ∃ fr ∈ net.written ++ (net.enqueueFrame r attempts).toList,
          name = outboxPath fr.sourceId fr.messageId ∧ body = alarmWire fr := by
      intro name body hmay
      obtain ⟨fr, hmem, hfacts⟩ := htrk.files name body hmay
      exact ⟨fr, mem_append_left _ hmem, hfacts⟩
    intro name body hmay
    rcases hbounds with haside | ⟨fr, henqueues⟩
    · exact hold name body (haside.data ▸ hmay)
    · rcases henqueues.within.data.mayHold_some hmay with hmay | ⟨hname, hcontent⟩
      · exact hold name body hmay
      · have hframe := enqueueFrame_of_enqueues henqueues
        refine ⟨fr, by simp [hframe], ?_, hcontent⟩
        rw [hname, (enqueueFrame_spec hframe).1.2.2]
  delivers := fun d hdelivery =>
    { htrk.delivers d hdelivery with
      written := mem_append_left _ (htrk.delivers d hdelivery).written
      visible := lookup_of_enqueueBounds hbounds (htrk.delivers d hdelivery).visible }
  logged := htrk.logged
  removed := htrk.removed

/-! ### Delivering -/

lemma Tracked.delivers_of_picked (hpicked : d.PickedFrom net.outbox)
    (hdata : outbox.data = net.outbox.data) : Delivers net.written outbox d := by
  obtain ⟨fr, hmem, hpath, hwire⟩ := htrk.files d.path d.wire
    (hpicked.visible ▸ DurableDirectory.mayHold_lookup _ _)
  have hdecode := hpicked.decodes
  rw [hwire, decodeAlarmFrame_encode (htrk.frames fr hmem).1] at hdecode
  obtain rfl := Except.ok.inj hdecode
  exact ⟨hmem, hdata ▸ hpicked.visible, hwire, hpath⟩

omit htrk in
lemma LoggedFor.append {wk : Worker} (hlogged : LoggedFor log wk) (action : WorkerAction) :
    LoggedFor (log ++ [action]) wk := by
  cases wk with
  | waiting c exchange received => exact mem_append_left _ hlogged
  | acked c d =>
    obtain ⟨pre, between, after, ack, rfl, hack⟩ := hlogged
    exact ⟨pre, between, after ++ [action], ack, by simp, hack⟩
  | idle | picked d | sending c exchange rest => trivial

lemma Tracked.act (action : WorkerAction) (hother : ∀ path wire, action ≠ .removed path wire) :
    { net with log := net.log ++ [action] }.Tracked :=
  { htrk with
    logged := htrk.logged.append action
    removed := htrk.removed.append hother }

omit htrk in
lemma ackedOn_of_answered {answer : AlarmFrame} (hsent : .sent c d.wire ∈ log)
    (hanswered : (Exchange.alarm d).answeredBy answer) :
    AckedOn (log ++ [.received c answer]) c d.wire d.frame := by
  obtain ⟨pre, between, rfl⟩ := append_of_mem hsent
  simp only [Exchange.answeredBy, Exchange.answerType, Exchange.frame, Bool.and_eq_true,
    beq_iff_eq] at hanswered
  obtain ⟨⟨htype, hsource⟩, hmessage⟩ := hanswered
  exact ⟨pre, between, [], answer, by simp, htype, hsource, hmessage⟩

omit htrk in
lemma mayHold_of_removes {path : Bytes} {earlier later : AlarmSpool}
    (hrem : AlarmSpool.Removes path earlier later) :
    ∀ name body, later.data.MayHold name (some body) → earlier.data.MayHold name (some body) :=
  fun _ _ hmay => (hrem.data.mayHold_some hmay).resolve_right (by simp)

lemma Tracked.pick (faults : PickFaults) : (net.publisherStep (.pick faults)).Tracked := by
  simp only [publisherStep]
  split_ifs with hidle
  · obtain ⟨⟨hrem, -⟩, hpicked⟩ := (pickNext_meets faults net.outbox).2
    have houtbox := htrk.onOutbox hrem.kind (mayHold_of_removes hrem)
    generalize (pickNext faults).exec net.outbox = done at hpicked houtbox ⊢
    obtain ⟨visited, outbox, value⟩ := done
    cases value with
    | none => exact { houtbox with }
    | some d =>
      have hdelivers := htrk.delivers_of_picked (hpicked d rfl).1 (hpicked d rfl).2
      refine { houtbox.onWorker (.picked d) ?_ trivial with }
      intro other hother
      exact some_inj.mp hother ▸ hdelivers
  · exact htrk

lemma Tracked.connectWorker (succeeds : Bool) : (net.connectWorker succeeds).Tracked := by
  unfold AlarmNetwork.connectWorker
  cases hwk : net.worker with
  | picked d =>
    have hdelivers := htrk.delivers d (by rw [hwk]; rfl)
    have hsending : ∀ number,
        { net with worker := .sending number (.alarm d) d.wire }.Tracked := by
      intro number
      refine htrk.onWorker _ ?_ trivial
      intro other hother
      exact some_inj.mp hother ▸ hdelivers
    dsimp only
    split
    · exact hsending _
    · split_ifs
      · exact { hsending net.nextConnection with }
      · exact htrk.idle
  | _ => exact htrk

lemma Tracked.beginHeartbeat (scan : ScanFaults) (draw : Except ℤ AlarmMessageId)
    (now : MonitorTimestamp) : (net.beginHeartbeat scan draw now).Tracked := by
  unfold AlarmNetwork.beginHeartbeat
  split
  · split_ifs
    · split
      · dsimp only
        split
        · exact htrk.closeSocket
        · exact htrk.onWorker _ (by simp [deliveryOf, alarmOf]) trivial
      · exact htrk.closeSocket
    · exact htrk
  · exact htrk

lemma Tracked.onConnection (c : ℕ)
    (change : Connection → Connection) : (net.onConnection c change).Tracked :=
  { htrk with }

lemma Tracked.sendBytes (size : ℕ) : (net.sendBytes size).Tracked := by
  unfold AlarmNetwork.sendBytes
  cases hwk : net.worker with
  | sending c exchange rest =>
    have hdelivers := htrk.delivers
    rw [hwk] at hdelivers
    have hsent := htrk.onConnection c (·.send (rest.take size))
    dsimp only
    split_ifs
    · exact (hsent.act (.sent c exchange.wire) (by simp)).onWorker
        (.waiting c exchange []) hdelivers (by simp [LoggedFor])
    · exact hsent.onWorker _ hdelivers trivial
  | _ => exact htrk

lemma Tracked.answered {exchange : Exchange}
    {received : Bytes} (hwk : net.worker = .waiting c exchange received)
    (answer : AlarmFrame) : (net.answered c exchange answer).Tracked := by
  have hlogged := htrk.logged
  have hdelivers := htrk.delivers
  rw [hwk] at hlogged hdelivers
  have hact := htrk.act (.received c answer) (by simp)
  unfold AlarmNetwork.answered
  split_ifs with hanswered
  · cases exchange with
    | alarm d =>
      exact hact.onWorker (.acked c d) hdelivers (ackedOn_of_answered hlogged hanswered)
    | heartbeat ping wire => exact hact.idle
  · exact hact.closeSocket

lemma Tracked.receiveBytes (size : ℕ) : (net.receiveBytes size).Tracked := by
  unfold AlarmNetwork.receiveBytes
  cases hwk : net.worker with
  | waiting c exchange received =>
    have htaken := htrk.onConnection c (·.taken (min size (receiveSize received)))
    dsimp only
    split
    · have hlogged := htrk.logged
      have hdelivers := htrk.delivers
      rw [hwk] at hlogged hdelivers
      exact htaken.onWorker (.waiting c exchange _) hdelivers hlogged
    · exact htaken.closeSocket
    · exact htaken.answered hwk _
  | _ => exact htrk

lemma Tracked.remove (hwk : net.worker = .acked c d)
    (hrem : AlarmSpool.Removes d.path net.outbox outbox) : { net with
      outbox := outbox
      worker := .idle
      log := net.log ++ [WorkerAction.removed d.path d.wire] }.Tracked := by
  have hdelivers := htrk.delivers d (by rw [hwk]; rfl)
  have hlogged := htrk.logged
  rw [hwk] at hlogged
  have hdecode : decodeAlarmFrame d.wire = .ok d.frame := by
    rw [hdelivers.wire]
    exact decodeAlarmFrame_encode (htrk.frames _ hdelivers.written).1
  exact { htrk.onOutbox hrem.kind (mayHold_of_removes hrem) with
    removed := htrk.removed.removed hdecode hdelivers.path hlogged }

lemma Tracked.publisherStep (e : PublisherEvent) : (net.publisherStep e).Tracked := by
  cases e with
  | enqueue r attempts =>
    have hend := (enqueue_meets true net.sourceId r attempts net.outbox htrk.kind).2
    exact { htrk.enqueued hend.bounds with }
  | dieEnqueuing r attempts moment =>
    have hbounds := (enqueue_meets true net.sourceId r attempts net.outbox
      htrk.kind).getD_visited (.inl (.refl _)) moment
    exact { (htrk.enqueued hbounds).idle with }
  | pick faults => exact htrk.pick faults
  | diePicking faults moment =>
    simp only [AlarmNetwork.publisherStep]
    split_ifs
    · have hrem := ((pickNext_meets faults net.outbox).getD_visited (.refl _ _) moment).removes
      exact { htrk.publisherGone hrem.kind (mayHold_of_removes hrem) with }
    · exact htrk
  | connect succeeds => exact htrk.connectWorker succeeds
  | heartbeat scan draw now => exact htrk.beginHeartbeat scan draw now
  | send size => exact htrk.sendBytes size
  | receive size => exact htrk.receiveBytes size
  | giveUp =>
    simp only [AlarmNetwork.publisherStep, giveUpExchange]
    split
    · exact htrk.closeSocket
    · exact htrk.closeSocket
    · exact htrk
  | remove faults =>
    simp only [AlarmNetwork.publisherStep]
    cases hwk : net.worker with
    | acked c d =>
      exact htrk.remove hwk (AlarmSpool.remove_meets d.path faults net.outbox).2.1
    | _ => exact htrk
  | dieRemoving faults moment =>
    simp only [AlarmNetwork.publisherStep]
    cases hwk : net.worker with
    | acked c d =>
      have hmeets := AlarmSpool.remove_meets d.path faults net.outbox
      have hrem := hmeets.getD_visited (.refl _ _) moment
      exact { htrk.remove hwk hrem with }
    | _ => exact htrk

lemma Tracked.collectorStep (e : ServingEvent) : (net.collectorStep e).Tracked := by
  cases e with
  | accept c | read c size | write c size | closeClient c =>
    simp only [AlarmNetwork.collectorStep]
    split_ifs
    · exact htrk.onConnection _ _
    · exact htrk
  | process c faults =>
    simp only [AlarmNetwork.collectorStep, processQueued]
    split_ifs
    · split
      · exact htrk
      · exact { htrk with }
    · exact htrk
  | dieProcessing c faults moment =>
    simp only [AlarmNetwork.collectorStep, dieProcessingQueued]
    split_ifs
    · split
      · exact htrk
      · exact { htrk with }
    · exact htrk

lemma Tracked.environmentStep (e : EnvironmentEvent) : (net.environmentStep e).Tracked := by
  cases e with
  | stopPublisher => exact htrk.publisherGone rfl fun _ _ hmay => hmay
  | publisherPowerLoss loss =>
    exact htrk.publisherGone rfl fun _ _ hmay => hmay.of_powerLoss
  | startPublisher pid setup clear =>
    simp only [AlarmNetwork.environmentStep]
    split_ifs
    · exact htrk
    · obtain ⟨hkind, hdata, -⟩ := (AlarmSpool.initializeSpool_meets pid setup clear net.outbox).2
      exact
        { htrk with
          kind := hkind.trans htrk.kind
          files := fun name body hmay => htrk.files name body (hdata ▸ hmay)
          delivers := fun d hd => { htrk.delivers d hd with
            visible := hdata ▸ (htrk.delivers d hd).visible } }
  | dieStartingPublisher pid setup clear moment =>
    simp only [AlarmNetwork.environmentStep]
    split_ifs
    · exact htrk
    · obtain ⟨hkind, hdata, -⟩ := (AlarmSpool.initializeSpool_meets pid setup clear
        net.outbox).getD_visited ⟨rfl, rfl, rfl⟩ moment
      exact htrk.publisherGone hkind fun _ _ hmay => hdata ▸ hmay
  | sever c forward backward
  | stopCollector | collectorPowerLoss loss | changeEngine engine => exact { htrk with }
  | startCollector choices | dieStartingCollector choices moment =>
    simp only [AlarmNetwork.environmentStep]
    split_ifs
    · exact htrk
    · exact { htrk with }

lemma Tracked.step (e : NetworkEvent) : (net.step e).Tracked := by
  cases e with
  | publisher e =>
    simp only [AlarmNetwork.step]
    split_ifs
    · exact htrk.publisherStep e
    · exact htrk
  | collector e =>
    simp only [AlarmNetwork.step]
    split_ifs
    · exact htrk.collectorStep e
    · exact htrk
  | environment e => exact htrk.environmentStep e

/-! ## What leaves the outbox -/

variable {name body : Bytes} (hget : net.outbox.data.lookup name = some body)
include hget

/-- The file has stayed, was found corrupt in the step, or was sent and acknowledged on one
connection before. -/
def Accounted (net late : AlarmNetwork) (name content : Bytes) : Prop :=
  late.outbox.data.lookup name = some content ∨
    (∃ lost, late.corruptOutbox = net.corruptOutbox ++ lost ∧ name ∈ lost) ∨
    ∃ frame connection, decodeAlarmFrame content = .ok frame ∧
      name = outboxPath frame.sourceId frame.messageId ∧ AckedOn net.log connection content frame

omit htrk in
lemma accounted_of_outbox {late : AlarmNetwork} (hsame : late.outbox = net.outbox) :
    net.Accounted late name body :=
  .inl (hsame ▸ hget)

omit htrk in
lemma accounted_of_pickBounds {faults : PickFaults} {late : AlarmNetwork}
    (hbounds : PickBounds faults net.outbox late.outbox)
    (hcorrupt : late.corruptOutbox = net.corruptOutbox ++
      AlarmSpool.corruptFiles (PickSound faults net.outbox) net.outbox late.outbox) :
    net.Accounted late name body := by
  have hkept : PickSound faults net.outbox name body → late.outbox.data.lookup name ≠ none :=
    fun hsound => by simp [hbounds.kept hget hsound]
  rcases AlarmSpool.mem_corruptFiles_or hget hkept with hlost | hthere
  · exact .inr (.inl ⟨_, hcorrupt, hlost⟩)
  · exact .inl (hbounds.removes.lookup_eq hget hthere)

lemma Tracked.accounted_of_removes (hwk : net.worker = .acked c d) {late : AlarmNetwork}
    (hrem : AlarmSpool.Removes d.path net.outbox late.outbox) : net.Accounted late name body := by
  by_cases hname : name = d.path
  · have hdelivers := htrk.delivers d (by rw [hwk]; rfl)
    have hlogged := htrk.logged
    rw [hwk] at hlogged
    rw [hname, hdelivers.visible, some_inj] at hget
    subst hget
    refine .inr (.inr ⟨d.frame, c, ?_, hname.trans hdelivers.path, hlogged⟩)
    rw [hdelivers.wire, decodeAlarmFrame_encode (htrk.frames _ hdelivers.written).1]
  · exact .inl (by rw [hrem.data.lookup_of_ne hname, hget])

lemma Tracked.accounted_publisherStep (e : PublisherEvent) :
    net.Accounted (net.publisherStep e) name body := by
  cases e with
  | enqueue r attempts =>
    exact .inl (lookup_of_enqueueBounds
      (enqueue_meets true net.sourceId r attempts net.outbox htrk.kind).2.bounds hget)
  | dieEnqueuing r attempts moment =>
    exact .inl (lookup_of_enqueueBounds ((enqueue_meets true net.sourceId r attempts net.outbox
      htrk.kind).getD_visited (.inl (.refl _)) moment) hget)
  | pick faults =>
    simp only [AlarmNetwork.publisherStep]
    split_ifs
    · exact accounted_of_pickBounds hget (pickNext_meets faults net.outbox).2.1 rfl
    · exact .inl hget
  | diePicking faults moment =>
    simp only [AlarmNetwork.publisherStep]
    split_ifs
    · exact accounted_of_pickBounds hget
        ((pickNext_meets faults net.outbox).getD_visited (.refl _ _) moment) rfl
    · exact .inl hget
  | connect succeeds | heartbeat scan draw now | send size | receive size | giveUp =>
    refine accounted_of_outbox hget ?_
    simp only [AlarmNetwork.publisherStep, AlarmNetwork.connectWorker, AlarmNetwork.beginHeartbeat,
      AlarmNetwork.sendBytes, AlarmNetwork.receiveBytes, AlarmNetwork.answered, giveUpExchange]
    repeat' split
    all_goals rfl
  | remove faults =>
    simp only [AlarmNetwork.publisherStep]
    cases hwk : net.worker with
    | acked c d =>
      have hend := (AlarmSpool.remove_meets d.path faults net.outbox).2
      exact htrk.accounted_of_removes hget hwk hend.1
    | _ => exact .inl hget
  | dieRemoving faults moment =>
    simp only [AlarmNetwork.publisherStep]
    cases hwk : net.worker with
    | acked c d =>
      exact htrk.accounted_of_removes hget hwk
        ((AlarmSpool.remove_meets d.path faults net.outbox).getD_visited (.refl _ _) moment)
    | _ => exact .inl hget

omit htrk hget in
lemma outbox_collectorStep (e : ServingEvent) : (net.collectorStep e).outbox = net.outbox := by
  cases e
  all_goals
    simp only [collectorStep, processQueued, dieProcessingQueued]
    repeat' split
    all_goals rfl

/-- Nothing but a power failure takes a file out of the outbox for another reason. -/
lemma Tracked.accounted (e : NetworkEvent) :
    (∃ loss, e = .environment (.publisherPowerLoss loss)) ∨
      net.Accounted (net.step e) name body := by
  cases e with
  | publisher e =>
    simp only [AlarmNetwork.step]
    split_ifs
    · exact .inr (htrk.accounted_publisherStep hget e)
    · exact .inr (.inl hget)
  | collector e =>
    simp only [AlarmNetwork.step]
    split_ifs
    · exact .inr (accounted_of_outbox hget (outbox_collectorStep e))
    · exact .inr (.inl hget)
  | environment e =>
    cases e with
    | publisherPowerLoss loss => exact .inl ⟨loss, rfl⟩
    | startPublisher pid setup clear =>
      refine .inr (.inl ?_)
      simp only [AlarmNetwork.step, AlarmNetwork.environmentStep]
      split_ifs
      · exact hget
      · rw [← hget, (AlarmSpool.initializeSpool_meets pid setup clear net.outbox).2.data]
    | dieStartingPublisher pid setup clear moment =>
      refine .inr (.inl ?_)
      simp only [AlarmNetwork.step, AlarmNetwork.environmentStep]
      split_ifs
      · exact hget
      · have hdata := ((AlarmSpool.initializeSpool_meets pid setup clear
          net.outbox).getD_visited ⟨rfl, rfl, rfl⟩ moment).data
        exact hdata.symm ▸ hget
    | stopPublisher | sever c forward backward | stopCollector | collectorPowerLoss loss
    | changeEngine engine => exact .inr (.inl hget)
    | startCollector choices | dieStartingCollector choices moment =>
      refine .inr (accounted_of_outbox hget ?_)
      simp only [AlarmNetwork.step, AlarmNetwork.environmentStep]
      split_ifs <;> rfl

end

end AlarmNetwork

end Tlss.Monitor
