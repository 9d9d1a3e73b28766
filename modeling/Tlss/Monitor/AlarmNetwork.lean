import Tlss.Monitor.AlarmStreamDecoder
import Tlss.Monitor.Publisher
import Tlss.Monitor.Recovery

/-!
# Publisher, network and collector

One publisher, one collector and the TCP connections between them. The worker of
the publisher (`run_iteration`) takes the first file of the outbox, connects,
sends the bytes, reads one frame and removes the file if the frame is the
matching ACK. The collector accepts connections, feeds what it reads to the
stream decoder of the client, processes the frames and writes the answers.

Bytes move in pieces of any size. A connection may break and lose what is under
way, either side may give up on it, and either process may die between two system
calls, or lose its power, and be started again. Each event is one system call or
one operation of a spool; an event that is not possible in a state changes nothing.

An observer keeps what the program does not: the frames `enqueue` has tried to
store and those it has stored, the files the spools have moved away as corrupt,
and a log of what the worker has done.
-/

namespace Tlss.Monitor

open Library Collector

/-! ## Connections -/

inductive ClientPhase where
  | waiting
  | serving
  | closed
deriving DecidableEq, Repr

/-- A connection: the bytes under way in both directions, and the `Client` of the
collector with its decoder, the frames it has still to process and the bytes it
has still to write. -/
structure Connection where
  toCollector : Bytes
  toPublisher : Bytes
  broken : Bool
  client : ClientPhase
  decoder : AlarmStreamDecoder
  queue : List AlarmFrame
  writes : Bytes

def maxFramesPerClientRound : ℕ := 8

def clientReadChunk : ℕ := alarmHeaderSize * maxFramesPerClientRound

namespace Connection

def fresh : Connection := ⟨[], [], false, .waiting, .fresh, [], []⟩

variable (connection : Connection)

def close : Connection :=
  { connection with client := .closed, queue := [], writes := [] }

def send (bytes : Bytes) : Connection :=
  if connection.broken then connection
  else { connection with toCollector := connection.toCollector ++ bytes }

/-- `recv` by the publisher has taken `size` bytes. -/
def taken (size : ℕ) : Connection :=
  { connection with toPublisher := connection.toPublisher.drop size }

/-- `read_client`, up to the processing of the frames. -/
def read (size : ℕ) : Connection :=
  let data := connection.toCollector.take (min size clientReadChunk)
  if data = [] then connection
  else
    let (result, decoder) := connection.decoder.feed data
    let fed :=
      { connection with
        toCollector := connection.toCollector.drop (min size clientReadChunk)
        decoder := decoder }
    if !result.success || result.frames.length > maxFramesPerClientRound then fed.close
    else { fed with queue := result.frames }

def write (size : ℕ) : Connection :=
  { connection with
    writes := connection.writes.drop size
    toPublisher :=
      if connection.broken then connection.toPublisher
      else connection.toPublisher ++ connection.writes.take size }

def answer (response : Option QueuedControl) : Connection :=
  match response with
  | none => connection.close
  | some control =>
    { connection with
      queue := connection.queue.tail
      writes := connection.writes ++ control.bytes }

/-- The network loses the connection and all but the first bytes under way. -/
def sever (forward backward : ℕ) : Connection :=
  { connection with
    broken := true
    toCollector := connection.toCollector.take forward
    toPublisher := connection.toPublisher.take backward }

end Connection

/-! ## The worker of the publisher -/

/-- What the worker sends and has answered: an alarm, or a heartbeat. -/
inductive Exchange where
  | alarm (delivery : Delivery)
  | heartbeat (ping : AlarmFrame) (wire : Bytes)
deriving DecidableEq, Repr

namespace Exchange

def wire : Exchange → Bytes
  | .alarm delivery => delivery.wire
  | .heartbeat _ wire => wire

def frame : Exchange → AlarmFrame
  | .alarm delivery => delivery.frame
  | .heartbeat ping _ => ping

def answerType : Exchange → AlarmFrameType
  | .alarm _ => .ack
  | .heartbeat _ _ => .pong

/-- The check of `send_alarm_and_wait_ack` and of `heartbeat`. -/
def answeredBy (exchange : Exchange) (answer : AlarmFrame) : Bool :=
  answer.type == exchange.answerType && answer.sourceId == exchange.frame.sourceId &&
    answer.messageId == exchange.frame.messageId

end Exchange

inductive Worker where
  | idle
  | picked (delivery : Delivery)
  | sending (connection : ℕ) (exchange : Exchange) (rest : Bytes)
  | waiting (connection : ℕ) (exchange : Exchange) (received : Bytes)
  | acked (connection : ℕ) (delivery : Delivery)
deriving DecidableEq, Repr

/-- What `receive_frame` makes of the bytes it has. -/
inductive Received where
  | incomplete
  | failed
  | complete (frame : AlarmFrame)
deriving DecidableEq, Repr

/-- The bytes `receive_frame` asks for next: the rest of the header, then the rest
of the frame the header announces. -/
def receiveSize (received : Bytes) : ℕ :=
  if received.length < alarmHeaderSize then alarmHeaderSize - received.length
  else
    match alarmFrameSize received with
    | .error _ => 0
    | .ok size => size - received.length

def receiveFrame (received : Bytes) : Received :=
  if received.length < alarmHeaderSize then .incomplete
  else
    match alarmFrameSize received with
    | .error _ => .failed
    | .ok size =>
      if received.length < size then .incomplete
      else
        match decodeAlarmFrame received with
        | .error _ => .failed
        | .ok frame => .complete frame

inductive WorkerAction where
  | sent (connection : ℕ) (wire : Bytes)
  | received (connection : ℕ) (frame : AlarmFrame)
  /-- `remove` was called for the file these bytes were read from. -/
  | removed (path wire : Bytes)
deriving DecidableEq, Repr

/-! ## The system -/

/-- A power failure: every entry that was not synced may go back to what it was. -/
structure PowerLoss where
  data : List (Bytes × Option Bytes)
  tmp : List (Bytes × Option Bytes)
  corrupt : List (Bytes × Option Bytes)

def AlarmSpool.powerLoss (spool : AlarmSpool) (loss : PowerLoss) : AlarmSpool :=
  { spool with
    data := spool.data.powerLoss loss.data
    tmp := spool.tmp.powerLoss loss.tmp
    corrupt := spool.corrupt.powerLoss loss.corrupt }

/-- Publisher, connections, collector, and what the observer knows. -/
structure AlarmNetwork where
  sourceId : UInt64
  outbox : AlarmSpool
  running : Bool
  worker : Worker
  socket : Option ℕ
  connections : ℕ → Connection
  nextConnection : ℕ
  collector : Collector
  written : List AlarmFrame
  succeeded : List AlarmFrame
  corruptOutbox : List Bytes
  corruptInbox : List Bytes
  log : List WorkerAction

inductive PublisherEvent where
  /-- A thread calls `enqueue`, or the process dies in the call. -/
  | enqueue (record : StoredRecord) (attempts : ℕ → Attempt)
  | dieEnqueuing (record : StoredRecord) (attempts : ℕ → Attempt) (moment : ℕ)
  | pick (faults : PickFaults)
  | diePicking (faults : PickFaults) (moment : ℕ)
  /-- The worker makes sure of a connection; a new one may fail. -/
  | connect (succeeds : Bool)
  | heartbeat (scan : ScanFaults) (draw : Except ℤ AlarmMessageId) (now : MonitorTimestamp)
  /-- The worker sends or receives some bytes, or fails or times out doing so. -/
  | send (size : ℕ)
  | receive (size : ℕ)
  | giveUp
  | remove (faults : AlarmSpool.RemoveFaults)
  | dieRemoving (faults : AlarmSpool.RemoveFaults) (moment : ℕ)

inductive ServingEvent where
  | accept (connection : ℕ)
  | read (connection : ℕ) (size : ℕ)
  | process (connection : ℕ) (faults : ProcessFaults)
  | dieProcessing (connection : ℕ) (faults : ProcessFaults) (moment : ℕ)
  | write (connection : ℕ) (size : ℕ)
  /-- End of stream, an error, or a client that was silent for too long. -/
  | closeClient (connection : ℕ)

inductive EnvironmentEvent where
  | stopPublisher
  | publisherPowerLoss (loss : PowerLoss)
  | startPublisher (pid : ℕ) (setup : Option ℤ) (clear : AlarmSpool.MoveFaults)
  | dieStartingPublisher (pid : ℕ) (setup : Option ℤ) (clear : AlarmSpool.MoveFaults) (moment : ℕ)
  | sever (connection : ℕ) (forward backward : ℕ)
  | stopCollector
  | collectorPowerLoss (loss : PowerLoss)
  | changeEngine (engine : Engine)
  | startCollector (choices : StartChoices)
  | dieStartingCollector (choices : StartChoices) (moment : ℕ)

inductive NetworkEvent where
  | publisher (event : PublisherEvent)
  | collector (event : ServingEvent)
  | environment (event : EnvironmentEvent)

namespace AlarmNetwork

/-! ### The publisher -/

variable (net : AlarmNetwork)

def enqueueFrame (record : StoredRecord) (attempts : ℕ → Attempt) : Option AlarmFrame :=
  (chosenMessageId net.outbox net.sourceId attempts 0 messageIdAttempts).bind
    (frameOfRecord net.sourceId record)

def publisherGone (outbox : AlarmSpool) : AlarmNetwork :=
  { net with outbox := outbox, running := false, worker := .idle, socket := none }

def closeSocket : AlarmNetwork := { net with worker := .idle, socket := none }

def onConnection (connection : ℕ) (change : Connection → Connection) : AlarmNetwork :=
  { net with
    connections :=
      Function.update net.connections connection (change (net.connections connection)) }

/-- `connect_collector`, if there is no connection, and the beginning of
`send_alarm_and_wait_ack`. -/
def connectWorker (succeeds : Bool) : AlarmNetwork :=
  match net.worker with
  | .picked delivery =>
    match net.socket with
    | some connection =>
      { net with worker := .sending connection (.alarm delivery) delivery.wire }
    | none =>
      if succeeds && net.collector.active then
        { net with
          worker := .sending net.nextConnection (.alarm delivery) delivery.wire
          socket := some net.nextConnection
          connections := Function.update net.connections net.nextConnection .fresh
          nextConnection := net.nextConnection + 1 }
      else { net with worker := .idle }
  | _ => net

/-- `heartbeat`, when `next` finds the outbox empty and there is a connection. -/
def beginHeartbeat (scan : ScanFaults) (draw : Except ℤ AlarmMessageId)
    (now : MonitorTimestamp) : AlarmNetwork :=
  match net.worker, net.socket with
  | .idle, some connection =>
    if (net.outbox.next scan).status = .empty then
      match draw, timestampMilliseconds now with
      | .ok messageId, some timestampMs =>
        let ping : AlarmFrame := ⟨.ping, net.sourceId, messageId, timestampMs, []⟩
        match encodeAlarmFrame ping with
        | .error _ => net.closeSocket
        | .ok wire => { net with worker := .sending connection (.heartbeat ping wire) wire }
      | _, _ => net.closeSocket
    else net
  | _, _ => net

def sendBytes (size : ℕ) : AlarmNetwork :=
  match net.worker with
  | .sending connection exchange rest =>
    let net := net.onConnection connection (·.send (rest.take size))
    if rest.drop size = [] then
      { net with
        worker := .waiting connection exchange []
        log := net.log ++ [.sent connection exchange.wire] }
    else { net with worker := .sending connection exchange (rest.drop size) }
  | _ => net

/-- What follows when `receive_frame` has read a frame. -/
def answered (connection : ℕ) (exchange : Exchange) (answer : AlarmFrame) : AlarmNetwork :=
  let net := { net with log := net.log ++ [WorkerAction.received connection answer] }
  if exchange.answeredBy answer then
    match exchange with
    | .alarm delivery => { net with worker := .acked connection delivery }
    | .heartbeat _ _ => { net with worker := .idle }
  else net.closeSocket

def receiveBytes (size : ℕ) : AlarmNetwork :=
  match net.worker with
  | .waiting connection exchange received =>
    let count := min size (receiveSize received)
    let held := received ++ (net.connections connection).toPublisher.take count
    let net := net.onConnection connection (·.taken count)
    match receiveFrame held with
    | .incomplete => { net with worker := .waiting connection exchange held }
    | .failed => net.closeSocket
    | .complete answer => net.answered connection exchange answer
  | _ => net

/-- A send or a receive has failed or run out of time. -/
def giveUpExchange : AlarmNetwork :=
  match net.worker with
  | .sending _ _ _ => net.closeSocket
  | .waiting _ _ _ => net.closeSocket
  | _ => net

/-! ### The collector -/

def collectorGone (spool : AlarmSpool) : AlarmNetwork :=
  { net with
    collector := { net.collector with spool := spool, accepted := [], active := false }
    connections := fun connection => (net.connections connection).close }

/-- The observer notes the files that the collector has found corrupt; `sound` is what it has
read. -/
def noteInbox (sound : Bytes → Bytes → Prop) [∀ name content, Decidable (sound name content)]
    (spool : AlarmSpool) : AlarmNetwork :=
  { net with
    corruptInbox :=
      net.corruptInbox ++ AlarmSpool.corruptFiles sound net.collector.spool spool }

/-- The observer notes the file that the worker has found corrupt. -/
def noteOutbox (faults : PickFaults) (outbox : AlarmSpool) : AlarmNetwork :=
  { net with
    corruptOutbox := net.corruptOutbox ++
      AlarmSpool.corruptFiles (PickSound faults net.outbox) net.outbox outbox }

/-- `process_frame` for the first frame in the queue of a client. -/
def processQueued (connection : ℕ) (faults : ProcessFaults) : AlarmNetwork :=
  match (net.connections connection).queue with
  | [] => net
  | frame :: _ =>
    let done := (processFrame frame faults).exec net.collector
    { (net.noteInbox (ReadSound frame faults) done.final.spool).onConnection connection
        (·.answer done.value) with collector := done.final }

def dieProcessingQueued (connection : ℕ) (faults : ProcessFaults) (moment : ℕ) : AlarmNetwork :=
  match (net.connections connection).queue with
  | [] => net
  | frame :: _ =>
    let done := (processFrame frame faults).exec net.collector
    let spool := (done.visited.getD moment net.collector).spool
    (net.noteInbox (ReadSound frame faults) spool).collectorGone spool

/-! ### Steps -/

def publisherStep : PublisherEvent → AlarmNetwork
  | .enqueue record attempts =>
    let done := (Monitor.enqueue true net.sourceId record attempts).exec net.outbox
    let frame := (net.enqueueFrame record attempts).toList
    { net with
      outbox := done.final
      written := net.written ++ frame
      succeeded := if done.value.durable then net.succeeded ++ frame else net.succeeded }
  | .dieEnqueuing record attempts moment =>
    let done := (Monitor.enqueue true net.sourceId record attempts).exec net.outbox
    { net.publisherGone (done.visited.getD moment net.outbox) with
      written := net.written ++ (net.enqueueFrame record attempts).toList }
  | .pick faults =>
    if net.worker = .idle then
      let done := (pickNext faults).exec net.outbox
      { net.noteOutbox faults done.final with
        outbox := done.final
        worker := done.value.elim .idle .picked }
    else net
  | .diePicking faults moment =>
    if net.worker = .idle then
      let outbox := ((pickNext faults).exec net.outbox).visited.getD moment net.outbox
      (net.noteOutbox faults outbox).publisherGone outbox
    else net
  | .connect succeeds => net.connectWorker succeeds
  | .heartbeat scan draw now => net.beginHeartbeat scan draw now
  | .send size => net.sendBytes size
  | .receive size => net.receiveBytes size
  | .giveUp => net.giveUpExchange
  | .remove faults =>
    match net.worker with
    | .acked _ delivery =>
      { net with
        outbox := ((AlarmSpool.remove delivery.path faults).exec net.outbox).final
        worker := .idle
        log := net.log ++ [.removed delivery.path delivery.wire] }
    | _ => net
  | .dieRemoving faults moment =>
    match net.worker with
    | .acked _ delivery =>
      let done := (AlarmSpool.remove delivery.path faults).exec net.outbox
      { net.publisherGone (done.visited.getD moment net.outbox) with
        log := net.log ++ [.removed delivery.path delivery.wire] }
    | _ => net

def collectorStep : ServingEvent → AlarmNetwork
  | .accept connection =>
    if connection < net.nextConnection ∧ (net.connections connection).client = .waiting then
      net.onConnection connection fun connection => { connection with client := .serving }
    else net
  | .read connection size =>
    if (net.connections connection).client = .serving ∧
        (net.connections connection).queue = [] then
      net.onConnection connection (·.read size)
    else net
  | .process connection faults =>
    if (net.connections connection).client = .serving then net.processQueued connection faults
    else net
  | .dieProcessing connection faults moment =>
    if (net.connections connection).client = .serving then
      net.dieProcessingQueued connection faults moment
    else net
  | .write connection size =>
    if (net.connections connection).client = .serving then
      net.onConnection connection (·.write size)
    else net
  | .closeClient connection =>
    if (net.connections connection).client = .serving then net.onConnection connection (·.close)
    else net

def environmentStep : EnvironmentEvent → AlarmNetwork
  | .stopPublisher => net.publisherGone net.outbox
  | .publisherPowerLoss loss => net.publisherGone (net.outbox.powerLoss loss)
  | .startPublisher pid setup clear =>
    if net.running then net
    else
      let outbox := ((AlarmSpool.initializeSpool pid setup clear).exec net.outbox).final
      { net with outbox := outbox, running := outbox.ready }
  | .dieStartingPublisher pid setup clear moment =>
    if net.running then net
    else
      net.publisherGone
        (((AlarmSpool.initializeSpool pid setup clear).exec net.outbox).visited.getD moment
          net.outbox)
  | .sever connection forward backward => net.onConnection connection (·.sever forward backward)
  | .stopCollector => net.collectorGone net.collector.spool
  | .collectorPowerLoss loss => net.collectorGone (net.collector.spool.powerLoss loss)
  | .changeEngine engine => { net with collector := { net.collector with engine := engine } }
  | .startCollector choices =>
    if net.collector.active then net
    else
      let collector := ((initializeCollector choices).exec net.collector).final
      { net.noteInbox (RecoverSound choices.recover) collector.spool with collector := collector }
  | .dieStartingCollector choices moment =>
    if net.collector.active then net
    else
      let done := (initializeCollector choices).exec net.collector
      let spool := (done.visited.getD moment net.collector).spool
      (net.noteInbox (RecoverSound choices.recover) spool).collectorGone spool

def step : NetworkEvent → AlarmNetwork
  | .publisher event => if net.running then net.publisherStep event else net
  | .collector event => if net.collector.active then net.collectorStep event else net
  | .environment event => net.environmentStep event

def initial (sourceId : UInt64) (maxOutboxBytes : ℕ) (engine : Engine) : AlarmNetwork where
  sourceId := sourceId
  outbox := .fresh .outbox maxOutboxBytes 0
  running := false
  worker := .idle
  socket := none
  connections := fun _ => .fresh
  nextConnection := 0
  collector := ⟨engine, .fresh .inbox 0 0, [], false, []⟩
  written := []
  succeeded := []
  corruptOutbox := []
  corruptInbox := []
  log := []

end AlarmNetwork

end Tlss.Monitor
