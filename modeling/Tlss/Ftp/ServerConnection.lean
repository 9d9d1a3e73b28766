import Mathlib.Data.Finset.Basic
import Tlss.Ftp.TransferConnection
import Tlss.Net.WriteHooks

/-!
# Reading and its pauses

A `TcpConnection` of the server reads only when somebody is ready for the input. There
are three reasons for a pause: the write queue has reached its high water mark
(`_send_read_paused`), a receiver has a block with the disk (`_disk_read_pauses`), and the
server stops. Whatever ends a pause is a callback that waits in the queue of the loop, and
what was read before the pause is handled by another one (`schedule_buffered_input`).

A `ServerConnection` puts together the session of the storage service, the write queue and
the reading side. The callbacks of the service are those of `TransferConnection`; they
pause reading when they hand a task to the disk executor, which is running, so it takes
every task. What they send is an event of its own, because the bytes of the replies are
not modelled: any string and any file may be sent at any time. The callbacks in the queue
of the loop may run in any order.
-/

namespace Tlss.Ftp

open Library Net

/-- What waits in the queue of the loop for the reading side of a connection. -/
inductive LoopFunctor
  | bufferedInput
  /-- The high water callback of the service, which is `stop_read`. -/
  | highWater
  /-- The write complete callback of the service, which is `start_read`. -/
  | writeComplete
deriving DecidableEq

structure ServerConnection where
  service : TransferConnection
  writer : WriteScheduler
  reading : Bool
  sendReadPaused : Bool := false
  diskReadPauses : Finset ℕ := ∅
  readPausedForShutdown : Bool := false
  readEofOnly : Bool := false
  bufferedInputPending : Bool := false
  functors : List LoopFunctor := []

/-- The callback that an effect of the write queue puts into the queue of the loop. -/
def loopFunctor : Effect → Option LoopFunctor
  | .highWater _ => some .highWater
  | .drained => some .writeComplete
  | _ => none

namespace ServerConnection

def kHighWaterMark : ℕ := 256 * 1024

/-- `connect_established` and the part of `on_connection` for a new connection. -/
def established : ServerConnection where
  service := .new
  writer := ((WriteScheduler.new.setHighWaterMark kHighWaterMark).enqueueMemory
    (ascii "Welcome to TLSS.\r\n")).enqueueMemory (ascii "Please enter login or signup:\r\ntlss>")
  reading := true

/-! ## The reading side -/

variable (server : ServerConnection)

def shouldRead : Bool :=
  if server.service.state = .disconnected then false
  else if server.readEofOnly then true
  else !server.readPausedForShutdown && !server.sendReadPaused && server.diskReadPauses = ∅

/-- Whether the channel of the connection is to report input. -/
def readWanted : Bool :=
  server.shouldRead && (server.readEofOnly || !server.bufferedInputPending)

def updateReadInterest : ServerConnection :=
  { server with reading := server.readWanted }

def scheduleBufferedInput : ServerConnection :=
  if server.bufferedInputPending || !server.shouldRead || server.readEofOnly ||
      server.readPausedForShutdown || server.service.buffer = [] then server
  else
    { server with
      bufferedInputPending := true
      functors := server.functors ++ [LoopFunctor.bufferedInput] }.updateReadInterest

def pauseReadForDisk (token : ℕ) : ServerConnection :=
  if server.service.state = .disconnected then server
  else { server with diskReadPauses := insert token server.diskReadPauses }.updateReadInterest

def resumeReadAfterDisk (token : ℕ) : ServerConnection :=
  { server with diskReadPauses := server.diskReadPauses.erase token
    }.scheduleBufferedInput.updateReadInterest

def stopRead : ServerConnection :=
  if server.service.state ≠ .connected ∨
      server.writer.pendingMemoryBytes < server.writer.highWaterMark then server
  else { server with sendReadPaused := true }.updateReadInterest

def startRead : ServerConnection :=
  if server.service.state ≠ .connected ∨ server.writer.pendingMemoryBytes ≠ 0 then server
  else { server with sendReadPaused := false }.scheduleBufferedInput.updateReadInterest

def pauseReadForShutdown : ServerConnection :=
  { server with readPausedForShutdown := true, readEofOnly := false }.updateReadInterest

def shutdownForServerStop : ServerConnection :=
  if server.service.state ≠ .connected then server
  else
    { server with
      service := { server.service.retrieveAll with state := .disconnecting }
      readPausedForShutdown := true
      readEofOnly := true }.updateReadInterest

def handleClose (server : ServerConnection) : ServerConnection :=
  if server.service.state = .disconnected then server
  else
    { server with
      service := server.service.handleClose
      writer := server.writer.cancelAll .ECANCELED
      reading := false }

/-! ## The callbacks of the service -/

def callback (action : TransferConnection.Action) (room : ℕ) : ServerConnection :=
  let service := server.service.step ⟨action, room⟩
  if service.state = .disconnected ∧ server.service.state ≠ .disconnected then
    { server with service, writer := server.writer.cancelAll .ECANCELED, reading := false }
  else { server with service }

/-- `submit` makes the receiver busy and pauses reading, so a callback has paused it if the
receiver was idle before. -/
def pauseIfSubmitted (before : TransferConnection) (index : ℕ) (server : ServerConnection) :
    ServerConnection :=
  if !before.receiverBusy index && server.service.receiverBusy index then
    server.pauseReadForDisk index
  else server

def diskAccepts (conn : TransferConnection) (choices : TransferConnection.Choices) :
    TransferConnection.Choices :=
  if conn.phase = .receivingUpload then { choices with accepted := fun _ => true } else choices

def onMessage (bytes : Bytes) (choices : TransferConnection.Choices)
    (room : ℕ) : ServerConnection :=
  let later := server.callback (.message bytes (diskAccepts server.service choices)) room
  match later.service.transfer with
  | none => later
  | some index => later.pauseIfSubmitted server.service index

/-- What becomes of the creation of a receiver: the executor takes its first task, unless it
refuses another receiver with an exception. -/
def creation : Option String → Except String Bool
  | none => .ok true
  | some error => .error error

/-- The callback with the answer of `prepare_upload`; `failure` is the exception with which
the executor refuses another receiver. -/
def onPrepared (index : ℕ) (answer : Except String Unit)
    (failure : Option String) (room : ℕ) : ServerConnection :=
  (server.callback (.prepared index answer (creation failure)) room).pauseIfSubmitted
    server.service index

/-- `on_result`, for the first result in the queue: at its end, and at the end of
`report_error`, it resumes reading, unless it has submitted the next task. -/
def onResult (index : ℕ) (room : ℕ) : ServerConnection :=
  match (server.service.tasks index).receiver with
  | none => server
  | some receiver =>
    if receiver.results = [] then server
    else
      let later := server.callback (.result index true) room
      if !server.service.alive index || receiver.terminal || receiver.diskCancelled ||
          server.service.state ≠ .connected then later
      else if later.service.receiverBusy index then later.pauseReadForDisk index
      else later.resumeReadAfterDisk index

/-! ## The events of the loop -/

/-- `handle_read`; no bytes are the end of the input. -/
def handleRead (bytes : Bytes) (choices : TransferConnection.Choices)
    (room : ℕ) : ServerConnection :=
  if !server.shouldRead || (server.bufferedInputPending && !server.readEofOnly) then server
  else if bytes = [] then server.handleClose
  else if server.readPausedForShutdown then
    { server with
      service := { server.service with
        buffer := server.service.buffer ++ bytes
        stream := server.service.stream ++ bytes }.retrieveAll }
  else server.onMessage bytes choices room

def handleBufferedInput (choices : TransferConnection.Choices) (room : ℕ) : ServerConnection :=
  let server := { server with bufferedInputPending := false }
  if server.shouldRead && !server.readEofOnly && !server.readPausedForShutdown &&
      server.service.buffer ≠ [] then
    (server.onMessage [] choices room).updateReadInterest
  else server.updateReadInterest

def runFunctor (functor : LoopFunctor)
    (choices : TransferConnection.Choices) (room : ℕ) : ServerConnection :=
  if functor ∉ server.functors then server
  else
    let server := { server with functors := server.functors.erase functor }
    match functor with
    | .bufferedInput => server.handleBufferedInput choices room
    | .highWater => server.stopRead
    | .writeComplete => server.startRead

/-- A call of the write queue. It stops only together with the connection: its failure is
reported to `fail_writes`, and `cancel_all` is called by `handle_close`. -/
def callWriter (event : WriteScheduler.Event) : ServerConnection :=
  let called :=
    { server with
      writer := server.writer.step event
      functors := server.functors ++ (server.writer.effects event).filterMap loopFunctor }
  if called.writer.stopped then called.handleClose else called

inductive Callback
  | say
  | authenticate
  | changeDirectory (directory : Option Bytes)
  | disk (index : ℕ) (step : AsyncReceiver.DiskStep)
  | opened (index : ℕ) (answer : Except String (ℕ × Bytes)) (prepared : Option String)
  | writeBody (index count : ℕ)
  | bodyEnds (index : ℕ) (error : Option String)

def Callback.action : Callback → TransferConnection.Action
  | .say => .say
  | .authenticate => .authenticate
  | .changeDirectory directory => .changeDirectory directory
  | .disk index step => .disk index step
  | .opened index answer prepared => .opened index answer prepared
  | .writeBody index count => .writeBody index count
  | .bodyEnds index error => .bodyEnds index error

/-- What happens next; `room` is how many replies the write queue takes meanwhile. -/
inductive Event
  | readable (bytes : Bytes) (choices : TransferConnection.Choices) (room : ℕ)
  /-- The connection is closed, by the peer, by an error or by a queued `force_close`. -/
  | close
  | functor (functor : LoopFunctor) (choices : TransferConnection.Choices) (room : ℕ)
  | prepared (index : ℕ) (answer : Except String Unit) (failure : Option String) (room : ℕ)
  | result (index : ℕ) (room : ℕ)
  | callback (callback : Callback) (room : ℕ)
  | send (data : Bytes)
  | sendFile (request : FileRequest)
  | writable (results : List WriteScheduler.SendResult) (reader : WriteScheduler.ReaderRun)
  | fileRead (sequence : ℕ) (error : Option Errno) (data : Bytes)
  | pauseReadForShutdown
  | shutdownForServerStop

def step : Event → ServerConnection
  | .readable bytes choices room => server.handleRead bytes choices room
  | .close => server.handleClose
  | .functor functor choices room => server.runFunctor functor choices room
  | .prepared index answer failure room => server.onPrepared index answer failure room
  | .result index room => server.onResult index room
  | .callback callback room => server.callback callback.action room
  | .send data =>
    if server.service.state = .connected then server.callWriter (.enqueueMemory data) else server
  | .sendFile request =>
    server.callWriter (.enqueueFile request (server.service.state = .connected))
  | .writable results reader =>
    if server.service.state ≠ .disconnected then server.callWriter (.onWritable results reader)
    else server
  | .fileRead sequence error data => server.callWriter (.onFileRead sequence error data)
  | .pauseReadForShutdown => server.pauseReadForShutdown
  | .shutdownForServerStop => server.shutdownForServerStop

end ServerConnection

end Tlss.Ftp
