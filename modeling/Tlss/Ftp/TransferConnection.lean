import Tlss.Ftp.AsyncReceiver
import Tlss.Ftp.CommandLine

/-!
# Transfers on a connection

One connection of a running storage service: its input buffer and `on_message`, the
session, and the uploads and downloads that were started on it. A callback of the event
loop is one event, and so is every step of a disk worker.

What the callbacks do not decide comes with the event: the bytes that arrive, whether an
executor takes a task, whether a disk operation fails, and how many more replies the write
queue takes before it is full. A reply that does not
fit closes the connection at once, in the middle of the callback. `force_close` only queues
the close; it is noted in `closing`.

Reading may be paused for the disk or for a slow client; here the message callback may come
at any time. The observer keeps the bytes that have arrived, the position up to which they
have left the buffer, the lines that were handled, and what was sent from the acceptance
of a transfer to the next line that asks for one.
-/

namespace Tlss.Ftp

open Library

inductive TransferPhase
  | idle
  | preparingUpload
  | receivingUpload
  | finalizingUpload
  | preparingDownload
  | sendingDownload
  | waitingDownloadAck
deriving DecidableEq

inductive Frame
  | authOk
  | uready
  | uok (hash : Bytes)
  | data (size : ℕ) (hash : Bytes)
  | done
  | ok
  | error (message : String)
deriving DecidableEq

/-- What is put into the write queue: text, a control frame, or a file body of a size. -/
inductive Sent
  | text
  | frame (frame : Frame)
  | body (size : ℕ)
deriving DecidableEq

inductive TransferKind
  | upload
  | download
deriving DecidableEq

/-- A transfer task. `awaiting` says that the answer of `prepare_upload`, or of opening the
file, is still to come; `sending` that the callback of the file body is. `start` is the
length of the stream when `UREADY` was sent, `doneAt` when `DONE` was, and `failed` says
that a failure was reported which closes the connection. -/
structure Task where
  kind : TransferKind
  generation : ℕ
  directory : Bytes
  name : Bytes
  phase : TransferPhase
  size : ℕ
  cancelled : Bool := false
  awaiting : Bool := false
  receiver : Option AsyncReceiver := none
  sending : Bool := false
  sentBytes : ℕ := 0
  start : Option ℕ := none
  doneAt : Option ℕ := none
  failed : Bool := false

/-- `TcpConnection::StateE`, from the established connection on. -/
inductive ConnectionState
  | connected
  | disconnecting
  | disconnected
deriving DecidableEq

/-- A line that was handled: the positions of its first byte and of the byte behind its
newline, and what it says. -/
structure HandledLine where
  start : ℕ
  stop : ℕ
  text : Bytes
deriving DecidableEq

/-- What was sent since a transfer was accepted, up to the next line that asks for one. -/
structure Window where
  task : ℕ
  sent : List Sent

/-- The connection, its session and its tasks. The session is in the table of the service
until the connection is down. -/
structure TransferConnection where
  state : ConnectionState := .connected
  authenticated : Bool := false
  directory : Bytes := ascii "/"
  directoryPending : Bool := false
  generation : ℕ := 0
  transfer : Option ℕ := none
  tasks : ℕ → Task
  count : ℕ := 0
  buffer : Bytes := []
  closing : Bool := false
  room : ℕ := 0
  stream : Bytes := []
  position : ℕ := 0
  lines : List HandledLine := []
  window : Option Window := none
  past : List Window := []

inductive TransferEvent
  | uploadReady
  | uploadComplete (hash : Bytes)
  | downloadReady (size : ℕ) (hash : Bytes)
  | downloadSent
  | downloadComplete
  | failed (message : String) (closeConnection : Bool)

namespace TransferConnection

/-! ## The connection -/

variable (conn : TransferConnection)

def onTask (index : ℕ) (change : Task → Task) : TransferConnection :=
  { conn with tasks := Function.update conn.tasks index (change (conn.tasks index)) }

def cancelTask (index : ℕ) : TransferConnection :=
  conn.onTask index fun task =>
    { task with cancelled := true, receiver := task.receiver.map AsyncReceiver.cancel }

/-- `session->transfer.reset()`: the task is destroyed, which cancels it. -/
def resetTransfer : TransferConnection :=
  match conn.transfer with
  | none => conn
  | some index => { conn.cancelTask index with transfer := none }

/-- `handle_close`: the session leaves the table with its transfer. -/
def handleClose : TransferConnection :=
  if conn.state = .disconnected then conn
  else { conn.resetTransfer with state := .disconnected }

def forceClose : TransferConnection := { conn with closing := true }

def enqueue (item : Sent) : TransferConnection :=
  { conn with
    room := conn.room - 1
    window := conn.window.map fun window => { window with sent := window.sent ++ [item] } }

/-- `send`: what does not fit into the write queue closes the connection. -/
def send (item : Sent) : TransferConnection :=
  if conn.state ≠ .connected then conn
  else if conn.room = 0 then conn.handleClose
  else conn.enqueue item

def sendTexts (conn : TransferConnection) : ℕ → TransferConnection
  | 0 => conn
  | count + 1 => (conn.send .text).sendTexts count

def sendControl (frame : Frame) : TransferConnection :=
  conn.send (.frame frame)

def receiverBusy (index : ℕ) : Bool := (conn.tasks index).receiver.any (·.busy)

def retrieve (count : ℕ) : TransferConnection :=
  { conn with buffer := conn.buffer.drop count, position := conn.position + count }

def retrieveAll : TransferConnection :=
  conn.retrieve conn.buffer.length

/-! ## The session and its transfer -/

/-- `TransferTask::current_connection` and the check of `TransferContext::current`. -/
def isCurrent (index : ℕ) : Bool :=
  !(conn.tasks index).cancelled && conn.state = .connected &&
    conn.generation = (conn.tasks index).generation && conn.authenticated &&
    conn.directory = (conn.tasks index).directory

def transferFailed (error : String) : TransferConnection :=
  ({ conn.resetTransfer with generation := conn.generation + 1 }.sendControl (.error error)).send
    .text

def emit (index : ℕ) (event : TransferEvent) : TransferConnection :=
  if !conn.isCurrent index then conn
  else
    match event with
    | .failed _ true => (conn.onTask index fun task => { task with failed := true }).forceClose
    | .uploadReady => conn.sendControl .uready
    | .uploadComplete hash => (conn.resetTransfer.sendControl (.uok hash)).send .text
    | .downloadReady size hash => conn.sendControl (.data size hash)
    | .downloadSent => conn.sendControl .done
    | .downloadComplete => (conn.resetTransfer.sendControl .ok).send .text
    | .failed error false => conn.transferFailed error

/-- The session still owns the task, so a weak reference to it can be locked. -/
def alive (index : ℕ) : Bool := conn.transfer = some index

def setPhase (index : ℕ) (phase : TransferPhase) : TransferConnection :=
  conn.onTask index fun task => { task with phase }

def setReceiver (index : ℕ) (receiver : AsyncReceiver) : TransferConnection :=
  conn.onTask index fun task => { task with receiver := some receiver }

/-! ### Uploads -/

def uploadFailed (index : ℕ) (error : String) : TransferConnection :=
  if !conn.isCurrent index then conn
  else conn.emit index (.failed error ((conn.tasks index).phase = .receivingUpload))

/-- `UploadTask::start`; `accepted` is what the thread pool says. -/
def startUpload (index : ℕ) (accepted : Bool) : TransferConnection :=
  if !conn.isCurrent index then conn
  else if accepted then conn.onTask index fun task => { task with awaiting := true }
  else conn.uploadFailed index "server is busy"

/-- `UploadTask::on_prepared`, in the callback that the worker queued. `created` is the
exception of `AsyncReceiver::create`, or whether its executor takes the first task. -/
def onPrepared (index : ℕ) (answer : Except String Unit)
    (created : Except String Bool) : TransferConnection :=
  if !(conn.tasks index).awaiting || (conn.tasks index).kind ≠ .upload then conn
  else
    let conn := conn.onTask index fun task => { task with awaiting := false }
    if !conn.alive index || !conn.isCurrent index ||
        (conn.tasks index).phase ≠ .preparingUpload then conn
    else
      match answer with
      | .error error => conn.uploadFailed index error
      | .ok () =>
        match created with
        | .error error => conn.uploadFailed index error
        | .ok accepted =>
          match AsyncReceiver.create (conn.tasks index).size accepted with
          | none => conn.uploadFailed index "disk executor is stopping or unavailable"
          | some receiver => conn.setReceiver index receiver

/-- `AsyncReceiver::finish` of the receiver of a task; `false` is an exception. -/
def finishReceiver (index : ℕ) (accepted : Bool) : Bool × TransferConnection :=
  match (conn.tasks index).receiver with
  | none => (false, conn)
  | some receiver =>
    let (finished, receiver) := receiver.finish accepted
    (finished, conn.setReceiver index receiver)

/-- `UploadTask::on_ready`; `false` is an exception. -/
def onReady (index : ℕ) (accepted : Bool) : Bool × TransferConnection :=
  if !conn.isCurrent index || (conn.tasks index).phase ≠ .preparingUpload then (true, conn)
  else
    let conn := conn.onTask index fun task =>
      { task with phase := .receivingUpload, start := some conn.stream.length }
    let conn := conn.emit index .uploadReady
    if (conn.tasks index).size = 0 && !(conn.tasks index).cancelled then
      (conn.setPhase index .finalizingUpload).finishReceiver index accepted
    else (true, conn)

/-- `UploadTask::consume`; `false` is an exception. -/
def consume (index : ℕ) (accepted : Bool) : Bool × TransferConnection :=
  match (conn.tasks index).receiver with
  | none => (false, conn)
  | some receiver =>
    if (conn.tasks index).phase ≠ .receivingUpload || (conn.tasks index).cancelled then
      (false, conn)
    else
      match receiver.feed conn.buffer accepted with
      | (none, receiver) => (false, conn.setReceiver index receiver)
      | (some count, receiver) =>
        let conn := (conn.setReceiver index receiver).retrieve count
        if receiver.remaining = 0 then
          (conn.setPhase index .finalizingUpload).finishReceiver index accepted
        else (true, conn)

def onDone (index : ℕ) (hash : Bytes) : TransferConnection :=
  if !conn.isCurrent index || (conn.tasks index).phase ≠ .finalizingUpload then conn
  else (conn.setPhase index .idle).emit index (.uploadComplete hash)

def reportError (index : ℕ) (receiver : AsyncReceiver) (error : String) : TransferConnection :=
  (conn.setReceiver index receiver.abandon).uploadFailed index error

/-- The rest of `AsyncReceiver::on_result` after the operation succeeded: `finish` may have
been asked for while the last block was written. -/
def continueReceiver (index : ℕ) (accepted : Bool) : TransferConnection :=
  match (conn.tasks index).receiver with
  | none => conn
  | some receiver =>
    if receiver.finishRequested && !receiver.busy && !receiver.terminal then
      match receiver.submit .finish [] accepted with
      | (true, receiver) => conn.setReceiver index receiver
      | (false, receiver) =>
        conn.reportError index receiver "disk executor is stopping or unavailable"
    else conn

/-- `AsyncReceiver::on_result`, for the first result in the queue. -/
def onResult (index : ℕ) (accepted : Bool) : TransferConnection :=
  match (conn.tasks index).receiver with
  | none => conn
  | some receiver =>
    match receiver.results with
    | [] => conn
    | result :: results =>
      let receiver := { receiver with results }
      let conn := conn.setReceiver index receiver
      if !conn.alive index || receiver.terminal || receiver.diskCancelled then conn
      else if conn.state ≠ .connected then conn.setReceiver index receiver.cancel
      else
        let receiver := { receiver with busy := false }
        let conn := conn.setReceiver index receiver
        match result.outcome, result.operation with
        | .error error, _ => conn.reportError index receiver error
        | .ok hash, .finish =>
          (conn.setReceiver index { receiver with terminal := true }).onDone index hash
        | .ok _, .write => conn.continueReceiver index accepted
        | .ok _, .prepare =>
          match conn.onReady index accepted with
          | (true, conn) => conn.continueReceiver index accepted
          | (false, conn) =>
            match (conn.tasks index).receiver with
            | none => conn
            | some receiver =>
              conn.reportError index receiver "disk executor is stopping or unavailable"

/-! ### Downloads -/

def downloadFailed (index : ℕ) (error : String) : TransferConnection :=
  conn.emit index (.failed error ((conn.tasks index).phase ≠ .preparingDownload))

/-- `DownloadTask::start`; `opened` is the exception of `AsyncFileSource::open`, if it
throws. -/
def startDownload (index : ℕ) (opened : Option String) : TransferConnection :=
  if !conn.isCurrent index then conn
  else
    match opened with
    | none => conn.onTask index fun task => { task with awaiting := true }
    | some error => conn.downloadFailed index error

/-- `send_file_async`: the body is queued behind what was sent before. On a connection that
is not up its callback comes at once and finds the task cancelled. -/
def sendBody (index size : ℕ) : TransferConnection :=
  if conn.state ≠ .connected then conn
  else (conn.onTask index fun task => { task with sending := true }).send (.body size)

/-- `AsyncFileSource::on_opened` and `DownloadTask::on_ready`, in the callback that the
worker queued. `prepared` is the exception of `send_file_async`, if it throws. -/
def onOpened (index : ℕ) (answer : Except String (ℕ × Bytes))
    (prepared : Option String) : TransferConnection :=
  if !(conn.tasks index).awaiting || (conn.tasks index).kind ≠ .download then conn
  else
    let conn := conn.onTask index fun task => { task with awaiting := false }
    if !conn.alive index || (conn.tasks index).cancelled || conn.state ≠ .connected then conn
    else
      match answer with
      | .error error => conn.downloadFailed index error
      | .ok (size, hash) =>
        if !conn.isCurrent index || (conn.tasks index).phase ≠ .preparingDownload then conn
        else
          let conn := conn.onTask index fun task =>
            { task with phase := .sendingDownload, size }
          let conn := conn.emit index (.downloadReady size hash)
          match prepared with
          | none => conn.sendBody index size
          | some error => conn.downloadFailed index error

/-- `DownloadTask::on_sent`, in the callback of the write queue. -/
def onSent (index : ℕ) (error : Option String) : TransferConnection :=
  if !conn.alive index || !conn.isCurrent index then conn
  else
    match error with
    | some error => conn.emit index (.failed error true)
    | none =>
      let conn := conn.onTask index fun task =>
        { task with phase := .waitingDownloadAck, doneAt := some conn.stream.length }
      conn.emit index .downloadSent

def acknowledge (index : ℕ) : Bool × TransferConnection :=
  if !conn.isCurrent index then (true, conn)
  else if (conn.tasks index).phase ≠ .waitingDownloadAck then (false, conn)
  else (true, (conn.setPhase index .idle).emit index .downloadComplete)

/-! ## Lines -/

/-- What the environment decides during one `on_message`, by the position of the line or
block: what the executors answer, and how many replies a line of the login has. -/
structure Choices where
  accepted : ℕ → Bool
  opened : ℕ → Option String
  replies : ℕ → ℕ

def createTask (kind : TransferKind) (phase : TransferPhase)
    (name : Bytes) (size : ℕ) : TransferConnection :=
  let generation := conn.generation + 1
  { conn with
    generation
    tasks := Function.update conn.tasks conn.count
      { kind, generation, directory := conn.directory, name, phase, size }
    transfer := some conn.count
    count := conn.count + 1
    window := some ⟨conn.count, []⟩ }

/-- The checks with which `handle_upload` and `handle_download` begin. -/
def whenReady (proceed : TransferConnection) : TransferConnection :=
  if !conn.authenticated then conn.transferFailed "login required"
  else if conn.transfer.isSome then conn.forceClose
  else if conn.directoryPending then conn.transferFailed "session is busy"
  else proceed

def handleUpload (args : Bytes) (accepted : Bool) : TransferConnection :=
  conn.whenReady <|
    match parseUploadRequest args with
    | .error error => conn.transferFailed error
    | .ok request =>
      (conn.createTask .upload .preparingUpload request.name request.size).startUpload
        conn.count accepted

def handleDownload (args : Bytes) (opened : Option String) : TransferConnection :=
  conn.whenReady <|
    match parseName args with
    | .error error => conn.transferFailed error
    | .ok name =>
      (conn.createTask .download .preparingDownload name 0).startDownload conn.count opened

/-- A line asks for a transfer: what is sent from now on does not belong to the one before. -/
def endWindow : TransferConnection :=
  { conn with window := none, past := conn.past ++ conn.window.toList }

/-- The phase of the transfer, as `on_message` sees it. -/
def phase (conn : TransferConnection) : TransferPhase :=
  match conn.transfer with
  | none => .idle
  | some index => (conn.tasks index).phase

/-- `handle_transfer_control`; `false` is an exception. -/
def handleTransferControl (line : Bytes) (choices : Choices)
    (start : ℕ) : Bool × TransferConnection :=
  let (verb, rest) := readWord line
  match conn.transfer with
  | some index =>
    if (conn.tasks index).phase = .waitingDownloadAck then
      match requireEnd rest with
      | .error _ => (false, conn)
      | .ok () => if verb ≠ ascii "ACK" then (true, conn.forceClose) else conn.acknowledge index
    else (true, conn.forceClose)
  | none =>
    let conn := conn.endWindow
    let args := skipSpace rest
    if verb = ascii "UPLOAD" then (true, conn.handleUpload args (choices.accepted start))
    else if verb = ascii "DOWNLOAD" then (true, conn.handleDownload args (choices.opened start))
    else (true, conn.transferFailed "unknown transfer command")

def handleCd (accepted : Bool) : TransferConnection :=
  if accepted then { conn with directoryPending := true } else conn.send .text

/-- `dispatch_task`, with the prompt that `on_message` adds where it returns `false`. The
lines of a session that is not authenticated go to the login. -/
def dispatchTask (line : Bytes) (choices : Choices) (start : ℕ) : TransferConnection :=
  if !conn.authenticated then conn.sendTexts (choices.replies start)
  else if conn.directoryPending || line = [] then conn.send .text
  else if line = ascii "q" || line = ascii "quit" then
    let conn := conn.send .text
    if conn.state = .connected then { conn with state := .disconnecting } else conn
  else if line = ascii "help" || line = ascii "h" then conn.send .text
  else
    let (command, args) := splitCommand line
    match stringToCommand command with
    | .cd => if args = [] then conn.sendTexts 2 else conn.handleCd (choices.accepted start)
    | .ls | .mkdir => if choices.accepted start then conn else conn.send .text
    | .pwd => conn.send .text
    | .download => conn.endWindow.handleDownload args (choices.opened start)
    | .upload => conn.endWindow.handleUpload args (choices.accepted start)
    | .login | .signup | .unknown => conn.sendTexts 2

def takeLine (raw : Bytes) : TransferConnection :=
  { conn.retrieve (raw.length + 1) with
    lines := conn.lines ++ [⟨conn.position, conn.position + (raw.length + 1), withoutReturn raw⟩] }

def dropInput : TransferConnection := conn.retrieveAll.forceClose

/-- The part of `on_message` that handles a line; `false` ends the loop. -/
def handleLine (raw : Bytes) (choices : Choices) : Bool × TransferConnection :=
  let line := withoutReturn raw
  if line.length > maxControlBytes then (false, conn.dropInput)
  else if conn.authenticated && ascii "@TLSS " <+: line then
    match (conn.takeLine raw).handleTransferControl (line.drop 6) choices conn.position with
    | (true, conn) => (true, conn)
    | (false, conn) => (false, conn.dropInput)
  else if conn.transfer.isSome then (false, (conn.retrieve (raw.length + 1)).dropInput)
  else (true, (conn.takeLine raw).dispatchTask line choices conn.position)

/-- The loop of `on_message`. Every further turn has taken a line from the buffer, so its
length bounds their number. -/
def messageLoop (choices : Choices) : ℕ → TransferConnection → TransferConnection
  | 0, conn => conn
  | fuel + 1, conn =>
    if conn.state ≠ .connected ∨ conn.buffer = [] then conn
    else
      match conn.transfer, conn.phase with
      | some index, .receivingUpload =>
        let (consumed, conn) := conn.consume index (choices.accepted conn.position)
        if consumed then conn else conn.dropInput
      | _, .finalizingUpload => conn
      | _, .idle | _, .waitingDownloadAck =>
        match splitAtFirst 10 conn.buffer with
        | none => if conn.buffer.length > maxControlBytes + 1 then conn.dropInput else conn
        | some (raw, _) =>
          let (more, conn) := conn.handleLine raw choices
          if more then messageLoop choices fuel conn else conn
      | _, _ => conn.dropInput

def onMessage (bytes : Bytes) (choices : Choices) : TransferConnection :=
  if conn.state = .disconnected then conn
  else
    let buffer := conn.buffer ++ bytes
    messageLoop choices buffer.length { conn with buffer, stream := conn.stream ++ bytes }

/-! ## Events -/

inductive Action
  | message (bytes : Bytes) (choices : Choices)
  /-- The connection is closed, by the peer, by an error or by a queued `force_close`. -/
  | close
  | say
  /-- `finish_authentication`, with success. -/
  | authenticate
  /-- The callback of a `cd`, with the new directory. -/
  | changeDirectory (directory : Option Bytes)
  | prepared (index : ℕ) (answer : Except String Unit) (created : Except String Bool)
  | disk (index : ℕ) (step : AsyncReceiver.DiskStep)
  | result (index : ℕ) (accepted : Bool)
  | opened (index : ℕ) (answer : Except String (ℕ × Bytes)) (prepared : Option String)
  | writeBody (index count : ℕ)
  /-- The write queue is done with a body, which it has sent unless there was an error. -/
  | bodyEnds (index : ℕ) (error : Option String)

def act : Action → TransferConnection
  | .message bytes choices => conn.onMessage bytes choices
  | .close => conn.handleClose
  | .say => conn.send .text
  | .authenticate =>
    if conn.authenticated || conn.state ≠ .connected then conn
    else
      ({ conn with
          authenticated := true
          directory := ascii "/"
          directoryPending := false }.sendControl .authOk).send .text
  | .changeDirectory directory =>
    if !conn.directoryPending || conn.state ≠ .connected then conn
    else
      let conn := { conn with directoryPending := false }
      match directory with
      | some directory => { conn with directory }.send .text
      | none => conn.sendTexts 2
  | .prepared index answer created => conn.onPrepared index answer created
  | .disk index step =>
    conn.onTask index fun task =>
      { task with receiver := task.receiver.map (·.diskStep step) }
  | .result index accepted => conn.onResult index accepted
  | .opened index answer prepared => conn.onOpened index answer prepared
  | .writeBody index count =>
    if (conn.tasks index).sending then
      conn.onTask index fun task =>
        { task with sentBytes := min task.size (task.sentBytes + count) }
    else conn
  | .bodyEnds index error =>
    if !(conn.tasks index).sending ||
        (error.isNone && (conn.tasks index).sentBytes ≠ (conn.tasks index).size) then conn
    else (conn.onTask index fun task => { task with sending := false }).onSent index error

/-- An action, and how many replies the write queue takes while it lasts. -/
structure Event where
  action : Action
  room : ℕ

def step (event : Event) : TransferConnection :=
  { conn with room := event.room }.act event.action

def new : TransferConnection where
  tasks _ :=
    { kind := .upload, generation := 0, directory := [], name := [], phase := .idle, size := 0
      cancelled := true }

end TransferConnection

end Tlss.Ftp
