import Tlss.Library.BigEndian
import Tlss.Library.Run

/-!
# The write queue of a connection

`WriteScheduler` is the queue of what a connection has still to write. A task is a
string in memory, a file range the kernel copies to the socket (`sendfile`), or a
file range that is read in chunks by somebody else and then sent. `on_writable`
sends from the front of the queue as long as the socket takes bytes and its budget
lasts; a task whose next chunk is being read keeps the tasks behind it waiting.

The socket, the file system and the owner of the scheduler are the environment.
What they decide comes with the events: what each `send` or `sendfile` returns, what
the reader does when it is asked for a chunk, and when a chunk arrives. The reader
runs inside `on_writable` and may use the scheduler. What the scheduler does to
its environment is written down in a trace.
-/

namespace Tlss.Net

open Library

inductive Errno where
  | EINTR
  | EAGAIN
  | EWOULDBLOCK
  | EIO
  | EINVAL
  | ENOBUFS
  | ENOTCONN
  | EOVERFLOW
  | ECANCELED
  | other (code : ℕ)
deriving DecidableEq, Repr

def kMaxPendingBytes : ℕ := 1024 * 1024
def kMaxPendingTasks : ℕ := 1024
def kMaxPendingFiles : ℕ := 64
def kWriteBudget : ℕ := 1024 * 1024
def kWriteSteps : ℕ := 64
def kAsyncFileChunk : ℕ := 64 * 1024

def offMax : ℤ := 2 ^ 63 - 1

/-- The greatest `std::uint64_t`. -/
def uint64Max : ℕ := 2 ^ 64 - 1

/-- Subtraction of 64-bit unsigned numbers, which wraps around. -/
def wrapSub (left right : ℕ) : ℕ :=
  if right ≤ left then left - right else left + 2 ^ 64 - right

/-! ## Tasks -/

abbrev FileContents := ℤ → UInt8

def fileBytes (file : FileContents) (offset : ℤ) (count : ℕ) : Bytes :=
  (List.range count).map fun i : ℕ => file (offset + i)

structure MemoryWrite where
  data : Bytes
  offset : ℕ

/-- `FileProgress`, with the file and the number of the `enqueue_file` call the task
came with. `callback` tells whether there is one. -/
structure FileProgress where
  offset : ℤ
  remaining : ℕ
  sent : ℕ
  callback : Bool
  number : ℕ
  file : FileContents

/-- The members `AsyncReaderWrite` adds. -/
structure ReadProgress where
  data : Bytes
  dataOffset : ℕ
  readPending : Bool
  readSequence : ℕ
  readSize : ℕ
  reservation : ℕ

inductive WriteTask where
  | memory (write : MemoryWrite)
  | sendFile (progress : FileProgress)
  | asyncReader (progress : FileProgress) (read : ReadProgress)

def FileProgress.advance (progress : FileProgress) (written : ℕ) : FileProgress :=
  { progress with
    offset := progress.offset + written
    remaining := wrapSub progress.remaining written
    sent := progress.sent + written }

def ReadProgress.advance (read : ReadProgress) (written : ℕ) : ReadProgress :=
  if read.dataOffset + written = read.data.length then { read with data := [], dataOffset := 0 }
  else { read with dataOffset := read.dataOffset + written }

namespace WriteTask

def fileProgress : WriteTask → Option FileProgress
  | .memory _ => none
  | .sendFile progress => some progress
  | .asyncReader progress _ => some progress

/-- The bytes a `send` or a `sendfile` may take from the task. -/
def available : WriteTask → Bytes
  | .memory write => write.data.drop write.offset
  | .sendFile progress => fileBytes progress.file progress.offset progress.remaining
  | .asyncReader _ read => read.data.drop read.dataOffset

def needsRead : WriteTask → Option (FileProgress × ReadProgress)
  | .asyncReader progress read => if read.data = [] then some (progress, read) else none
  | _ => none

def advance (task : WriteTask) (written : ℕ) : WriteTask :=
  match task with
  | .memory write => .memory { write with offset := write.offset + written }
  | .sendFile progress => .sendFile (progress.advance written)
  | .asyncReader progress read => .asyncReader (progress.advance written) (read.advance written)

def completed : WriteTask → Bool
  | .memory write => write.offset = write.data.length
  | .sendFile progress => progress.remaining = 0
  | .asyncReader progress _ => progress.remaining = 0

/-- What the task is charged: a string its whole size, a read the chunk it reserves. -/
def charge : WriteTask → ℕ
  | .memory write => write.data.length
  | .sendFile _ => 0
  | .asyncReader _ read => read.reservation

def readPending : WriteTask → Bool
  | .asyncReader _ read => read.readPending
  | _ => false

end WriteTask

/-! ## Preparation -/

/-- What `fcntl` and `fstat` say of the file. -/
structure FileStat where
  regular : Bool
  size : ℤ

/-- The arguments of `send_file` and `send_file_async`, with what the system calls of
the preparation return. -/
inductive FileRequest where
  | sendFile (opened : Except Errno FileStat) (file : FileContents) (offset : ℤ) (count : ℕ)
      (callback : Bool)
  | asyncReader (hasReader : Bool) (file : FileContents) (offset : ℤ) (count : ℕ) (callback : Bool)

namespace FileRequest

def count : FileRequest → ℕ
  | .sendFile _ _ _ count _ | .asyncReader _ _ _ count _ => count

def callback : FileRequest → Bool
  | .sendFile _ _ _ _ callback | .asyncReader _ _ _ _ callback => callback

def contents : FileRequest → Bytes
  | .sendFile _ file offset count _ | .asyncReader _ file offset count _ =>
    fileBytes file offset count

def task (request : FileRequest) (number : ℕ) : WriteTask :=
  match request with
  | .sendFile _ file offset count callback => .sendFile ⟨offset, count, 0, callback, number, file⟩
  | .asyncReader _ file offset count callback =>
    .asyncReader ⟨offset, count, 0, callback, number, file⟩
      ⟨[], 0, false, 0, 0, min count kAsyncFileChunk⟩

/-- The error `prepare_file` and `prepare_async` find. -/
def error : FileRequest → Option Errno
  | .sendFile opened _ offset count _ =>
    if offset < 0 then some .EINVAL
    else
      match opened with
      | .error error => some error
      | .ok stat =>
        if !stat.regular || stat.size < 0 || offset > stat.size || count > stat.size - offset
        then some .EINVAL else none
  | .asyncReader hasReader _ offset count _ =>
    if offset < 0 || !hasReader then some .EINVAL
    else if count > offMax - offset then some .EOVERFLOW
    else none

end FileRequest

/-! ## The scheduler and its trace -/

inductive Effect where
  | accepted (contents : Bytes)
  | sent (number : Option ℕ) (bytes : Bytes)
  | completed (number : ℕ)
  | posted (number : ℕ) (error : Option Errno) (sent : ℕ)
  | writeInterest (enabled : Bool)
  | highWater (bytes : ℕ)
  | drained
  | failed (error : Errno)
deriving DecidableEq, Repr

/-- `WriteScheduler`. An observer counts the `enqueue_file` calls and keeps the trace. -/
structure WriteScheduler where
  writeEnabled : Bool
  stopped : Bool
  writes : List WriteTask
  pendingMemoryBytes : ℕ
  pendingFiles : ℕ
  highWaterMark : ℕ
  nextReadSequence : ℕ
  requests : List FileRequest
  trace : List Effect

namespace WriteScheduler

def new : WriteScheduler := ⟨false, false, [], 0, 0, 512 * 1024, 0, [], []⟩

variable (scheduler : WriteScheduler)

def emit (effect : Effect) : WriteScheduler :=
  { scheduler with trace := scheduler.trace ++ [effect] }

def setWriteInterest (enabled : Bool) : WriteScheduler :=
  if scheduler.writeEnabled = enabled then scheduler
  else { scheduler with writeEnabled := enabled }.emit (.writeInterest enabled)

def enableWriteEvent : WriteScheduler :=
  if scheduler.stopped then scheduler
  else
    match scheduler.writes with
    | [] => scheduler
    | task :: _ => if task.readPending then scheduler else scheduler.setWriteInterest true

def checkHighWater (previous : ℕ) : WriteScheduler :=
  if previous < scheduler.highWaterMark ∧ scheduler.pendingMemoryBytes ≥ scheduler.highWaterMark
  then scheduler.emit (.highWater scheduler.pendingMemoryBytes)
  else scheduler

def notifyFile (task : WriteTask) (error : Option Errno) : WriteScheduler :=
  match task.fileProgress with
  | none => scheduler
  | some progress =>
    if progress.callback then scheduler.emit (.posted progress.number error progress.sent)
    else scheduler

def cancelAll (error : Errno) : WriteScheduler :=
  let quiet := { scheduler with stopped := true }.setWriteInterest false
  quiet.writes.foldl (fun scheduler task => scheduler.notifyFile task (some error))
    { quiet with writes := [], pendingMemoryBytes := 0, pendingFiles := 0 }

def fail (error : Errno) : WriteScheduler :=
  if scheduler.stopped then scheduler else (scheduler.cancelAll error).emit (.failed error)

/-- Put a task into the queue: the end of `enqueue_memory` and `enqueue_file`. -/
def push (task : WriteTask) (contents : Bytes) : WriteScheduler :=
  let previous := scheduler.pendingMemoryBytes
  let pushed :=
    { scheduler with
      writes := scheduler.writes ++ [task]
      pendingFiles := scheduler.pendingFiles + if task.fileProgress.isSome then 1 else 0
      pendingMemoryBytes := scheduler.pendingMemoryBytes + task.charge }
  ((pushed.emit (.accepted contents)).enableWriteEvent).checkHighWater previous

def enqueueMemory (data : Bytes) : WriteScheduler :=
  if scheduler.stopped ∨ data = [] then scheduler
  else if scheduler.writes.length ≥ kMaxPendingTasks ∨
      data.length > wrapSub kMaxPendingBytes scheduler.pendingMemoryBytes then
    scheduler.fail .ENOBUFS
  else scheduler.push (.memory ⟨data, 0⟩) data

/-- The error with which `enqueue_file` refuses a task, if it does. -/
def admissionError (request : FileRequest) : Option Errno :=
  match request.error with
  | some error => some error
  | none =>
    if scheduler.writes.length ≥ kMaxPendingTasks ∨ scheduler.pendingFiles ≥ kMaxPendingFiles ∨
        (request.task 0).charge > wrapSub kMaxPendingBytes scheduler.pendingMemoryBytes
    then some .ENOBUFS else none

def enqueueFile (request : FileRequest) (accepting : Bool) : WriteScheduler :=
  let task := request.task scheduler.requests.length
  let counted := { scheduler with requests := scheduler.requests ++ [request] }
  if scheduler.stopped ∨ !accepting then counted.notifyFile task (some .ENOTCONN)
  else
    match scheduler.admissionError request with
    | some error => (counted.notifyFile task (some error)).fail error
    | none => counted.push task request.contents

def completeFront : WriteScheduler :=
  match scheduler.writes with
  | [] => scheduler
  | task :: rest =>
    let popped :=
      { scheduler with
        writes := rest
        pendingMemoryBytes := wrapSub scheduler.pendingMemoryBytes task.charge
        pendingFiles :=
          wrapSub scheduler.pendingFiles (if task.fileProgress.isSome then 1 else 0) }
    match task.fileProgress with
    | none => popped
    | some progress => (popped.emit (.completed progress.number)).notifyFile task none

/-! ## Reads -/

/-- A use of the scheduler from inside the reader; the completion of a read is always
queued to the loop and is not among them. -/
inductive ReaderCall where
  | enqueueMemory (data : Bytes)
  | enqueueFile (request : FileRequest) (accepting : Bool)
  | cancelAll (error : Errno)

inductive ReaderEnd where
  | returns
  /-- It throws a `std::system_error`, with the error number of its code if that is
  not zero. -/
  | throwsSystemError (code : Option Errno)
  | throwsOther

structure ReaderRun where
  calls : List ReaderCall
  ending : ReaderEnd

def readerCall : ReaderCall → WriteScheduler
  | .enqueueMemory data => scheduler.enqueueMemory data
  | .enqueueFile request accepting => scheduler.enqueueFile request accepting
  | .cancelAll error => scheduler.cancelAll error

def callReader (reader : ReaderRun) : WriteScheduler :=
  let used := reader.calls.foldl readerCall scheduler
  match reader.ending with
  | .returns => used
  | .throwsSystemError code => used.fail (code.getD Errno.EIO)
  | .throwsOther => used.fail Errno.EIO

/-- The first part of `request_file_read`: the read is noted and the sending stops. -/
def beginRead (progress : FileProgress) (read : ReadProgress)
    (rest : List WriteTask) : WriteScheduler :=
  let sequence := scheduler.nextReadSequence + 1
  let count := min progress.remaining kAsyncFileChunk
  { scheduler with
    nextReadSequence := sequence
    writes := .asyncReader progress
      { read with readPending := true, readSequence := sequence, readSize := count } :: rest
    }.setWriteInterest false

def requestFileRead (progress : FileProgress) (read : ReadProgress)
    (rest : List WriteTask) (reader : ReaderRun) : WriteScheduler :=
  if scheduler.nextReadSequence = uint64Max then scheduler.fail .EOVERFLOW
  else (scheduler.beginRead progress read rest).callReader reader

def setFront (task : WriteTask) : WriteScheduler :=
  { scheduler with writes := task :: scheduler.writes.tail }

def onFileRead (sequence : ℕ) (error : Option Errno) (data : Bytes) : WriteScheduler :=
  if scheduler.stopped then scheduler
  else
    match scheduler.writes with
    | .asyncReader progress read :: _ =>
      if !read.readPending || read.readSequence ≠ sequence then scheduler
      else
        let idle := { read with readPending := false }
        let received := scheduler.setFront (.asyncReader progress idle)
        match error with
        | some error => received.fail error
        | none =>
          if data.length ≠ idle.readSize ∨ data.length > progress.remaining ∨
              data.length > idle.reservation then received.fail Errno.EIO
          else
            enableWriteEvent <| received.setFront
              (.asyncReader progress { idle with data := data, dataOffset := 0 })
    | _ => scheduler

/-! ## Sending -/

/-- What a `send` or `sendfile` returns; the socket takes no more than it is offered. -/
inductive SendResult where
  | wrote (count : ℕ)
  | error (error : Errno)
deriving DecidableEq, Repr

/-- The socket has accepted bytes of the task in front, which is removed if that
completes it. -/
def accept (task : WriteTask) (written : ℕ) : WriteScheduler :=
  let sent := (scheduler.setFront (task.advance written)).emit
    (.sent (task.fileProgress.map FileProgress.number) (task.available.take written))
  if (task.advance written).completed then sent.completeFront else sent

/-- What the loop of `on_writable` ends with: the code behind it is still to run, or
the function has returned. -/
inductive LoopEnd where
  | left
  | returned
deriving DecidableEq, Repr

/-- The loop of `on_writable`. A `send` for which the environment has no result left
finds the socket full. -/
def writeLoop (reader : ReaderRun) :
    ℕ → ℕ → List SendResult → WriteScheduler → LoopEnd × WriteScheduler
  | 0, _, _, scheduler => (.left, scheduler)
  | steps + 1, budget, results, scheduler =>
    match scheduler.writes with
    | [] => (.left, scheduler)
    | task :: rest =>
      if budget = 0 then (.left, scheduler)
      else if task.fileProgress.any (·.remaining = 0) then
        writeLoop reader steps budget results scheduler.completeFront
      else
        match task.needsRead with
        | some (progress, read) =>
          (.returned,
            if read.readPending then scheduler.setWriteInterest false
            else scheduler.requestFileRead progress read rest reader)
        | none =>
          match results.headD (.error .EAGAIN) with
          | .wrote count =>
            let written := min count (min task.available.length budget)
            if written = 0 then (.returned, scheduler.fail Errno.EIO)
            else
              writeLoop reader steps (budget - written) results.tail (scheduler.accept task written)
          | .error error =>
            if error = .EINTR then writeLoop reader steps budget results.tail scheduler
            else if error = .EAGAIN ∨ error = .EWOULDBLOCK then (.returned, scheduler)
            else (.returned, scheduler.fail error)

def onWritable (results : List SendResult) (reader : ReaderRun) : WriteScheduler :=
  if scheduler.stopped || !scheduler.writeEnabled then scheduler
  else
    match writeLoop reader kWriteSteps kWriteBudget results scheduler with
    | (.returned, scheduler) => scheduler
    | (.left, scheduler) =>
      if scheduler.writes.isEmpty then (scheduler.setWriteInterest false).emit .drained
      else scheduler

/-! ## Runs -/

inductive Event where
  | enqueueMemory (data : Bytes)
  | enqueueFile (request : FileRequest) (accepting : Bool)
  | onWritable (results : List SendResult) (reader : ReaderRun)
  | onFileRead (sequence : ℕ) (error : Option Errno) (data : Bytes)
  | cancelAll (error : Errno)
  | setHighWaterMark (bytes : ℕ)

/-- `set_high_water_mark`; the process ends if the value is not allowed. -/
def setHighWaterMark (bytes : ℕ) : WriteScheduler :=
  if bytes = 0 ∨ bytes > kMaxPendingBytes then scheduler
  else { scheduler with highWaterMark := bytes }

def step : Event → WriteScheduler
  | .enqueueMemory data => scheduler.enqueueMemory data
  | .enqueueFile request accepting => scheduler.enqueueFile request accepting
  | .onWritable results reader => scheduler.onWritable results reader
  | .onFileRead sequence error data => scheduler.onFileRead sequence error data
  | .cancelAll error => scheduler.cancelAll error
  | .setHighWaterMark bytes => scheduler.setHighWaterMark bytes

end WriteScheduler

end Tlss.Net
