import Tlss.Library.BigEndian

/-!
# The receiver of a file body

`AsyncReceiver` hands the body of a file to a disk worker block by block. Its own fields
belong to the event loop; the `State` behind it is where the loop and the worker meet, and
every stretch of the worker between two acquisitions of the mutex is a step of its own.
What the disk does is decided from outside: whether an operation fails, and which value a
finalizer returns.

The observer keeps what was fed, the blocks that were passed to `Receiver::append`, the
number of bytes that were appended and the runs of the finalizer.
-/

namespace Tlss.Ftp

open Library (Bytes)

def chunkBytes : ℕ := 64 * 1024

inductive DiskOperation
  | prepare
  | write
  | finish
deriving DecidableEq

/-- What a disk operation ended with: a value, which only a finalizer has, or an error. -/
abbrev DiskOutcome := Except String Bytes

structure DiskResult where
  operation : DiskOperation
  outcome : DiskOutcome

inductive DiskStage
  | idle
  | queued (operation : DiskOperation) (data : Bytes)
  | checked (operation : DiskOperation) (data : Bytes) (cancelled : Bool)
  | ran (operation : DiskOperation) (outcome : DiskOutcome)
  /-- `terminal` is set and the file is being closed. -/
  | ending (operation : DiskOperation) (outcome : DiskOutcome)
  /-- The task that `cancel` posts. -/
  | cleanup
  | cleaning

/-- `AsyncReceiver` and its `State`; the fields of the latter begin with `disk`.
`post_enabled` is cleared together with `cancelled` and nowhere else, so it is not kept.
The results are the callbacks that wait in the queue of the loop. -/
structure AsyncReceiver where
  remaining : ℕ
  busy : Bool := false
  finishRequested : Bool := false
  terminal : Bool := false
  diskBusy : Bool := false
  diskCancelled : Bool := false
  diskTerminal : Bool := false
  opened : Bool := false
  stage : DiskStage := .idle
  results : List DiskResult := []
  fed : Bytes := []
  passed : List Bytes := []
  appended : ℕ := 0
  finalized : ℕ := 0

namespace AsyncReceiver

/-! ## The event loop -/

variable (receiver : AsyncReceiver)

/-- `State::cancel`: nothing is posted any more, and an idle state is cleaned up by a task
of its own. -/
def cancel : AsyncReceiver :=
  let receiver := { receiver with diskCancelled := true }
  if receiver.diskTerminal || receiver.diskBusy then receiver
  else { receiver with diskBusy := true, stage := .cleanup }

/-- `State::launch`; `accepted` is what the executor says. -/
def launch (operation : DiskOperation) (data : Bytes) (accepted : Bool) : Bool × AsyncReceiver :=
  if receiver.diskCancelled || receiver.diskTerminal || receiver.diskBusy then (false, receiver)
  else if accepted then
    (true, { receiver with diskBusy := true, stage := .queued operation data })
  else (false, receiver.cancel)

/-- `submit` on a connection that is up; `false` is an exception. -/
def submit (operation : DiskOperation) (data : Bytes) (accepted : Bool) : Bool × AsyncReceiver :=
  let (launched, receiver) := { receiver with busy := true }.launch operation data accepted
  if launched then (true, receiver) else (false, { receiver with busy := false })

/-- `create`: a new receiver opens its file. `none` is an exception. -/
def create (size : ℕ) (accepted : Bool) : Option AsyncReceiver :=
  let (submitted, receiver) := ({ remaining := size } : AsyncReceiver).submit .prepare [] accepted
  if submitted then some receiver else none

/-- `feed`: how many bytes of the buffer are taken; `none` is an exception. -/
def feed (buffer : Bytes) (accepted : Bool) : Option ℕ × AsyncReceiver :=
  if receiver.terminal || receiver.diskCancelled then (none, receiver)
  else if receiver.busy || receiver.finishRequested then (some 0, receiver)
  else
    let count := min receiver.remaining (min buffer.length chunkBytes)
    if count = 0 then (some 0, receiver)
    else
      let data := buffer.take count
      match receiver.submit .write data accepted with
      | (false, receiver) => (none, receiver)
      | (true, receiver) =>
        (some count, { receiver with
          remaining := receiver.remaining - count, fed := receiver.fed ++ data })

def finish (receiver : AsyncReceiver) (accepted : Bool) : Bool × AsyncReceiver :=
  if receiver.terminal || receiver.diskCancelled || receiver.remaining != 0 then (false, receiver)
  else
    let receiver := { receiver with finishRequested := true }
    if !receiver.busy then receiver.submit .finish [] accepted else (true, receiver)

/-- The part of `on_result` and `report_error` that gives the receiver up. -/
def abandon : AsyncReceiver :=
  { receiver.cancel with terminal := true, busy := false }

/-! ## The disk worker -/

def postResult (result : DiskResult) : AsyncReceiver :=
  if receiver.diskCancelled then receiver
  else { receiver with results := receiver.results ++ [result] }

def diskCheck : AsyncReceiver :=
  match receiver.stage with
  | .queued operation data =>
    { receiver with stage := .checked operation data receiver.diskCancelled }
  | _ => receiver

/-- The operation itself. Without an open file it fails. -/
def diskRun (outcome : DiskOutcome) : AsyncReceiver :=
  match receiver.stage with
  | .checked operation _ true => { receiver with stage := .ran operation (.ok []) }
  | .checked .prepare _ false =>
    { receiver with
      opened := outcome.isOk
      stage := .ran .prepare outcome }
  | .checked .write data false =>
    if !receiver.opened then
      { receiver with stage := .ran .write (.error "file receiver is unavailable") }
    else
      { receiver with
        passed := receiver.passed ++ [data]
        appended := receiver.appended + if outcome.isOk then data.length else 0
        stage := .ran .write outcome }
  | .checked .finish _ false =>
    if !receiver.opened then
      { receiver with stage := .ran .finish (.error "file receiver is unavailable") }
    else { receiver with finalized := receiver.finalized + 1, stage := .ran .finish outcome }
  | _ => receiver

/-- The locked part of `execute`, up to the closing of the file. -/
def diskEnd : AsyncReceiver :=
  match receiver.stage with
  | .ran operation outcome =>
    if receiver.diskCancelled || !outcome.isOk || operation == .finish then
      { receiver with diskTerminal := true, stage := .ending operation outcome }
    else
      { receiver with diskBusy := false, stage := .idle }.postResult ⟨operation, outcome⟩
  | _ => receiver

def diskPost : AsyncReceiver :=
  match receiver.stage with
  | .ending operation outcome =>
    { receiver with opened := false, diskBusy := false, stage := .idle }.postResult
      ⟨operation, outcome⟩
  | _ => receiver

/-- The task that `cancel` has posted. -/
def diskCleanup : AsyncReceiver :=
  match receiver.stage with
  | .cleanup => { receiver with diskTerminal := true, stage := .cleaning }
  | .cleaning => { receiver with opened := false, diskBusy := false, stage := .idle }
  | _ => receiver

inductive DiskStep
  | check
  | carryOut (outcome : DiskOutcome)
  | conclude
  | post
  | clean

def diskStep : DiskStep → AsyncReceiver
  | .check => receiver.diskCheck
  | .carryOut outcome => receiver.diskRun outcome
  | .conclude => receiver.diskEnd
  | .post => receiver.diskPost
  | .clean => receiver.diskCleanup

end AsyncReceiver

end Tlss.Ftp
