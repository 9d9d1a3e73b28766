import Tlss.Base.ThreadPool
import Tlss.Ftp.AsyncReceiver
import Tlss.Net.WriteScheduler

/-!
# The disk executor and its adapters

`DiskExecutor` lends a thread pool to the disk side of transfers. An upload has the
`State` of an `AsyncReceiver`, a download or the upload of a client that of an
`AsyncFileSource`; both register themselves, hand one task at a time to the pool and are
registered until the task that closes their file has released their token.

The critical sections of the mutexes are the steps: that of `State::cancel` and the post
behind it are two, since the mutex of the state is given up in between, while `launch` and
`request` post with the mutex held. A worker drops the mutex while it closes a file. Any
number of calls of `cancel`, `begin_shutdown` and `stop` may be under way. An event says
which thread goes next and what the disk decides.

The pool is kept as its state and its queue; `Base.ThreadPool` has the whole of it.
-/

namespace Tlss.Ftp

open Library Base

inductive DiskPhase where
  | created
  | running
  | closing
  | stopped
deriving DecidableEq, Repr

def maxReceivers : ℕ := 64

inductive AdapterKind where
  | receiver
  | source
deriving DecidableEq, Repr

/-- `AsyncReceiver::State` or `AsyncFileSource::State`. `opened` tells whether there is a
receiver or a file; `post_enabled` is cleared together with `cancelled` and nowhere else, so
it is not kept. -/
structure AdapterState where
  kind : AdapterKind
  token : ℕ := 0
  opened : Bool := false
  initialized : Bool := false
  fileSize : ℕ := 0
  completion : Bool := false
  busy : Bool := false
  cancelled : Bool := false
  terminal : Bool := false
deriving DecidableEq, Repr

inductive DiskJob where
  | execute (operation : DiskOperation)
  | runInitialize
  | runRead (offset : ℤ) (count : ℕ)
  /-- The task that `cancel` posts. -/
  | cleanup
deriving DecidableEq

structure DiskTask where
  state : ℕ
  job : DiskJob
deriving DecidableEq

inductive TaskStage where
  | taken
  | checked (cancelled : Bool)
  | ran (failed : Bool) (size : ℕ)
  /-- `terminal` is set and the file is being closed. -/
  | closing
  | releasing
deriving DecidableEq

structure RunningTask extends DiskTask where
  stage : TaskStage
deriving DecidableEq

/-- A call of `State::cancel` that is under way; `byLoop` tells whether the thread is that of
the loop. -/
inductive CancelCall where
  | entering (state : ℕ) (byLoop : Bool)
  | posting (state : ℕ)
deriving DecidableEq

inductive ShutdownCall where
  | entering
  | hooks (rest : List ℕ)
  | posting (state : ℕ) (rest : List ℕ)
  /-- It has returned; `closer` tells whether it was the call that set the phase. -/
  | returned (closer : Bool)
deriving DecidableEq

inductive StopCall where
  | entering
  /-- It has `_lifecycle_mutex` and is in its call of `begin_shutdown`. -/
  | shuttingDown (call : ℕ)
  | draining
  | stoppingPool
  | joining
  | marking
  | returned
deriving DecidableEq

def StopCall.holds : StopCall → Bool
  | .entering | .returned => false
  | .shuttingDown _ | .draining | .stoppingPool | .joining | .marking => true

inductive DiskEffect where
  | posted (token : ℕ) (byLoop : Bool)
  | released (token : ℕ)
  /-- `post` returned `false` in this phase. -/
  | rejected (cleanup : Bool) (phase : DiskPhase)
deriving DecidableEq

/-- `DiskExecutor` with its adapters. An entry of `receivers` is a token and the state
whose `cancel` the hook calls; `terminated` tells whether `std::terminate` was called. -/
structure DiskExecutor where
  phase : DiskPhase
  pool : PoolState
  nextToken : ℕ
  rejected : ℕ
  receivers : List (ℕ × ℕ)
  states : List AdapterState
  queue : List DiskTask
  running : List RunningTask
  cancels : List CancelCall
  shutdowns : List ShutdownCall
  stops : List StopCall
  terminated : Bool
  trace : List DiskEffect

namespace DiskExecutor

def new : DiskExecutor :=
  ⟨.created, .created, 1, 0, [], [], [], [], [], [], [], false, []⟩

variable (disk : DiskExecutor)

def setState (index : ℕ) (state : AdapterState) : DiskExecutor :=
  { disk with states := disk.states.set index state }

def emit (effect : DiskEffect) : DiskExecutor :=
  { disk with trace := disk.trace ++ [effect] }

def setStage (worker : ℕ) (task : DiskTask) (stage : TaskStage) : DiskExecutor :=
  { disk with running := disk.running.set worker ⟨task, stage⟩ }

def dropTask (worker : ℕ) : DiskExecutor :=
  { disk with running := disk.running.eraseIdx worker }

def setShutdown (call : ℕ) (shutdown : ShutdownCall) : DiskExecutor :=
  { disk with shutdowns := disk.shutdowns.set call shutdown }

def setStop (call : ℕ) (stop : StopCall) : DiskExecutor :=
  { disk with stops := disk.stops.set call stop }

/-! ## The executor -/

/-- `ThreadPool::try_run` takes the task. -/
def accepts : Bool :=
  disk.pool = .running ∧ disk.queue.length < maxReceivers

def post (task : DiskTask) (cleanup : Bool) : Bool × DiskExecutor :=
  let refused := { disk with rejected := disk.rejected + 1 }.emit (.rejected cleanup disk.phase)
  if disk.phase ≠ .running ∧ (!cleanup ∨ disk.phase ≠ .closing) then (false, refused)
  else if !disk.accepts then (false, refused)
  else (true, { disk with queue := disk.queue ++ [task] })

/-- Some `stop` has `_lifecycle_mutex`. -/
def lifecycleHeld : Bool :=
  disk.stops.any StopCall.holds

/-- `start`, which throws unless the executor is new; `fails` tells whether the pool throws. -/
def start (fails : Bool) : DiskExecutor :=
  if disk.lifecycleHeld ∨ disk.phase ≠ .created then disk
  else if fails then { disk with pool := .stopped, phase := .stopped }
  else { disk with pool := .running, phase := .running }

/-- `attach`, on a new state. Tokens are shared with other executors, which have taken
`skipped` of them since. The source counts them in 64 bits and refuses 0 when the counter comes
round; here it is a natural number, and that branch is never reached. -/
def attach (kind : AdapterKind) (skipped : ℕ) : DiskExecutor :=
  let refused :=
    { disk with rejected := disk.rejected + 1, states := disk.states ++ [{ kind := kind }] }
  if disk.phase ≠ .running then refused
  else if maxReceivers ≤ disk.receivers.length then refused
  else
    let token := disk.nextToken + skipped
    if token = 0 then { refused with nextToken := token + 1 }
    else
      { disk with
        nextToken := token + 1
        states := disk.states ++ [{ kind := kind, token := token }]
        receivers := disk.receivers ++ [(token, disk.states.length)] }

def release (token : ℕ) : DiskExecutor :=
  { disk with receivers := disk.receivers.filter (·.1 ≠ token) }.emit (.released token)

/-! ## The threads of the loops -/

/-- A state that has been attached hands a task to the pool, in `launch` and
`launch_initialize`. If the task is rejected the call goes on with `cancel`. -/
def launchJob (index : ℕ) (kind : AdapterKind) (job : DiskJob) : DiskExecutor :=
  match disk.states[index]? with
  | some state =>
    if state.token = 0 ∨ state.kind ≠ kind then disk
    else if state.cancelled || state.terminal || state.busy then disk
    else
      match disk.post ⟨index, job⟩ false with
      | (true, disk) => disk.setState index { state with busy := true }
      | (false, disk) => { disk with cancels := disk.cancels ++ [.entering index true] }
  | none => disk

def launch (index : ℕ) (operation : DiskOperation) : DiskExecutor :=
  disk.launchJob index .receiver (.execute operation)

def launchInitialize (index : ℕ) : DiskExecutor :=
  disk.launchJob index .source .runInitialize

/-- `post_read_locked`, which does nothing without a callback. -/
def postRead (token : ℕ) (callback byLoop : Bool) : DiskExecutor :=
  if callback then disk.emit (.posted token byLoop) else disk

/-- The range that `request` was called with is not one of the file. -/
def invalidRange (state : AdapterState) (offset : ℤ) (count : ℕ) : Bool :=
  offset < 0 ∨ count = 0 ∨ Net.kAsyncFileChunk < count ∨ state.fileSize < offset.toNat ∨
    state.fileSize - offset.toNat < count

def request (index : ℕ) (offset : ℤ) (count : ℕ) (callback : Bool) : DiskExecutor :=
  match disk.states[index]? with
  | some state =>
    if state.token = 0 ∨ state.kind ≠ .source then disk
    else if state.cancelled || state.terminal then disk.postRead state.token callback true
    else if !state.initialized || state.busy then disk.postRead state.token callback true
    else if invalidRange state offset count then disk.postRead state.token callback true
    else
      match disk.post ⟨index, .runRead offset count⟩ false with
      | (true, disk) =>
        disk.setState index { state with busy := true, completion := callback }
      | (false, disk) =>
        { disk.postRead state.token callback true with
          cancels := disk.cancels ++ [.entering index true] }
  | none => disk

/-! ## `State::cancel` -/

/-- The critical section. A source delivers the cancellation of a pending read; a receiver
has none. The result tells whether the call has to post the cleanup. -/
def cancelLock (index : ℕ) (byLoop : Bool) : Bool × DiskExecutor :=
  match disk.states[index]? with
  | some state =>
    let disk := disk.postRead state.token state.completion byLoop
    let cancelled := { state with cancelled := true, completion := false }
    if state.token = 0 ∨ state.terminal ∨ state.busy then
      (false, disk.setState index cancelled)
    else (true, disk.setState index { cancelled with busy := true })
  | none => (false, disk)

def cancelPost (index : ℕ) : DiskExecutor :=
  match disk.post ⟨index, .cleanup⟩ true with
  | (true, disk) => disk
  | (false, disk) => { disk with terminated := true }

/-- A call of `cancel` by the owner of the adapter or its destructor. -/
def cancel (index : ℕ) (byLoop : Bool) : DiskExecutor :=
  { disk with cancels := disk.cancels ++ [.entering index byLoop] }

def cancelStep (call : ℕ) : DiskExecutor :=
  match disk.cancels[call]? with
  | some (.entering index byLoop) =>
    match disk.cancelLock index byLoop with
    | (true, disk) => { disk with cancels := disk.cancels.set call (.posting index) }
    | (false, disk) => { disk with cancels := disk.cancels.eraseIdx call }
  | some (.posting index) =>
    { disk with cancels := disk.cancels.eraseIdx call }.cancelPost index
  | none => disk

/-! ## The workers -/

def take : DiskExecutor :=
  match disk.queue with
  | [] => disk
  | task :: rest =>
    { disk with queue := rest, running := disk.running ++ [⟨task, .taken⟩] }

/-- The operation of a task and what it leaves open: whether it fails, and the state. -/
def operate (job : DiskJob) (state : AdapterState) (cancelled fails : Bool) : Bool × AdapterState :=
  match job with
  | .execute .prepare | .runInitialize =>
    if cancelled then (false, state) else (fails, { state with opened := !fails })
  | .execute .write | .execute .finish =>
    if cancelled then (false, state) else (!state.opened || fails, state)
  | .runRead _ _ => if cancelled then (true, state) else (fails, state)
  | .cleanup => (false, state)

def postResult (index : ℕ) (state : AdapterState) (job : DiskJob) : DiskExecutor :=
  match job with
  | .execute _ | .runInitialize =>
    (disk.postRead state.token (!state.cancelled) false).setState index state
  | .runRead _ _ =>
    (disk.postRead state.token state.completion false).setState index
      { state with completion := false }
  | .cleanup => disk.setState index state

def isEnding (job : DiskJob) (state : AdapterState) (failed : Bool) : Bool :=
  state.cancelled || failed || job = .execute .finish

def concluded (job : DiskJob) (state : AdapterState) (size : ℕ) : AdapterState :=
  if job = .runInitialize then { state with initialized := true, fileSize := size, busy := false }
  else { state with busy := false }

/-- A worker goes on with its task; the disk decides whether the operation fails, and the
size of a file that is opened. -/
def workOn (worker : ℕ) (task : DiskTask) (state : AdapterState)
    (fails : Bool) (size : ℕ) : TaskStage → DiskExecutor
  | .taken =>
    if task.job = .cleanup then
      (disk.setState task.state { state with terminal := true }).setStage worker task .closing
    else disk.setStage worker task (.checked state.cancelled)
  | .checked cancelled =>
    let (failed, state) := operate task.job state cancelled fails
    (disk.setState task.state state).setStage worker task (.ran failed size)
  | .ran failed size =>
    if isEnding task.job state failed then
      (disk.setState task.state { state with terminal := true }).setStage worker task .closing
    else
      (disk.dropTask worker).postResult task.state (concluded task.job state size) task.job
  | .closing =>
    (disk.postResult task.state { state with opened := false, busy := false } task.job).setStage
      worker task .releasing
  | .releasing => (disk.dropTask worker).release state.token

def work (worker : ℕ) (fails : Bool) (size : ℕ) : DiskExecutor :=
  match disk.running[worker]? with
  | some current =>
    match disk.states[current.state]? with
    | some state => disk.workOn worker current.toDiskTask state fails size current.stage
    | none => disk
  | none => disk

/-! ## `begin_shutdown` and `stop` -/

def beginShutdown : DiskExecutor :=
  { disk with shutdowns := disk.shutdowns ++ [.entering] }

def shutdownStep (call : ℕ) : DiskExecutor :=
  match disk.shutdowns[call]? with
  | some .entering =>
    if disk.phase = .closing ∨ disk.phase = .stopped then disk.setShutdown call (.returned false)
    else
      { disk with phase := .closing }.setShutdown call (.hooks (disk.receivers.map Prod.snd))
  | some (.hooks []) => disk.setShutdown call (.returned true)
  | some (.hooks (index :: rest)) =>
    match disk.cancelLock index false with
    | (true, disk) => disk.setShutdown call (.posting index rest)
    | (false, disk) => disk.setShutdown call (.hooks rest)
  | some (.posting index rest) => (disk.setShutdown call (.hooks rest)).cancelPost index
  | some (.returned _) | none => disk

def stop : DiskExecutor :=
  { disk with stops := disk.stops ++ [.entering] }

/-- A call of `stop` goes on, once what it waits for has happened. -/
def stopStep (call : ℕ) : DiskExecutor :=
  match disk.stops[call]? with
  | some .entering =>
    if disk.lifecycleHeld then disk
    else if disk.phase = .stopped then disk.setStop call .returned
    else disk.beginShutdown.setStop call (.shuttingDown disk.shutdowns.length)
  | some (.shuttingDown shutdown) =>
    match disk.shutdowns[shutdown]? with
    | some (.returned _) => disk.setStop call .draining
    | _ => disk
  | some .draining => if disk.receivers = [] then disk.setStop call .stoppingPool else disk
  | some .stoppingPool => { disk with pool := .stopping }.setStop call .joining
  | some .joining =>
    if disk.queue = [] ∧ disk.running = [] then
      { disk with pool := .stopped }.setStop call .marking
    else disk
  | some .marking => { disk with phase := .stopped }.setStop call .returned
  | some .returned | none => disk

/-! ## Runs -/

inductive Event where
  | start (fails : Bool)
  | attach (kind : AdapterKind) (skipped : ℕ)
  | launch (index : ℕ) (operation : DiskOperation)
  | launchInitialize (index : ℕ)
  | request (index : ℕ) (offset : ℤ) (count : ℕ) (callback : Bool)
  | cancel (index : ℕ) (byLoop : Bool)
  | cancelStep (call : ℕ)
  | take
  | work (worker : ℕ) (fails : Bool) (size : ℕ)
  | beginShutdown
  | shutdownStep (call : ℕ)
  | stop
  | stopStep (call : ℕ)
deriving DecidableEq

def step : Event → DiskExecutor
  | .start fails => disk.start fails
  | .attach kind skipped => disk.attach kind skipped
  | .launch index operation => disk.launch index operation
  | .launchInitialize index => disk.launchInitialize index
  | .request index offset count callback => disk.request index offset count callback
  | .cancel index byLoop => disk.cancel index byLoop
  | .cancelStep call => disk.cancelStep call
  | .take => disk.take
  | .work worker fails size => disk.work worker fails size
  | .beginShutdown => disk.beginShutdown
  | .shutdownStep call => disk.shutdownStep call
  | .stop => disk.stop
  | .stopStep call => disk.stopStep call

end DiskExecutor

end Tlss.Ftp
