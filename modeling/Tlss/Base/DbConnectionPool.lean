import Mathlib.Data.Int.Notation
import Tlss.Library.Run

/-!
# The pool of database connections

`DbConnectionPool` lends connections to calls of `get_connection` and takes them back when
the handles are destroyed. A producer makes new connections while nothing is idle, a
scanner closes connections that lie idle for too long, and `shutdown` waits until
everything has come back.

The critical sections of the mutex are the steps, and outside of them the atomic update of
the counter by the producer and the creation and destruction of a connection. An event
says which thread goes next and what the environment decides: which connections answer a
ping, which ones have expired, which waits are over. The counters are integers, so that
they can be seen not to fall below zero. A connection is the number of its creation;
`live` are those that have not been destroyed.
-/

namespace Tlss.Base

inductive Producer where
  | waiting
  | connecting (connection : ℕ)
  /-- It has given the room back and destroys the connection that failed. -/
  | dropping (connection : ℕ)
  | retrying
  | connected (connection : ℕ)
  | leaving (connection : ℕ)
  | exited
deriving DecidableEq, Repr

inductive Scanner where
  | waiting
  | destroying (expired : List ℕ)
  | exited
deriving DecidableEq, Repr

/-- Where a call of `get_connection` is that has registered itself. -/
inductive Getter where
  | waiting
  | pinging (connection : ℕ)
  /-- The ping has failed and the connection is destroyed; the counters are still to be
  updated. -/
  | discarded
  | returning (connection : ℕ)
  | finishing
deriving DecidableEq, Repr

inductive Release where
  | holding (connection : ℕ)
  | dropping (connection : ℕ)
deriving DecidableEq, Repr

inductive Shutdown where
  | entering
  /-- It has `_shutdown_mutex` and joins the threads. -/
  | joining
  | waiting
  | returned (result : Bool)
deriving DecidableEq, Repr

/-- `DbConnectionPool`, with the handles its users hold. -/
structure DbConnectionPool where
  initSize : ℤ
  maxSize : ℤ
  queue : List ℕ
  connectionCnt : ℤ
  stopping : Bool
  threadsJoined : Bool
  borrowedCount : ℤ
  waitingGetters : ℤ
  activeGetters : ℤ
  producer : Producer
  scanner : Scanner
  getters : List Getter
  releases : List Release
  shutdowns : List Shutdown
  handles : List ℕ
  live : List ℕ
  created : ℕ

namespace DbConnectionPool

/-- The constructor, which connects `init_size` times and starts both threads. -/
def new (initSize maxSize : ℕ) : DbConnectionPool where
  initSize := initSize
  maxSize := maxSize
  queue := List.range initSize
  connectionCnt := initSize
  stopping := false
  threadsJoined := false
  borrowedCount := 0
  waitingGetters := 0
  activeGetters := 0
  producer := .waiting
  scanner := .waiting
  getters := []
  releases := []
  shutdowns := []
  handles := []
  live := List.range initSize
  created := initSize

variable (pool : DbConnectionPool)

def destroy (connection : ℕ) : DbConnectionPool :=
  { pool with live := pool.live.erase connection }

def setGetter (index : ℕ) (getter : Getter) : DbConnectionPool :=
  { pool with getters := pool.getters.set index getter }

def setShutdown (index : ℕ) (shutdown : Shutdown) : DbConnectionPool :=
  { pool with shutdowns := pool.shutdowns.set index shutdown }

/-! ## The producer: `produce_connection_task` -/

/-- The first critical section: it waits for a reason to connect, and reserves room. -/
def produceReserve : DbConnectionPool :=
  if pool.producer ≠ .waiting then pool
  else if pool.stopping then { pool with producer := .exited }
  else if pool.queue = [] ∧ pool.connectionCnt < pool.maxSize then
    { pool with
      connectionCnt := pool.connectionCnt + 1
      producer := .connecting pool.created
      live := pool.live ++ [pool.created]
      created := pool.created + 1 }
  else pool

/-- `connect` returns; if it has failed the room is given back. -/
def produceConnect (succeeds : Bool) : DbConnectionPool :=
  match pool.producer with
  | .connecting connection =>
    if succeeds then { pool with producer := .connected connection }
    else
      { pool with
        connectionCnt := pool.connectionCnt - 1
        producer := .dropping connection }
  | _ => pool

def produceDrop : DbConnectionPool :=
  match pool.producer with
  | .dropping connection => { pool.destroy connection with producer := .retrying }
  | .leaving connection => { pool.destroy connection with producer := .exited }
  | _ => pool

def produceRetry : DbConnectionPool :=
  if pool.producer ≠ .retrying then pool
  else { pool with producer := if pool.stopping then .exited else .waiting }

/-- The second critical section: the connection is put into the queue, unless the pool is
stopping. -/
def producePublish : DbConnectionPool :=
  match pool.producer with
  | .connected connection =>
    if pool.stopping then
      { pool with
        connectionCnt := pool.connectionCnt - 1
        producer := .leaving connection }
    else { pool with queue := pool.queue ++ [connection], producer := .waiting }
  | _ => pool

/-! ## The scanner: `scanner_connection` -/

/-- The loop that removes connections from the front of the queue: `expired` tells which
ones have been idle for too long. -/
def expire : List ℕ → List Bool → ℤ → ℤ → List ℕ × List ℕ × ℤ
  | connection :: queue, true :: expired, connectionCnt, initSize =>
    if connectionCnt > initSize then
      let (removed, rest, final) := expire queue expired (connectionCnt - 1) initSize
      (connection :: removed, rest, final)
    else ([], connection :: queue, connectionCnt)
  | queue, _, connectionCnt, _ => ([], queue, connectionCnt)

/-- The critical section of the scanner, when its period is over or the pool stops. -/
def scan (expired : List Bool) : DbConnectionPool :=
  if pool.scanner ≠ .waiting then pool
  else if pool.stopping then { pool with scanner := .exited }
  else
    let (removed, rest, connectionCnt) :=
      expire pool.queue expired pool.connectionCnt pool.initSize
    { pool with queue := rest, connectionCnt := connectionCnt, scanner := .destroying removed }

def scanDestroy : DbConnectionPool :=
  match pool.scanner with
  | .destroying removed =>
    { pool with live := pool.live.diff removed, scanner := .waiting }
  | _ => pool

/-! ## `get_connection` -/

def getBegin : DbConnectionPool :=
  { pool with
    activeGetters := pool.activeGetters + 1
    waitingGetters := pool.waitingGetters + 1
    getters := pool.getters ++ [.waiting] }

/-- A call that waits has the mutex: there is a connection, or the pool is stopping, or the
time is over, or it goes on waiting. -/
def getWake (index : ℕ) (timedOut : Bool) : DbConnectionPool :=
  match pool.getters[index]? with
  | some .waiting =>
    if pool.stopping then
      { pool.setGetter index .finishing with waitingGetters := pool.waitingGetters - 1 }
    else
      match pool.queue with
      | connection :: queue =>
        { pool.setGetter index (.pinging connection) with
          queue := queue
          borrowedCount := pool.borrowedCount + 1
          waitingGetters := pool.waitingGetters - 1 }
      | [] =>
        if timedOut then
          { pool.setGetter index .finishing with waitingGetters := pool.waitingGetters - 1 }
        else pool
  | _ => pool

def getPing (index : ℕ) (alive : Bool) : DbConnectionPool :=
  match pool.getters[index]? with
  | some (.pinging connection) =>
    if alive then pool.setGetter index (.returning connection)
    else (pool.setGetter index .discarded).destroy connection
  | _ => pool

/-- Behind a failed ping: the counters are updated, and the call tries again if there is
time. -/
def getDiscard (index : ℕ) (timedOut : Bool) : DbConnectionPool :=
  match pool.getters[index]? with
  | some .discarded =>
    { pool.setGetter index (if timedOut then .finishing else .waiting) with
      borrowedCount := pool.borrowedCount - 1
      connectionCnt := pool.connectionCnt - 1
      waitingGetters := pool.waitingGetters + (if timedOut then 0 else 1) }
  | _ => pool

/-- `finish_getter`, and the call returns its handle. -/
def getFinish (index : ℕ) : DbConnectionPool :=
  match pool.getters[index]? with
  | some (.returning connection) =>
    { pool with
      activeGetters := pool.activeGetters - 1
      getters := pool.getters.eraseIdx index
      handles := pool.handles ++ [connection] }
  | some .finishing =>
    { pool with
      activeGetters := pool.activeGetters - 1
      getters := pool.getters.eraseIdx index }
  | _ => pool

/-! ## `release_connection` -/

/-- A handle is destroyed, and `release_connection` owns the connection. -/
def releaseBegin (index : ℕ) : DbConnectionPool :=
  match pool.handles[index]? with
  | some connection =>
    { pool with
      handles := pool.handles.eraseIdx index
      releases := pool.releases ++ [.holding connection] }
  | none => pool

def releaseLock (index : ℕ) (reusable : Bool) : DbConnectionPool :=
  match pool.releases[index]? with
  | some (.holding connection) =>
    if !pool.stopping && reusable then
      { pool with
        queue := pool.queue ++ [connection]
        borrowedCount := pool.borrowedCount - 1
        releases := pool.releases.eraseIdx index }
    else
      { pool with
        borrowedCount := pool.borrowedCount - 1
        connectionCnt := pool.connectionCnt - 1
        releases := pool.releases.set index (.dropping connection) }
  | _ => pool

def releaseDrop (index : ℕ) : DbConnectionPool :=
  match pool.releases[index]? with
  | some (.dropping connection) =>
    { pool.destroy connection with releases := pool.releases.eraseIdx index }
  | _ => pool

/-! ## `shutdown` -/

def shutdownBegin : DbConnectionPool :=
  { pool with shutdowns := pool.shutdowns ++ [.entering] }

/-- `stop_background_threads` gets `_shutdown_mutex`, and sets the flag unless the threads
have been joined. -/
def shutdownStop (index : ℕ) : DbConnectionPool :=
  match pool.shutdowns[index]? with
  | some .entering =>
    if Shutdown.joining ∈ pool.shutdowns then pool
    else if pool.threadsJoined then pool.setShutdown index .waiting
    else { pool.setShutdown index .joining with stopping := true }
  | _ => pool

def shutdownJoin (index : ℕ) : DbConnectionPool :=
  match pool.shutdowns[index]? with
  | some .joining =>
    if pool.producer = .exited ∧ pool.scanner = .exited then
      { pool.setShutdown index .waiting with threadsJoined := true }
    else pool
  | _ => pool

/-- The last wait of `shutdown`: everything has come back, or the time is over. -/
def shutdownWake (index : ℕ) (timedOut : Bool) : DbConnectionPool :=
  match pool.shutdowns[index]? with
  | some .waiting =>
    if pool.borrowedCount = 0 ∧ pool.activeGetters = 0 then
      pool.setShutdown index (.returned true)
    else if timedOut then pool.setShutdown index (.returned false)
    else pool
  | _ => pool

/-! ## Runs -/

inductive Event where
  | produceReserve
  | produceConnect (succeeds : Bool)
  | produceDrop
  | produceRetry
  | producePublish
  | scan (expired : List Bool)
  | scanDestroy
  | getBegin
  | getWake (index : ℕ) (timedOut : Bool)
  | getPing (index : ℕ) (alive : Bool)
  | getDiscard (index : ℕ) (timedOut : Bool)
  | getFinish (index : ℕ)
  | releaseBegin (index : ℕ)
  | releaseLock (index : ℕ) (reusable : Bool)
  | releaseDrop (index : ℕ)
  | shutdownBegin
  | shutdownStop (index : ℕ)
  | shutdownJoin (index : ℕ)
  | shutdownWake (index : ℕ) (timedOut : Bool)
deriving DecidableEq, Repr

def step : Event → DbConnectionPool
  | .produceReserve => pool.produceReserve
  | .produceConnect succeeds => pool.produceConnect succeeds
  | .produceDrop => pool.produceDrop
  | .produceRetry => pool.produceRetry
  | .producePublish => pool.producePublish
  | .scan expired => pool.scan expired
  | .scanDestroy => pool.scanDestroy
  | .getBegin => pool.getBegin
  | .getWake index timedOut => pool.getWake index timedOut
  | .getPing index alive => pool.getPing index alive
  | .getDiscard index timedOut => pool.getDiscard index timedOut
  | .getFinish index => pool.getFinish index
  | .releaseBegin index => pool.releaseBegin index
  | .releaseLock index reusable => pool.releaseLock index reusable
  | .releaseDrop index => pool.releaseDrop index
  | .shutdownBegin => pool.shutdownBegin
  | .shutdownStop index => pool.shutdownStop index
  | .shutdownJoin index => pool.shutdownJoin index
  | .shutdownWake index timedOut => pool.shutdownWake index timedOut

end DbConnectionPool

end Tlss.Base
