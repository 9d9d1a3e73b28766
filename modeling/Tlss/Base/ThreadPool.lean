import Mathlib.Data.Int.Notation
import Tlss.Library.Run

/-!
# The thread pool

`ThreadPool` has a queue of tasks for its workers and, when that queue is bounded, a
list of asynchronous tasks that wait for room in it until their deadlines. A worker
that takes a task moves waiting tasks up; those whose deadline has passed are removed,
by the worker or by a thread of its own that watches the deadlines.

The critical sections of the mutex are the steps. What a thread does outside of them
and what others can observe is a step too: a worker calls the callbacks of the tasks
it found expired, returns from `take`, and runs its task. An event says which thread
goes next, and what the environment decides: how much time passes before the clock is
read, which sleeper a `notify_one` wakes, whether a call comes from a callback of the
pool. A task is the number of the call that submitted it.
-/

namespace Tlss.Base

open Library

inductive PoolState where
  | created
  | running
  | stopping
  | stopped
deriving DecidableEq, Repr

/-- `PendingTask`; `onTimeout` tells whether there is a callback. -/
structure PendingTask where
  task : ℕ
  deadline : ℤ
  onTimeout : Bool
deriving DecidableEq, Repr

inductive Worker where
  /-- It has called `take` and waits for the mutex. -/
  | entering
  | asleep
  | notified
  /-- It is in `take` behind the critical section, with callbacks still to call. -/
  | returning (callbacks : List ℕ) (task : ℕ)
  | executing (task : ℕ)
  | exited
deriving DecidableEq, Repr

inductive DeadlineThread where
  | absent
  | waiting
  | calling (task : ℕ)
  | exited
deriving DecidableEq, Repr

inductive Lifecycle where
  | free
  | starting
  | stopping
deriving DecidableEq, Repr

inductive Effect where
  /-- `run` or `try_run` pushed the task. -/
  | accepted (task : ℕ)
  | acceptedAsync (pending : PendingTask)
  | rejected (task : ℕ)
  /-- A pool without threads runs the task in the thread of the caller. -/
  | calledInline (task : ℕ)
  | taken (task : ℕ)
  | returned (task : ℕ)
  | expired (pending : PendingTask) (now : ℤ)
  | timedOut (task : ℕ)
  /-- `stop` removed the task, which was still waiting. -/
  | dropped (task : ℕ)
deriving DecidableEq, Repr

/-- `ThreadPool`, with the callers of `run` that wait for room, the clock, the number
of calls so far and what an observer has seen. -/
structure ThreadPool where
  state : PoolState
  maxQueueSize : ℕ
  maxWaitQueueSize : ℕ
  threads : List Worker
  deadlineThread : DeadlineThread
  queue : List ℕ
  waiters : List PendingTask
  activeInlineTasks : ℕ
  rejected : ℕ
  timeouts : ℕ
  lifecycle : Lifecycle
  runners : List ℕ
  clock : ℤ
  submitted : ℕ
  trace : List Effect

/-! ## Condition variables -/

def Worker.notify : Worker → Worker
  | .asleep => .notified
  | worker => worker

def notifyFirst : List Worker → List Worker
  | [] => []
  | .asleep :: rest => .notified :: rest
  | worker :: rest => worker :: notifyFirst rest

/-- `_not_empty.notify_one()`. The system chooses whom it wakes. -/
def notifyOne (threads : List Worker) (choice : ℕ) : List Worker :=
  if threads[choice]? = some .asleep then threads.set choice .notified else notifyFirst threads

namespace ThreadPool

def new : ThreadPool :=
  ⟨.created, 0, 0, [], .absent, [], [], 0, 0, 0, .free, [], 0, 0, []⟩

variable (pool : ThreadPool)

def emit (effect : Effect) : ThreadPool :=
  { pool with trace := pool.trace ++ [effect] }

def tick (delay : ℕ) : ThreadPool :=
  { pool with clock := pool.clock + delay }

def setThread (index : ℕ) (worker : Worker) : ThreadPool :=
  { pool with threads := pool.threads.set index worker }

def isFull : Bool :=
  0 < pool.maxQueueSize && pool.maxQueueSize ≤ pool.queue.length

/-! ## Configuration and start -/

/-- `set_max_queue_size`, which throws if the call is not allowed. -/
def setMaxQueueSize (size : ℤ) : ThreadPool :=
  if size < 0 ∨ pool.state ≠ .created then pool else { pool with maxQueueSize := size.toNat }

def setMaxWaitQueueSize (size : ℤ) : ThreadPool :=
  if size < 0 ∨ pool.state ≠ .created then pool else { pool with maxWaitQueueSize := size.toNat }

/-- `start`. If a thread cannot be created, those that were are joined before the
exception leaves. -/
def start (threads : ℕ) (hasInit : Bool) (failure : Option ℕ) : ThreadPool :=
  if pool.lifecycle ≠ .free ∨ pool.state ≠ .created then pool
  else
    match failure with
    | some started =>
      { pool with
        state := .stopping
        threads := List.replicate (min started threads) .entering
        lifecycle := .stopping }
    | none =>
      { pool with
        state := .running
        threads := List.replicate threads .entering
        deadlineThread :=
          if 0 < threads ∧ 0 < pool.maxWaitQueueSize then .waiting else .absent
        lifecycle := if threads = 0 ∧ hasInit then .starting else .free }

def initReturns (throws : Bool) : ThreadPool :=
  if pool.lifecycle ≠ .starting then pool
  else
    { pool with
      state := if throws then .stopping else pool.state
      lifecycle := .free }

/-! ## Submission -/

def reject (task : ℕ) : ThreadPool :=
  { pool with rejected := pool.rejected + 1 }.emit (.rejected task)

def push (task : ℕ) (choice : ℕ) : ThreadPool :=
  { pool with queue := pool.queue ++ [task], threads := notifyOne pool.threads choice }

def submitAsync (delay : ℕ) (deadline : ℤ) (onTimeout : Bool) (choice : ℕ) : ThreadPool :=
  let pending : PendingTask := ⟨pool.submitted, deadline, onTimeout⟩
  let called := { pool with submitted := pool.submitted + 1 }
  if pool.state ≠ .running ∨ pool.threads = [] then called.reject pending.task
  else
    let timed := called.tick delay
    if deadline ≤ timed.clock then timed.reject pending.task
    else if !pool.isFull then (timed.emit (.acceptedAsync pending)).push pending.task choice
    else if pool.maxWaitQueueSize ≤ pool.waiters.length then timed.reject pending.task
    else { timed with waiters := timed.waiters ++ [pending] }.emit (.acceptedAsync pending)

def callInline (task : ℕ) : ThreadPool :=
  { pool with activeInlineTasks := pool.activeInlineTasks + 1 }.emit (.calledInline task)

def tryRun (choice : ℕ) : ThreadPool :=
  let task := pool.submitted
  let called := { pool with submitted := pool.submitted + 1 }
  if pool.state ≠ .running then called.reject task
  else if pool.threads = [] then called.callInline task
  else if pool.isFull then called.reject task
  else (called.emit (.accepted task)).push task choice

/-- `run`, up to the point where it waits for room; `nested` tells whether it is called
from a callback of the pool. -/
def run (nested : Bool) (choice : ℕ) : ThreadPool :=
  let task := pool.submitted
  let called := { pool with submitted := pool.submitted + 1 }
  if pool.state ≠ .running then called.reject task
  else if pool.threads = [] then called.callInline task
  else if nested && pool.isFull then called.reject task
  else if pool.isFull then { called with runners := called.runners ++ [task] }
  else (called.emit (.accepted task)).push task choice

/-- A caller of `run` that waits for room wakes up, and goes on waiting if there is
none. -/
def wakeRunner (task : ℕ) (choice : ℕ) : ThreadPool :=
  if task ∉ pool.runners then pool
  else if pool.state ≠ .running then
    { pool with runners := pool.runners.erase task }.reject task
  else if pool.isFull then pool
  else
    ({ pool with runners := pool.runners.erase task }.emit (.accepted task)).push task choice

def finishInlineTask : ThreadPool :=
  { pool with activeInlineTasks := pool.activeInlineTasks - 1 }

/-! ## Workers -/

/-- A waiting task is removed because its deadline has passed. -/
def expire (pending : PendingTask) : ThreadPool :=
  { pool with timeouts := pool.timeouts + 1 }.emit (.expired pending pool.clock)

/-- The loop of `take` that moves waiting tasks up; it also gives the callbacks of
those that have expired. -/
def refill : List PendingTask → List ℕ → ThreadPool → ThreadPool × List ℕ
  | [], _, pool => (pool, [])
  | pending :: rest, delays, pool =>
    if 0 < pool.maxQueueSize ∧ pool.queue.length < pool.maxQueueSize then
      let popped := { pool with waiters := rest }.tick (delays.headD 0)
      if pending.deadline ≤ popped.clock then
        let (later, callbacks) := refill rest delays.tail (popped.expire pending)
        (later, (if pending.onTimeout then [pending.task] else []) ++ callbacks)
      else refill rest delays.tail { popped with queue := popped.queue ++ [pending.task] }
    else (pool, [])

/-- The critical section of `take`, for a worker that has the mutex. -/
def take (index : ℕ) (delays : List ℕ) : ThreadPool :=
  match pool.queue with
  | [] => pool.setThread index (if pool.state = .running then .asleep else .exited)
  | task :: rest =>
    let (refilled, callbacks) :=
      refill pool.waiters delays ({ pool with queue := rest }.emit (.taken task))
    refilled.setThread index (.returning callbacks task)

def enterTake (index : ℕ) (delays : List ℕ) : ThreadPool :=
  match pool.threads[index]? with
  | some .entering | some .notified => pool.take index delays
  | _ => pool

def wakeWorker (index : ℕ) : ThreadPool :=
  match pool.threads[index]? with
  | some .asleep => pool.setThread index .notified
  | _ => pool

/-- A worker calls the next callback of those it has found expired. -/
def callExpired (index : ℕ) : ThreadPool :=
  match pool.threads[index]? with
  | some (.returning (callback :: callbacks) task) =>
    (pool.setThread index (.returning callbacks task)).emit (.timedOut callback)
  | _ => pool

/-- `take` returns, and the worker begins with the task. -/
def returnTask (index : ℕ) : ThreadPool :=
  match pool.threads[index]? with
  | some (.returning [] task) => (pool.setThread index (.executing task)).emit (.returned task)
  | _ => pool

/-- The task is done and the worker calls `take` again. -/
def finishTask (index : ℕ) : ThreadPool :=
  match pool.threads[index]? with
  | some (.executing _) => pool.setThread index .entering
  | _ => pool

/-! ## Deadlines -/

/-- `std::min_element` by deadline: the position of the first of the least elements. -/
def minElement : List PendingTask → ℕ
  | [] => 0
  | pending :: rest =>
    match rest[minElement rest]? with
    | none => 0
    | some other => if other.deadline < pending.deadline then minElement rest + 1 else 0

/-- A critical section of `deadline_loop`, whenever the thread wakes up. -/
def deadlineLoop (delay : ℕ) : ThreadPool :=
  if pool.deadlineThread ≠ .waiting then pool
  else if pool.state ≠ .running then { pool with deadlineThread := .exited }
  else
    match pool.waiters[minElement pool.waiters]? with
    | none => pool
    | some earliest =>
      let timed := pool.tick delay
      if timed.clock < earliest.deadline then timed
      else
        { timed.expire earliest with
          waiters := pool.waiters.eraseIdx (minElement pool.waiters)
          deadlineThread := if earliest.onTimeout then .calling earliest.task else .waiting }

/-- The thread of `deadline_loop` calls the callback. -/
def callTimeout : ThreadPool :=
  match pool.deadlineThread with
  | .calling task => { pool with deadlineThread := .waiting }.emit (.timedOut task)
  | _ => pool

/-! ## Stop -/

/-- `stop`, up to the point where it waits for the threads. -/
def stop : ThreadPool :=
  if pool.lifecycle ≠ .free ∨ pool.state = .stopped then pool
  else
    { pool with
      state := .stopping
      threads := pool.threads.map Worker.notify
      waiters := []
      lifecycle := .stopping
      trace := pool.trace ++ pool.waiters.map fun pending => .dropped pending.task }

/-- The end of `stop`, when all tasks of callers are done and all threads are joined. -/
def finishStop : ThreadPool :=
  if pool.lifecycle = .stopping ∧ pool.activeInlineTasks = 0 ∧
      (∀ worker ∈ pool.threads, worker = .exited) ∧
      (pool.deadlineThread = .absent ∨ pool.deadlineThread = .exited) then
    { pool with state := .stopped, lifecycle := .free }
  else pool

/-! ## Runs -/

inductive Event where
  | setMaxQueueSize (size : ℤ)
  | setMaxWaitQueueSize (size : ℤ)
  | start (threads : ℕ) (hasInit : Bool) (failure : Option ℕ)
  | initReturns (throws : Bool)
  | submitAsync (delay : ℕ) (deadline : ℤ) (onTimeout : Bool) (choice : ℕ)
  | tryRun (choice : ℕ)
  | run (nested : Bool) (choice : ℕ)
  | wakeRunner (task : ℕ) (choice : ℕ)
  | finishInlineTask
  | enterTake (index : ℕ) (delays : List ℕ)
  | wakeWorker (index : ℕ)
  | callExpired (index : ℕ)
  | returnTask (index : ℕ)
  | finishTask (index : ℕ)
  | deadlineLoop (delay : ℕ)
  | callTimeout
  | stop
  | finishStop
deriving DecidableEq, Repr

def step : Event → ThreadPool
  | .setMaxQueueSize size => pool.setMaxQueueSize size
  | .setMaxWaitQueueSize size => pool.setMaxWaitQueueSize size
  | .start threads hasInit failure => pool.start threads hasInit failure
  | .initReturns throws => pool.initReturns throws
  | .submitAsync delay deadline onTimeout choice =>
    pool.submitAsync delay deadline onTimeout choice
  | .tryRun choice => pool.tryRun choice
  | .run nested choice => pool.run nested choice
  | .wakeRunner task choice => pool.wakeRunner task choice
  | .finishInlineTask => pool.finishInlineTask
  | .enterTake index delays => pool.enterTake index delays
  | .wakeWorker index => pool.wakeWorker index
  | .callExpired index => pool.callExpired index
  | .returnTask index => pool.returnTask index
  | .finishTask index => pool.finishTask index
  | .deadlineLoop delay => pool.deadlineLoop delay
  | .callTimeout => pool.callTimeout
  | .stop => pool.stop
  | .finishStop => pool.finishStop

end ThreadPool

end Tlss.Base
