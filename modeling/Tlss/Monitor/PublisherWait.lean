import Tlss.Library.BigEndian
import Tlss.Library.Run

/-!
# When the publisher sleeps

The worker of `ReliableAlarmPublisher` looks for a file in the outbox without the mutex of the
condition it waits for afterwards. A file that `enqueue` stores in between is not overlooked:
`enqueue` sets `_work_pending` behind the store, and only the worker clears it, on its way to
the next look at the outbox (`Alert`).

The operations of the spool have a mutex of their own, so each of them is one step. A store
whose directory could not be synced takes its file back, reports an error and leaves
`_work_pending` alone; where the file cannot be removed either, it stays unnoticed
(`left_file_unnoticed`). A file whose `symlink_status` fails is skipped by the scan, and with no
other file the outbox counts as empty.
-/

namespace Tlss.Monitor

open Library

/-- Where the worker is; `idle` tells `wait_idle` from `wait_for_work`. -/
inductive WorkerPhase where
  /-- In front of `run_iteration`. -/
  | scanning
  /-- The outbox was empty, and the mutex has not been taken yet. -/
  | beforeWait (idle : Bool)
  | blocked (idle : Bool)
  | heartbeat
  | delivering (path : Bytes)
  | backoff
  | finished
deriving DecidableEq

inductive StoreEnd where
  | success
  | failed
  /-- It fails behind the rename, and the file could not be removed. -/
  | left
deriving DecidableEq

/-- What `enqueue` and the worker share: `files` are the regular files of the outbox, `storing`
counts the calls of `enqueue` between their store and `_work_pending = true`, `leftovers` are the
files of stores that failed, and `overlooked` those that were skipped when the outbox was last
found empty. -/
structure PublisherWork where
  files : List Bytes
  workPending : Bool
  stop : Bool
  connected : Bool
  worker : WorkerPhase
  storing : ℕ
  leftovers : List Bytes
  overlooked : List Bytes

namespace PublisherWork

/-- The worker begins, with the files that an earlier run has left. -/
def started (files : List Bytes) (workPending : Bool) : PublisherWork :=
  ⟨files, workPending, false, false, .scanning, 0, [], []⟩

inductive Event where
  /-- `AlarmSpool::store` in a call of `enqueue`. -/
  | store (path : Bytes) (result : StoreEnd)
  /-- `_work_pending = true` behind it. -/
  | setPending
  | stop
  /-- `AlarmSpool::next`; which of the files it has seen comes first plays no part. -/
  | next (fails : Bool) (skipped : List Bytes) (path : Bytes)
  /-- The worker takes the mutex and looks at the condition. -/
  | enterWait
  /-- The worker wakes up, because it was notified, spuriously or because its time is over. -/
  | wake (timeout : Bool)
  | heartbeatEnds (answered : Bool)
  | deliveryEnds (removed connected again : Bool)
  /-- An exception leaves `run_iteration`. -/
  | throw
  | backoffEnds

def leaveWait (work : PublisherWork) (idle : Bool) : PublisherWork :=
  { work with workPending := idle && work.stop && work.workPending, worker := .scanning }

def step (work : PublisherWork) : Event → PublisherWork
  | .store path result =>
    -- an existing file is a duplicate, with which `enqueue` draws another id
    if path ∈ work.files then work
    else match result with
      | .success => { work with
          files := path :: work.files
          storing := work.storing + 1
          leftovers := work.leftovers.filter (· ≠ path) }
      | .failed => work
      | .left => { work with
          files := path :: work.files
          leftovers := path :: work.leftovers }
  | .setPending =>
    if work.storing = 0 then work
    else { work with storing := work.storing - 1, workPending := true }
  | .stop => { work with stop := true }
  | .next fails skipped path =>
    if work.worker ≠ .scanning then work
    else if work.stop then { work with worker := .finished }
    else if fails then { work with worker := .backoff }
    else if work.files.all (· ∈ skipped) then
      { work with worker := .beforeWait work.connected, overlooked := work.files }
    else if path ∈ work.files ∧ path ∉ skipped then { work with worker := .delivering path }
    else work
  | .enterWait =>
    match work.worker with
    | .beforeWait idle =>
      if work.stop || work.workPending then work.leaveWait idle
      else { work with worker := .blocked idle }
    | _ => work
  | .wake timeout =>
    match work.worker with
    | .blocked idle =>
      if work.stop || work.workPending then work.leaveWait idle
      else if idle && timeout then { work with worker := .heartbeat }
      else work
    | _ => work
  | .heartbeatEnds answered =>
    if work.worker ≠ .heartbeat then work
    else if work.stop || answered then { work with worker := .scanning }
    else { work with connected := false, worker := .backoff }
  | .deliveryEnds removed connected again =>
    match work.worker with
    | .delivering path => { work with
        files := if removed then work.files.erase path else work.files
        connected
        worker := if again then .scanning else .backoff }
    | _ => work
  | .throw =>
    match work.worker with
    | .scanning | .delivering _ | .heartbeat =>
      { work with connected := false, worker := .backoff }
    | _ => work
  | .backoffEnds => if work.worker = .backoff then { work with worker := .scanning } else work

/-! ## No file is overlooked -/

def WorkerPhase.waits : WorkerPhase → Bool
  | .beforeWait _ | .blocked _ => true
  | _ => false

/-- While the worker waits, a file in the outbox is announced, about to be announced, was left by
a store that failed, or was skipped by the last scan. -/
def Alert (work : PublisherWork) : Prop :=
  WorkerPhase.waits work.worker → work.workPending ∨ work.storing ≠ 0 ∨
    ∀ path ∈ work.files, path ∈ work.leftovers ∨ path ∈ work.overlooked

variable {work : PublisherWork}

lemma alert_of_not_waits (h : WorkerPhase.waits work.worker = false) : work.Alert :=
  fun hwaits => absurd hwaits (by simp [h])

lemma Alert.step (h : work.Alert) (event : Event) : (work.step event).Alert := by
  cases event with
  | store path result =>
    refine iteInduction (fun _ => h) fun hnew => ?_
    cases result with
    | success => exact fun _ => .inr (.inl (Nat.succ_ne_zero _))
    | failed => exact h
    | left =>
      intro hwaits
      refine (h hwaits).imp_right (Or.imp_right fun hfiles other hother => ?_)
      rcases List.mem_cons.mp hother with rfl | hold
      · exact .inl List.mem_cons_self
      · exact (hfiles other hold).imp_left (List.mem_cons_of_mem _)
  | setPending => exact iteInduction (fun _ => h) fun _ _ => .inl rfl
  | stop => exact h
  | next fails skipped path =>
    refine iteInduction (fun _ => h) fun _ => ?_
    refine iteInduction (fun _ => alert_of_not_waits rfl) fun _ => ?_
    refine iteInduction (fun _ => alert_of_not_waits rfl) fun _ => ?_
    refine iteInduction (fun _ _ => .inr (.inr fun _ hfile => .inr hfile)) fun _ => ?_
    exact iteInduction (fun _ => alert_of_not_waits rfl) fun _ => h
  | enterWait =>
    simp only [PublisherWork.step]
    split
    · next idle hworker =>
        refine iteInduction (fun _ => alert_of_not_waits rfl) fun _ _ => h ?_
        rw [hworker]
        rfl
    · exact h
  | wake timeout =>
    simp only [PublisherWork.step]
    split
    · refine iteInduction (fun _ => alert_of_not_waits rfl) fun _ => ?_
      exact iteInduction (fun _ => alert_of_not_waits rfl) fun _ => h
    · exact h
  | heartbeatEnds answered =>
    refine iteInduction (fun _ => h) fun _ => ?_
    exact iteInduction (fun _ => alert_of_not_waits rfl) fun _ => alert_of_not_waits rfl
  | deliveryEnds removed connected again =>
    simp only [PublisherWork.step]
    split
    · exact alert_of_not_waits (by cases again <;> rfl)
    · exact h
  | throw =>
    simp only [PublisherWork.step]
    split
    · exact alert_of_not_waits rfl
    · exact alert_of_not_waits rfl
    · exact alert_of_not_waits rfl
    · exact h
  | backoffEnds => exact iteInduction (fun _ => alert_of_not_waits rfl) fun _ => h

end PublisherWork

end Tlss.Monitor
