import Tlss.Library.Run

/-!
# Activations of an asynchronous callback

`EnhancedCallback::activate` sets one flag under the mutex and notifies the worker when it has
released it. The worker clears the flag in one critical section and calls the user's function
behind it, so an activation that comes meanwhile sets the flag again. A critical section is one
step, and so is each of the calls outside of it.

An invocation may start before the activation it answers has returned, and this activation then
returns behind it with the flag cleared. What is owed to an activation is therefore counted from
the critical section that sets the flag (`Coalesced`), where it is settled that it returns 0.
-/

namespace Tlss.Monitor

open Library

namespace EnhancedCallback

inductive Worker where
  | absent
  /-- In front of the mutex: it has just begun, was woken up, or comes from an invocation. -/
  | locking
  | asleep
  /-- It has cleared `_pending`, and `invoke_and_record` comes next. -/
  | due
  | invoking
  | finished
deriving DecidableEq

/-- The call of `stop_worker` that has set `_stopping`. -/
inductive Stopper where
  | none
  | notifying
  | joining
  | returned
deriving DecidableEq

end EnhancedCallback

/-- An asynchronous callback. `accepted` counts the activations that have set `_pending`, of which
`notifying` are in front of their notification, `returning` behind it, and `returned` have
returned 0. Since the last invocation has started, `fresh` of them were accepted and `late` of
them have returned. -/
structure EnhancedCallback where
  stopping : Bool
  workerRunning : Bool
  pending : Bool
  worker : EnhancedCallback.Worker
  stopper : EnhancedCallback.Stopper
  accepted : ℕ
  notifying : ℕ
  returning : ℕ
  returned : ℕ
  fresh : ℕ
  late : ℕ
  started : ℕ
  ended : ℕ
  /-- Further calls of `stop_worker`, which return at once. -/
  repeated : ℕ
deriving DecidableEq

namespace EnhancedCallback

def new : EnhancedCallback :=
  ⟨false, false, false, .absent, .none, 0, 0, 0, 0, 0, 0, 0, 0, 0⟩

inductive Event where
  /-- The critical section of `activate`; the thread may fail to be created. -/
  | activate (created : Bool)
  | notify
  | returnZero
  /-- The worker takes the mutex and holds it until it sleeps, invokes or ends. -/
  | lock
  | wakeSpuriously
  | invoke
  | invoked
  | stopWorker
  | stopNotify
  | join
deriving DecidableEq

def setPending (cb : EnhancedCallback) : EnhancedCallback :=
  { cb with
    pending := true
    accepted := cb.accepted + 1
    notifying := cb.notifying + 1
    fresh := cb.fresh + 1 }

def wake (cb : EnhancedCallback) : EnhancedCallback :=
  { cb with worker := if cb.worker = .asleep then .locking else cb.worker }

def step (cb : EnhancedCallback) : Event → EnhancedCallback
  | .activate created =>
    if cb.stopping then cb
    else if cb.workerRunning then cb.setPending
    else if created then setPending { cb with workerRunning := true, worker := .locking }
    else cb
  | .notify =>
    if cb.notifying = 0 then cb
    else { cb.wake with
      notifying := cb.notifying - 1
      returning := cb.returning + 1 }
  | .returnZero =>
    if cb.returning = 0 then cb
    else { cb with
      returning := cb.returning - 1
      returned := cb.returned + 1
      late := cb.late + 1 }
  | .lock =>
    if cb.worker ≠ .locking then cb
    else if cb.stopping then { cb with workerRunning := false, worker := .finished }
    else if cb.pending then { cb with pending := false, worker := .due }
    else { cb with worker := .asleep }
  | .wakeSpuriously => cb.wake
  | .invoke =>
    if cb.worker ≠ .due then cb
    else { cb with
      worker := .invoking
      started := cb.started + 1
      fresh := 0
      late := 0 }
  | .invoked =>
    if cb.worker ≠ .invoking then cb
    else { cb with worker := .locking, ended := cb.ended + 1 }
  | .stopWorker =>
    if cb.stopping then { cb with repeated := cb.repeated + 1 }
    else { cb with stopping := true, pending := false, stopper := .notifying }
  | .stopNotify =>
    if cb.stopper ≠ .notifying then cb
    else { cb.wake with stopper := .joining }
  | .join =>
    -- a worker that was never created is not joinable
    if cb.stopper = .joining ∧ (cb.worker = .absent ∨ cb.worker = .finished) then
      { cb with stopper := .returned }
    else cb

/-- No invocation is due or under way. -/
def Worker.gone (worker : Worker) : Prop :=
  worker = .absent ∨ worker = .finished

/-- Activations and invocations, with who owes the next one. -/
structure Coalesced (cb : EnhancedCallback) : Prop where
  accepted : cb.accepted = cb.notifying + cb.returning + cb.returned
  /-- The thread is created once: `_worker` is not overwritten while it runs. -/
  running : cb.workerRunning = false → cb.worker.gone
  finished : cb.worker = .finished → cb.stopping = true
  alive : cb.workerRunning = true → ¬ cb.worker.gone
  ended : cb.started = cb.ended + if cb.worker = .invoking then 1 else 0
  /-- The flag, or the worker that has cleared it, owes an invocation to an activation of its
  own. -/
  started : cb.started + cb.pending.toNat + (if cb.worker = .due then 1 else 0) ≤
    cb.accepted
  fresh : 0 < cb.fresh → cb.stopping = false →
    cb.workerRunning = true ∧ (cb.pending = true ∨ cb.worker = .due)
  notified : cb.pending = true → cb.worker = .asleep → 0 < cb.notifying
  stopping : cb.stopper ≠ .none → cb.stopping = true
  joined : cb.stopper = .returned → cb.worker.gone

variable {cb : EnhancedCallback}

namespace Coalesced

lemma setPending (h : cb.Coalesced) (hrunning : cb.workerRunning = true) :
    cb.setPending.Coalesced :=
  { h with
    accepted := by
      have haccepted := h.accepted
      simp only [EnhancedCallback.setPending]
      omega
    started := by
      have hstarted := h.started
      simp only [EnhancedCallback.setPending, Bool.toNat_true]
      grind
    fresh := fun _ _ => ⟨hrunning, .inl rfl⟩
    notified := fun _ _ => Nat.succ_pos _ }

lemma createWorker (h : cb.Coalesced) (hstopping : cb.stopping = false)
    (hrunning : cb.workerRunning = false) :
    Coalesced { cb with workerRunning := true, worker := .locking } := by
  -- the worker ends in no other way than by `_stopping`
  have habsent : cb.worker = .absent := by
    obtain habsent | hfinished := h.running hrunning
    · exact habsent
    · simp [h.finished hfinished] at hstopping
  obtain ⟨haccepted, -, -, -, hended, hstarted, hfresh, -, hstopper, -⟩ := h
  constructor <;> grind [Worker.gone]

/-- A notified worker is on its way to the mutex, where it finds the flag. -/
lemma wake (h : cb.Coalesced) : cb.wake.Coalesced ∧ cb.wake.worker ≠ .asleep := by
  obtain ⟨haccepted, hrunning, hfinished, halive, hended, hstarted, hfresh, -, hstopper,
    hjoined⟩ := h
  unfold EnhancedCallback.wake
  refine ⟨?_, by grind⟩
  constructor <;> grind [Worker.gone]

lemma lock (h : cb.Coalesced) : (cb.step .lock).Coalesced := by
  obtain ⟨haccepted, hrunning, hfinished, halive, hended, hstarted, hfresh, hnotified, hstopper,
    hjoined⟩ := h
  simp only [step]
  split_ifs
  all_goals constructor <;> grind [Worker.gone]

lemma stopWorker (h : cb.Coalesced) : (cb.step .stopWorker).Coalesced := by
  obtain ⟨haccepted, hrunning, hfinished, halive, hended, hstarted, hfresh, hnotified, hstopper,
    hjoined⟩ := h
  simp only [step]
  split_ifs
  all_goals constructor <;> grind [Worker.gone]

lemma step (h : cb.Coalesced) (event : Event) : (cb.step event).Coalesced := by
  cases event with
  | activate created =>
    simp only [EnhancedCallback.step]
    split_ifs with hstopping hrunning
    · exact h
    · exact h.setPending hrunning
    · exact (h.createWorker (by simpa using hstopping) (by simpa using hrunning)).setPending rfl
    · exact h
  | notify =>
    simp only [EnhancedCallback.step]
    split_ifs with hnone
    · exact h
    · have haccepted := h.accepted
      exact { h.wake.1 with
        accepted := by simp only [EnhancedCallback.wake]; omega
        notified := fun _ hasleep => absurd hasleep h.wake.2 }
  | returnZero =>
    simp only [EnhancedCallback.step]
    split_ifs with hnone
    · exact h
    · have haccepted := h.accepted
      exact { h with accepted := by dsimp only; omega }
  | wakeSpuriously => exact h.wake.1
  | stopNotify =>
    simp only [EnhancedCallback.step]
    split_ifs with hnotifying
    · exact h
    · exact { h.wake.1 with
        stopping := fun _ => h.stopping (by simp [not_not.mp hnotifying])
        joined := nofun }
  | join =>
    simp only [EnhancedCallback.step]
    split_ifs with hjoinable
    · exact { h with
        stopping := fun _ => h.stopping (by simp [hjoinable.1])
        joined := fun _ => hjoinable.2 }
    · exact h
  | lock => exact h.lock
  | invoke | invoked =>
    obtain ⟨haccepted, hrunning, hfinished, halive, hended, hstarted, hfresh, hnotified,
      hstopper, hjoined⟩ := h
    simp only [EnhancedCallback.step]
    constructor <;> grind [Worker.gone]
  | stopWorker => exact h.stopWorker

end Coalesced

/-- The worker has ended, and no activation creates another one. -/
lemma joined_step (h : cb.Coalesced) (hreturned : cb.stopper = .returned)
    (event : Event) : (cb.step event).started = cb.started ∧
      (cb.step event).stopper = .returned := by
  have hstopping := h.stopping (by simp [hreturned])
  have hjoined := h.joined hreturned
  cases event <;> grind [step, Worker.gone, wake]

lemma joined_run (h : cb.Coalesced) (hreturned : cb.stopper = .returned)
    (later : List Event) : (run step cb later).started = cb.started := by
  induction later generalizing cb with
  | nil => rfl
  | cons event later ih =>
    obtain ⟨hstarted, hstill⟩ := joined_step h hreturned event
    exact (ih (h.step event) hstill).trans hstarted

/-- In every interleaving the invocations do not overlap, and each of them answers an activation of
its own that returns 0. While the callback is not stopping, an activation that has set `_pending`
since the last invocation started finds the worker running, which has another invocation in front
of it: `_pending` is set, or the worker has just taken it. It does not sleep through this unless a
notification is still to come. No invocation starts once the call of `stop_worker` that stops the
worker has returned. -/
theorem callback_coalesces (events : List Event) :
    let cb := run step new events
    cb.started ≤ cb.ended + 1 ∧ cb.started ≤ cb.accepted ∧
      cb.accepted = cb.notifying + cb.returning + cb.returned ∧
      (cb.stopping = false → 0 < cb.fresh →
        cb.workerRunning = true ∧ (cb.pending = true ∨ cb.worker = .due) ∧
          (cb.notifying = 0 → cb.worker ≠ .asleep)) ∧
      (cb.stopper = .returned → ∀ later, (run step cb later).started = cb.started) := by
  intro cb
  have hnew : new.Coalesced := by constructor <;> simp [new, Worker.gone]
  have h : cb.Coalesced := run_invariant (fun _ event h => h.step event) hnew events
  refine ⟨?_, ?_, h.accepted, ?_, ?_⟩
  · rw [h.ended]
    split_ifs <;> omega
  · have hstarted := h.started
    omega
  · intro hstopping hfresh
    obtain ⟨hrunning, howed⟩ := h.fresh hfresh hstopping
    refine ⟨hrunning, howed, fun hnotifying hasleep => ?_⟩
    have hpending := howed.resolve_right (by simp [hasleep])
    exact absurd (h.notified hpending hasleep) (by omega)
  · exact joined_run h

/-- The flag is taken before the activation that has set it notifies the worker. The invocation
starts while no activation has returned, and the activation then returns with the flag cleared. A
second call of `stop_worker` returns before the last invocation starts. -/
theorem callback_overtakes : (run step new [.activate true, .lock, .invoke]).returned <
      (run step new [.activate true, .lock, .invoke]).started ∧
    (let cb := run step new [.activate true, .lock, .invoke, .notify, .returnZero]
     cb.stopping = false ∧ 0 < cb.late ∧ cb.pending = false) ∧
    (let cb := run step new [.activate true, .lock, .stopWorker, .stopWorker]
     0 < cb.repeated ∧ cb.started < (cb.step .invoke).started) := by
  decide

end EnhancedCallback

end Tlss.Monitor
