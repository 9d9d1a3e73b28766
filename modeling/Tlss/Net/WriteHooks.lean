import Tlss.Net.WriteBounds

/-!
# What the owner of the write queue hears of

A connection stops reading from its peer when the write queue has reached the high water
mark, and reads again once the queue has drained. It relies on the scheduler for both:
a queue that was not empty is empty after a call only if the call said so
(`step_filled`), and no call moves the mark (`step_highWaterMark`).
-/

namespace Tlss.Net.WriteScheduler

open Library Relation

variable {s : WriteScheduler}

/-! ## The high water mark -/

@[simp] lemma emit_highWaterMark (effect : Effect) :
    (s.emit effect).highWaterMark = s.highWaterMark := rfl

@[simp] lemma setFront_highWaterMark (t : WriteTask) :
    (s.setFront t).highWaterMark = s.highWaterMark := rfl

@[simp] lemma setWriteInterest_highWaterMark (enabled : Bool) :
    (s.setWriteInterest enabled).highWaterMark = s.highWaterMark := by
  unfold setWriteInterest
  split_ifs <;> rfl

@[simp] lemma enableWriteEvent_highWaterMark :
    s.enableWriteEvent.highWaterMark = s.highWaterMark := by
  unfold enableWriteEvent
  repeat' split
  all_goals simp

@[simp] lemma checkHighWater_highWaterMark (previous : ℕ) :
    (s.checkHighWater previous).highWaterMark = s.highWaterMark := by
  unfold checkHighWater
  split_ifs <;> rfl

@[simp] lemma notifyFile_highWaterMark (t : WriteTask) (err : Option Errno) :
    (s.notifyFile t err).highWaterMark = s.highWaterMark := by
  rw [notifyFile_eq]

@[simp] lemma cancelAll_highWaterMark (err : Errno) :
    (s.cancelAll err).highWaterMark = s.highWaterMark := by
  simp [cancelAll, foldl_notifyFile]

@[simp] lemma fail_highWaterMark (err : Errno) : (s.fail err).highWaterMark = s.highWaterMark := by
  unfold fail
  split_ifs <;> simp

@[simp] lemma push_highWaterMark (t : WriteTask) (contents : Bytes) :
    (s.push t contents).highWaterMark = s.highWaterMark := by
  simp [push]

@[simp] lemma enqueueMemory_highWaterMark (d : Bytes) :
    (s.enqueueMemory d).highWaterMark = s.highWaterMark := by
  unfold enqueueMemory
  split_ifs <;> simp

@[simp] lemma enqueueFile_highWaterMark (req : FileRequest) (accepting : Bool) :
    (s.enqueueFile req accepting).highWaterMark = s.highWaterMark := by
  unfold enqueueFile
  split_ifs
  · simp
  · split <;> simp

@[simp] lemma completeFront_highWaterMark : s.completeFront.highWaterMark = s.highWaterMark := by
  unfold completeFront
  split
  · rfl
  · dsimp only
    split <;> simp

@[simp] lemma readerCall_highWaterMark (call : ReaderCall) :
    (s.readerCall call).highWaterMark = s.highWaterMark := by
  cases call <;> simp [readerCall]

@[simp] lemma callReader_highWaterMark (r : ReaderRun) :
    (s.callReader r).highWaterMark = s.highWaterMark := by
  have hcalls : ∀ calls : List ReaderCall,
      (calls.foldl readerCall s).highWaterMark = s.highWaterMark := by
    intro calls
    induction calls generalizing s with
    | nil => rfl
    | cons call calls ih => rw [List.foldl_cons, ih, readerCall_highWaterMark]
  unfold callReader
  cases r.ending <;> simp [hcalls]

@[simp] lemma requestFileRead_highWaterMark (progress : FileProgress) (read : ReadProgress)
    (rest : List WriteTask) (r : ReaderRun) :
    (s.requestFileRead progress read rest r).highWaterMark = s.highWaterMark := by
  unfold requestFileRead
  split_ifs <;> simp [beginRead]

lemma onFileRead_highWaterMark (seq : ℕ) (err : Option Errno) (d : Bytes) :
    (s.onFileRead seq err d).highWaterMark = s.highWaterMark := by
  unfold onFileRead
  split_ifs
  · rfl
  split
  · dsimp only
    split
    · rfl
    · split
      · simp
      · split <;> simp
  · rfl

@[simp] lemma accept_highWaterMark (t : WriteTask) (written : ℕ) :
    (s.accept t written).highWaterMark = s.highWaterMark := by
  unfold accept
  split_ifs <;> simp

lemma writeLoop_highWaterMark (r : ReaderRun) (steps budget : ℕ)
    (res : List SendResult) (s : WriteScheduler) :
    (writeLoop r steps budget res s).2.highWaterMark = s.highWaterMark := by
  induction steps generalizing budget res s with
  | zero => rfl
  | succ steps ih =>
    unfold writeLoop
    split
    · rfl
    · split_ifs
      · rfl
      · rw [ih, completeFront_highWaterMark]
      · split
        · split_ifs <;> simp
        · split
          · dsimp only
            split_ifs
            · simp
            · rw [ih, accept_highWaterMark]
          · split_ifs
            · exact ih _ _ _
            · rfl
            · simp

lemma onWritable_highWaterMark (res : List SendResult) (r : ReaderRun) :
    (s.onWritable res r).highWaterMark = s.highWaterMark := by
  have hloop := writeLoop_highWaterMark r kWriteSteps kWriteBudget res s
  unfold onWritable
  split_ifs
  · rfl
  · split
    · rename_i later hresult
      rwa [hresult] at hloop
    · rename_i later hresult
      rw [hresult] at hloop
      split_ifs <;> simpa using hloop

lemma step_highWaterMark {e : Event} (hevent : ∀ bytes, e ≠ .setHighWaterMark bytes) :
    (s.step e).highWaterMark = s.highWaterMark := by
  cases e with
  | enqueueMemory d => exact enqueueMemory_highWaterMark d
  | enqueueFile req accepting => exact enqueueFile_highWaterMark req accepting
  | onWritable res r => exact onWritable_highWaterMark res r
  | onFileRead seq err d => exact onFileRead_highWaterMark seq err d
  | cancelAll err => exact cancelAll_highWaterMark err
  | setHighWaterMark bytes => exact absurd rfl (hevent bytes)

/-! ## The queue becomes empty -/

def Filled (scheduler : WriteScheduler) : Prop :=
  scheduler.stopped = true ∨ scheduler.writes ≠ []

lemma filled_fail (s : WriteScheduler) (err : Errno) : (s.fail err).Filled :=
  .inl (fail_stopped s err)

@[simp] lemma enableWriteEvent_writes : s.enableWriteEvent.writes = s.writes := by
  unfold enableWriteEvent
  repeat' split
  all_goals simp

@[simp] lemma checkHighWater_writes (previous : ℕ) :
    (s.checkHighWater previous).writes = s.writes := by
  unfold checkHighWater
  split_ifs <;> rfl

lemma filled_push (t : WriteTask) (contents : Bytes) : (s.push t contents).Filled :=
  .inr (by simp [push, emit])

lemma Filled.enqueueMemory (hfilled : s.Filled) (d : Bytes) : (s.enqueueMemory d).Filled := by
  unfold WriteScheduler.enqueueMemory
  split_ifs
  · exact hfilled
  · exact filled_fail s _
  · exact filled_push _ _

lemma Filled.enqueueFile (hfilled : s.Filled) (req : FileRequest)
    (accepting : Bool) : (s.enqueueFile req accepting).Filled := by
  unfold WriteScheduler.enqueueFile
  split_ifs
  · rw [notifyFile_eq]
    exact hfilled
  · split
    · exact filled_fail _ _
    · exact filled_push _ _

lemma Filled.callReader (hfilled : s.Filled) (r : ReaderRun) : (s.callReader r).Filled := by
  have hcalls : ∀ calls : List ReaderCall, (calls.foldl readerCall s).Filled := by
    intro calls
    induction calls generalizing s with
    | nil => exact hfilled
    | cons call calls ih =>
      refine ih ?_
      cases call with
      | enqueueMemory d => exact hfilled.enqueueMemory d
      | enqueueFile req accepting => exact hfilled.enqueueFile req accepting
      | cancelAll err => exact .inl (cancelAll_stopped s err)
  unfold WriteScheduler.callReader
  cases r.ending with
  | returns => exact hcalls r.calls
  | throwsSystemError code | throwsOther => exact filled_fail _ _

lemma filled_requestFileRead (progress : FileProgress) (read : ReadProgress)
    (rest : List WriteTask) (r : ReaderRun) : (s.requestFileRead progress read rest r).Filled := by
  unfold requestFileRead
  split_ifs
  · exact filled_fail _ _
  · exact Filled.callReader (.inr (by simp [beginRead])) r

lemma Filled.onFileRead (hfilled : s.Filled) (seq : ℕ) (err : Option Errno)
    (d : Bytes) : (s.onFileRead seq err d).Filled := by
  unfold WriteScheduler.onFileRead
  split_ifs
  · exact hfilled
  split
  · dsimp only
    split
    · exact hfilled
    · split
      · exact filled_fail _ _
      · split
        · exact filled_fail _ _
        · exact .inr (by simp [setFront])
  · exact hfilled

/-- The loop of `on_writable` returns from the function only with a task in front, or after
a failure. -/
lemma filled_of_returned (r : ReaderRun) (steps budget : ℕ) (res : List SendResult)
    (s : WriteScheduler) (hreturned : (writeLoop r steps budget res s).1 = .returned) :
    (writeLoop r steps budget res s).2.Filled := by
  induction steps generalizing budget res s with
  | zero => cases hreturned
  | succ steps ih =>
    unfold writeLoop at hreturned ⊢
    split
    · rename_i hwrites
      simp only [hwrites] at hreturned
      cases hreturned
    · rename_i t rest hwrites
      simp only [hwrites] at hreturned
      have hfront : s.Filled := .inr (by simp [hwrites])
      split_ifs at hreturned ⊢
      · exact ih _ _ _ hreturned
      · split at hreturned
        · split_ifs
          · exact .inr (by simp [hwrites])
          · exact filled_requestFileRead _ _ _ _
        · split at hreturned
          · dsimp only at hreturned ⊢
            split_ifs at hreturned ⊢
            · exact filled_fail _ _
            · exact ih _ _ _ hreturned
          · split_ifs at hreturned ⊢
            · exact ih _ _ _ hreturned
            · exact hfront
            · exact filled_fail _ _

lemma Moves.trace_prefix {known : FileProgress → ReadProgress → Bytes → Prop}
    {before after : WriteScheduler} (hmoves : Moves known before after) :
    before.trace <+: after.trace := by
  induction hmoves with
  | refl => exact List.prefix_refl _
  | tail _ hmove ih => exact ih.trans (by cases hmove <;> simp)

def effects (scheduler : WriteScheduler) (event : Event) : List Effect :=
  (scheduler.step event).trace.drop scheduler.trace.length

lemma Filled.onWritable (hfilled : s.Filled) (res : List SendResult)
    (r : ReaderRun) : (s.onWritable res r).Filled ∨ .drained ∈ s.effects (.onWritable res r) := by
  have hmoves : Moves (fun _ _ _ => True) s _ :=
    moves_writeLoop r kWriteSteps kWriteBudget res s
  have hreturned := filled_of_returned r kWriteSteps kWriteBudget res s
  by_cases hidle : (s.stopped || !s.writeEnabled) = true
  · exact .inl (by rw [WriteScheduler.onWritable, if_pos hidle]; exact hfilled)
  rcases hresult : writeLoop r kWriteSteps kWriteBudget res s with ⟨ending, later⟩
  rw [hresult] at hmoves hreturned
  simp only [effects, step, WriteScheduler.onWritable, if_neg hidle, hresult]
  cases ending with
  | returned => exact .inl (hreturned rfl)
  | left =>
    dsimp only
    split_ifs with hempty
    · -- The code behind the loop finds the queue empty and says so.
      obtain ⟨rest, hrest⟩ :=
        Moves.trace_prefix (hmoves.trans (moves_setWriteInterest later false))
      exact .inr (by simp [emit, ← hrest])
    · exact .inl (.inr fun hnil => hempty (by rw [hnil]; rfl))

lemma step_filled (hfilled : s.Filled) (e : Event) :
    (s.step e).Filled ∨ .drained ∈ s.effects e := by
  cases e with
  | enqueueMemory d => exact .inl (hfilled.enqueueMemory d)
  | enqueueFile req accepting => exact .inl (hfilled.enqueueFile req accepting)
  | onWritable res r => exact hfilled.onWritable res r
  | onFileRead seq err d => exact .inl (hfilled.onFileRead seq err d)
  | cancelAll err => exact .inl (.inl (cancelAll_stopped s err))
  | setHighWaterMark bytes =>
    simp only [step, setHighWaterMark]
    split_ifs
    · exact .inl hfilled
    · exact .inl hfilled

end Tlss.Net.WriteScheduler
