import Tlss.Net.WriteScheduler

/-!
# What a call of the scheduler can do

Every call of the write scheduler is a sequence of moves: a task is accepted or
refused, the socket accepts bytes of the front task, the front task is complete,
a read begins or ends, everything is cancelled, or a hook is called. `moves_step`
says so, once; the invariants of the scheduler are proved for the moves.

A read ends with a chunk the environment delivers. The moves are parametrised by
what is known of such chunks.
-/

namespace Tlss.Net

open Library Relation List WriteTask ReflTransGen

def WriteTask.posts (task : WriteTask) (error : Option Errno) : List Effect :=
  match task.fileProgress with
  | none => []
  | some progress =>
    if progress.callback then [.posted progress.number error progress.sent] else []

variable {t : WriteTask}

lemma WriteTask.completed_of_remaining
    (hdone : t.fileProgress.any (·.remaining = 0)) : t.completed := by
  cases t with
  | memory write => simp [fileProgress] at hdone
  | sendFile prog | asyncReader prog read =>
    simpa [fileProgress, completed] using hdone

lemma WriteTask.needsRead_eq_some {prog : FileProgress}
    {read : ReadProgress} (hneeds : t.needsRead = some (prog, read)) :
    t = .asyncReader prog read ∧ read.data = [] := by
  cases t with
  | memory write | sendFile prog => cases hneeds
  | asyncReader progress' read' =>
    simp only [needsRead] at hneeds
    split_ifs at hneeds with hdata
    cases hneeds
    exact ⟨rfl, hdata⟩

/-- A hook that tells the owner about interest, high water or failure. -/
inductive Effect.IsSignal : Effect → Prop where
  | writeInterest (enabled : Bool) : IsSignal (.writeInterest enabled)
  | highWater (bytes : ℕ) : IsSignal (.highWater bytes)
  | failed (error : Errno) : IsSignal (.failed error)

namespace WriteScheduler

inductive Move (known : FileProgress → ReadProgress → Bytes → Prop) :
    WriteScheduler → WriteScheduler → Prop where
  | signal (scheduler : WriteScheduler) (enabled : Bool) {effect : Effect}
      (hsignal : effect.IsSignal) :
      Move known scheduler
        { scheduler with writeEnabled := enabled, trace := scheduler.trace ++ [effect] }
  | highWaterMark (scheduler : WriteScheduler) (bytes : ℕ) :
      Move known scheduler { scheduler with highWaterMark := bytes }
  | acceptMemory (scheduler : WriteScheduler) {data : Bytes} (hrunning : scheduler.stopped = false)
      (hdata : data ≠ []) (htasks : scheduler.writes.length < kMaxPendingTasks)
      (hroom : data.length ≤ wrapSub kMaxPendingBytes scheduler.pendingMemoryBytes) :
      Move known scheduler
        { scheduler with
          writes := scheduler.writes ++ [.memory ⟨data, 0⟩]
          pendingMemoryBytes := scheduler.pendingMemoryBytes + data.length
          trace := scheduler.trace ++ [.accepted data] }
  | acceptFile (scheduler : WriteScheduler) (request : FileRequest)
      (hrunning : scheduler.stopped = false) (hprepared : request.error = none)
      (htasks : scheduler.writes.length < kMaxPendingTasks)
      (hfiles : scheduler.pendingFiles < kMaxPendingFiles)
      (hroom : (request.task 0).charge ≤ wrapSub kMaxPendingBytes scheduler.pendingMemoryBytes) :
      Move known scheduler
        { scheduler with
          requests := scheduler.requests ++ [request]
          writes := scheduler.writes ++ [request.task scheduler.requests.length]
          pendingFiles := scheduler.pendingFiles + 1
          pendingMemoryBytes := scheduler.pendingMemoryBytes + (request.task 0).charge
          trace := scheduler.trace ++ [.accepted request.contents] }
  | refuse (scheduler : WriteScheduler) (request : FileRequest) (error : Errno) :
      Move known scheduler
        { scheduler with
          requests := scheduler.requests ++ [request]
          trace := scheduler.trace ++
            (request.task scheduler.requests.length).posts (some error) }
  | cancel (scheduler : WriteScheduler) (error : Errno) :
      Move known scheduler
        { scheduler with
          stopped := true
          writes := []
          pendingMemoryBytes := 0
          pendingFiles := 0
          trace := scheduler.trace ++ scheduler.writes.flatMap (·.posts (some error)) }
  | complete (scheduler : WriteScheduler) {task : WriteTask} {rest : List WriteTask}
      (hwrites : scheduler.writes = task :: rest) (hcompleted : task.completed = true) :
      Move known scheduler
        { scheduler with
          writes := rest
          pendingMemoryBytes := wrapSub scheduler.pendingMemoryBytes task.charge
          pendingFiles :=
            wrapSub scheduler.pendingFiles (if task.fileProgress.isSome then 1 else 0)
          trace := scheduler.trace ++
            (task.fileProgress.map fun progress => Effect.completed progress.number).toList ++
            task.posts none }
  | send (scheduler : WriteScheduler) {task : WriteTask} {rest : List WriteTask} {written : ℕ}
      (hwrites : scheduler.writes = task :: rest) (hsome : 0 < written)
      (havailable : written ≤ task.available.length) :
      Move known scheduler
        { scheduler with
          writes := task.advance written :: rest
          trace := scheduler.trace ++
            [.sent (task.fileProgress.map FileProgress.number) (task.available.take written)] }
  | beginRead (scheduler : WriteScheduler) {progress : FileProgress} {read : ReadProgress}
      {rest : List WriteTask} (hwrites : scheduler.writes = .asyncReader progress read :: rest)
      (hdata : read.data = []) (hidle : read.readPending = false)
      (hremaining : progress.remaining ≠ 0) :
      Move known scheduler
        { scheduler with
          nextReadSequence := scheduler.nextReadSequence + 1
          writes := .asyncReader progress
            { read with
              readPending := true
              readSequence := scheduler.nextReadSequence + 1
              readSize := min progress.remaining kAsyncFileChunk } :: rest }
  | dropRead (scheduler : WriteScheduler) {progress : FileProgress} {read : ReadProgress}
      {rest : List WriteTask} (hwrites : scheduler.writes = .asyncReader progress read :: rest)
      (hpending : read.readPending = true) :
      Move known scheduler
        { scheduler with
          writes := .asyncReader progress { read with readPending := false } :: rest }
  | deliver (scheduler : WriteScheduler) {progress : FileProgress} {read : ReadProgress}
      {rest : List WriteTask} {data : Bytes}
      (hwrites : scheduler.writes = .asyncReader progress read :: rest)
      (hpending : read.readPending = true) (hsize : data.length = read.readSize)
      (hremaining : data.length ≤ progress.remaining) (hreserved : data.length ≤ read.reservation)
      (hknown : known progress read data) :
      Move known scheduler
        { scheduler with
          writes := .asyncReader progress
            { read with readPending := false, data := data, dataOffset := 0 } :: rest }
  | drain (scheduler : WriteScheduler) (hrunning : scheduler.stopped = false)
      (hwrites : scheduler.writes = []) :
      Move known scheduler { scheduler with trace := scheduler.trace ++ [.drained] }

abbrev Moves (known : FileProgress → ReadProgress → Bytes → Prop) :=
  ReflTransGen (Move known)

variable {known : FileProgress → ReadProgress → Bytes → Prop} {s : WriteScheduler}
  {rest : List WriteTask} {s}

/-! ## Notifications and cancellation -/

lemma notifyFile_eq (s : WriteScheduler) (t : WriteTask) (err : Option Errno) :
    s.notifyFile t err = { s with trace := s.trace ++ t.posts err } := by
  unfold notifyFile posts
  cases t.fileProgress with
  | none => simp
  | some prog =>
    dsimp only
    split_ifs <;> simp [emit]

lemma foldl_notifyFile (tasks : List WriteTask) (err : Option Errno) (s : WriteScheduler) :
    tasks.foldl (fun s t => s.notifyFile t err) s =
      { s with trace := s.trace ++ tasks.flatMap (·.posts err) } := by
  induction tasks generalizing s with
  | nil => simp
  | cons t tasks ih =>
    rw [foldl_cons, ih, notifyFile_eq, flatMap_cons, append_assoc]

variable (s)

lemma moves_setWriteInterest (enabled : Bool) : Moves known s (s.setWriteInterest enabled) := by
  unfold setWriteInterest
  split_ifs
  · exact .refl
  · exact .single (.signal s enabled (.writeInterest enabled))

lemma moves_enableWriteEvent : Moves known s s.enableWriteEvent := by
  unfold enableWriteEvent
  split_ifs
  · exact .refl
  · split
    · exact .refl
    · split_ifs
      · exact .refl
      · exact moves_setWriteInterest s true

lemma moves_checkHighWater (previous : ℕ) : Moves known s (s.checkHighWater previous) := by
  unfold checkHighWater
  split_ifs
  · exact .single (.signal s s.writeEnabled (.highWater _))
  · exact .refl

lemma moves_cancelAll (err : Errno) : Moves known s (s.cancelAll err) := by
  unfold cancelAll
  simp only [foldl_notifyFile]
  unfold setWriteInterest
  split_ifs
  · exact .single (.cancel s err)
  · have hquiet : Move known s _ := .signal s false (.writeInterest false)
    exact (single hquiet).tail (.cancel _ err)

lemma moves_fail (err : Errno) : Moves known s (s.fail err) := by
  unfold fail
  split_ifs
  · exact .refl
  · exact (moves_cancelAll s err).tail (.signal _ _ (.failed err))

/-! ## Tasks enter the queue -/

lemma moves_enqueueMemory (d : Bytes) : Moves known s (s.enqueueMemory d) := by
  unfold enqueueMemory
  split_ifs with hidle hfull
  · exact .refl
  · exact moves_fail s .ENOBUFS
  · rw [not_or, Bool.not_eq_true] at hidle
    rw [not_or, not_le, not_lt] at hfull
    have haccept : Move known s _ :=
      .acceptMemory s hidle.1 hidle.2 hfull.1 hfull.2
    exact (single haccept).trans
      ((moves_enableWriteEvent _).trans (moves_checkHighWater _ _))

lemma charge_task (req : FileRequest) (number : ℕ) :
    (req.task number).charge = (req.task 0).charge := by
  cases req <;> rfl

lemma isSome_fileProgress_task (req : FileRequest) (number : ℕ) :
    (req.task number).fileProgress.isSome := by
  cases req <;> rfl

lemma moves_enqueueFile (req : FileRequest) (accepting : Bool) :
    Moves known s (s.enqueueFile req accepting) := by
  unfold enqueueFile
  dsimp only
  rw [notifyFile_eq]
  split_ifs with hrefused
  · exact .single (.refuse s req .ENOTCONN)
  · rw [not_or, Bool.not_eq_true] at hrefused
    cases herror : s.admissionError req with
    | some err =>
      dsimp only
      rw [notifyFile_eq]
      exact (single (.refuse s req err)).trans (moves_fail _ err)
    | none =>
      unfold admissionError at herror
      cases hprepared : req.error with
      | some err => simp [hprepared] at herror
      | none =>
        simp only [hprepared] at herror
        split_ifs at herror with hfull
        rw [not_or, not_or, not_le, not_le, not_lt] at hfull
        unfold push
        simp only [charge_task, isSome_fileProgress_task, if_true]
        exact (single
            (.acceptFile s req hrefused.1 hprepared hfull.1 hfull.2.1 hfull.2.2)).trans
          ((moves_enableWriteEvent _).trans (moves_checkHighWater _ _))

/-! ## Reads -/

lemma moves_callReader (r : ReaderRun) : Moves known s (s.callReader r) := by
  have hcalls : ∀ (calls : List ReaderCall) (s : WriteScheduler),
      Moves known s (calls.foldl readerCall s) := by
    intro calls
    induction calls with
    | nil => exact fun _ => .refl
    | cons call calls ih =>
      intro s
      refine .trans ?_ (ih _)
      cases call with
      | enqueueMemory d => exact moves_enqueueMemory s d
      | enqueueFile req accepting => exact moves_enqueueFile s req accepting
      | cancelAll err => exact moves_cancelAll s err
  unfold callReader
  cases r.ending with
  | returns => exact hcalls _ _
  | throwsSystemError code | throwsOther => exact (hcalls _ _).trans (moves_fail _ _)

/-- The chunk that `on_file_read` takes, if it takes one, is known. -/
def Delivers (known : FileProgress → ReadProgress → Bytes → Prop) (scheduler : WriteScheduler)
    (sequence : ℕ) (data : Bytes) : Prop :=
  ∀ progress read rest, scheduler.writes = .asyncReader progress read :: rest →
    read.readPending = true → read.readSequence = sequence → data.length = read.readSize →
    known progress read data

lemma moves_onFileRead (seq : ℕ) (err : Option Errno)
    (d : Bytes) (hknown : err = none → s.Delivers known seq d) :
    Moves known s (s.onFileRead seq err d) := by
  unfold onFileRead
  split_ifs
  · exact .refl
  · split
    · rename_i prog read rest hwr
      split_ifs with hstale
      · exact .refl
      · rw [Bool.not_eq_true, Bool.or_eq_false_iff, Bool.not_eq_false', decide_eq_false_iff_not,
          not_not] at hstale
        obtain ⟨hpending, hsequence⟩ := hstale
        have hdrop : Moves known s
            (s.setFront (.asyncReader prog { read with readPending := false })) := by
          simp only [setFront, hwr, tail_cons]
          exact .single (.dropRead s hwr hpending)
        cases err with
        | some err => exact hdrop.trans (moves_fail _ err)
        | none =>
          dsimp only
          split_ifs with hsize
          · exact hdrop.trans (moves_fail _ Errno.EIO)
          · rw [not_or, not_or, not_not, not_lt, not_lt] at hsize
            have hdeliver : Move known s _ :=
              .deliver s hwr hpending hsize.1 hsize.2.1 hsize.2.2
                (hknown rfl prog read rest hwr hpending hsequence hsize.1)
            simp only [setFront, hwr, tail_cons]
            exact (single hdeliver).trans (moves_enableWriteEvent _)
    · exact .refl

/-! ## Sending -/

lemma moves_completeFront (hwr : s.writes = t :: rest)
    (hcompleted : t.completed) : Moves known s s.completeFront := by
  have hcomplete : Move known s _ := .complete s hwr hcompleted
  refine .single ?_
  unfold completeFront
  simp only [hwr, notifyFile_eq]
  cases hprogress : t.fileProgress with
  | none => simpa [hprogress, posts] using hcomplete
  | some prog => simpa [hprogress, emit] using hcomplete

lemma moves_accept {written : ℕ} (hwr : s.writes = t :: rest) (hsome : 0 < written)
    (havailable : written ≤ t.available.length) : Moves known s (s.accept t written) := by
  have hsend : Move known s _ := .send s hwr hsome havailable
  unfold accept
  simp only [setFront, hwr, tail_cons]
  split_ifs with hcompleted
  · exact (single hsend).trans (moves_completeFront _ rfl hcompleted)
  · exact .single hsend

lemma moves_writeLoop (r : ReaderRun) (steps budget : ℕ) (res : List SendResult)
    (s : WriteScheduler) : Moves known s (writeLoop r steps budget res s).2 := by
  induction steps generalizing budget res s with
  | zero => exact .refl
  | succ steps ih =>
    unfold writeLoop
    split
    · exact .refl
    · rename_i t rest hwr
      split_ifs with hbudget hdone
      · exact .refl
      · exact (moves_completeFront s hwr (completed_of_remaining hdone)).trans (ih _ _ _)
      · split
        · -- the next chunk has to be read
          rename_i prog read hneeds
          obtain ⟨rfl, hdata⟩ := needsRead_eq_some hneeds
          split_ifs with hpending
          · exact moves_setWriteInterest s false
          · unfold requestFileRead
            split_ifs
            · exact moves_fail s .EOVERFLOW
            · exact (single (.beginRead s hwr hdata (Bool.not_eq_true _ ▸
                hpending) (by simpa [fileProgress] using hdone))).trans
                ((moves_setWriteInterest _ false).trans (moves_callReader _ r))
        · split
          · rename_i count _
            dsimp only
            split_ifs with hzero
            · exact moves_fail s Errno.EIO
            · exact (moves_accept s hwr (pos_of_ne_zero hzero) (by omega)).trans (ih _ _ _)
          · split_ifs
            · exact ih _ _ _
            · exact .refl
            · exact moves_fail s _

@[simp] lemma completeFront_stopped (s : WriteScheduler) : s.completeFront.stopped = s.stopped := by
  unfold completeFront
  split
  · rfl
  · dsimp only
    split
    · rfl
    · rw [notifyFile_eq]
      rfl

@[simp] lemma accept_stopped (s : WriteScheduler) (t : WriteTask) (written : ℕ) :
    (s.accept t written).stopped = s.stopped := by
  unfold accept
  split_ifs
  · rw [completeFront_stopped]
    rfl
  · rfl

lemma writeLoop_left (r : ReaderRun) (steps budget : ℕ) (res : List SendResult)
    (s : WriteScheduler) (hleft : (writeLoop r steps budget res s).1 = .left) :
    (writeLoop r steps budget res s).2.stopped = s.stopped := by
  induction steps generalizing budget res s with
  | zero => rfl
  | succ steps ih =>
    unfold writeLoop at hleft ⊢
    split
    · rfl
    · rename_i t rest hwr
      simp only [hwr] at hleft
      split_ifs at hleft ⊢
      · rfl
      · exact (ih _ _ _ hleft).trans (completeFront_stopped s)
      · split at hleft
        · cases hleft
        · split at hleft
          · dsimp only at hleft ⊢
            split_ifs at hleft ⊢
            exact (ih _ _ _ hleft).trans (accept_stopped s _ _)
          · split_ifs at hleft ⊢
            exact ih _ _ _ hleft

@[simp] lemma setWriteInterest_writes (s : WriteScheduler) (enabled : Bool) :
    (s.setWriteInterest enabled).writes = s.writes := by
  unfold setWriteInterest
  split_ifs <;> rfl

@[simp] lemma setWriteInterest_stopped (s : WriteScheduler) (enabled : Bool) :
    (s.setWriteInterest enabled).stopped = s.stopped := by
  unfold setWriteInterest
  split_ifs <;> rfl

lemma moves_onWritable (s : WriteScheduler) (res : List SendResult)
    (r : ReaderRun) : Moves known s (s.onWritable res r) := by
  unfold onWritable
  split_ifs with hidle
  · exact .refl
  · have hrunning : s.stopped = false := by
      simp only [Bool.or_eq_true, not_or, Bool.not_eq_true] at hidle
      exact hidle.1
    have hloop : Moves known s _ :=
      moves_writeLoop r kWriteSteps kWriteBudget res s
    have hleft := writeLoop_left r kWriteSteps kWriteBudget res s
    rcases hresult : writeLoop r kWriteSteps kWriteBudget res s
      with ⟨ending, later⟩
    rw [hresult] at hloop hleft
    cases ending with
    | returned => exact hloop
    | left =>
      dsimp only
      split_ifs with hempty
      · refine hloop.trans ((moves_setWriteInterest later false).tail (.drain _ ?_ ?_))
        · rw [setWriteInterest_stopped, hleft rfl, hrunning]
        · rw [setWriteInterest_writes, isEmpty_iff.mp hempty]
      · exact hloop

lemma moves_step (s : WriteScheduler) (event : Event)
    (hknown : ∀ seq d, event = .onFileRead seq none d →
      s.Delivers known seq d) : Moves known s (s.step event) := by
  cases event with
  | enqueueMemory d => exact moves_enqueueMemory s d
  | enqueueFile req accepting => exact moves_enqueueFile s req accepting
  | onWritable res r => exact moves_onWritable s res r
  | onFileRead seq err d =>
    refine moves_onFileRead s seq err d fun hnone => ?_
    subst hnone
    exact hknown seq d rfl
  | cancelAll err => exact moves_cancelAll s err
  | setHighWaterMark bytes =>
    simp only [step, setHighWaterMark]
    split_ifs
    · exact .refl
    · exact .single (.highWaterMark s bytes)

lemma Moves.invariant {Inv : WriteScheduler → Prop} {before after : WriteScheduler}
    (hmove : ∀ before after, Inv before → Move known before after → Inv after)
    (hmoves : Moves known before after) (hbefore : Inv before) : Inv after := by
  induction hmoves with
  | refl => exact hbefore
  | tail _ hlast ih => exact hmove _ _ ih hlast

end WriteScheduler

end Tlss.Net
