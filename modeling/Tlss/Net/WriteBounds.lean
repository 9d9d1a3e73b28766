import Tlss.Net.WriteMoves

/-!
# The bounds of the write queue

The counters of the scheduler are what the queue adds up to, and stay within their
limits, so the unsigned subtractions never wrap around. Only the front task may
have a read under way or a chunk at hand. All of this is kept by every move
(`Move.bounded`).

Whether the scheduler is interested in writing is right between two calls only: the
loop of `on_writable` empties the queue before it gives up the interest.
-/

namespace Tlss.Net

open Library Relation List WriteTask

lemma wrapSub_of_le {left right : ℕ} (hle : right ≤ left) : wrapSub left right = left - right :=
  if_pos hle

@[simp] lemma length_fileBytes (file : FileContents) (offset : ℤ) (count : ℕ) :
    (fileBytes file offset count).length = count := by
  simp [fileBytes]

variable {task : WriteTask} {written : ℕ}

namespace WriteTask

def Waiting : WriteTask → Prop
  | .asyncReader _ read => read.readPending = false ∧ read.data = []
  | _ => True

lemma Waiting.idle (h : task.Waiting) : task.readPending = false := by
  cases task with
  | memory write | sendFile prog => rfl
  | asyncReader prog read => exact h.1

/-- A task that is read in chunks asks for no more than it has reserved, one chunk at
a time, and has no more at hand than is left to send. -/
def Reserved : WriteTask → Prop
  | .asyncReader progress read =>
    min progress.remaining kAsyncFileChunk ≤ read.reservation ∧
      (read.readPending = true →
        read.data = [] ∧ read.readSize = min progress.remaining kAsyncFileChunk) ∧
      read.data.length - read.dataOffset ≤ progress.remaining
  | _ => True

lemma Reserved.written_le (h : task.Reserved) {prog : FileProgress}
    (hprogress : task.fileProgress = some prog) : task.available.length ≤ prog.remaining := by
  cases task with
  | memory write => cases hprogress
  | sendFile _ =>
    cases hprogress
    simp [available]
  | asyncReader _ read =>
    cases hprogress
    simpa [available] using h.2.2

@[simp] lemma charge_advance (task : WriteTask) (written : ℕ) :
    (task.advance written).charge = task.charge := by
  cases task with
  | memory write | sendFile prog => rfl
  | asyncReader prog read =>
    simp only [advance, charge, ReadProgress.advance]
    split_ifs <;> rfl

@[simp] lemma readPending_advance (task : WriteTask) (written : ℕ) :
    (task.advance written).readPending = task.readPending := by
  cases task with
  | memory write | sendFile prog => rfl
  | asyncReader prog read =>
    simp only [advance, readPending, ReadProgress.advance]
    split_ifs <;> rfl

@[simp] lemma isSome_fileProgress_advance (task : WriteTask) (written : ℕ) :
    (task.advance written).fileProgress.isSome = task.fileProgress.isSome := by
  cases task <;> rfl

lemma Reserved.advance (h : task.Reserved)
    (havailable : written ≤ task.available.length) (hsome : 0 < written) :
    (task.advance written).Reserved := by
  cases task with
  | memory write | sendFile prog => trivial
  | asyncReader prog read =>
    obtain ⟨hreserved, hpend, hdata⟩ := h
    simp only [available, length_drop] at havailable
    have hleft : (prog.advance written).remaining = prog.remaining - written :=
      wrapSub_of_le (by omega)
    have hnotPending : read.readPending ≠ true := by
      intro hreading
      rw [(hpend hreading).1] at havailable
      simp at havailable
      omega
    simp only [advance, Reserved, hleft, ReadProgress.advance]
    split_ifs with hsent
    · refine ⟨?_, fun hreading => absurd hreading hnotPending, by simp⟩
      exact le_trans (by omega) hreserved
    · refine ⟨?_, fun hreading => absurd hreading hnotPending, by dsimp only; omega⟩
      exact le_trans (by omega) hreserved

end WriteTask

namespace WriteScheduler

/-- The counters count the queue, within their limits. -/
structure Bounded (scheduler : WriteScheduler) : Prop where
  memory_eq : scheduler.pendingMemoryBytes = (scheduler.writes.map charge).sum
  memory_le : scheduler.pendingMemoryBytes ≤ kMaxPendingBytes
  files_eq : scheduler.pendingFiles = scheduler.writes.countP (·.fileProgress.isSome)
  files_le : scheduler.pendingFiles ≤ kMaxPendingFiles
  tasks_le : scheduler.writes.length ≤ kMaxPendingTasks
  waiting : ∀ task ∈ scheduler.writes.tail, task.Waiting
  reserved : ∀ task ∈ scheduler.writes, task.Reserved
  stopped : scheduler.stopped = true → scheduler.writes = []

variable {known : FileProgress → ReadProgress → Bytes → Prop}
  {scheduler pre after later : WriteScheduler} {rest : List WriteTask}

lemma new_bounded : new.Bounded := by
  constructor <;> simp [new]

lemma Bounded.setFront (h : scheduler.Bounded) {task changed : WriteTask}
    (hwr : scheduler.writes = task :: rest) (hlater : later.writes = changed :: rest)
    (hmemory : later.pendingMemoryBytes = scheduler.pendingMemoryBytes)
    (hfiles : later.pendingFiles = scheduler.pendingFiles)
    (hstopped : later.stopped = scheduler.stopped) (hcharge : changed.charge = task.charge)
    (hkind : changed.fileProgress.isSome = task.fileProgress.isSome)
    (hreserved : changed.Reserved) : later.Bounded := by
  obtain ⟨hmemory_eq, hmemory_le, hfiles_eq, hfiles_le, htasks_le, hwaiting, hall, hstop⟩ := h
  simp only [hwr, map_cons, sum_cons, countP_cons, length_cons,
    tail_cons, forall_mem_cons] at hmemory_eq hfiles_eq htasks_le hwaiting hall hstop
  constructor
  · simp [hlater, hmemory, hmemory_eq, hcharge]
  · rw [hmemory]
    exact hmemory_le
  · simp [hlater, hfiles, hfiles_eq, hkind, countP_cons]
  · rw [hfiles]
    exact hfiles_le
  · simpa [hlater] using htasks_le
  · simpa [hlater] using hwaiting
  · rw [hlater]
    exact forall_mem_cons.mpr ⟨hreserved, hall.2⟩
  · rw [hstopped]
    intro hdone
    cases hstop hdone

lemma Bounded.push (h : scheduler.Bounded)
    (hrun : later.stopped = false) (hlater : later.writes = scheduler.writes ++ [task])
    (hmemory : later.pendingMemoryBytes = scheduler.pendingMemoryBytes + task.charge)
    (hfiles : later.pendingFiles =
      scheduler.pendingFiles + if task.fileProgress.isSome then 1 else 0)
    (htasks : scheduler.writes.length < kMaxPendingTasks)
    (hfiles_le : later.pendingFiles ≤ kMaxPendingFiles)
    (hroom : task.charge ≤ wrapSub kMaxPendingBytes scheduler.pendingMemoryBytes)
    (hwaiting : task.Waiting) (hreserved : task.Reserved) : later.Bounded := by
  have hmemory_le := h.memory_le
  rw [wrapSub_of_le hmemory_le] at hroom
  constructor
  · simp [hlater, hmemory, h.memory_eq]
  · omega
  · simp [hlater, hfiles, h.files_eq, countP_append, countP_singleton]
  · exact hfiles_le
  · simp only [hlater, length_append, length_singleton]
    omega
  · intro y hne
    rw [hlater] at hne
    rcases hwr : scheduler.writes with _ | ⟨front, rest⟩
    · simp [hwr] at hne
    · rw [hwr, cons_append, tail_cons, mem_append, mem_singleton] at hne
      rcases hne with hold | rfl
      · exact h.waiting y (by rw [hwr]; exact hold)
      · exact hwaiting
  · intro y hne
    rw [hlater, mem_append, mem_singleton] at hne
    rcases hne with hold | rfl
    · exact h.reserved y hold
    · exact hreserved
  · simp [hrun]

lemma waiting_task (req : FileRequest) (number : ℕ) : (req.task number).Waiting := by
  cases req with
  | sendFile => trivial
  | asyncReader => exact ⟨rfl, rfl⟩

lemma reserved_task (req : FileRequest) (number : ℕ) : (req.task number).Reserved := by
  cases req with
  | sendFile => trivial
  | asyncReader => exact ⟨le_refl _, nofun, Nat.zero_le _⟩

lemma Move.bounded (h : pre.Bounded) (hmove : Move known pre after) : after.Bounded := by
  cases hmove with
  | signal enabled hsignal | highWaterMark bytes | refuse req error | drain hrun hwr =>
    exact { h with }
  | @acceptMemory d hrun hdata htasks hroom =>
    exact h.push hrun rfl rfl rfl htasks h.files_le hroom trivial trivial
  | acceptFile req hrun hprepared htasks hfiles hroom =>
    refine h.push hrun rfl ?_ ?_ htasks hfiles ?_ (waiting_task req _) (reserved_task req _)
    · rw [charge_task req pre.requests.length]
    · rw [isSome_fileProgress_task]
      rfl
    · rwa [charge_task]
  | cancel error => constructor <;> simp
  | @complete task rest hwr hcompleted =>
    have hmemory := h.memory_eq
    have hfiles := h.files_eq
    have hmemory_le := h.memory_le
    have hfiles_le := h.files_le
    have htasks := h.tasks_le
    simp only [hwr, map_cons, sum_cons, countP_cons, length_cons] at hmemory hfiles htasks
    have hwaiting : ∀ y ∈ rest, y.Waiting := by
      simpa [hwr] using h.waiting
    have hpend : wrapSub pre.pendingMemoryBytes task.charge =
        (rest.map charge).sum := by
      rw [wrapSub_of_le (by omega)]
      omega
    have hleft : wrapSub pre.pendingFiles (if task.fileProgress.isSome then 1 else 0) =
        rest.countP (·.fileProgress.isSome) := by
      rw [wrapSub_of_le (by omega)]
      omega
    exact
      { memory_eq := hpend
        memory_le := by dsimp only; omega
        files_eq := hleft
        files_le := by dsimp only; omega
        tasks_le := by dsimp only; omega
        waiting := fun y hne => hwaiting y (mem_of_mem_tail hne)
        reserved := fun y hne =>
          h.reserved y (by rw [hwr]; exact mem_cons_of_mem _ hne)
        stopped := fun hstopped => by simp [h.stopped hstopped] at hwr }
  | @send task rest written hwr hsome havailable =>
    have hreserved := h.reserved task (by rw [hwr]; exact mem_cons_self)
    exact h.setFront hwr rfl rfl rfl rfl (task.charge_advance written)
      (task.isSome_fileProgress_advance written) (hreserved.advance havailable hsome)
  | @beginRead prog read rest hwr hdata hidle hremaining =>
    have hreserved := h.reserved _ (by rw [hwr]; exact mem_cons_self)
    exact h.setFront hwr rfl rfl rfl rfl rfl rfl ⟨hreserved.1, fun _ => ⟨hdata, rfl⟩, hreserved.2.2⟩
  | @dropRead prog read rest hwr hpend =>
    have hreserved := h.reserved _ (by rw [hwr]; exact mem_cons_self)
    exact h.setFront hwr rfl rfl rfl rfl rfl rfl ⟨hreserved.1, nofun, hreserved.2.2⟩
  | @deliver prog read rest d hwr hpend hsize hremaining hroom hknown =>
    have hreserved := h.reserved _ (by rw [hwr]; exact mem_cons_self)
    exact h.setFront hwr rfl rfl rfl rfl rfl rfl ⟨hreserved.1, nofun, by simpa using hremaining⟩

lemma Moves.bounded (h : pre.Bounded) (hmoves : Moves known pre after) : after.Bounded :=
  hmoves.invariant (fun _ _ hbnd hmove => hmove.bounded hbnd) h

lemma step_bounded (h : scheduler.Bounded) (e : Event) : (scheduler.step e).Bounded := by
  have hmoves : Moves (fun _ _ _ => True) scheduler (scheduler.step e) :=
    moves_step scheduler e fun _ _ _ _ _ _ _ _ _ _ => trivial
  exact hmoves.bounded h

/-! ## Interest in writing -/

def wantsWrite (scheduler : WriteScheduler) : Bool :=
  match scheduler.writes with
  | [] => false
  | task :: _ => !task.readPending

def Interested (scheduler : WriteScheduler) : Prop :=
  scheduler.stopped = false → scheduler.writeEnabled = scheduler.wantsWrite

/-- In the loop of `on_writable` the interest stands, also over an empty queue. -/
structure Sending (scheduler : WriteScheduler) : Prop extends Bounded scheduler where
  running : scheduler.stopped = false
  enabled : scheduler.writeEnabled = true
  idle : ∀ task ∈ scheduler.writes, task.readPending = false

lemma setWriteInterest_writeEnabled (scheduler : WriteScheduler) (enabled : Bool) :
    (scheduler.setWriteInterest enabled).writeEnabled = enabled := by
  unfold setWriteInterest
  split_ifs with hsame
  · exact hsame
  · rfl

lemma wantsWrite_congr (hwr : after.writes = pre.writes) : after.wantsWrite = pre.wantsWrite := by
  unfold wantsWrite
  rw [hwr]

lemma cancelAll_stopped (scheduler : WriteScheduler) (error : Errno) :
    (scheduler.cancelAll error).stopped := by
  unfold cancelAll
  simp only [foldl_notifyFile, setWriteInterest_stopped]

lemma fail_stopped (scheduler : WriteScheduler) (error : Errno) :
    (scheduler.fail error).stopped := by
  unfold fail
  split_ifs with hstopped
  · exact hstopped
  · exact cancelAll_stopped scheduler error

lemma interested_of_stopped (hstopped : scheduler.stopped) : scheduler.Interested := by
  intro hrun
  rw [hstopped] at hrun
  cases hrun

lemma interested_enableWriteEvent (hle : scheduler.stopped = false → scheduler.writeEnabled →
      scheduler.wantsWrite) : scheduler.enableWriteEvent.Interested := by
  unfold enableWriteEvent
  split_ifs with hstopped
  · exact interested_of_stopped hstopped
  · rw [Bool.not_eq_true] at hstopped
    split
    · rename_i hwr
      intro _
      have hwants : scheduler.wantsWrite = false := by simp [wantsWrite, hwr]
      rw [hwants, ← Bool.not_eq_true]
      intro henabled
      rw [hle hstopped henabled] at hwants
      cases hwants
    · rename_i task rest hwr
      split_ifs with hpend
      · intro _
        have hwants : scheduler.wantsWrite = false := by simp [wantsWrite, hwr, hpend]
        rw [hwants, ← Bool.not_eq_true]
        intro henabled
        rw [hle hstopped henabled] at hwants
        cases hwants
      · intro _
        rw [setWriteInterest_writeEnabled, wantsWrite_congr (setWriteInterest_writes _ _)]
        simp [wantsWrite, hwr, hpend]

lemma Interested.congr (h : pre.Interested) (hwr : after.writes = pre.writes)
    (henabled : after.writeEnabled = pre.writeEnabled)
    (hstopped : after.stopped = pre.stopped) : after.Interested := by
  intro hrun
  rw [henabled, wantsWrite_congr hwr]
  exact h (hstopped.symm.trans hrun)

section

variable (h : scheduler.Interested)
include h

lemma Interested.checkHighWater (previous : ℕ) :
    (scheduler.checkHighWater previous).Interested := by
  unfold WriteScheduler.checkHighWater
  split_ifs
  · exact h.congr rfl rfl rfl
  · exact h

lemma Interested.push (task : WriteTask) (contents : Bytes) :
    (scheduler.push task contents).Interested := by
  refine Interested.checkHighWater (interested_enableWriteEvent fun hrun henabled => ?_) _
  have hbefore : scheduler.wantsWrite := (h hrun).symm.trans henabled
  unfold wantsWrite at hbefore ⊢
  cases hwr : scheduler.writes with
  | nil => simp [hwr] at hbefore
  | cons front rest =>
    simpa [emit, hwr] using hbefore

lemma Interested.enqueueMemory (d : Bytes) : (scheduler.enqueueMemory d).Interested := by
  unfold WriteScheduler.enqueueMemory
  split_ifs
  · exact h
  · exact interested_of_stopped (fail_stopped scheduler _)
  · exact h.push _ _

lemma Interested.enqueueFile (req : FileRequest)
    (accepting : Bool) : (scheduler.enqueueFile req accepting).Interested := by
  unfold WriteScheduler.enqueueFile
  split_ifs
  · rw [notifyFile_eq]
    exact h.congr rfl rfl rfl
  · split
    · exact interested_of_stopped (fail_stopped _ _)
    · have hcounted :
          { scheduler with requests := scheduler.requests ++ [req] }.Interested :=
        h.congr rfl rfl rfl
      exact hcounted.push _ _

lemma Interested.callReader (r : ReaderRun) : (scheduler.callReader r).Interested := by
  have hcalls : ∀ (calls : List ReaderCall) (scheduler : WriteScheduler), scheduler.Interested →
      (calls.foldl readerCall scheduler).Interested := by
    intro calls
    induction calls with
    | nil => exact fun _ h => h
    | cons call calls ih =>
      intro scheduler h
      refine ih _ ?_
      cases call with
      | enqueueMemory d => exact h.enqueueMemory d
      | enqueueFile req accepting => exact h.enqueueFile req accepting
      | cancelAll error => exact interested_of_stopped (cancelAll_stopped scheduler error)
  unfold WriteScheduler.callReader
  cases r.ending with
  | returns => exact hcalls _ _ h
  | throwsSystemError code | throwsOther => exact interested_of_stopped (fail_stopped _ _)

omit h in
lemma interested_requestFileRead (scheduler : WriteScheduler) (prog : FileProgress)
    (read : ReadProgress) (rest : List WriteTask) (r : ReaderRun) :
    (scheduler.requestFileRead prog read rest r).Interested := by
  unfold requestFileRead
  split_ifs
  · exact interested_of_stopped (fail_stopped _ _)
  · refine Interested.callReader (fun _ => ?_) r
    unfold beginRead
    rw [setWriteInterest_writeEnabled, wantsWrite_congr (setWriteInterest_writes _ _)]
    rfl

lemma Interested.onFileRead (sequence : ℕ) (error : Option Errno)
    (d : Bytes) : (scheduler.onFileRead sequence error d).Interested := by
  unfold WriteScheduler.onFileRead
  split_ifs with hstopped
  · exact h
  · split
    · rename_i prog read rest hwr
      split_ifs with hstale
      · exact h
      · have hpend : read.readPending := by
          simp only [Bool.or_eq_true, Bool.not_eq_true', not_or, Bool.not_eq_false] at hstale
          exact hstale.1
        have hdisabled : scheduler.writeEnabled = false := by
          rw [h (Bool.not_eq_true _ ▸ hstopped)]
          simp [wantsWrite, hwr, readPending, hpend]
        cases error with
        | some error => exact interested_of_stopped (fail_stopped _ _)
        | none =>
          dsimp only
          split_ifs
          · exact interested_of_stopped (fail_stopped _ _)
          · refine interested_enableWriteEvent fun _ henabled => ?_
            exact absurd (hdisabled.symm.trans henabled) Bool.false_ne_true
    · exact h

omit h in
lemma completeFront_eq (hwr : scheduler.writes = task :: rest) :
    scheduler.completeFront.writes = rest ∧
      scheduler.completeFront.writeEnabled = scheduler.writeEnabled := by
  unfold completeFront
  simp only [hwr, notifyFile_eq]
  split <;> exact ⟨rfl, rfl⟩

omit h in
lemma Sending.completeFront (h : scheduler.Sending)
    (hwr : scheduler.writes = task :: rest) (hcompleted : task.completed) :
    scheduler.completeFront.Sending := by
  have hmoves : Moves (fun _ _ _ => True) scheduler scheduler.completeFront :=
    moves_completeFront scheduler hwr hcompleted
  obtain ⟨hrest, henabled⟩ := completeFront_eq hwr
  exact
    { toBounded := hmoves.bounded h.toBounded
      running := by rw [completeFront_stopped, h.running]
      enabled := by rw [henabled, h.enabled]
      idle := by
        rw [hrest]
        exact fun y hne => h.idle y (by rw [hwr]; exact .tail _ hne) }

omit h in
lemma Sending.accept (h : scheduler.Sending)
    (hwr : scheduler.writes = task :: rest) (hsome : 0 < written)
    (havailable : written ≤ task.available.length) : (scheduler.accept task written).Sending := by
  have hsend : Move (fun _ _ _ => True) scheduler _ :=
    .send scheduler hwr hsome havailable
  have hidle : ∀ y ∈ task.advance written :: rest, y.readPending = false := by
    have hbefore := h.idle
    rw [hwr, forall_mem_cons] at hbefore
    exact forall_mem_cons.mpr ⟨(task.readPending_advance written).trans hbefore.1, hbefore.2⟩
  have hsending : Sending { scheduler with
      writes := task.advance written :: rest
      trace := scheduler.trace ++
        [.sent (task.fileProgress.map FileProgress.number) (task.available.take written)] } :=
    { toBounded := hsend.bounded h.toBounded
      running := h.running
      enabled := h.enabled
      idle := hidle }
  unfold WriteScheduler.accept
  simp only [setFront, hwr, tail_cons]
  split_ifs with hcompleted
  · exact hsending.completeFront rfl hcompleted
  · exact hsending

omit h in
lemma Sending.interested (h : scheduler.Sending)
    (hwr : scheduler.writes = task :: rest) : scheduler.Interested := by
  intro _
  have hidle := h.idle task (by rw [hwr]; exact mem_cons_self)
  simp [wantsWrite, hwr, hidle, h.enabled]

omit h in
lemma Sending.writeLoop (r : ReaderRun) (steps budget : ℕ) (res : List SendResult)
    (h : scheduler.Sending) : match writeLoop r steps budget res scheduler with
    | (.left, later) => later.Sending
    | (.returned, later) => later.Interested := by
  induction steps generalizing budget res scheduler with
  | zero => exact h
  | succ steps ih =>
    unfold writeLoop
    cases hwr : scheduler.writes with
    | nil => exact h
    | cons task rest =>
      dsimp only
      split_ifs with hbudget hdone
      · exact h
      · exact ih _ _ (h.completeFront hwr (completed_of_remaining hdone))
      · cases hneeds : task.needsRead with
        | some needed =>
          obtain ⟨rfl, -⟩ := needsRead_eq_some hneeds
          have hidle : needed.2.readPending = false :=
            h.idle (.asyncReader needed.1 needed.2) (by rw [hwr]; exact mem_cons_self)
          dsimp only
          rw [hidle]
          exact interested_requestFileRead scheduler needed.1 needed.2 rest r
        | none =>
          cases res.headD (.error .EAGAIN) with
          | wrote count =>
            dsimp only
            split_ifs with hzero
            · exact interested_of_stopped (fail_stopped scheduler Errno.EIO)
            · exact ih _ _ (h.accept hwr (pos_of_ne_zero hzero) (by omega))
          | error error =>
            dsimp only
            split_ifs
            · exact ih _ _ h
            · exact h.interested hwr
            · exact interested_of_stopped (fail_stopped scheduler error)

lemma Interested.onWritable (hbnd : scheduler.Bounded) (res : List SendResult) (r : ReaderRun) :
    (scheduler.onWritable res r).Interested := by
  unfold WriteScheduler.onWritable
  split_ifs with hidle
  · exact h
  · simp only [Bool.or_eq_true, Bool.not_eq_true', not_or, Bool.not_eq_true,
      Bool.not_eq_false] at hidle
    have hsending : scheduler.Sending := by
      refine ⟨hbnd, hidle.1, hidle.2, fun task htask => ?_⟩
      have hwants : scheduler.wantsWrite := (h hidle.1).symm.trans hidle.2
      unfold wantsWrite at hwants
      rcases hwr : scheduler.writes with _ | ⟨front, rest⟩
      · rw [hwr] at htask
        cases htask
      · rw [hwr] at htask hwants
        rcases mem_cons.mp htask with rfl | hrest
        · simpa using hwants
        · exact (hbnd.waiting task (by rw [hwr]; exact hrest)).idle
    have hloop := Sending.writeLoop r kWriteSteps kWriteBudget res hsending
    rcases hresult : writeLoop r kWriteSteps kWriteBudget res scheduler
      with ⟨ending, later⟩
    rw [hresult] at hloop
    cases ending with
    | returned => exact hloop
    | left =>
      dsimp only
      split_ifs with hempty
      · have hnil := isEmpty_iff.mp hempty
        intro _
        simp [emit, setWriteInterest_writeEnabled, wantsWrite, hnil]
      · obtain ⟨task, rest, hwr⟩ := exists_cons_of_ne_nil fun hnil => hempty (isEmpty_iff.mpr hnil)
        exact hloop.interested hwr

lemma step_interested (hbnd : scheduler.Bounded) (e : Event) : (scheduler.step e).Interested := by
  cases e with
  | enqueueMemory d => exact h.enqueueMemory d
  | enqueueFile req accepting => exact h.enqueueFile req accepting
  | onWritable res r => exact h.onWritable hbnd res r
  | onFileRead sequence error d => exact h.onFileRead sequence error d
  | cancelAll error => exact interested_of_stopped (cancelAll_stopped scheduler error)
  | setHighWaterMark bytes =>
    simp only [step, setHighWaterMark]
    split_ifs
    · exact h
    · exact h.congr rfl rfl rfl

end

/-- In every state the counters are what the queue adds up to and keep to their limits, and only the
front task has a read or a chunk. Between two calls a running scheduler is interested in writing
just when its front task waits for no read. -/
theorem writeScheduler_bounded (events : List Event) : (run step new events).Bounded ∧
      (∀ progress read, .asyncReader progress read ∈ (run step new events).writes →
        read.readPending = true → read.readSize ≤ read.reservation) ∧
      ((run step new events).stopped = false → ((run step new events).writeEnabled = true ↔
          ∃ task rest,
            (run step new events).writes = task :: rest ∧ task.readPending = false)) := by
  have hinv : (run step new events).Bounded ∧ (run step new events).Interested := by
    have hstep : ∀ (scheduler : WriteScheduler) event,
        scheduler.Bounded ∧ scheduler.Interested →
          (scheduler.step event).Bounded ∧ (scheduler.step event).Interested :=
      fun scheduler event h => ⟨step_bounded h.1 event, step_interested h.2 h.1 event⟩
    exact run_invariant hstep ⟨new_bounded, fun _ => rfl⟩ events
  refine ⟨hinv.1, fun progress read hmem hpending => ?_, fun hrunning => ?_⟩
  · have hreserved := hinv.1.reserved _ hmem
    rw [(hreserved.2.1 hpending).2]
    exact hreserved.1
  · rw [hinv.2 hrunning]
    unfold wantsWrite
    cases (run step new events).writes with
    | nil | cons task rest => simp

end WriteScheduler

end Tlss.Net
