import Tlss.Ftp.ReceiverBody
import Tlss.Ftp.TransferConnection
import Mathlib.Data.List.Chain

/-!
# The invariant of a connection with transfers

`Sound` collects what holds in the middle of every callback: what was sent for a transfer is
the beginning of an exchange of the protocol, a receiver has been fed the front of the
stream behind `UREADY`, and no line reaches into a body. `Running` adds what is known while
a transfer is active, above all how far it is (`Progress`). `Inv` is what holds between
callbacks.

A reply may close the connection in the middle of a callback. `Sound` is all that is needed
there: a connection that is down makes `Inv` true of itself (`Sound.handleClose`).
-/

namespace Tlss.Ftp

open Library List Function Option Bool AsyncReceiver

/-! ## Exchanges -/

def controls (sent : List Sent) : List Sent := sent.filter (· ≠ .text)

/-- The complete exchanges of the transfer protocol, on the server's side. -/
inductive Exchange : TransferKind → List Sent → Prop
  | uploadRefused (message : String) : Exchange .upload [.frame (.error message)]
  | uploaded (hash : Bytes) : Exchange .upload [.frame .uready, .frame (.uok hash)]
  | uploadFailed (message : String) :
      Exchange .upload [.frame .uready, .frame (.error message)]
  | downloadRefused (message : String) : Exchange .download [.frame (.error message)]
  | downloaded (size : ℕ) (hash : Bytes) :
      Exchange .download [.frame (.data size hash), .body size, .frame .done, .frame .ok]

/-- A body stands directly behind its `DATA` frame. -/
def FollowsData (before : Sent) : Sent → Prop
  | .body size => ∃ hash, before = .frame (.data size hash)
  | _ => True

/-- How many bytes of its body an upload has consumed. -/
def Task.consumed (task : Task) : ℕ := (task.receiver.map (·.fed.length)).getD 0

/-- A line acknowledges a download: it arrived after `DONE` was queued. -/
def Task.AcknowledgedBy (task : Task) (line : HandledLine) : Prop :=
  (∃ doneAt, task.doneAt = some doneAt ∧ doneAt ≤ line.start) ∧
    ascii "@TLSS " <+: line.text ∧ isAcknowledgement (line.text.drop 6) = true

/-- What was sent for a task is a beginning of its exchange. -/
structure Facts (task : Task) (lines : List HandledLine) (sent : List Sent) : Prop where
  exchange : ∃ whole, Exchange task.kind whole ∧ controls sent <+: whole
  consumed : ∀ message, controls sent = [.frame .uready, .frame (.error message)] →
    task.consumed = task.size
  direct : sent.IsChain FollowsData
  announced : ∀ size hash, .frame (.data size hash) ∈ sent → size = task.size
  whole : .frame .done ∈ sent → task.sentBytes = task.size
  acknowledged : .frame .ok ∈ sent → ∃ line ∈ lines, task.AcknowledgedBy line

@[simp] lemma controls_nil : controls [] = [] := rfl

@[simp] lemma controls_text (sent : List Sent) : controls (sent ++ [.text]) = controls sent := by
  simp [controls]

@[simp] lemma controls_frame (sent : List Sent) (fr : Frame) :
    controls (sent ++ [.frame fr]) = controls sent ++ [.frame fr] := by
  simp [controls]

@[simp] lemma controls_body (sent : List Sent) (size : ℕ) :
    controls (sent ++ [.body size]) = controls sent ++ [.body size] := by
  simp [controls]

lemma mem_controls {sent : List Sent} {fr : Frame} :
    .frame fr ∈ controls sent ↔ .frame fr ∈ sent := by
  simp [controls]

lemma Facts.mono {t task' : Task} {lines lines' : List HandledLine} {sent : List Sent}
    (hfacts : Facts t lines sent) (hkind : task'.kind = t.kind)
    (hsize : task'.size = t.size) (hcons : task'.consumed = t.consumed)
    (hdone : task'.doneAt = t.doneAt) (hsent : t.sentBytes = t.size → task'.sentBytes = t.size)
    (hlines : lines ⊆ lines') : Facts task' lines' sent where
  exchange := by rw [hkind]; exact hfacts.exchange
  consumed := by rw [hcons, hsize]; exact hfacts.consumed
  direct := hfacts.direct
  announced := by rw [hsize]; exact hfacts.announced
  whole h := by rw [hsize]; exact hsent (hfacts.whole h)
  acknowledged h := by
    obtain ⟨line, hline, hacknowledged⟩ := hfacts.acknowledged h
    refine ⟨line, hlines hline, ?_⟩
    rw [Task.AcknowledgedBy, hdone]
    exact hacknowledged

lemma facts_nil (t : Task) (lines : List HandledLine) : Facts t lines [] where
  exchange := by
    cases t.kind with
    | upload => exact ⟨_, .uploaded [], nil_prefix⟩
    | download => exact ⟨_, .downloaded 0 [], nil_prefix⟩
  consumed _ h := by
    rw [controls_nil] at h
    cases h
  direct := isChain_nil
  announced _ _ h := by cases h
  whole h := by cases h
  acknowledged h := by cases h

variable {lines : List HandledLine} {frames : List Sent} {position : ℕ} {stream : Bytes}

lemma Facts.text {t : Task} {sent : List Sent}
    (hfacts : Facts t lines sent) : Facts t lines (sent ++ [.text]) where
  exchange := by rw [controls_text]; exact hfacts.exchange
  consumed := by rw [controls_text]; exact hfacts.consumed
  direct := by
    refine isChain_append.mpr ⟨hfacts.direct, isChain_singleton _, ?_⟩
    intro pre _ after hafter
    obtain rfl : Sent.text = after := by simpa using hafter
    trivial
  announced size hash hmem := hfacts.announced size hash (by simpa using hmem)
  whole hmem := hfacts.whole (by simpa using hmem)
  acknowledged hmem := hfacts.acknowledged (by simpa using hmem)

lemma Facts.frame {t : Task} {sent : List Sent} {fr : Frame} (hfacts : Facts t lines sent)
    (hexchange : ∃ whole, Exchange t.kind whole ∧ controls sent ++ [.frame fr] <+: whole)
    (hcons : ∀ message, controls sent ++ [.frame fr] = [.frame .uready, .frame (.error message)] →
      t.consumed = t.size) (hannounced : ∀ size hash, fr = .data size hash → size = t.size)
    (hwhole : fr = .done → t.sentBytes = t.size)
    (hacknowledged : fr = .ok → ∃ line ∈ lines, t.AcknowledgedBy line) :
    Facts t lines (sent ++ [.frame fr]) where
  exchange := by rw [controls_frame]; exact hexchange
  consumed := by rw [controls_frame]; exact hcons
  direct := by
    refine isChain_append.mpr ⟨hfacts.direct, isChain_singleton _, ?_⟩
    intro pre _ after hafter
    obtain rfl : Sent.frame fr = after := by simpa using hafter
    trivial
  announced size hash hmem := by
    rcases mem_append.mp hmem with hold | hnew
    · exact hfacts.announced size hash hold
    · exact hannounced size hash (by simpa [eq_comm] using hnew)
  whole hmem := by
    rcases mem_append.mp hmem with hold | hnew
    · exact hfacts.whole hold
    · exact hwhole (by simpa [eq_comm] using hnew)
  acknowledged hmem := by
    rcases mem_append.mp hmem with hold | hnew
    · exact hfacts.acknowledged hold
    · exact hacknowledged (by simpa [eq_comm] using hnew)

/-! ## Tasks -/

/-- The receiver has got the bytes behind the request, and no line overlaps them. -/
structure TaskSound (stream : Bytes) (lines : List HandledLine) (task : Task) : Prop where
  exact : ∀ receiver, task.receiver = some receiver → receiver.Exact task.size
  unfed : task.start = none → task.consumed = 0
  fed : ∀ start receiver, task.start = some start → task.receiver = some receiver →
    receiver.fed <+: stream.drop start
  lines : ∀ start, task.start = some start → ∀ line ∈ lines, line.stop ≤ start ∨
    task.cancelled = true ∧ task.consumed = task.size ∧ start + task.size ≤ line.start
  stuck : task.failed = true ∨ task.cancelled = true →
    ∀ receiver, task.receiver = some receiver → receiver.stuck = true
  silent : task.failed = true → task.awaiting = false ∧ task.sending = false
  upload : ∀ receiver, task.receiver = some receiver → task.kind = .upload

lemma taskSound_of_none (stream : Bytes) (lines : List HandledLine) {t : Task}
    (hrecv : t.receiver = none) (hstart : t.start = none)
    (hfailed : t.failed = false) : TaskSound stream lines t where
  exact r h := by simp [hrecv] at h
  unfed _ := by simp [Task.consumed, hrecv]
  fed start r h := by simp [hstart] at h
  lines start h := by simp [hstart] at h
  stuck _ r h := by simp [hrecv] at h
  silent h := by simp [hfailed] at h
  upload r h := by simp [hrecv] at h

/-- How far an active transfer is: its phase and the frames that were sent for it. Input
before `position` has left the buffer. -/
def Progress (position : ℕ) (task : Task) (frames : List Sent) : TransferPhase → Prop
  | .idle => False
  | .preparingUpload =>
    task.kind = .upload ∧ frames = [] ∧ task.start = none ∧ task.sending = false ∧
      task.failed = false ∧ (task.receiver.isSome → task.awaiting = false)
  | .receivingUpload =>
    task.kind = .upload ∧ frames = [.frame .uready] ∧ task.start.isSome ∧
      task.receiver.isSome ∧ task.awaiting = false ∧ task.sending = false ∧
      task.consumed ≠ task.size
  | .finalizingUpload =>
    task.kind = .upload ∧ frames = [.frame .uready] ∧ task.start.isSome ∧
      task.receiver.isSome ∧ task.awaiting = false ∧ task.sending = false ∧
      task.consumed = task.size
  | .preparingDownload =>
    task.kind = .download ∧ frames = [] ∧ task.start = none ∧ task.sending = false ∧
      task.failed = false
  | .sendingDownload =>
    task.kind = .download ∧ task.start = none ∧ task.awaiting = false ∧
      ∃ hash, frames = [.frame (.data task.size hash)] ∧ task.sending = false ∨
        frames = [.frame (.data task.size hash), .body task.size]
  | .waitingDownloadAck =>
    task.kind = .download ∧ task.start = none ∧ task.awaiting = false ∧ task.sending = false ∧
      task.sentBytes = task.size ∧ (∃ doneAt, task.doneAt = some doneAt ∧ doneAt ≤ position) ∧
      ∃ hash, frames = [.frame (.data task.size hash), .body task.size, .frame .done]

lemma Progress.congr {t task' : Task}
    {phase : TransferPhase} (hprog : Progress position t frames phase)
    (hkind : task'.kind = t.kind) (hsize : task'.size = t.size)
    (hstart : task'.start = t.start) (hdone : task'.doneAt = t.doneAt)
    (hfailed : task'.failed = t.failed) (hwait : task'.awaiting = t.awaiting)
    (hsending : task'.sending = t.sending) (hsent : task'.sentBytes = t.sentBytes)
    (hcons : task'.consumed = t.consumed) (hrecv : task'.receiver.isSome = t.receiver.isSome) :
    Progress position task' frames phase := by
  cases phase <;>
    simpa only [Progress, hkind, hsize, hstart, hdone, hfailed, hwait, hsending, hsent,
      hcons, hrecv] using hprog

def Quiet (phase : TransferPhase) : Prop :=
  phase = .preparingUpload ∨ phase = .preparingDownload ∨ phase = .sendingDownload

lemma consumed_cancel (t : Task) : Task.consumed
      { t with cancelled := true, receiver := t.receiver.map cancel } =
      t.consumed := by
  cases hrecv : t.receiver <;> simp [Task.consumed, hrecv]

lemma TaskSound.cancel {t : Task} (htask : TaskSound stream lines t) : TaskSound stream lines
      { t with cancelled := true, receiver := t.receiver.map cancel } where
  exact r hrecv := by
    obtain ⟨pre, hbef, rfl⟩ := map_eq_some_iff.mp hrecv
    exact (htask.exact pre hbef).cancel
  unfed hstart := by
    rw [consumed_cancel]
    exact htask.unfed hstart
  fed start r hstart hrecv := by
    obtain ⟨pre, hbef, rfl⟩ := map_eq_some_iff.mp hrecv
    rw [cancel_fed]
    exact htask.fed start pre hstart hbef
  lines start hstart line hline := by
    rw [consumed_cancel]
    exact (htask.lines start hstart line hline).imp_right fun h => ⟨rfl, h.2⟩
  stuck _ r hrecv := by
    obtain ⟨pre, -, rfl⟩ := map_eq_some_iff.mp hrecv
    exact cancel_stuck
  silent := htask.silent
  upload r hrecv := by
    obtain ⟨pre, hbef, -⟩ := map_eq_some_iff.mp hrecv
    exact htask.upload pre hbef

namespace TransferConnection

def windows (conn : TransferConnection) : List Window := conn.past ++ conn.window.toList

/-- What holds of all tasks, whatever the current one does. -/
structure Sound (conn : TransferConnection) : Prop where
  cancelled : ∀ index, conn.transfer ≠ some index → (conn.tasks index).cancelled = true
  known : ∀ window ∈ conn.windows, window.task < conn.count
  facts : ∀ window ∈ conn.windows, Facts (conn.tasks window.task) conn.lines window.sent
  past : ∀ window ∈ conn.past, conn.transfer ≠ some window.task ∧
    Exchange (conn.tasks window.task).kind (controls window.sent)
  tasks : ∀ index, TaskSound conn.stream conn.lines (conn.tasks index)
  buffer : conn.buffer = conn.stream.drop conn.position
  position : conn.position ≤ conn.stream.length
  lines : ∀ line ∈ conn.lines, line.stop ≤ conn.position
  login : conn.authenticated = false → conn.window = none
  recorded : ∀ index < conn.count, ∃ window ∈ conn.windows, window.task = index

/-- A transfer whose body has begun has consumed it, and the buffer is behind it. -/
def Finished (conn : TransferConnection) (index : ℕ) : Prop :=
  ∀ start, (conn.tasks index).start = some start →
    (conn.tasks index).consumed = (conn.tasks index).size ∧
      start + (conn.tasks index).size ≤ conn.position

/-- While the body of a transfer comes in, the buffer begins where its receiver is, unless
the receiver is stuck and the connection about to be closed. -/
def BodyAt (conn : TransferConnection) (index : ℕ) : Prop :=
  ∀ start receiver, (conn.tasks index).start = some start →
    (conn.tasks index).receiver = some receiver →
      (receiver.stuck = false → conn.position = start + receiver.fed.length) ∧
        (receiver.stuck = true → conn.closing = true)

/-- A transfer is active and was sent `sent`. `reading` says that `on_message` is at work;
otherwise there is no input in a quiet phase. -/
structure Running (reading : Bool) (conn : TransferConnection) (index : ℕ) (sent : List Sent) :
    Prop where
  sound : conn.Sound
  transfer : conn.transfer = some index
  current : conn.isCurrent index = true
  settled : conn.directoryPending = false
  window : conn.window = some ⟨index, sent⟩
  progress : Progress conn.position (conn.tasks index) (controls sent) (conn.tasks index).phase
  finished : ∀ other, other ≠ index → conn.Finished other
  drained : reading = false → Quiet (conn.tasks index).phase → conn.buffer = []

/-- No transfer is active: the last one is complete, unless the connection is down. -/
structure Resting (conn : TransferConnection) : Prop where
  sound : conn.Sound
  transfer : conn.transfer = none
  complete : conn.state ≠ .disconnected → ∀ window, conn.window = some window →
    Exchange (conn.tasks window.task).kind (controls window.sent)
  finished : conn.state ≠ .disconnected → ∀ index, conn.Finished index

inductive Inv (reading : Bool) (conn : TransferConnection) : Prop
  | resting (hresting : conn.Resting)
  | running (index : ℕ) (sent : List Sent) (hrunning : Running reading conn index sent)
      (hbody : conn.BodyAt index)

variable {c : TransferConnection} {reading : Bool} {i j : ℕ} {sent : List Sent}
  {win : Window} {change : Task → Task} {item : Sent} {t task' : Task}
  {receiver' : AsyncReceiver}

/-! ## Changes to a task -/

@[simp] lemma onTask_tasks_self (change : Task → Task) :
    (c.onTask i change).tasks i = change (c.tasks i) :=
  update_self ..

@[simp] lemma onTask_tasks_of_ne (hne : j ≠ i) (change : Task → Task) :
    (c.onTask i change).tasks j = c.tasks j :=
  update_of_ne hne ..

/-- What holds of the changed task and of the others holds of all. -/
lemma forall_onTask {P : ℕ → Task → Prop} (hself : P i (change (c.tasks i)))
    (hothers : ∀ j, j ≠ i → P j (c.tasks j)) (j : ℕ) : P j ((c.onTask i change).tasks j) := by
  by_cases hi : j = i
  · subst hi
    rwa [onTask_tasks_self]
  · rw [onTask_tasks_of_ne hi]
    exact hothers j hi

lemma onTask_kind (hkind : (change (c.tasks i)).kind = (c.tasks i).kind) :
    ∀ j, ((c.onTask i change).tasks j).kind = (c.tasks j).kind :=
  forall_onTask (P := fun j t => t.kind = (c.tasks j).kind) hkind fun _ _ => rfl

lemma mem_windows_of_window (hwin : c.window = some win) : win ∈ c.windows := by
  simp [windows, hwin]

lemma mem_windows_of_past (hwin : win ∈ c.past) : win ∈ c.windows := by
  simp [windows, hwin]

lemma Sound.onTask (hs : c.Sound) (htask : TaskSound c.stream c.lines (change (c.tasks i)))
    (hcanc : c.transfer ≠ some i → (change (c.tasks i)).cancelled = true)
    (hkind : (change (c.tasks i)).kind = (c.tasks i).kind)
    (hfacts : ∀ win ∈ c.windows, win.task = i →
      Facts (change (c.tasks i)) c.lines win.sent) : (c.onTask i change).Sound where
  cancelled := forall_onTask (P := fun j t => c.transfer ≠ some j → t.cancelled = true) hcanc
    fun j _ => hs.cancelled j
  known := hs.known
  facts win hwin := forall_onTask
    (P := fun j t => win.task = j → Facts t c.lines win.sent) (hfacts win hwin)
    (fun _ _ hj => hj ▸ hs.facts win hwin) win.task rfl
  past win hwin := by
    rw [onTask_kind hkind]
    exact hs.past win hwin
  tasks := forall_onTask (P := fun _ => TaskSound c.stream c.lines) htask fun j _ => hs.tasks j
  buffer := hs.buffer
  position := hs.position
  lines := hs.lines
  login := hs.login
  recorded := hs.recorded

lemma Sound.adjust (hs : c.Sound) (state : ConnectionState) (room generation : ℕ)
    (closing directoryPending : Bool) (directory : Bytes) :
    Sound { c with state, room, generation, closing, directoryPending, directory } :=
  { hs with }

lemma Sound.cancelTask (hs : c.Sound) (i : ℕ) : (c.cancelTask i).Sound :=
  hs.onTask (hs.tasks i).cancel (fun _ => rfl) rfl fun win hwin hi =>
    (hi ▸ hs.facts win hwin).mono rfl rfl (consumed_cancel _) rfl id (List.Subset.refl _)

lemma resetTransfer_of_none (htr : c.transfer = none) : c.resetTransfer = c := by
  unfold resetTransfer
  rw [htr]

lemma resetTransfer_of_some (htr : c.transfer = some i) :
    c.resetTransfer = { c.cancelTask i with transfer := none } := by
  unfold resetTransfer
  rw [htr]

lemma Sound.resetTransfer (hs : c.Sound) : c.resetTransfer.Sound := by
  cases htr : c.transfer with
  | none =>
    rw [resetTransfer_of_none htr]
    exact hs
  | some i =>
    rw [resetTransfer_of_some htr]
    have hcancel := hs.cancelTask i
    refine { hcancel with cancelled := fun j _ => ?_, past := fun win hwin => ⟨nofun,
      (hcancel.past win hwin).2⟩ }
    by_cases hne : j = i
    · subst hne
      simp [TransferConnection.cancelTask]
    · refine hcancel.cancelled j ?_
      change c.transfer ≠ some j
      rw [htr]
      simpa using Ne.symm hne

@[simp] lemma resetTransfer_transfer : c.resetTransfer.transfer = none := by
  unfold resetTransfer
  split
  · assumption
  · rfl

lemma Sound.handleClose (hs : c.Sound) (hst : c.state ≠ .disconnected) :
    Inv reading c.handleClose := by
  unfold TransferConnection.handleClose
  rw [if_neg hst]
  have hreset := hs.resetTransfer
  exact .resting
    ⟨hreset.adjust .disconnected _ _ _ _ _, resetTransfer_transfer, fun h => absurd rfl h,
      fun h => absurd rfl h⟩

/-! ## Replies -/

lemma mem_windows : win ∈ c.windows ↔ win ∈ c.past ∨ c.window = some win := by
  simp [windows, mem_toList]

lemma enqueue_window (hwin : c.window = some ⟨i, sent⟩) :
    (c.enqueue item).window = some ⟨i, sent ++ [item]⟩ := by
  simp [enqueue, hwin]

lemma enqueue_window_eq_some (hwin : (c.enqueue item).window = some win) :
    ∃ pre, c.window = some pre ∧ win.task = pre.task ∧ win.sent = pre.sent ++ [item] := by
  obtain ⟨pre, hbef, rfl⟩ := map_eq_some_iff.mp hwin
  exact ⟨pre, hbef, rfl, rfl⟩

lemma Sound.enqueue (hs : c.Sound) (hfacts : ∀ win, c.window = some win →
      Facts (c.tasks win.task) c.lines (win.sent ++ [item])) : (c.enqueue item).Sound where
  cancelled := hs.cancelled
  known win hwin := by
    rcases mem_windows.mp hwin with hpast | hlast
    · exact hs.known win (mem_windows_of_past hpast)
    · obtain ⟨pre, hbef, htask, -⟩ := enqueue_window_eq_some hlast
      rw [htask]
      exact hs.known pre (mem_windows_of_window hbef)
  facts win hwin := by
    rcases mem_windows.mp hwin with hpast | hlast
    · exact hs.facts win (mem_windows_of_past hpast)
    · obtain ⟨pre, hbef, htask, hsent⟩ := enqueue_window_eq_some hlast
      rw [htask, hsent]
      exact hfacts pre hbef
  past := hs.past
  tasks := hs.tasks
  buffer := hs.buffer
  position := hs.position
  lines := hs.lines
  login hauthenticated := by
    simp [TransferConnection.enqueue, hs.login hauthenticated]
  recorded i hi := by
    obtain ⟨win, hwin, htask⟩ := hs.recorded i hi
    rcases mem_windows.mp hwin with hpast | hlast
    · exact ⟨win, mem_windows_of_past hpast, htask⟩
    · exact ⟨_, mem_windows_of_window (enqueue_window hlast), htask⟩

lemma Inv.sound (hinv : Inv reading c) : c.Sound := by
  cases hinv with
  | resting hresting => exact hresting.sound
  | running _ _ hrun => exact hrun.sound

lemma Running.connected (hrun : Running reading c i sent) : c.state = .connected := by
  have hcur := hrun.current
  simp only [isCurrent, and_eq_true, decide_eq_true_eq] at hcur
  exact hcur.1.1.1.2

lemma Running.not_cancelled (hrun : Running reading c i sent) : (c.tasks i).cancelled = false := by
  have hcur := hrun.current
  simp only [isCurrent, and_eq_true, not_eq_true'] at hcur
  exact hcur.1.1.1.1

lemma Running.facts (hrun : Running reading c i sent) : Facts (c.tasks i) c.lines sent :=
  hrun.sound.facts ⟨i, sent⟩ (mem_windows_of_window hrun.window)

/-- What a reply does: nothing on a connection that is not up, otherwise it is queued or the
connection goes down. -/
lemma Sound.send (hs : c.Sound) (hst : c.state = .connected)
    (hqueued : Inv reading (c.enqueue item)) : Inv reading (c.send item) := by
  unfold TransferConnection.send
  rw [if_neg (by simp [hst])]
  split_ifs
  · exact hs.handleClose (by simp [hst])
  · exact hqueued

lemma Inv.enqueue_text (hinv : Inv reading c) : Inv reading (c.enqueue .text) := by
  have hs : (c.enqueue .text).Sound := hinv.sound.enqueue fun win hwin =>
    (hinv.sound.facts win (mem_windows_of_window hwin)).text
  cases hinv with
  | resting hresting =>
    refine .resting ⟨hs, hresting.transfer, fun hst win hwin => ?_, hresting.finished⟩
    obtain ⟨pre, hbef, htask, hsent⟩ := enqueue_window_eq_some hwin
    rw [htask, hsent, controls_text]
    exact hresting.complete hst pre hbef
  | running i sent hrun hbody =>
    refine .running i (sent ++ [.text])
      ⟨hs, hrun.transfer, hrun.current, hrun.settled,
        enqueue_window hrun.window, ?_, hrun.finished, hrun.drained⟩ hbody
    rw [controls_text]
    exact hrun.progress

lemma Inv.send_text (hinv : Inv reading c) : Inv reading (c.send .text) := by
  by_cases hst : c.state = .connected
  · exact hinv.sound.send hst hinv.enqueue_text
  · unfold send
    rw [if_pos hst]
    exact hinv

lemma Inv.sendTexts (hinv : Inv reading c) (count : ℕ) : Inv reading (c.sendTexts count) := by
  induction count generalizing c with
  | zero => exact hinv
  | succ count ih => exact ih hinv.send_text

lemma Inv.adjust (hinv : Inv reading c) (room : ℕ) {closing : Bool}
    (hclosing : c.closing → closing) : Inv reading { c with room, closing } := by
  cases hinv with
  | resting hresting =>
    exact .resting { hresting with sound := hresting.sound.adjust .. }
  | running i sent hrun hbody =>
    exact .running i sent { hrun with sound := hrun.sound.adjust .. }
      fun start r hstart hrecv =>
        ⟨(hbody start r hstart hrecv).1, fun h => hclosing ((hbody start r hstart hrecv).2 h)⟩

lemma Inv.forceClose (hinv : Inv reading c) : Inv reading c.forceClose :=
  hinv.adjust c.room fun _ => rfl

/-! ## The end of a transfer -/

lemma Finished.onTask (hfinished : c.Finished j)
    (hstart : (change (c.tasks i)).start = (c.tasks i).start)
    (hsize : (change (c.tasks i)).size = (c.tasks i).size)
    (hcons : (change (c.tasks i)).consumed = (c.tasks i).consumed) :
    (c.onTask i change).Finished j := by
  unfold Finished
  by_cases hne : j = i
  · subst hne
    rw [onTask_tasks_self, hstart, hsize, hcons]
    exact hfinished
  · rw [onTask_tasks_of_ne hne]
    exact hfinished

lemma Finished.cancelTask (hfinished : c.Finished j) (i : ℕ) : (c.cancelTask i).Finished j :=
  hfinished.onTask rfl rfl (consumed_cancel _)

lemma Sound.settle {fr : Frame} (hs : c.Sound) (hst : c.state = .connected)
    (htr : c.transfer = some i) (hwin : c.window = some ⟨i, sent⟩) (hfinished : ∀ j, c.Finished j)
    (hexchange : Exchange (c.tasks i).kind (controls sent ++ [.frame fr]))
    (hfacts : Facts (c.tasks i) c.lines (sent ++ [.frame fr])) (generation : ℕ) :
    Inv reading ({ c.resetTransfer with generation }.sendControl fr) := by
  have hreset := resetTransfer_of_some htr
  have hbase : Sound { c.resetTransfer with generation } := hs.resetTransfer.adjust ..
  have htask : c.resetTransfer.tasks i =
      { c.tasks i with
        cancelled := true
        receiver := (c.tasks i).receiver.map cancel } := by
    rw [hreset]
    exact update_self ..
  have hlast : c.resetTransfer.window = some ⟨i, sent⟩ := by rw [hreset]; exact hwin
  refine hbase.send (by rw [hreset]; exact hst) (.resting ⟨hbase.enqueue ?_, ?_, ?_, ?_⟩)
  · intro win hwindow'
    obtain rfl : ⟨i, sent⟩ = win := some.inj (hlast.symm.trans hwindow')
    rw [htask, hreset]
    exact hfacts.mono rfl rfl (consumed_cancel _) rfl id (List.Subset.refl _)
  · exact resetTransfer_transfer
  · intro _ win hwindow'
    have hqueued : Option.map _ c.resetTransfer.window = some win := hwindow'
    rw [hlast] at hqueued
    obtain rfl := some.inj hqueued
    rw [controls_frame]
    change Exchange (c.resetTransfer.tasks i).kind _
    rw [htask]
    exact hexchange
  · intro _ j
    have hne := (hfinished j).cancelTask i
    rw [hreset]
    exact hne

/-! ## Callbacks that say nothing -/

/-- A callback has changed nothing that matters to a transfer. -/
structure Kept (task task' : Task) : Prop where
  frame : task' = { task with
    awaiting := task'.awaiting
    receiver := task'.receiver
    sending := task'.sending
    sentBytes := task'.sentBytes }
  receiver : task.receiver = none ∧ task'.receiver = none ∨
    ∃ receiver receiver', task.receiver = some receiver ∧ task'.receiver = some receiver' ∧
      receiver'.fed = receiver.fed ∧ receiver'.stuck = receiver.stuck ∧
      (receiver.Exact task.size → receiver'.Exact task.size)
  awaiting : task'.awaiting = true → task.awaiting = true
  sending : task'.sending = true → task.sending = true
  sentBytes : task.sentBytes = task.size → task'.sentBytes = task.size

lemma kept_of_fields {awaiting sending : Bool} {sentBytes : ℕ}
    (hwait : awaiting → t.awaiting) (hsending : sending → t.sending)
    (hsent : t.sentBytes = t.size → sentBytes = t.size) :
    Kept t { t with awaiting, sending, sentBytes } := by
  refine ⟨rfl, ?_, hwait, hsending, hsent⟩
  cases hrecv : t.receiver with
  | none => exact .inl ⟨rfl, rfl⟩
  | some r => exact .inr ⟨r, r, rfl, rfl, rfl, rfl, id⟩

lemma kept_of_receiver {r : AsyncReceiver}
    (hrecv : t.receiver = some r) (hfed : receiver'.fed = r.fed)
    (hstuck : receiver'.stuck = r.stuck) (hexact : r.Exact t.size → receiver'.Exact t.size) :
    Kept t { t with receiver := some receiver' } :=
  ⟨rfl, .inr ⟨r, receiver', hrecv, rfl, hfed, hstuck, hexact⟩, id, id, id⟩

section

variable (hkept : Kept t task')
include hkept

lemma Kept.receiver_of_some (hreceiver' : task'.receiver = some receiver') :
    ∃ r, t.receiver = some r ∧ receiver'.fed = r.fed ∧ receiver'.stuck = r.stuck ∧
      (r.Exact t.size → receiver'.Exact t.size) := by
  rcases hkept.receiver with ⟨-, hnone⟩ | ⟨r, j, hrecv, hne, hrest⟩
  · rw [hnone] at hreceiver'
    cases hreceiver'
  · rw [hne] at hreceiver'
    obtain rfl := some.inj hreceiver'
    exact ⟨r, hrecv, hrest⟩

lemma Kept.consumed : task'.consumed = t.consumed := by
  rcases hkept.receiver with ⟨hnone, hnone'⟩ | ⟨r, receiver', hsome, hsome', hfed, -⟩
  · rw [Task.consumed, Task.consumed, hnone, hnone']
  · rw [Task.consumed, Task.consumed, hsome, hsome', map_some, map_some, hfed]

lemma Kept.isSome : task'.receiver.isSome = t.receiver.isSome := by
  rcases hkept.receiver with ⟨hnone, hnone'⟩ | ⟨r, receiver', hsome, hsome', -⟩
  · rw [hnone, hnone']
  · rw [hsome, hsome']
    rfl

lemma Kept.fields : task'.kind = t.kind ∧ task'.generation = t.generation ∧
      task'.directory = t.directory ∧ task'.phase = t.phase ∧ task'.size = t.size ∧
      task'.cancelled = t.cancelled ∧ task'.start = t.start ∧
      task'.doneAt = t.doneAt ∧ task'.failed = t.failed := by
  rw [hkept.frame]
  exact ⟨rfl, rfl, rfl, rfl, rfl, rfl, rfl, rfl, rfl⟩

lemma Kept.taskSound (htask : TaskSound stream lines t) : TaskSound stream lines task' := by
  obtain ⟨hkind, -, -, -, hsize, hcanc, hstart, -, hfailed⟩ := hkept.fields
  refine ⟨fun receiver' hreceiver' => ?_, ?_, fun start receiver' => ?_, ?_, fun h => ?_,
    fun h => ?_, fun receiver' hreceiver' => ?_⟩
  · obtain ⟨r, hrecv, -, -, hexact⟩ := hkept.receiver_of_some hreceiver'
    rw [hsize]
    exact hexact (htask.exact r hrecv)
  · rw [hstart, hkept.consumed]
    exact htask.unfed
  · intro hstart' hreceiver'
    obtain ⟨r, hrecv, hfed, -⟩ := hkept.receiver_of_some hreceiver'
    rw [hfed]
    exact htask.fed start r (hstart.symm.trans hstart') hrecv
  · rw [hstart, hcanc, hkept.consumed, hsize]
    exact htask.lines
  · intro receiver' hreceiver'
    obtain ⟨r, hrecv, -, hstuck, -⟩ := hkept.receiver_of_some hreceiver'
    rw [hstuck]
    exact htask.stuck (by rwa [hfailed, hcanc] at h) r hrecv
  · obtain ⟨hwait, hsending⟩ := htask.silent (hfailed.symm.trans h)
    refine ⟨?_, ?_⟩
    · by_contra hnot
      rw [hkept.awaiting (by simpa using hnot)] at hwait
      cases hwait
    · by_contra hnot
      rw [hkept.sending (by simpa using hnot)] at hsending
      cases hsending
  · obtain ⟨r, hrecv, -⟩ := hkept.receiver_of_some hreceiver'
    rw [hkind]
    exact htask.upload r hrecv

lemma Kept.progress (hprog : Progress position t frames t.phase) :
    Progress position task' frames task'.phase := by
  obtain ⟨hkind, -, -, hphase, hsize, -, hstart, hdone, hfailed⟩ := hkept.fields
  have hwait : t.awaiting = false → task'.awaiting = false := fun h => by
    by_contra hnot
    rw [hkept.awaiting (by simpa using hnot)] at h
    cases h
  have hsending : t.sending = false → task'.sending = false := fun h => by
    by_contra hnot
    rw [hkept.sending (by simpa using hnot)] at h
    cases h
  rw [hphase]
  cases hcase : t.phase <;> rw [hcase] at hprog <;>
    simp only [Progress, hkind, hsize, hstart, hdone, hfailed, hkept.consumed, hkept.isSome]
      at hprog ⊢
  case preparingUpload =>
    obtain ⟨h1, h2, h3, h4, h5, h6⟩ := hprog
    exact ⟨h1, h2, h3, hsending h4, h5, fun h => hwait (h6 h)⟩
  case receivingUpload =>
    obtain ⟨h1, h2, h3, h4, h5, h6, h7⟩ := hprog
    exact ⟨h1, h2, h3, h4, hwait h5, hsending h6, h7⟩
  case finalizingUpload =>
    obtain ⟨h1, h2, h3, h4, h5, h6, h7⟩ := hprog
    exact ⟨h1, h2, h3, h4, hwait h5, hsending h6, h7⟩
  case preparingDownload =>
    obtain ⟨h1, h2, h3, h4, h5⟩ := hprog
    exact ⟨h1, h2, h3, hsending h4, h5⟩
  case sendingDownload =>
    obtain ⟨h1, h2, h3, hash, h4⟩ := hprog
    exact ⟨h1, h2, hwait h3, hash, h4.imp_left fun h => ⟨h.1, hsending h.2⟩⟩
  case waitingDownloadAck =>
    obtain ⟨h1, h2, h3, h4, h5, h6⟩ := hprog
    exact ⟨h1, h2, hwait h3, hsending h4, hkept.sentBytes h5, h6⟩

lemma Kept.mono {sent : List Sent} (hfacts : Facts t lines sent) : Facts task' lines sent := by
  obtain ⟨hkind, -, -, -, hsize, -, -, hdone, -⟩ := hkept.fields
  exact hfacts.mono hkind hsize hkept.consumed hdone hkept.sentBytes (List.Subset.refl _)

end

lemma isCurrent_onTask (hcanc : (change (c.tasks i)).cancelled = (c.tasks i).cancelled)
    (hgeneration : (change (c.tasks i)).generation = (c.tasks i).generation)
    (hdir : (change (c.tasks i)).directory = (c.tasks i).directory) :
    (c.onTask i change).isCurrent i = c.isCurrent i := by
  unfold isCurrent
  rw [onTask_tasks_self, hcanc, hgeneration, hdir]
  rfl

lemma Running.sound_onTask (hrun : Running reading c i sent)
    (htask : TaskSound c.stream c.lines (change (c.tasks i)))
    (hkind : (change (c.tasks i)).kind = (c.tasks i).kind)
    (hfacts : Facts (change (c.tasks i)) c.lines sent) : (c.onTask i change).Sound := by
  refine hrun.sound.onTask htask (fun h => absurd hrun.transfer h) hkind ?_
  intro win hwin htask'
  rcases mem_windows.mp hwin with hpast | hlast
  · rw [← htask'] at hrun
    exact absurd hrun.transfer (hrun.sound.past win hpast).1
  · obtain rfl : ⟨i, sent⟩ = win := some.inj (hrun.window.symm.trans hlast)
    exact hfacts

lemma Running.onTask (hrun : Running reading c i sent)
    (htask : TaskSound c.stream c.lines (change (c.tasks i)))
    (hcur : (c.onTask i change).isCurrent i = c.isCurrent i)
    (hkind : (change (c.tasks i)).kind = (c.tasks i).kind)
    (hfacts : Facts (change (c.tasks i)) c.lines sent)
    (hprog : Progress c.position (change (c.tasks i)) (controls sent) (change (c.tasks i)).phase)
    (hquiet : Quiet (change (c.tasks i)).phase → Quiet (c.tasks i).phase) :
    Running reading (c.onTask i change) i sent := by
  refine ⟨hrun.sound_onTask htask hkind hfacts, hrun.transfer, hcur.trans hrun.current,
    hrun.settled, hrun.window, ?_, fun j hne => ?_, ?_⟩
  · rw [onTask_tasks_self]
    exact hprog
  · unfold Finished
    rw [onTask_tasks_of_ne hne]
    exact hrun.finished j hne
  · rw [onTask_tasks_self]
    exact fun hreading hphase => hrun.drained hreading (hquiet hphase)

lemma Running.advance (hrun : Running reading c i sent) (hs : (c.onTask i change).Sound)
    (hcur : (c.onTask i change).isCurrent i = c.isCurrent i)
    (hfacts : Facts (change (c.tasks i)) c.lines (sent ++ [item]))
    (hprog : Progress c.position (change (c.tasks i)) (controls (sent ++ [item]))
      (change (c.tasks i)).phase)
    (hquiet : Quiet (change (c.tasks i)).phase → Quiet (c.tasks i).phase) :
    Running reading ((c.onTask i change).enqueue item) i (sent ++ [item]) := by
  refine ⟨hs.enqueue ?_, hrun.transfer, hcur.trans hrun.current, hrun.settled,
    enqueue_window hrun.window, ?_, fun j hne => ?_, ?_⟩
  · intro win hwin
    obtain rfl : ⟨i, sent⟩ = win := some.inj (hrun.window.symm.trans hwin)
    rw [onTask_tasks_self]
    exact hfacts
  · change Progress _ ((c.onTask i change).tasks i) _ ((c.onTask i change).tasks i).phase
    rw [onTask_tasks_self]
    exact hprog
  · change (c.onTask i change).Finished j
    unfold Finished
    rw [onTask_tasks_of_ne hne]
    exact hrun.finished j hne
  · change _ → Quiet ((c.onTask i change).tasks i).phase → _
    rw [onTask_tasks_self]
    exact fun hreading hphase => hrun.drained hreading (hquiet hphase)

lemma Inv.keep (hinv : Inv reading c) (i : ℕ)
    (hkept : Kept (c.tasks i) (change (c.tasks i))) : Inv reading (c.onTask i change) := by
  obtain ⟨hkind, hgeneration, hdir, hphase, hsize, hcanc, hstart, -, -⟩ := hkept.fields
  have hs : (c.onTask i change).Sound :=
    hinv.sound.onTask (hkept.taskSound (hinv.sound.tasks i))
      (fun h => hcanc.trans (hinv.sound.cancelled i h)) hkind
      fun win hwin hi => hkept.mono (hi ▸ hinv.sound.facts win hwin)
  cases hinv with
  | resting hresting =>
    refine .resting ⟨hs, hresting.transfer, fun hst win hwin => ?_,
      fun hst j => (hresting.finished hst j).onTask hstart hsize hkept.consumed⟩
    rw [onTask_kind hkind]
    exact hresting.complete hst win hwin
  | running active sent hrun hbody =>
    by_cases hactive : active = i
    · subst hactive
      refine .running active sent
        (hrun.onTask (hkept.taskSound (hrun.sound.tasks active))
          (isCurrent_onTask hcanc hgeneration hdir) hkind (hkept.mono hrun.facts)
          (hkept.progress hrun.progress)
          fun h => hphase ▸ h) ?_
      intro start receiver' hstart' hreceiver'
      rw [onTask_tasks_self] at hstart' hreceiver'
      obtain ⟨r, hrecv, hfed, hstuck, -⟩ := hkept.receiver_of_some hreceiver'
      rw [hfed, hstuck]
      exact hbody start r (hstart.symm.trans hstart') hrecv
    · have htasks : (c.onTask i change).tasks active = c.tasks active :=
        onTask_tasks_of_ne hactive change
      refine .running active sent ⟨hs, hrun.transfer, ?_, hrun.settled,
        hrun.window, ?_, fun j hne => ?_, ?_⟩ ?_
      · have hcur := hrun.current
        unfold isCurrent at hcur ⊢
        rw [htasks]
        exact hcur
      · rw [htasks]
        exact hrun.progress
      · exact (hrun.finished j hne).onTask hstart hsize hkept.consumed
      · rw [htasks]
        exact hrun.drained
      · unfold BodyAt
        rw [htasks]
        exact hbody

end TransferConnection

end Tlss.Ftp
