import Tlss.Ftp.TransferInvariant

/-!
# What the handlers leave alone

Whatever the service does for a line or in a callback, it never adds to the input buffer and
never takes back a `force_close` (`Onward`). Only where it hands a task to the disk does a
receiver become busy (`Plain`).
-/

namespace Tlss.Ftp.TransferConnection

open Library

variable {c before middle after : TransferConnection} {i : ℕ}

/-- A connection only goes down, and its buffer stays. -/
structure Onward (before after : TransferConnection) : Prop where
  up : after.state = .connected → before.state = .connected
  down : before.state = .disconnected → after.state = .disconnected
  closing : before.closing = true → after.closing = true
  buffer : after.buffer = before.buffer

lemma Onward.refl (c : TransferConnection) : Onward c c := ⟨id, id, id, rfl⟩

lemma Onward.trans (hfirst : Onward before middle) (hsecond : Onward middle after) :
    Onward before after where
  up h := hfirst.up (hsecond.up h)
  down h := hsecond.down (hfirst.down h)
  closing h := hsecond.closing (hfirst.closing h)
  buffer := hsecond.buffer.trans hfirst.buffer

lemma Onward.not_closing (honward : Onward before after) (hclos : after.closing = false) :
    before.closing = false := by
  by_contra hclosed
  rw [honward.closing (eq_true_of_ne_false hclosed)] at hclos
  cases hclos

/-- No receiver is put to work. -/
structure Plain (before after : TransferConnection) : Prop extends Onward before after where
  busy : ∀ index, after.receiverBusy index = true → before.receiverBusy index = true

lemma Plain.refl (c : TransferConnection) : Plain c c := ⟨.refl c, fun _ => id⟩

lemma Plain.trans (hfirst : Plain before middle) (hsecond : Plain middle after) :
    Plain before after where
  toOnward := hfirst.toOnward.trans hsecond.toOnward
  busy i h := hfirst.busy i (hsecond.busy i h)

lemma receiverBusy_onTask_of_ne {other : ℕ} (hother : other ≠ i) (change : Task → Task) :
    (c.onTask i change).receiverBusy other = c.receiverBusy other := by
  rw [receiverBusy, receiverBusy, onTask_tasks_of_ne hother]

variable (c i)

lemma plain_onTask (change : Task → Task)
    (hbusy : (change (c.tasks i)).receiver.any (·.busy) = true →
      c.receiverBusy i = true) : Plain c (c.onTask i change) where
  up := id
  down := id
  closing := id
  buffer := rfl
  busy other hother := by
    by_cases heq : other = i
    · subst heq
      rw [receiverBusy, onTask_tasks_self] at hother
      exact hbusy hother
    · rwa [receiverBusy_onTask_of_ne heq] at hother

lemma plain_cancelTask : Plain c (c.cancelTask i) := by
  refine plain_onTask c i _ fun hbusy => ?_
  cases hreceiver : (c.tasks i).receiver with
  | none => simp [hreceiver] at hbusy
  | some receiver =>
    simp only [hreceiver, Option.map_some, Option.any_some] at hbusy
    rw [receiverBusy, hreceiver]
    unfold AsyncReceiver.cancel at hbusy
    dsimp only at hbusy
    split_ifs at hbusy <;> exact hbusy

lemma plain_resetTransfer : Plain c c.resetTransfer := by
  unfold resetTransfer
  split
  · exact .refl c
  · obtain ⟨⟨hup, hdown, hclos, hbuffer⟩, hbusy⟩ := plain_cancelTask c ‹ℕ›
    exact ⟨⟨hup, hdown, hclos, hbuffer⟩, hbusy⟩

lemma plain_send (item : Sent) : Plain c (c.send item) := by
  unfold send
  split_ifs
  · exact .refl c
  · unfold handleClose
    split_ifs
    · exact .refl c
    · obtain ⟨⟨-, -, hclos, hbuffer⟩, hbusy⟩ := plain_resetTransfer c
      exact ⟨⟨nofun, fun _ => rfl, hclos, hbuffer⟩, hbusy⟩
  · exact ⟨⟨id, id, id, rfl⟩, fun _ => id⟩

lemma plain_transferFailed (error : String) : Plain c (c.transferFailed error) := by
  have hreset : Plain c { c.resetTransfer with generation := c.generation + 1 } := by
    obtain ⟨⟨hup, hdown, hclos, hbuffer⟩, hbusy⟩ := plain_resetTransfer c
    exact ⟨⟨hup, hdown, hclos, hbuffer⟩, hbusy⟩
  exact (hreset.trans (plain_send _ _)).trans (plain_send _ _)

lemma plain_emit (event : TransferEvent) : Plain c (c.emit i event) := by
  unfold emit
  split_ifs
  · exact .refl c
  split
  · -- A failure that closes the connection.
    obtain ⟨⟨hup, hdown, -, hbuffer⟩, hbusy⟩ :=
      plain_onTask c i (fun task => { task with failed := true }) id
    exact ⟨⟨hup, hdown, fun _ => rfl, hbuffer⟩, hbusy⟩
  · exact plain_send c _
  · exact ((plain_resetTransfer c).trans (plain_send _ _)).trans (plain_send _ _)
  · exact plain_send c _
  · exact plain_send c _
  · exact ((plain_resetTransfer c).trans (plain_send _ _)).trans (plain_send _ _)
  · exact plain_transferFailed c _

lemma plain_uploadFailed (error : String) : Plain c (c.uploadFailed i error) := by
  unfold uploadFailed
  split_ifs
  · exact .refl c
  · exact plain_emit c i _

lemma plain_downloadFailed (error : String) : Plain c (c.downloadFailed i error) := plain_emit c i _

lemma plain_sendBody (size : ℕ) : Plain c (c.sendBody i size) := by
  unfold sendBody
  split_ifs
  · exact .refl c
  · exact (plain_onTask c i _ id).trans (plain_send _ _)

lemma plain_onOpened (answer : Except String (ℕ × Bytes)) (prepared : Option String) :
    Plain c (c.onOpened i answer prepared) := by
  have hanswered : Plain c (c.onTask i fun task => { task with awaiting := false }) :=
    plain_onTask c i _ id
  unfold onOpened
  dsimp only
  split
  · exact .refl c
  split
  · exact hanswered
  cases answer with
  | error error => exact hanswered.trans (plain_downloadFailed _ i error)
  | ok file =>
    dsimp only
    split
    · exact hanswered
    · have hopened := hanswered.trans
        (plain_onTask _ i (fun task => { task with phase := .sendingDownload, size := file.1 }) id)
      have hready := hopened.trans (plain_emit _ i (.downloadReady file.1 file.2))
      cases prepared with
      | none => exact hready.trans (plain_sendBody _ i file.1)
      | some error => exact hready.trans (plain_downloadFailed _ i error)

lemma plain_onSent (error : Option String) : Plain c (c.onSent i error) := by
  unfold onSent
  split_ifs
  · exact .refl c
  · cases error with
    | some error => exact plain_emit c i _
    | none => exact (plain_onTask c i _ id).trans (plain_emit _ i _)

lemma plain_sendTexts (count : ℕ) : Plain c (c.sendTexts count) := by
  induction count generalizing c with
  | zero => exact .refl c
  | succ count ih => exact (plain_send c .text).trans (ih _)

/-! ## Lines -/

lemma plain_createTask (kind : TransferKind) (phase : TransferPhase) (name : Bytes) (size : ℕ) :
    Plain c (c.createTask kind phase name size) where
  up := id
  down := id
  closing := id
  buffer := rfl
  busy i hbusy := by
    by_cases hnew : i = c.count
    · subst hnew
      simp [receiverBusy, createTask] at hbusy
    · simpa [receiverBusy, createTask, Function.update_of_ne hnew] using hbusy

lemma plain_startUpload (acc : Bool) : Plain c (c.startUpload i acc) := by
  unfold startUpload
  split_ifs
  · exact .refl c
  · exact plain_onTask c i _ id
  · exact plain_uploadFailed c i _

lemma plain_startDownload (opened : Option String) : Plain c (c.startDownload i opened) := by
  unfold startDownload
  split_ifs
  · exact .refl c
  · cases opened with
    | none => exact plain_onTask c i _ id
    | some error => exact plain_downloadFailed c i error

lemma plain_forceClose : Plain c c.forceClose := ⟨⟨id, id, fun _ => rfl, rfl⟩, fun _ => id⟩

lemma plain_endWindow : Plain c c.endWindow := ⟨⟨id, id, id, rfl⟩, fun _ => id⟩

lemma plain_whenReady {proceed : TransferConnection} (hproceed : Plain c proceed) :
    Plain c (c.whenReady proceed) := by
  unfold whenReady
  split_ifs
  · exact plain_transferFailed c _
  · exact plain_forceClose c
  · exact plain_transferFailed c _
  · exact hproceed

lemma plain_handleUpload (args : Bytes) (acc : Bool) : Plain c (c.handleUpload args acc) := by
  refine plain_whenReady c ?_
  split
  · exact plain_transferFailed c _
  · exact (plain_createTask c _ _ _ _).trans (plain_startUpload _ _ acc)

lemma plain_handleDownload (args : Bytes) (opened : Option String) :
    Plain c (c.handleDownload args opened) := by
  refine plain_whenReady c ?_
  split
  · exact plain_transferFailed c _
  · exact (plain_createTask c _ _ _ _).trans (plain_startDownload _ _ opened)

lemma plain_acknowledge : Plain c (c.acknowledge i).2 := by
  unfold acknowledge
  split_ifs
  · exact .refl c
  · exact .refl c
  · have hidle : Plain c (c.setPhase i .idle) := plain_onTask c i _ id
    exact hidle.trans (plain_emit _ i .downloadComplete)

lemma plain_handleTransferControl (line : Bytes) (choices : Choices) (start : ℕ) :
    Plain c (c.handleTransferControl line choices start).2 := by
  unfold handleTransferControl
  dsimp only
  split
  · split
    · split
      · exact .refl c
      · split
        · exact plain_forceClose c
        · exact plain_acknowledge c _
    · exact plain_forceClose c
  · split_ifs
    · exact (plain_endWindow c).trans (plain_handleUpload _ _ _)
    · exact (plain_endWindow c).trans (plain_handleDownload _ _ _)
    · exact (plain_endWindow c).trans (plain_transferFailed _ _)

lemma plain_dispatchTask (line : Bytes) (choices : Choices) (start : ℕ) :
    Plain c (c.dispatchTask line choices start) := by
  have hsend := plain_send c .text
  unfold dispatchTask
  split
  · exact plain_sendTexts c _
  split
  · exact hsend
  split
  · dsimp only
    split
    · rename_i hup
      exact hsend.trans ⟨⟨nofun, fun hdown => by simp [hup] at hdown, id, rfl⟩, fun _ => id⟩
    · exact hsend
  split
  · exact hsend
  dsimp only
  split
  · split
    · exact plain_sendTexts c 2
    · unfold handleCd
      split
      · exact ⟨⟨id, id, id, rfl⟩, fun _ => id⟩
      · exact hsend
  · split
    · exact .refl c
    · exact hsend
  · split
    · exact .refl c
    · exact hsend
  · exact hsend
  · exact (plain_endWindow c).trans (plain_handleDownload _ _ _)
  · exact (plain_endWindow c).trans (plain_handleUpload _ _ _)
  all_goals exact plain_sendTexts c 2

end Tlss.Ftp.TransferConnection
