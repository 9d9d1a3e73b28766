import Tlss.Ftp.ServerConnection
import Tlss.Ftp.TransferProtocol

/-!
# What the callbacks of the service leave alone

The reading side of a connection depends on little of the session: its state, its input
buffer, whether there is a transfer, and whether the receiver of the transfer waits for the
disk. Apart from messages and the results of the disk, a callback of the service does not
touch a receiver that waits for the disk, and it ends a transfer only while the buffer is
empty (`Steady`).
-/

namespace Tlss.Ftp.TransferConnection

open Library Option AsyncReceiver

variable {c before middle after : TransferConnection} {i : ℕ} {reading : Bool}
  {sent : List Sent}

/-- The receiver of the transfer waits for the disk, and will listen to the result. -/
structure InFlight (conn : TransferConnection) (index : ℕ) : Prop where
  active : conn.transfer = some index
  receiver : ∃ receiver, (conn.tasks index).receiver = some receiver ∧ receiver.busy = true ∧
    receiver.stuck = false

lemma InFlight.unique {j : ℕ} (hflight : c.InFlight i) (htr : c.transfer = some j) : i = j :=
  some.inj (hflight.active.symm.trans htr)

/-! ## Callbacks that leave a busy receiver alone -/

/-- What the callbacks do, apart from messages and results: a receiver that waits for the
disk goes on waiting, only the receiver of the transfer becomes busy, and a transfer ends
only without input. -/
structure Steady (before after : TransferConnection) : Prop extends Onward before after where
  inFlight : after.state = .connected → ∀ index, before.InFlight index → after.InFlight index
  idle : after.state = .connected → after.transfer = none →
    before.transfer = none ∨ before.buffer = []
  submits : after.state = .connected → ∀ index, after.receiverBusy index = true →
    before.receiverBusy index = true ∨ after.InFlight index

lemma Steady.trans (hfirst : Steady before middle) (hsec : Steady middle after) :
    Steady before after where
  toOnward := hfirst.toOnward.trans hsec.toOnward
  inFlight hup i h :=
    hsec.inFlight hup i (hfirst.inFlight (hsec.up hup) i h)
  idle hup hnone := by
    rcases hsec.idle hup hnone with hmiddle | hbuffer
    · exact hfirst.idle (hsec.up hup) hmiddle
    · exact .inr (hfirst.buffer ▸ hbuffer)
  submits hup i hbusy := by
    rcases hsec.submits hup i hbusy with hmiddle | hflight
    · exact (hfirst.submits (hsec.up hup) i hmiddle).imp_right (hsec.inFlight hup i)
    · exact .inr hflight

/-- Without a task at the disk and without input there is nothing to be disturbed. -/
lemma Plain.steady (hplain : Plain before after) (hbuffer : before.buffer = [])
    (hflight : ∀ i, ¬ before.InFlight i) : Steady before after where
  toOnward := hplain.toOnward
  inFlight _ i h := absurd h (hflight i)
  idle _ _ := .inr hbuffer
  submits _ i h := .inl (hplain.busy i h)

variable (c i)

lemma Steady.refl : Steady c c :=
  ⟨.refl c, fun _ _ => id, fun _ => .inl, fun _ _ => .inl⟩

lemma steady_onTask (change : Task → Task) (hrecv : ∃ work : AsyncReceiver → AsyncReceiver,
      (change (c.tasks i)).receiver = (c.tasks i).receiver.map work ∧
        ∀ r, (work r).busy = r.busy ∧ (work r).stuck = r.stuck) : Steady c (c.onTask i change) := by
  obtain ⟨work, hwork, hsame⟩ := hrecv
  have hplain : Plain c (c.onTask i change) := by
    refine plain_onTask c i change fun hbusy => ?_
    rw [hwork] at hbusy
    rw [receiverBusy]
    cases hbef : (c.tasks i).receiver with
    | none => simp [hbef] at hbusy
    | some r => simpa [hbef, (hsame r).1] using hbusy
  refine ⟨hplain.toOnward, fun _ j hflight => ?_, fun _ => .inl,
    fun _ j h => .inl (hplain.busy j h)⟩
  obtain ⟨r, hbef, hbusy, hstuck⟩ := hflight.receiver
  refine ⟨hflight.active, ?_⟩
  by_cases heq : j = i
  · subst heq
    refine ⟨work r, ?_, (hsame r).1.trans hbusy, (hsame r).2.trans hstuck⟩
    rw [onTask_tasks_self, hwork, hbef]
    rfl
  · exact ⟨r, by rw [onTask_tasks_of_ne heq, hbef], hbusy, hstuck⟩

lemma steady_fields (change : Task → Task)
    (hrecv : (change (c.tasks i)).receiver = (c.tasks i).receiver) : Steady c (c.onTask i change) :=
  steady_onTask c i change ⟨id, by rw [map_id]; exact hrecv, fun _ => ⟨rfl, rfl⟩⟩

lemma steady_send (item : Sent) : Steady c (c.send item) := by
  have hplain := plain_send c item
  refine ⟨hplain.toOnward, fun hup j hflight => ?_, fun hup hnone => .inl ?_,
    fun _ j h => .inl (hplain.busy j h)⟩
  all_goals
    have hbef := hplain.up hup
    rcases send_cases hbef item with hclosed | hqueued
    · rw [hclosed, handleClose_state (by simp [hbef])] at hup
      cases hup
  · rw [hqueued]
    exact { hflight with }
  · rwa [hqueued] at hnone

lemma steady_sendTexts (k : ℕ) : Steady c (c.sendTexts k) := by
  induction k generalizing c with
  | zero => exact .refl c
  | succ k ih => exact (steady_send c .text).trans (ih _)

lemma steady_room (room : ℕ) : Steady c { c with room } :=
  ⟨⟨id, id, id, rfl⟩, fun _ _ h => { h with }, fun _ => .inl, fun _ _ => .inl⟩

/-! ## The callbacks one by one -/

lemma steady_authenticate : Steady c (c.act .authenticate) := by
  simp only [act]
  split_ifs
  · exact .refl c
  · have hset : Steady c { c with
        authenticated := true, directory := ascii "/", directoryPending := false } :=
      ⟨⟨id, id, id, rfl⟩, fun _ _ h => { h with }, fun _ => .inl, fun _ _ => .inl⟩
    exact (hset.trans (steady_send _ _)).trans (steady_send _ _)

lemma steady_changeDirectory (directory : Option Bytes) :
    Steady c (c.act (.changeDirectory directory)) := by
  have hset : ∀ directory, Steady c { c with directoryPending := false, directory } :=
    fun _ => ⟨⟨id, id, id, rfl⟩, fun _ _ h => { h with }, fun _ => .inl, fun _ _ => .inl⟩
  simp only [act]
  split_ifs
  · exact .refl c
  · cases directory with
    | none => exact (hset c.directory).trans (steady_sendTexts _ 2)
    | some directory => exact (hset directory).trans (steady_send _ _)

lemma steady_disk (step : AsyncReceiver.DiskStep) : Steady c (c.act (.disk i step)) := by
  refine steady_onTask c i
    (fun task => { task with receiver := task.receiver.map (·.diskStep step) })
    ⟨(·.diskStep step), rfl, fun r => ⟨?_, ?_⟩⟩
  · exact (r.diskStep_loop step).2.2.1
  · exact r.diskStep_stuck step

lemma steady_writeBody (k : ℕ) : Steady c (c.act (.writeBody i k)) := by
  simp only [act]
  split_ifs
  · exact steady_fields c i _ rfl
  · exact .refl c

variable {c i} {r : AsyncReceiver} {acc : Bool} {size : ℕ}

lemma Running.steady_of_download (hrun : Running false c i sent)
    (hkind : (c.tasks i).kind = .download) (hquiet : Quiet (c.tasks i).phase)
    (hplain : Plain c after) : Steady c after := by
  refine hplain.steady (hrun.drained rfl hquiet) fun j hflight => ?_
  obtain rfl := hflight.unique hrun.transfer
  obtain ⟨r, hrecv, -⟩ := hflight.receiver
  rw [hrun.receiver_of_download hkind] at hrecv
  cases hrecv

lemma Inv.steady_onOpened (hinv : Inv false c) (i : ℕ)
    (answer : Except String (ℕ × Bytes)) (prepared : Option String) :
    Steady c (c.onOpened i answer prepared) := by
  by_cases htr : c.transfer = some i
  · by_cases hguard : (c.tasks i).awaiting = true ∧ (c.tasks i).kind = .download
    · obtain ⟨sent, hrun, -⟩ := hinv.running_of_transfer htr
      have hphase : (c.tasks i).phase = .preparingDownload := by
        have hprogress := hrun.progress
        cases hcase : (c.tasks i).phase <;> rw [hcase] at hprogress <;>
          simp [Progress, hguard] at hprogress ⊢
      exact hrun.steady_of_download hguard.2 (by simp [Quiet, hphase])
        (plain_onOpened c i answer prepared)
    · unfold TransferConnection.onOpened
      rw [if_pos]
      · exact .refl c
      · simpa [not_and_or, imp_iff_not_or] using hguard
  · unfold TransferConnection.onOpened
    split
    · exact .refl c
    · rw [if_pos (by simp [alive_onTask htr])]
      exact steady_fields c i _ rfl

lemma Inv.steady_bodyEnds (hinv : Inv false c) (i : ℕ) (error : Option String) :
    Steady c (c.act (.bodyEnds i error)) := by
  simp only [TransferConnection.act]
  split
  · exact .refl c
  rename_i hguard
  have hended := plain_onTask c i (fun task => { task with sending := false }) id
  by_cases htr : c.transfer = some i
  · obtain ⟨sent, hrun, -⟩ := hinv.running_of_transfer htr
    have hsending : (c.tasks i).sending := by
      by_contra h
      exact hguard (by simp [h])
    obtain ⟨hphase, -⟩ := hrun.sending_phase hsending
    have hprogress := hrun.progress
    rw [hphase] at hprogress
    exact hrun.steady_of_download hprogress.1 (by simp [Quiet, hphase])
      (hended.trans (plain_onSent _ i error))
  · unfold onSent
    rw [if_pos (by simp [alive_onTask htr])]
    exact steady_fields c i _ rfl

lemma create_busy (hcreate : create size acc = some r) : r.busy := by
  unfold create submit launch at hcreate
  cases acc with
  | false => simp at hcreate
  | true =>
    obtain rfl : _ = r := by simpa using hcreate
    rfl

lemma onward_onPrepared (c : TransferConnection) (i : ℕ) (answer : Except String Unit)
    (created : Except String Bool) : Onward c (c.onPrepared i answer created) := by
  unfold onPrepared
  dsimp only
  split
  · exact .refl c
  have hanswered :=
    (plain_onTask c i (fun task => { task with awaiting := false }) id).toOnward
  split
  · exact hanswered
  have hfailed := fun error => hanswered.trans (plain_uploadFailed _ i error).toOnward
  cases answer with
  | error error => exact hfailed error
  | ok =>
    cases created with
    | error error => exact hfailed error
    | ok acc =>
      dsimp only
      split
      · exact hfailed _
      · exact hanswered.trans ⟨id, id, id, rfl⟩

lemma steady_create (hbuffer : c.buffer = []) (hflight : ∀ i, ¬ c.InFlight i)
    (htr : c.transfer = some i) (hcreate : create size acc = some r) :
    Steady c (c.setReceiver i r) where
  up := id
  down := id
  closing := id
  buffer := rfl
  inFlight _ j h := absurd h (hflight j)
  idle _ _ := .inr hbuffer
  submits _ j hbusy := by
    by_cases heq : j = i
    · subst heq
      exact .inr ⟨htr, r, by simp [setReceiver], create_busy hcreate,
        (create_spec hcreate).2.2⟩
    · rw [setReceiver, receiverBusy_onTask_of_ne heq] at hbusy
      exact .inl hbusy

lemma Inv.steady_onPrepared (hinv : Inv false c) (i : ℕ) (answer : Except String Unit)
    (created : Except String Bool) : Steady c (c.onPrepared i answer created) := by
  unfold TransferConnection.onPrepared
  dsimp only
  split
  · exact .refl c
  rename_i hguard
  have hanswered := steady_fields c i (fun task => { task with awaiting := false }) rfl
  set next := c.onTask i fun task => { task with awaiting := false } with hnext
  split
  · exact hanswered
  rename_i hlive
  refine hanswered.trans ?_
  obtain ⟨htr, hphase⟩ : next.transfer = some i ∧
      (next.tasks i).phase = .preparingUpload := by
    simp only [alive, Bool.or_eq_true, Bool.not_eq_true', decide_eq_false_iff_not,
      decide_eq_true_eq, not_or, not_not] at hlive
    exact ⟨hlive.1.1, hlive.2⟩
  -- The transfer is at its beginning: it has no receiver, and there is no input.
  obtain ⟨sent, hrun, -⟩ := hinv.running_of_transfer htr
  have hphase' : (c.tasks i).phase = .preparingUpload := by
    rwa [hnext, onTask_tasks_self] at hphase
  have hbuffer : next.buffer = [] := hrun.drained rfl (by simp [Quiet, hphase'])
  have hnone : (c.tasks i).receiver = none := by
    by_contra hsome
    have hawaiting := (hrun.preparing hphase').2.2.2.2.2 (isSome_iff_ne_none.mpr hsome)
    exact hguard (by simp [hawaiting])
  have hflight : ∀ j, ¬ next.InFlight j := by
    intro j hflight
    obtain rfl := hflight.unique htr
    obtain ⟨r, hrecv, -⟩ := hflight.receiver
    rw [hnext, onTask_tasks_self, hnone] at hrecv
    cases hrecv
  have hfailed : ∀ error, Steady next (next.uploadFailed i error) :=
    fun error => (plain_uploadFailed next i error).steady hbuffer hflight
  cases answer with
  | error error => exact hfailed error
  | ok =>
    cases created with
    | error error => exact hfailed error
    | ok acc =>
      dsimp only
      split
      · exact hfailed _
      · rename_i r hcreate
        exact steady_create hbuffer hflight htr hcreate

/-! ## Callbacks without a task for the disk -/

lemma onward_callback (c : TransferConnection) (callback : ServerConnection.Callback) :
    Onward c (c.act callback.action) := by
  cases callback with
  | say => exact (plain_send c .text).toOnward
  | authenticate => exact (steady_authenticate c).toOnward
  | changeDirectory directory => exact (steady_changeDirectory c directory).toOnward
  | disk i step => exact (steady_disk c i step).toOnward
  | opened i answer prepared => exact (plain_onOpened c i answer prepared).toOnward
  | writeBody i k => exact (steady_writeBody c i k).toOnward
  | bodyEnds i error =>
    simp only [ServerConnection.Callback.action, act]
    split
    · exact .refl c
    · have hended := plain_onTask c i (fun task => { task with sending := false }) id
      exact (hended.trans (plain_onSent _ i error)).toOnward

lemma Inv.steady_callback (hinv : Inv false c) (callback : ServerConnection.Callback) :
    Steady c (c.act callback.action) := by
  cases callback with
  | say => exact steady_send c .text
  | authenticate => exact steady_authenticate c
  | changeDirectory directory => exact steady_changeDirectory c directory
  | disk i step => exact steady_disk c i step
  | opened i answer prepared => exact hinv.steady_onOpened i answer prepared
  | writeBody i k => exact steady_writeBody c i k
  | bodyEnds i error => exact hinv.steady_bodyEnds i error

end Tlss.Ftp.TransferConnection
