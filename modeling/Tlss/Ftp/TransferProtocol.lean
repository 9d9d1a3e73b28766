import Tlss.Ftp.TransferLines

/-!
# The transfer protocol of the server

Every event keeps the invariant, so it holds after every run. The protocol follows from it.
-/

namespace Tlss.Ftp.TransferConnection

open Library List Option

variable {c : TransferConnection} {reading : Bool} {index : ℕ} {sent : List Sent}

/-! ## Every event keeps the invariant -/

lemma Sound.arrive (hs : c.Sound) (bs : Bytes) :
    Sound { c with buffer := c.buffer ++ bs, stream := c.stream ++ bs } := by
  refine { hs with tasks := fun index => ?_, buffer := ?_, position := ?_ }
  · have htask := hs.tasks index
    refine { htask with fed := fun start r hstart hreceiver => ?_ }
    rw [drop_append]
    exact (htask.fed start r hstart hreceiver).trans (prefix_append _ _)
  · rw [drop_append_of_le_length hs.position, hs.buffer]
  · rw [length_append]
    exact hs.position.trans (Nat.le_add_right _ _)

lemma Inv.onMessage (hinv : Inv false c) (bs : Bytes) (ch : Choices) :
    Inv false (c.onMessage bs ch) := by
  unfold TransferConnection.onMessage
  split
  · exact hinv
  · refine Inv.messageLoop ch _ ?_ (le_refl _)
    cases hinv with
    | resting hrest =>
      exact .resting { hrest with sound := hrest.sound.arrive bs }
    | running index sent hrun hbody =>
      exact .running index sent { hrun with sound := hrun.sound.arrive bs, drained := nofun } hbody

/-- Before the login there are no transfers, so `AUTH_OK` belongs to none. -/
lemma Inv.authenticate (hinv : Inv reading c) : Inv reading (c.act .authenticate) := by
  simp only [act]
  split
  · exact hinv
  · rename_i hguard
    have hlogin : c.authenticated = false := by
      by_contra h
      exact hguard (by simp [h])
    cases hinv with
    | resting hrest =>
      have hs := hrest.sound
      have hwindow := hs.login hlogin
      have hnext : Resting { c with
          authenticated := true, directory := ascii "/", directoryPending := false } :=
        { hrest with sound := { hs with login := (by simp) } }
      exact (hnext.send hwindow).send_text
    | running index sent hrun =>
      have hcurrent := hrun.current
      simp [isCurrent, hlogin] at hcurrent

lemma Inv.changeDirectory (hinv : Inv reading c) (directory : Option Bytes) :
    Inv reading (c.act (.changeDirectory directory)) := by
  simp only [act]
  split
  · exact hinv
  · rename_i hguard
    have hpending : c.directoryPending := by
      by_contra h
      exact hguard (by simp [h])
    cases hinv with
    | resting hrest =>
      cases directory with
      | some directory =>
        have hnext : Resting { c with directoryPending := false, directory } :=
          { hrest with sound := hrest.sound.adjust .. }
        exact (Inv.resting hnext).send_text
      | none =>
        have hnext : Resting { c with directoryPending := false } :=
          { hrest with sound := hrest.sound.adjust .. }
        exact (Inv.resting hnext).sendTexts 2
    | running index sent hrun =>
      rw [hrun.settled] at hpending
      cases hpending

lemma kept_diskStep (task : Task) (step : AsyncReceiver.DiskStep) :
    Kept task { task with receiver := task.receiver.map (·.diskStep step) } := by
  refine ⟨rfl, ?_, id, id, id⟩
  cases hreceiver : task.receiver with
  | none => exact .inl ⟨rfl, rfl⟩
  | some r =>
    exact .inr ⟨r, r.diskStep step, rfl, rfl, r.diskStep_fed step,
      r.diskStep_stuck step, fun hexact => hexact.diskStep step⟩

lemma Inv.act (hinv : Inv false c) (action : Action) : Inv false (c.act action) := by
  cases action with
  | message bs ch => exact hinv.onMessage bs ch
  | close =>
    by_cases hstate : c.state = .disconnected
    · simp only [TransferConnection.act, TransferConnection.handleClose, hstate, if_true]
      exact hinv
    · exact hinv.sound.handleClose hstate
  | say => exact hinv.send_text
  | authenticate => exact hinv.authenticate
  | changeDirectory directory => exact hinv.changeDirectory directory
  | prepared index answer created => exact hinv.onPrepared index answer created
  | disk index step =>
    simp only [TransferConnection.act]
    exact hinv.keep index (kept_diskStep (c.tasks index) step)
  | result index accepted => exact hinv.onResult index accepted
  | opened index answer prepared => exact hinv.onOpened index answer prepared
  | writeBody index count =>
    simp only [TransferConnection.act]
    split
    · exact hinv.keep index (kept_of_fields id id fun h => by rw [h]; simp)
    · exact hinv
  | bodyEnds index error => exact hinv.bodyEnds index error

lemma Inv.step (hinv : Inv false c) (e : Event) : Inv false (c.step e) :=
  (hinv.adjust e.room id).act e.action

lemma inv_new : Inv false new := by
  have htask : ∀ index, TaskSound new.stream new.lines (new.tasks index) := fun index =>
    taskSound_of_none _ _ rfl rfl rfl
  exact .resting ⟨⟨fun _ _ => rfl, nofun, nofun, nofun, htask, rfl, le_refl _, nofun, fun _ => rfl,
    nofun⟩, rfl, nofun, nofun⟩

lemma inv_run (events : List Event) : Inv false (run step new events) := by
  have hstep : ∀ (c : TransferConnection) e, Inv false c → Inv false (c.step e) :=
    fun _ e hinv => hinv.step e
  exact run_invariant hstep inv_new events

/-! ## Tasks that are over -/

def Action.callback : Action → Option ℕ
  | .prepared index _ _ | .disk index _ | .result index _ | .opened index _ _
  | .writeBody index _ | .bodyEnds index _ => some index
  | .message _ _ | .close | .say | .authenticate | .changeDirectory _ => none

def Over (conn : TransferConnection) (index : ℕ) : Prop :=
  conn.transfer ≠ some index ∨ (conn.tasks index).failed = true

def OnlyTask (conn : TransferConnection) (index : ℕ) (conn' : TransferConnection) : Prop :=
  ∃ task, conn' = { conn with tasks := Function.update conn.tasks index task }

lemma onlyTask_self : OnlyTask c index c :=
  ⟨c.tasks index, by rw [Function.update_eq_self]⟩

lemma onlyTask_onTask (change : Task → Task) : OnlyTask c index (c.onTask index change) :=
  ⟨_, rfl⟩

lemma alive_onTask (htr : c.transfer ≠ some index) (change : Task → Task) :
    (c.onTask index change).alive index = false :=
  decide_eq_false htr

lemma Sound.callback_of_over {action : Action} (hs : c.Sound) (hover : c.Over index)
    (haction : action.callback = some index) : OnlyTask c index (c.act action) := by
  have htask := hs.tasks index
  have hstuck : ∀ r, (c.tasks index).receiver = some r →
      r.stuck := htask.stuck (hover.symm.imp_right (hs.cancelled index))
  have hawaiting : c.transfer ≠ some index ∨ (c.tasks index).awaiting = false :=
    hover.imp_right fun h => (htask.silent h).1
  have hsending : c.transfer ≠ some index ∨ (c.tasks index).sending = false :=
    hover.imp_right fun h => (htask.silent h).2
  cases action with
  | prepared y answer created =>
    obtain rfl : y = index := some.inj haction
    simp only [act, onPrepared]
    split
    · exact onlyTask_self
    · rename_i hguard
      rcases hawaiting with htr | hnot
      · rw [if_pos (by simp [alive_onTask htr])]
        exact onlyTask_onTask _
      · exact absurd (by simp [hnot]) hguard
  | disk y step =>
    obtain rfl : y = index := some.inj haction
    simp only [act]
    exact onlyTask_onTask _
  | result y accepted =>
    obtain rfl : y = index := some.inj haction
    simp only [act, onResult]
    split
    · exact onlyTask_self
    · rename_i r hreceiver
      split
      · exact onlyTask_self
      · have hstuck' := hstuck r hreceiver
        rw [AsyncReceiver.stuck] at hstuck'
        rw [if_pos (by rw [Bool.or_assoc, hstuck', Bool.or_true])]
        exact onlyTask_onTask _
  | opened y answer prepared =>
    obtain rfl : y = index := some.inj haction
    simp only [act, onOpened]
    split
    · exact onlyTask_self
    · rename_i hguard
      rcases hawaiting with htr | hnot
      · rw [if_pos (by simp [alive_onTask htr])]
        exact onlyTask_onTask _
      · exact absurd (by simp [hnot]) hguard
  | writeBody y count =>
    obtain rfl : y = index := some.inj haction
    simp only [act]
    split
    · exact onlyTask_onTask _
    · exact onlyTask_self
  | bodyEnds y error =>
    obtain rfl : y = index := some.inj haction
    simp only [act]
    split
    · exact onlyTask_self
    · rename_i hguard
      rcases hsending with htr | hnot
      · simp only [onSent]
        rw [if_pos (by simp [alive_onTask htr])]
        exact onlyTask_onTask _
      · exact absurd (by simp [hnot]) hguard
  | message | close | say | authenticate | changeDirectory => cases haction

/-! ## The protocol -/

/-- What was sent for a transfer follows the protocol, and all of it was sent unless the
transfer is active or the connection down. -/
structure Conforms (conn : TransferConnection) (window : Window) : Prop where
  facts : Facts (conn.tasks window.task) conn.lines window.sent
  complete : conn.transfer ≠ some window.task → conn.state ≠ .disconnected →
    Exchange (conn.tasks window.task).kind (controls window.sent)

lemma Inv.conforms (hinv : Inv reading c) {window : Window}
    (hwindow : c.window = some window) : c.Conforms window := by
  refine ⟨hinv.sound.facts window (mem_windows_of_window hwindow), fun htr hstate => ?_⟩
  cases hinv with
  | resting hrest => exact hrest.complete hstate window hwindow
  | running index sent hrun =>
    obtain rfl : ⟨index, sent⟩ = window := some.inj (hrun.window.symm.trans hwindow)
    exact absurd hrun.transfer htr

lemma Sound.active_unique (hs : c.Sound) {first second : ℕ}
    (hfirst : (c.tasks first).cancelled = false)
    (hsecond : (c.tasks second).cancelled = false) : first = second := by
  have howner : ∀ index, (c.tasks index).cancelled = false → c.transfer = some index := by
    intro index hactive
    by_contra hother
    rw [hs.cancelled index hother] at hactive
    cases hactive
  exact some.inj ((howner first hfirst).symm.trans (howner second hsecond))

/-- At most one task is active. Every accepted transfer has its stretch of output, whose frames
follow the protocol. The callbacks of tasks that are over send nothing and leave the session alone.
-/
theorem transfers_conform (events : List Event) :
    (∀ first second, ((run step new events).tasks first).cancelled = false →
      ((run step new events).tasks second).cancelled = false → first = second) ∧
    (∀ index < (run step new events).count,
      ∃ window ∈ (run step new events).windows, window.task = index) ∧
    (∀ window, (run step new events).window = some window → (run step new events).Conforms window) ∧
    (∀ window ∈ (run step new events).past,
      Facts ((run step new events).tasks window.task) (run step new events).lines window.sent ∧
      Exchange ((run step new events).tasks window.task).kind (controls window.sent)) ∧
    ∀ event index, event.action.callback = some index → (run step new events).Over index →
      OnlyTask { run step new events with room := event.room } index
        ((run step new events).step event) := by
  have hinv := inv_run events
  have hsound := hinv.sound
  refine ⟨fun _ _ => hsound.active_unique, hsound.recorded, fun _ => hinv.conforms,
    fun window hpast => ⟨hsound.facts window (mem_windows_of_past hpast),
      (hsound.past window hpast).2⟩, fun event index haction hover => ?_⟩
  exact (hsound.adjust _ event.room _ _ _ _).callback_of_over hover haction

def sampleChoices : Choices where
  accepted _ := true
  opened _ := none
  replies _ := 1

/-- An upload of three bytes, with the next command right behind its body. -/
def sampleEvents : List Event :=
  [.authenticate, .message (ascii "@TLSS UPLOAD 3 a\n") sampleChoices,
    .prepared 0 (.ok ()) (.ok true), .disk 0 .check, .disk 0 (.carryOut (.ok [])),
    .disk 0 .conclude, .result 0 true, .message (ascii "abcls\n") sampleChoices,
    .disk 0 .check, .disk 0 (.carryOut (.ok [])), .disk 0 .conclude, .result 0 true,
    .disk 0 .check, .disk 0 (.carryOut (.ok (ascii "hash"))), .disk 0 .conclude, .disk 0 .post,
    .result 0 true].map (⟨·, 8⟩)

theorem transfers_conform_upload : (run step new sampleEvents).window.map (·.sent) =
        some [.frame .uready, .frame (.uok (ascii "hash")), .text] ∧
      ∀ window, (run step new sampleEvents).window = some window →
        (run step new sampleEvents).Conforms window :=
  ⟨by decide +kernel, (transfers_conform sampleEvents).2.2.1⟩

end Tlss.Ftp.TransferConnection
