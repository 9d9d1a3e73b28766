import Tlss.Ftp.TransferInvariant

/-!
# Uploads keep the invariant

The callbacks of an upload, from the answer of `prepare_upload` to the result of its
finalizer, and the consumption of its body. A failure before `UREADY` or after the last byte
of the body is reported to the client and ends the transfer; in between it closes the
connection.
-/

namespace Tlss.Ftp.TransferConnection

open Library List Function Option AsyncReceiver

variable {c : TransferConnection} {reading : Bool} {i : ℕ} {sent : List Sent}

/-! ## The active transfer -/

lemma Inv.running_of_transfer (hinv : Inv reading c) (htr : c.transfer = some i) :
    ∃ sent, Running reading c i sent ∧ c.BodyAt i := by
  cases hinv with
  | resting hresting =>
    rw [hresting.transfer] at htr
    cases htr
  | running active sent hrun hbody =>
    obtain rfl : active = i := some.inj (hrun.transfer.symm.trans htr)
    exact ⟨sent, hrun, hbody⟩

lemma Sound.not_current (hs : c.Sound) (htr : c.transfer ≠ some i) : c.isCurrent i = false := by
  simp [isCurrent, hs.cancelled i htr]

section

variable (hrun : Running reading c i sent)
include hrun

lemma Running.of_not_quiet (hquiet : ¬ Quiet (c.tasks i).phase) (reading' : Bool) :
    Running reading' c i sent :=
  { hrun with drained := fun _ h => absurd h hquiet }

lemma Running.finished_all (hfinished : c.Finished i) (j : ℕ) : c.Finished j := by
  by_cases hother : j = i
  · exact hother ▸ hfinished
  · exact hrun.finished j hother

lemma Running.transferFailed (err : String)
    (hexchange : Exchange (c.tasks i).kind (controls sent ++ [.frame (.error err)]))
    (hcons : controls sent = [.frame .uready] → (c.tasks i).consumed = (c.tasks i).size)
    (hfinished : c.Finished i) : Inv reading (c.transferFailed err) := by
  refine Inv.send_text (hrun.sound.settle hrun.connected hrun.transfer
    hrun.window (hrun.finished_all hfinished) hexchange ?_ _)
  refine hrun.facts.frame ⟨_, hexchange, prefix_rfl⟩ (fun message hfrs => ?_) nofun nofun nofun
  have hfront := congrArg dropLast hfrs
  rw [dropLast_concat] at hfront
  exact hcons hfront

lemma Running.failClose (hwait : (c.tasks i).awaiting = false)
    (hsending : (c.tasks i).sending = false) (hstuck : ∀ r, (c.tasks i).receiver = some r → r.stuck)
    (hph : (c.tasks i).phase ≠ .preparingUpload)
    (hphase' : (c.tasks i).phase ≠ .preparingDownload) : Inv reading
      (c.onTask i fun t => { t with failed := true }).forceClose := by
  have htask := hrun.sound.tasks i
  have hfailed : Running reading (c.onTask i fun t => { t with failed := true })
      i sent := by
    refine hrun.onTask { htask with stuck := fun _ => hstuck, silent := fun _ => ⟨hwait,
      hsending⟩ } (isCurrent_onTask rfl rfl rfl) rfl
      (hrun.facts.mono rfl rfl rfl rfl id (List.Subset.refl _)) ?_ id
    have hprog := hrun.progress
    cases hcase : (c.tasks i).phase <;> rw [hcase] at hprog
    case preparingUpload => exact absurd hcase hph
    case preparingDownload => exact absurd hcase hphase'
    all_goals exact hprog
  refine .running i sent { hfailed with sound := hfailed.sound.adjust .. } ?_
  intro start r _ hrecv
  change ((c.onTask i fun t => { t with failed := true }).tasks i).receiver = some r at hrecv
  rw [onTask_tasks_self] at hrecv
  refine ⟨fun h => ?_, fun _ => rfl⟩
  rw [hstuck r hrecv] at h
  cases h

omit hrun in
lemma emit_failed (hcur : c.isCurrent i) (err : String) (close : Bool) :
    c.emit i (.failed err close) =
      if close then (c.onTask i fun t => { t with failed := true }).forceClose
      else c.transferFailed err := by
  cases close <;> simp [emit, hcur]

/-! ## Failures -/

lemma Running.uploadFailed (hkind : (c.tasks i).kind = .upload) (err : String)
    (hpos : ∀ start, (c.tasks i).start = some start → c.position = start + (c.tasks i).consumed)
    (hstuck : (c.tasks i).phase = .receivingUpload → ∀ r, (c.tasks i).receiver = some r → r.stuck) :
    Inv reading (c.uploadFailed i err) := by
  have hprog := hrun.progress
  unfold TransferConnection.uploadFailed
  rw [hrun.current, if_neg (by simp), emit_failed hrun.current]
  cases hcase : (c.tasks i).phase <;> rw [hcase] at hprog <;>
    simp only [Progress, hkind, reduceCtorEq, false_and] at hprog
  case preparingUpload =>
    obtain ⟨-, hfrs, hstart, -⟩ := hprog
    rw [if_neg (by simp)]
    refine hrun.transferFailed err ?_ (fun h => ?_) fun start hstart' => ?_
    · rw [hkind, hfrs]
      exact .uploadRefused err
    · rw [hfrs] at h
      cases h
    · rw [hstart] at hstart'
      cases hstart'
  case receivingUpload =>
    obtain ⟨-, -, -, -, hwait, hsending, -⟩ := hprog
    rw [if_pos (by simp)]
    exact hrun.failClose hwait hsending (hstuck hcase) (by simp [hcase]) (by simp [hcase])
  case finalizingUpload =>
    obtain ⟨-, hfrs, -, -, -, -, hcons⟩ := hprog
    rw [if_neg (by simp)]
    refine hrun.transferFailed err ?_ (fun _ => hcons) fun start hstart => ⟨hcons, ?_⟩
    · rw [hkind, hfrs]
      exact .uploadFailed err
    · rw [hpos start hstart, hcons]

lemma Running.setReceiver {r receiver' : AsyncReceiver} (hrecv : (c.tasks i).receiver = some r)
    (hex : receiver'.Exact (c.tasks i).size) (hfed : receiver'.fed = r.fed)
    (hstuck : r.stuck → receiver'.stuck) : Running reading (c.setReceiver i receiver') i sent := by
  have htask := hrun.sound.tasks i
  have hcons : Task.consumed { c.tasks i with receiver := some receiver' } =
      (c.tasks i).consumed := by
    simp [Task.consumed, hrecv, hfed]
  refine hrun.onTask ⟨?_, ?_, ?_, ?_, ?_, htask.silent, fun _ _ => htask.upload _ hrecv⟩
    (isCurrent_onTask rfl rfl rfl) rfl
    (hrun.facts.mono rfl rfl hcons rfl id (List.Subset.refl _)) ?_ id
  · rintro _ ⟨⟩
    exact hex
  · rw [hcons]
    exact htask.unfed
  · rintro start _ hstart ⟨⟩
    rw [hfed]
    exact htask.fed start r hstart hrecv
  · rw [hcons]
    exact htask.lines
  · rintro hover _ ⟨⟩
    exact hstuck (htask.stuck hover r hrecv)
  · exact hrun.progress.congr rfl rfl rfl rfl rfl rfl rfl rfl hcons (by rw [hrecv]; rfl)

omit hrun in
lemma setReceiver_setReceiver (r receiver' : AsyncReceiver) :
    (c.setReceiver i r).setReceiver i receiver' = c.setReceiver i receiver' := by
  simp [setReceiver, onTask]

omit hrun in
lemma setReceiver_tasks (c : TransferConnection) (i : ℕ) (r : AsyncReceiver) :
    (c.setReceiver i r).tasks i = { c.tasks i with receiver := some r } :=
  update_self ..

lemma Running.reportError {r receiver' : AsyncReceiver} (hkind : (c.tasks i).kind = .upload)
    (hrecv : (c.tasks i).receiver = some r)
    (hex : receiver'.abandon.Exact (c.tasks i).size) (hfed : receiver'.fed = r.fed)
    (hpos : ∀ start, (c.tasks i).start = some start →
      c.position = start + r.fed.length) (err : String) :
    Inv reading (c.reportError i receiver' err) := by
  have habandoned := hrun.setReceiver hrecv hex (receiver'.abandon_fed.trans hfed) fun _ => rfl
  have htask := c.setReceiver_tasks i receiver'.abandon
  refine habandoned.uploadFailed ?_ err ?_ ?_
  · rw [htask]
    exact hkind
  · rw [htask]
    intro start hstart
    rw [Task.consumed, map_some, abandon_fed, hfed]
    exact hpos start hstart
  · rw [htask]
    rintro _ _ ⟨⟩
    exact abandon_stuck

/-! ## Before the body -/

omit hrun in
lemma bodyAt_of_start (hstart : (c.tasks i).start = none) : c.BodyAt i := by
  intro start r hstart'
  rw [hstart] at hstart'
  cases hstart'

lemma Running.preparing (hph : (c.tasks i).phase = .preparingUpload) :
    (c.tasks i).kind = .upload ∧ controls sent = [] ∧ (c.tasks i).start = none ∧
      (c.tasks i).sending = false ∧ (c.tasks i).failed = false ∧
      ((c.tasks i).receiver.isSome → (c.tasks i).awaiting = false) := by
  have hprog := hrun.progress
  rw [hph] at hprog
  exact hprog

lemma Running.uploadFailed_preparing (hph : (c.tasks i).phase = .preparingUpload) (err : String) :
    Inv reading (c.uploadFailed i err) := by
  obtain ⟨hkind, -, hstart, -⟩ := hrun.preparing hph
  refine hrun.uploadFailed hkind err (fun start hstart' => ?_) fun hreceiving => ?_
  · rw [hstart] at hstart'
    cases hstart'
  · rw [hph] at hreceiving
    cases hreceiving

lemma Running.startUpload (hph : (c.tasks i).phase = .preparingUpload)
    (hrecv : (c.tasks i).receiver = none) (acc : Bool) : Inv reading (c.startUpload i acc) := by
  obtain ⟨hkind, hfrs, hstart, hsending, hfailed, -⟩ := hrun.preparing hph
  have htask := hrun.sound.tasks i
  unfold TransferConnection.startUpload
  rw [hrun.current, if_neg (by simp)]
  split_ifs
  · refine .running i sent (hrun.onTask { htask with silent := fun h => ?_ }
      (isCurrent_onTask rfl rfl rfl) rfl
      (hrun.facts.mono rfl rfl rfl rfl id (List.Subset.refl _)) ?_ id) (bodyAt_of_start ?_)
    · exact absurd (hfailed.symm.trans h) Bool.false_ne_true
    · simp only [hph]
      exact ⟨hkind, hfrs, hstart, hsending, hfailed, by simp [hrecv]⟩
    · rw [onTask_tasks_self]
      exact hstart
  · exact hrun.uploadFailed_preparing hph _

variable {r : AsyncReceiver} {phase : TransferPhase} {count : ℕ} {results : List DiskResult}
  {result : DiskResult}

lemma Running.createReceiver (hph : (c.tasks i).phase = .preparingUpload)
    (hwait : (c.tasks i).awaiting = false)
    (hex : r.Exact (c.tasks i).size) (hfed : r.fed = []) : Inv reading (c.setReceiver i r) := by
  obtain ⟨hkind, hfrs, hstart, hsending, hfailed, -⟩ := hrun.preparing hph
  have hnone : ∀ start, (c.tasks i).start ≠ some start := by simp [hstart]
  have hcons : Task.consumed { c.tasks i with receiver := some r } = 0 := by
    simp [Task.consumed, hfed]
  have hbefore : (c.tasks i).consumed = 0 := (hrun.sound.tasks i).unfed hstart
  refine .running i sent (hrun.onTask ⟨?_, fun _ => hcons,
    fun start _ h => absurd h (hnone start), fun start h => absurd h (hnone start), ?_,
    (hrun.sound.tasks i).silent, fun _ _ => hkind⟩ (isCurrent_onTask rfl rfl rfl) rfl
    (hrun.facts.mono rfl rfl (hcons.trans hbefore.symm) rfl id (List.Subset.refl _)) ?_ id)
    (bodyAt_of_start ?_)
  · rintro _ ⟨⟩
    exact hex
  · rintro (h | h)
    · exact absurd (hfailed.symm.trans h) Bool.false_ne_true
    · exact absurd (hrun.not_cancelled.symm.trans h) Bool.false_ne_true
  · simp only [hph]
    exact ⟨hkind, hfrs, hstart, hsending, hfailed, fun _ => hwait⟩
  · rw [setReceiver_tasks]
    exact hstart

omit hrun in
lemma Inv.onPrepared (hinv : Inv reading c) (i : ℕ) (answer : Except String Unit)
    (created : Except String Bool) : Inv reading (c.onPrepared i answer created) := by
  unfold TransferConnection.onPrepared
  split_ifs with hguard
  · exact hinv
  · set next := c.onTask i fun t => { t with awaiting := false } with hnext
    have hinv' : Inv reading next := hinv.keep i (kept_of_fields nofun id id)
    simp only
    split_ifs with hskip
    · exact hinv'
    · obtain ⟨htr, hph⟩ : next.transfer = some i ∧
          (next.tasks i).phase = .preparingUpload := by
        simp only [alive, Bool.or_eq_true, Bool.not_eq_true', decide_eq_false_iff_not,
          decide_eq_true_eq, not_or, not_not] at hskip
        exact ⟨hskip.1.1, hskip.2⟩
      obtain ⟨sent, hrun, -⟩ := hinv'.running_of_transfer htr
      split
      · exact hrun.uploadFailed_preparing hph _
      · split
        · exact hrun.uploadFailed_preparing hph _
        · split
          · exact hrun.uploadFailed_preparing hph _
          · rename_i r hcreate
            obtain ⟨hex, hfed, -⟩ := create_spec hcreate
            exact hrun.createReceiver hph (by rw [hnext, onTask_tasks_self]) hex hfed

/-! ## The body begins -/

omit hrun in
lemma finishReceiver_cases (hrecv : (c.tasks i).receiver = some r)
    (hex : r.Exact (c.tasks i).size) (hremaining : r.remaining = 0)
    (acc : Bool) : ∃ finished receiver',
      c.finishReceiver i acc = (finished, c.setReceiver i receiver') ∧
        receiver'.Exact (c.tasks i).size ∧ receiver'.fed = r.fed ∧ receiver'.stuck = !finished := by
  obtain ⟨finished, receiver', hfinish, hrest⟩ := hex.finish_cases hremaining acc
  refine ⟨finished, receiver', ?_, hrest⟩
  unfold finishReceiver
  rw [hrecv]
  simp only [hfinish]

omit hrun in
lemma Sound.position_of_buffer (hs : c.Sound) (hbuffer : c.buffer = []) :
    c.position = c.stream.length := by
  have hdrop := hs.buffer.symm.trans hbuffer
  have hlength := drop_eq_nil_iff.mp hdrop
  exact le_antisymm hs.position hlength

omit hrun in
lemma Running.ready (hrun : Running false c i sent)
    (hph : (c.tasks i).phase = .preparingUpload) (hrecv : (c.tasks i).receiver = some r) :
    r.fed = [] ∧ c.position = c.stream.length := by
  have hcons := (hrun.sound.tasks i).unfed (hrun.preparing hph).2.2.1
  rw [Task.consumed, hrecv] at hcons
  exact ⟨eq_nil_of_length_eq_zero hcons,
    hrun.sound.position_of_buffer (hrun.drained rfl (.inl hph))⟩

omit hrun in
lemma Running.sound_started (hrun : Running false c i sent)
    (hph : (c.tasks i).phase = .preparingUpload)
    (hrecv : (c.tasks i).receiver = some r) (phase : TransferPhase) :
    (c.onTask i fun t => { t with phase, start := some c.stream.length }).Sound := by
  obtain ⟨hfed, hpos⟩ := hrun.ready hph hrecv
  have htask := hrun.sound.tasks i
  refine hrun.sound_onTask { htask with unfed := nofun, fed := ?_, lines := ?_ } rfl
    (hrun.facts.mono rfl rfl rfl rfl id (List.Subset.refl _))
  · intro start receiver' _ hreceiver'
    obtain rfl : r = receiver' := some.inj (hrecv.symm.trans hreceiver')
    rw [hfed]
    exact nil_prefix
  · rintro _ ⟨⟩ line hline
    exact .inl (hpos ▸ hrun.sound.lines line hline)

omit hrun in
lemma Running.uready (hrun : Running false c i sent)
    (hph : (c.tasks i).phase = .preparingUpload) (hrecv : (c.tasks i).receiver = some r)
    (hnext : phase = .receivingUpload ∧ (c.tasks i).size ≠ 0 ∨
      phase = .finalizingUpload ∧ (c.tasks i).size = 0) : Running false ((c.onTask i fun t =>
      { t with phase, start := some c.stream.length }).enqueue (.frame .uready)) i
      (sent ++ [.frame .uready]) := by
  obtain ⟨hkind, hfrs, hstart, hsending, hfailed, hwait⟩ := hrun.preparing hph
  replace hwait : (c.tasks i).awaiting = false := hwait (by simp [hrecv])
  have hcons : (c.tasks i).consumed = 0 := (hrun.sound.tasks i).unfed hstart
  refine hrun.advance (hrun.sound_started hph hrecv phase) (isCurrent_onTask rfl rfl rfl) ?_ ?_ ?_
  · refine Facts.frame (hrun.facts.mono rfl rfl rfl rfl id (List.Subset.refl _))
      ⟨[.frame .uready, .frame (.uok [])], ?_, ?_⟩ ?_ nofun nofun nofun
    · rw [hkind]
      exact .uploaded []
    · rw [hfrs]
      exact ⟨_, rfl⟩
    · intro message h
      rw [hfrs] at h
      cases h
  · rw [controls_frame, hfrs]
    rcases hnext with ⟨rfl, hsize⟩ | ⟨rfl, hsize⟩
    · exact ⟨hkind, rfl, rfl, by simp [hrecv], hwait, hsending, fun h => hsize
        (h.symm.trans hcons)⟩
    · exact ⟨hkind, rfl, rfl, by simp [hrecv], hwait, hsending, hcons.trans hsize.symm⟩
  · rcases hnext with ⟨rfl, -⟩ | ⟨rfl, -⟩ <;> simp [Quiet]

omit hrun in
lemma emit_uploadReady (hcur : c.isCurrent i) : c.emit i .uploadReady = c.sendControl .uready := by
  simp [emit, hcur]

omit hrun in
lemma send_cases (hstate : c.state = .connected) (item : Sent) :
    c.send item = c.handleClose ∨ c.send item = c.enqueue item := by
  unfold send
  rw [if_neg (by simp [hstate])]
  by_cases hroom : c.room = 0
  · exact .inl (if_pos hroom)
  · exact .inr (if_neg hroom)

omit hrun in
lemma setPhase_enqueue_onTask (change : Task → Task) (item : Sent) (phase : TransferPhase) :
    ((c.onTask i change).enqueue item).setPhase i phase =
      (c.onTask i fun t => { change t with phase }).enqueue item := by
  simp [setPhase, onTask, enqueue]

/-- How a part of a callback that may throw leaves an upload: in order, or running with a
receiver that is stuck behind the last byte it was fed. -/
def Returned (reading : Bool) (index : ℕ) : Bool × TransferConnection → Prop
  | (true, conn) => Inv reading conn ∧ ∀ receiver, conn.transfer = some index →
      (conn.tasks index).receiver = some receiver → receiver.stuck = false
  | (false, conn) => ∃ sent receiver, Running reading conn index sent ∧
      (conn.tasks index).kind = .upload ∧ (conn.tasks index).receiver = some receiver ∧
      receiver.Exact (conn.tasks index).size ∧ receiver.stuck = true ∧
      ∀ start, (conn.tasks index).start = some start → conn.position = start + receiver.fed.length

lemma Running.finishReceiver (hph : (c.tasks i).phase = .finalizingUpload)
    (hrecv : (c.tasks i).receiver = some r) (hstuck : r.stuck = false)
    (hpos : ∀ start, (c.tasks i).start = some start →
      c.position = start + r.fed.length) (acc : Bool) :
    Returned reading i (c.finishReceiver i acc) := by
  have hprog := hrun.progress
  rw [hph] at hprog
  obtain ⟨hkind, -, -, -, -, -, hcons⟩ := hprog
  have hex := (hrun.sound.tasks i).exact r hrecv
  have hremaining : r.remaining = 0 := by
    have := hex.remaining
    rw [Task.consumed, hrecv, map_some, getD_some] at hcons
    omega
  obtain ⟨finished, receiver', hfinish, hexact', hfed, hstuck'⟩ :=
    finishReceiver_cases hrecv hex hremaining acc
  have htask := c.setReceiver_tasks i receiver'
  have hrunning' := hrun.setReceiver hrecv hexact' hfed fun h => by
    rw [hstuck] at h; cases h
  rw [hfinish]
  cases finished with
  | true =>
    refine ⟨.running i sent hrunning' ?_, ?_⟩
    · rw [BodyAt, htask]
      rintro start _ hstart ⟨⟩
      refine ⟨fun _ => by rw [hfed]; exact hpos start hstart, fun h => ?_⟩
      rw [hstuck'] at h
      cases h
    · rw [htask]
      rintro _ _ ⟨⟩
      exact hstuck'
  | false =>
    refine ⟨sent, receiver', hrunning', ?_, ?_, ?_, hstuck', ?_⟩ <;> rw [htask]
    · exact hkind
    · exact hexact'
    · rw [hfed]
      exact hpos

omit hrun in
lemma handleClose_transfer (hstate : c.state ≠ .disconnected) : c.handleClose.transfer = none := by
  unfold handleClose
  rw [if_neg hstate]
  exact resetTransfer_transfer

omit hrun in
/-- `on_ready`: the connection may go down with `UREADY`; an empty body is finished at
once. -/
lemma Running.onReady (hrun : Running false c i sent)
    (hph : (c.tasks i).phase = .preparingUpload) (hrecv : (c.tasks i).receiver = some r)
    (hstuck : r.stuck = false) (acc : Bool) : Returned false i (c.onReady i acc) := by
  obtain ⟨hfed, hpos⟩ := hrun.ready hph hrecv
  unfold TransferConnection.onReady
  rw [if_neg (by simp [hrun.current, hph])]
  simp only
  set next := c.onTask i fun t =>
    { t with phase := .receivingUpload, start := some c.stream.length } with hnext
  have hcur : next.isCurrent i :=
    (isCurrent_onTask rfl rfl rfl).trans hrun.current
  have hconnected : next.state = .connected := hrun.connected
  rw [emit_uploadReady hcur, sendControl]
  rcases send_cases hconnected (.frame .uready) with hsend | hsend <;> rw [hsend]
  · -- The connection goes down, and the transfer with it.
    have hs : next.Sound := hrun.sound_started hph hrecv _
    have hclosed : Inv false next.handleClose := hs.handleClose (by simp [hconnected])
    have htr : next.handleClose.transfer = none :=
      handleClose_transfer (by simp [hconnected])
    rw [if_neg (by simp [(hclosed.sound.cancelled i (by simp [htr]))])]
    refine ⟨hclosed, fun _ h => ?_⟩
    rw [htr] at h
    cases h
  · have htask : (next.enqueue (.frame .uready)).tasks i =
        { c.tasks i with phase := .receivingUpload, start := some c.stream.length } :=
      update_self ..
    have hstart : ∀ start, some c.stream.length = some start →
        c.position = start + r.fed.length := by
      rintro _ ⟨⟩
      rw [hpos, hfed]
      rfl
    by_cases hsize : (c.tasks i).size = 0
    · rw [if_pos (by simp [htask, hsize, hrun.not_cancelled]), hnext, setPhase_enqueue_onTask]
      have hready := hrun.uready hph hrecv (.inr ⟨rfl, hsize⟩)
      refine hready.finishReceiver ?_ ?_ hstuck ?_ acc
      all_goals simp only [enqueue, onTask_tasks_self]
      · exact hrecv
      · exact hstart
    · rw [if_neg (by simp [htask, hsize])]
      have hready := hrun.uready hph hrecv (.inl ⟨rfl, hsize⟩)
      refine ⟨.running i _ hready ?_, ?_⟩
      · rw [BodyAt, htask]
        intro start receiver' hstart' hreceiver'
        obtain rfl : r = receiver' := some.inj (hrecv.symm.trans hreceiver')
        refine ⟨fun _ => hstart start hstart', fun h => ?_⟩
        rw [hstuck] at h
        cases h
      · rw [htask]
        intro receiver' _ hreceiver'
        obtain rfl : r = receiver' := some.inj (hrecv.symm.trans hreceiver')
        exact hstuck

/-! ## Results of the disk -/

omit hrun in
lemma emit_uploadComplete (hcur : c.isCurrent i) (hash : Bytes) :
    c.emit i (.uploadComplete hash) = (c.resetTransfer.sendControl (.uok hash)).send .text := by
  simp [emit, hcur]

lemma Running.complete {frame : Frame}
    (hexchange : Exchange (c.tasks i).kind (controls sent ++ [.frame frame]))
    (hfinished : c.Finished i) (hfacts : Facts (c.tasks i) c.lines (sent ++ [.frame frame])) :
    Inv reading (((c.setPhase i .idle).resetTransfer.sendControl frame).send .text) := by
  have htask := hrun.sound.tasks i
  have hs : (c.setPhase i .idle).Sound := hrun.sound_onTask { htask with } rfl
    (hrun.facts.mono rfl rfl rfl rfl id (List.Subset.refl _))
  have hidle : (c.setPhase i .idle).tasks i = { c.tasks i with phase := .idle } := update_self ..
  refine Inv.send_text (hs.settle hrun.connected hrun.transfer hrun.window
    (fun j => (hrun.finished_all hfinished j).onTask rfl rfl rfl) ?_ ?_ _)
  · rw [hidle]
    exact hexchange
  · rw [hidle]
    exact hfacts.mono rfl rfl rfl rfl id (List.Subset.refl _)

lemma Running.onDone (hph : (c.tasks i).phase = .finalizingUpload)
    (hpos : ∀ start, (c.tasks i).start = some start →
      c.position = start + (c.tasks i).consumed) (hash : Bytes) :
    Inv reading (c.onDone i hash) := by
  have hprog := hrun.progress
  rw [hph] at hprog
  obtain ⟨hkind, hfrs, -, -, -, -, hcons⟩ := hprog
  have hcur : (c.setPhase i .idle).isCurrent i :=
    (isCurrent_onTask rfl rfl rfl).trans hrun.current
  have hexchange : Exchange (c.tasks i).kind (controls sent ++ [.frame (.uok hash)]) := by
    rw [hkind, hfrs]
    exact .uploaded hash
  unfold TransferConnection.onDone
  rw [if_neg (by simp [hrun.current, hph]), emit_uploadComplete hcur]
  refine hrun.complete hexchange (fun start hstart => ⟨hcons, ?_⟩) <|
    hrun.facts.frame ⟨_, hexchange, prefix_rfl⟩ (fun message h => ?_) nofun nofun nofun
  · rw [hpos start hstart, hcons]
  · rw [hfrs] at h
    cases h

omit hrun in
lemma reportError_setReceiver (r receiver' : AsyncReceiver) (err : String) :
    (c.setReceiver i r).reportError i receiver' err = c.reportError i receiver' err := by
  unfold reportError
  rw [setReceiver_setReceiver]

omit hrun in
lemma Inv.continueReceiver (hinv : Inv reading c) (acc : Bool)
    (hstuck : ∀ r, c.transfer = some i → (c.tasks i).receiver = some r → r.stuck = false) :
    Inv reading (c.continueReceiver i acc) := by
  unfold TransferConnection.continueReceiver
  split
  · exact hinv
  · rename_i r hrecv
    have hex := (hinv.sound.tasks i).exact r hrecv
    split_ifs with hdue
    · obtain ⟨⟨hrequested, hbusy⟩, hterminal⟩ : (r.finishRequested ∧
          r.busy = false) ∧ r.terminal = false := by simpa using hdue
      by_cases htr : c.transfer = some i
      · obtain ⟨sent, hrun, hbody⟩ := hinv.running_of_transfer htr
        have hnot := hstuck r htr hrecv
        obtain ⟨receiver', hsubmit, hexact', hfed, hstuck'⟩ :=
          hex.submit_finish hnot hbusy hrequested acc
        rw [hsubmit]
        cases acc with
        | true =>
          exact hinv.keep i (kept_of_receiver hrecv hfed (hstuck'.trans hnot.symm) fun _ => hexact')
        | false =>
          exact hrun.reportError ((hinv.sound.tasks i).upload r hrecv) hrecv hexact'.abandon hfed
            (fun start hstart => (hbody start r hstart hrecv).1 hnot) _
      · -- Nobody listens to a transfer that is over.
        have hover := (hinv.sound.tasks i).stuck (.inr (hinv.sound.cancelled i htr)) r hrecv
        have hcanc : r.diskCancelled := by
          simpa [stuck, hterminal] using hover
        have hsubmit :
            r.submit .finish [] acc = (false, { r with busy := false }) := by
          simp [submit, launch, hcanc]
        have hkept : Inv reading
            (c.setReceiver i { r with busy := false }.abandon) :=
          hinv.keep i (kept_of_receiver hrecv abandon_fed
            (abandon_stuck.trans hover.symm) fun h => h.abandon)
        rw [hsubmit]
        simp only [reportError, uploadFailed]
        rw [hkept.sound.not_current htr]
        exact hkept
    · exact hinv

lemma Running.finished_result (hbody : c.BodyAt i) (hrecv : (c.tasks i).receiver = some r)
    (hstuck : r.stuck = false) (hresults : r.results = result :: results)
    (hoperation : result.operation = .finish) (hash : Bytes) : Inv reading
      ((c.setReceiver i { r with results, busy := false, terminal := true }).onDone i hash) := by
  have hex := (hrun.sound.tasks i).exact r hrecv
  have hkind := (hrun.sound.tasks i).upload r hrecv
  have hfed := hex.fed_of_finish hstuck hresults hoperation
  set ended : AsyncReceiver := { r with results, busy := false, terminal := true }
  have hended : Running reading (c.setReceiver i ended) i sent :=
    hrun.setReceiver hrecv hex.ended rfl fun _ => rfl
  have htask := c.setReceiver_tasks i ended
  have hprog := hrun.progress
  cases hph : (c.tasks i).phase <;> rw [hph] at hprog <;>
    simp only [Progress, hkind, reduceCtorEq, false_and] at hprog
  case preparingUpload =>
    -- The body has not begun, and nobody waits for this result.
    unfold TransferConnection.onDone
    rw [if_pos (by simp [htask, hph])]
    refine .running i sent hended (bodyAt_of_start ?_)
    rw [htask]
    exact hprog.2.2.1
  case receivingUpload =>
    refine absurd ?_ hprog.2.2.2.2.2.2
    rw [Task.consumed, hrecv]
    exact hfed
  case finalizingUpload =>
    refine hended.onDone (by rw [htask]; exact hph) ?_ hash
    rw [htask]
    intro start hstart
    exact (hbody start r hstart hrecv).1 hstuck

omit hrun in
lemma onReady_of_phase (hph : (c.tasks i).phase ≠ .preparingUpload)
    (acc : Bool) : c.onReady i acc = (true, c) := by
  unfold onReady
  rw [if_pos (by simp [hph])]

omit hrun in
lemma Inv.taken {value : Bytes} (hinv : Inv reading c)
    (hrecv : (c.tasks i).receiver = some r) (hstuck : r.stuck = false)
    (hresults : r.results = result :: results) (houtcome : result.outcome = .ok value)
    (hoperation : result.operation ≠ .finish) :
    Inv reading (c.setReceiver i { r with results, busy := false }) :=
  hinv.keep i (kept_of_receiver hrecv rfl rfl fun h =>
    h.taken hstuck hresults (by rw [houtcome]; rfl) hoperation)

omit hrun in
lemma alive_iff : c.alive i = true ↔ c.transfer = some i := decide_eq_true_iff

omit hrun in
lemma Inv.onResult (hinv : Inv false c) (i : ℕ) (acc : Bool) : Inv false (c.onResult i acc) := by
  unfold TransferConnection.onResult
  split
  · exact hinv
  rename_i r hrecv
  have hex := (hinv.sound.tasks i).exact r hrecv
  split
  · exact hinv
  rename_i result results hresults
  simp only
  have halive : (c.setReceiver i { r with results }).alive i = c.alive i := rfl
  rw [halive]
  split_ifs with hskip hstate
  · -- The receiver is not interested, or the transfer is over and its receiver cancelled.
    have hstuck : r.stuck := by
      by_cases htr : c.transfer = some i
      · simpa [alive_iff.mpr htr, stuck] using hskip
      · exact (hinv.sound.tasks i).stuck (.inr (hinv.sound.cancelled i htr)) r hrecv
    exact hinv.keep i (kept_of_receiver hrecv rfl rfl fun h => h.ignored hstuck)
  · simp only [Bool.or_eq_true, Bool.not_eq_true', not_or, Bool.not_eq_false, alive_iff] at hskip
    obtain ⟨sent, hrun, -⟩ := hinv.running_of_transfer hskip.1.1
    exact absurd hrun.connected hstate
  · simp only [Bool.or_eq_true, Bool.not_eq_true', not_or, Bool.not_eq_false, Bool.not_eq_true,
      alive_iff] at hskip
    obtain ⟨⟨htr, hterminal⟩, hcanc⟩ := hskip
    have hstuck : r.stuck = false := by simp [stuck, hterminal, hcanc]
    obtain ⟨sent, hrun, hbody⟩ := hinv.running_of_transfer htr
    rw [setReceiver_setReceiver]
    split
    · rename_i err _ _
      rw [reportError_setReceiver]
      have habandoned : AsyncReceiver.Exact
          { r with results, busy := false }.abandon (c.tasks i).size := hex.abandon
      exact hrun.reportError ((hinv.sound.tasks i).upload r hrecv) hrecv
        habandoned rfl (fun start hstart => (hbody start r hstart hrecv).1 hstuck) _
    · rename_i hash _ hoperation
      rw [setReceiver_setReceiver]
      exact hrun.finished_result hbody hrecv hstuck hresults hoperation hash
    · rename_i value houtcome hoperation
      have htaken := hinv.taken hrecv hstuck hresults houtcome (by rw [hoperation]; simp)
      refine htaken.continueReceiver acc ?_
      rw [setReceiver_tasks]
      rintro _ _ ⟨⟩
      exact hstuck
    · rename_i value houtcome hoperation
      have htaken := hinv.taken hrecv hstuck hresults houtcome (by rw [hoperation]; simp)
      have hreturned : Returned false i
          ((c.setReceiver i { r with results, busy := false }).onReady i acc) := by
        have htask := c.setReceiver_tasks i { r with results, busy := false }
        obtain ⟨sent, hrunning', -⟩ := htaken.running_of_transfer htr
        by_cases hph : (c.tasks i).phase = .preparingUpload
        · have hstuck' : stuck { r with results, busy := false } = false :=
            hstuck
          exact hrunning'.onReady (by rw [htask]; exact hph) (by rw [htask]) hstuck' acc
        · rw [onReady_of_phase (by rw [htask]; exact hph)]
          refine ⟨htaken, ?_⟩
          rw [htask]
          rintro _ _ ⟨⟩
          exact hstuck
      split
      · rename_i ready hready
        rw [hready] at hreturned
        exact hreturned.1.continueReceiver acc hreturned.2
      · rename_i thrown hthrown
        rw [hthrown] at hreturned
        obtain ⟨sent', receiver', hrunning', hkind', hreceiver', hexact', -, hpos⟩ := hreturned
        rw [hreceiver']
        exact hrunning'.reportError hkind' hreceiver' hexact'.abandon rfl hpos _

/-! ## The body comes in -/

omit hrun in
lemma Sound.retrieve (hs : c.Sound) (hcount : count ≤ c.buffer.length) :
    (c.retrieve count).Sound := by
  have hlength : c.buffer.length = c.stream.length - c.position := by
    rw [hs.buffer, length_drop]
  have hpos := hs.position
  refine { hs with buffer := ?_, position := ?_, lines := ?_ }
  · change c.buffer.drop count = c.stream.drop (c.position + count)
    rw [hs.buffer, drop_drop]
  · change c.position + count ≤ c.stream.length
    omega
  · exact fun line hline => (hs.lines line hline).trans (Nat.le_add_right _ _)

omit hrun in
lemma Progress.later {position position' : ℕ} {t : Task} {frames : List Sent}
    (hprog : Progress position t frames phase)
    (hpos : position ≤ position') : Progress position' t frames phase := by
  cases phase
  case waitingDownloadAck =>
    obtain ⟨h1, h2, h3, h4, h5, ⟨doneAt, h6, h7⟩, h8⟩ := hprog
    exact ⟨h1, h2, h3, h4, h5, ⟨doneAt, h6, h7.trans hpos⟩, h8⟩
  all_goals exact hprog

omit hrun in
lemma Finished.retrieve {j count : ℕ} (hfinished : c.Finished j) :
    (c.retrieve count).Finished j := fun start hstart =>
  ⟨(hfinished start hstart).1, (hfinished start hstart).2.trans (Nat.le_add_right _ _)⟩

lemma Running.retrieve
    (hcount : count ≤ c.buffer.length) : Running reading (c.retrieve count) i sent := by
  refine ⟨hrun.sound.retrieve hcount, hrun.transfer, hrun.current, hrun.settled,
    hrun.window, Progress.later hrun.progress (Nat.le_add_right _ _),
    fun j hother => (hrun.finished j hother).retrieve, fun hreading hquiet => ?_⟩
  change c.buffer.drop count = []
  rw [hrun.drained hreading hquiet, drop_nil]

lemma Running.dropInput (hstuck : ∀ start r, (c.tasks i).start = some start →
      (c.tasks i).receiver = some r → r.stuck) : Inv false c.dropInput := by
  have hdropped := hrun.retrieve (le_refl c.buffer.length)
  refine .running i sent
    { hdropped with sound := hdropped.sound.adjust .., drained := fun _ _ => drop_length } ?_
  intro start r hstart hrecv
  refine ⟨fun h => ?_, fun _ => rfl⟩
  rw [hstuck start r hstart hrecv] at h
  cases h

omit hrun in
lemma Resting.dropInput (hresting : c.Resting) : Inv reading c.dropInput := by
  have hdropped := hresting.sound.retrieve (le_refl c.buffer.length)
  exact .resting ⟨hdropped.adjust .., hresting.transfer, hresting.complete,
    fun hstate j => (hresting.finished hstate j).retrieve⟩

lemma Running.fed {r receiver' : AsyncReceiver} (change : Task → Task)
    (hbody : c.BodyAt i) (hph : (c.tasks i).phase = .receivingUpload)
    (hrecv : (c.tasks i).receiver = some r)
    (hstuck : r.stuck = false) (hex : receiver'.Exact (c.tasks i).size)
    (hfed : receiver'.fed = r.fed ++ c.buffer.take count)
    (hcount : count ≤ c.buffer.length) (hchange : change (c.tasks i) =
      { c.tasks i with receiver := some receiver', phase })
    (hnext : phase = .receivingUpload ∧ receiver'.fed.length ≠ (c.tasks i).size ∨
      phase = .finalizingUpload ∧ receiver'.fed.length = (c.tasks i).size) :
    Running false ((c.onTask i change).retrieve count) i sent ∧
      ∀ start, (c.tasks i).start = some start →
        c.position + count = start + receiver'.fed.length := by
  have hprog := hrun.progress
  rw [hph] at hprog
  obtain ⟨hkind, hfrs, hstart, -, hwait, hsending, -⟩ := hprog
  have htask := hrun.sound.tasks i
  have hlength : (c.buffer.take count).length = count := by
    rw [length_take]
    omega
  have hpos : ∀ start, (c.tasks i).start = some start →
      c.position = start + r.fed.length := fun start hstart' =>
    (hbody start r hstart' hrecv).1 hstuck
  have hquiet : ¬ Quiet phase := by
    rcases hnext with ⟨rfl, -⟩ | ⟨rfl, -⟩ <;> simp [Quiet]
  have hchanged : Running reading (c.onTask i change) i sent := by
    refine hrun.onTask ?_ (isCurrent_onTask ?_ ?_ ?_) ?_ ?_ ?_ ?_ <;> rw [hchange]
    · refine ⟨?_, ?_, ?_, ?_, ?_, htask.silent, fun _ _ => hkind⟩
      · rintro _ ⟨⟩
        exact hex
      · intro h
        rw [h] at hstart
        cases hstart
      · -- What was fed ends where the buffer begins.
        rintro start _ hstart' ⟨⟩
        obtain ⟨rest, hrest⟩ := htask.fed start r hstart' hrecv
        have hbuffer : c.buffer = rest := by
          rw [hrun.sound.buffer, hpos start hstart', ← drop_drop, ← hrest, drop_left]
        rw [hfed, ← hrest, hbuffer]
        exact (prefix_append_right_inj _).mpr (List.take_prefix _ _)
      · intro start hstart' line hline
        refine .inl ?_
        rcases htask.lines start hstart' line hline with hbefore | ⟨hcanc, -⟩
        · exact hbefore
        · rw [hrun.not_cancelled] at hcanc
          cases hcanc
      · rintro (h | h) _ ⟨⟩
        · have hbefore := htask.stuck (.inl h) r hrecv
          rw [hstuck] at hbefore
          cases hbefore
        · rw [hrun.not_cancelled] at h
          cases h
    · have hfacts := hrun.facts
      refine { hfacts with consumed := fun message h => ?_ }
      rw [hfrs] at h
      cases h
    · rcases hnext with ⟨rfl, hsize⟩ | ⟨rfl, hsize⟩
      · exact ⟨hkind, hfrs, hstart, rfl, hwait, hsending, hsize⟩
      · exact ⟨hkind, hfrs, hstart, rfl, hwait, hsending, hsize⟩
    · exact fun h => absurd h hquiet
  refine ⟨(hchanged.retrieve hcount).of_not_quiet ?_ false, fun start hstart' => ?_⟩
  · change ¬ Quiet ((c.onTask i change).tasks i).phase
    rw [onTask_tasks_self, hchange]
    exact hquiet
  · rw [hfed, length_append, hlength, hpos start hstart', Nat.add_assoc]

omit hrun in
lemma setPhase_retrieve_setReceiver (r : AsyncReceiver) (count : ℕ) (phase : TransferPhase) :
    ((c.setReceiver i r).retrieve count).setPhase i phase =
      (c.onTask i fun t => { t with receiver := some r, phase }).retrieve
        count := by
  simp [setPhase, setReceiver, onTask, retrieve]

/-- What `on_message` does with input while a body comes in: an exception drops the rest and
closes the connection. -/
lemma Running.consume {consumed : Bool} {conn' : TransferConnection} {acc : Bool}
    (hbody : c.BodyAt i) (hph : (c.tasks i).phase = .receivingUpload)
    (hconsume : c.consume i acc = (consumed, conn')) :
    Inv false (if consumed then conn' else conn'.dropInput) := by
  have hprog := hrun.progress
  rw [hph] at hprog
  obtain ⟨hkind, -, -, hsome, -⟩ := hprog
  obtain ⟨r, hrecv⟩ := isSome_iff_exists.mp hsome
  have hex := (hrun.sound.tasks i).exact r hrecv
  unfold TransferConnection.consume at hconsume
  rw [hrecv] at hconsume
  simp only [hph, hrun.not_cancelled, ne_eq, not_true_eq_false, decide_false,
    Bool.or_self, Bool.false_eq_true, if_false] at hconsume
  rcases hex.feed_cases c.buffer acc with
    ⟨receiver', hfeed, hexact', hfed, hstuck'⟩ |
    ⟨count, receiver', hfeed, hexact', hfed, hcount, hstuck, hstuck'⟩ <;>
    rw [hfeed] at hconsume
  · obtain ⟨rfl, rfl⟩ : false = consumed ∧ c.setReceiver i receiver' = conn' := by
      simpa using hconsume
    refine (hrun.setReceiver hrecv hexact' hfed fun _ => hstuck').dropInput ?_
    rw [setReceiver_tasks]
    rintro _ _ _ ⟨⟩
    exact hstuck'
  · have hremaining := hexact'.remaining
    by_cases hlast : receiver'.remaining = 0
    · -- The whole body is consumed.
      simp only [hlast, if_true] at hconsume
      rw [setPhase_retrieve_setReceiver] at hconsume
      obtain ⟨hfinal, hpos⟩ := hrun.fed
        (fun t => { t with receiver := some receiver', phase := .finalizingUpload })
        hbody hph hrecv hstuck hexact' hfed hcount rfl (.inr ⟨rfl, by omega⟩)
      set next := (c.onTask i fun t =>
        { t with receiver := some receiver', phase := .finalizingUpload }).retrieve count
      have htask : next.tasks i = { c.tasks i with
          receiver := some receiver', phase := .finalizingUpload } := update_self ..
      have hreturned := hfinal.finishReceiver (by rw [htask]) (by rw [htask]) hstuck'
        (by rw [htask]; exact hpos) acc
      rw [hconsume] at hreturned
      cases consumed with
      | true => exact hreturned.1
      | false =>
        obtain ⟨sent', stopped, hrunning', -, hstopped, -, hstuck'', -⟩ := hreturned
        refine hrunning'.dropInput fun _ j _ hother => ?_
        obtain rfl : stopped = j := some.inj (hstopped.symm.trans hother)
        exact hstuck''
    · simp only [hlast, if_false] at hconsume
      obtain ⟨rfl, rfl⟩ : true = consumed ∧
          (c.setReceiver i receiver').retrieve count = conn' := by
        simpa using hconsume
      obtain ⟨hnext, hpos⟩ := hrun.fed
        (fun t => { t with receiver := some receiver' })
        hbody hph hrecv hstuck hexact' hfed hcount rfl (.inl ⟨hph, by omega⟩)
      refine .running i sent hnext ?_
      have htask : ((c.setReceiver i receiver').retrieve count).tasks i =
        { c.tasks i with receiver := some receiver' } := update_self ..
      change ((c.setReceiver i receiver').retrieve count).BodyAt i
      rw [BodyAt, htask]
      rintro start _ hstart ⟨⟩
      refine ⟨fun _ => hpos start hstart, fun h => ?_⟩
      rw [hstuck'] at h
      cases h

end

end Tlss.Ftp.TransferConnection
